import SchemaCheck.Text.CodePoints

/-! Maps from code points to short texts, written as ascending ranges with what they turn into.
`101-12f,2=100` holds every second point of a range and moves each by as much as the first, and
`300-314,0=e6` turns a whole range into the same. -/
namespace SchemaCheck

/-- What the points of one range turn into. -/
structure CodeImage where
  /-- From one point of the map to the next; zero if all points turn into the same. -/
  step : Nat
  /-- What the first point turns into. -/
  points : List Nat

namespace CodeImage

/-- The image of the point so far behind the first. -/
def ofOffset? (image : CodeImage) (offset : Nat) : Option (List Nat) :=
  if image.step = 0 then some image.points
  else if offset % image.step = 0 then some (image.points.map (· + offset))
  else none

/-- The points of the range with this image. -/
def sources (image : CodeImage) (first last : Nat) (target : List Nat) : List Nat :=
  if image.step = 0 then
    if image.points == target then List.range' first (last + 1 - first) else []
  else
    match image.points, target with
    | base :: _, goal :: _ =>
      let offset := goal - base
      if base ≤ goal && first + offset ≤ last && image.ofOffset? offset == some target then
        [first + offset]
      else []
    | _, _ => []

end CodeImage

/-- Ranges of points, and the image of each range at its place. -/
structure CodeMap where
  domain : CodePoints
  images : Array CodeImage

namespace CodeMap

/-- Numbers between dots. -/
def numbers (text : List Char) : List Nat :=
  (text.splitOn '.').map CodePoints.hexNumber

/-- One entry: a range, the step unless it is one, and the image. -/
def entry (text : List Char) : (Nat × Nat) × CodeImage :=
  let (source, target) := text.span (· != '=')
  let (range, step) := source.span (· != ',')
  (CodePoints.range range,
    { step := if step.isEmpty then 1 else CodePoints.hexNumber (step.drop 1)
      points := numbers (target.drop 1) })

def ofText (text : String) : CodeMap :=
  let entries := (CodePoints.pieces [] text.toList).map entry
  ⟨⟨(entries.map Prod.fst).toArray⟩, (entries.map Prod.snd).toArray⟩

/-- What the point turns into, if the map holds it. -/
def find? (map : CodeMap) (point : Nat) : Option (List Nat) := do
  let index ← map.domain.rangeOf? point
  let (first, _) ← map.domain.ranges[index]?
  let image ← map.images[index]?
  image.ofOffset? (point - first)

/-- Every point that turns into this text. -/
def sources (map : CodeMap) (target : List Nat) : List Nat :=
  (map.domain.ranges.toList.zip map.images.toList).flatMap fun ((first, last), image) =>
    image.sources first last target

end CodeMap
end SchemaCheck
