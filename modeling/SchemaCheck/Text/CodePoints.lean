/-! Sets of code points, written as ascending hexadecimal ranges. -/
namespace SchemaCheck

/-- Ascending, disjoint ranges, ends included. -/
structure CodePoints where
  ranges : Array (Nat × Nat)

namespace CodePoints

def hexNumber (digits : List Char) : Nat :=
  digits.foldl (fun n c => 16 * n + (if c.isDigit then c.toNat - 48 else c.toNat - 87)) 0

/-- One entry, `2000-200a` or `3000`. -/
def range (entry : List Char) : Nat × Nat :=
  match entry.span (· != '-') with
  | (single, []) => (hexNumber single, hexNumber single)
  | (first, _ :: last) => (hexNumber first, hexNumber last)

/-- Pieces between blanks; `piece` is the one being read, last character first. -/
def pieces : List Char → List Char → List (List Char)
  | piece, [] => if piece.isEmpty then [] else [piece.reverse]
  | piece, c :: rest =>
    if c == ' ' || c == '\n' then
      (if piece.isEmpty then pieces [] rest else piece.reverse :: pieces [] rest)
    else pieces (c :: piece) rest

def ofText (text : String) : CodePoints := ⟨((pieces [] text.toList).map range).toArray⟩

/-- Halves the stretch `[low, low + width)` of the ranges until one of them holds the point. -/
def search (ranges : Array (Nat × Nat)) (point : Nat) (low : Nat) (width : Nat) : Option Nat :=
  if width = 0 then none
  else
    let half := width / 2
    match ranges[low + half]? with
    | none => none
    | some (first, last) =>
      if point < first then search ranges point low half
      else if last < point then search ranges point (low + half + 1) (width - half - 1)
      else some (low + half)
termination_by width

/-- Which of the ranges holds the point. -/
def rangeOf? (set : CodePoints) (point : Nat) : Option Nat :=
  search set.ranges point 0 set.ranges.size

def contains (set : CodePoints) (point : Nat) : Bool := (set.rangeOf? point).isSome

end CodePoints
end SchemaCheck
