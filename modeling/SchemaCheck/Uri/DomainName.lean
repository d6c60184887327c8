import SchemaCheck.Text.Canonical.Form
import SchemaCheck.Text.Direction
import SchemaCheck.Text.Folding
import SchemaCheck.Text.Joining
import SchemaCheck.Uri.Ipv6
import SchemaCheck.Uri.Punycode

/-! Domain names in any script. Characters are folded and composed, labels that spell another
script in ASCII are decoded, and names that mix writing directions have to keep them apart. -/
namespace SchemaCheck.Uri.DomainName

/-- ASCII that no domain name may hold. -/
def isForbidden (c : Char) : Bool :=
  c.toNat ≤ 0x20 || c.toNat == 0x7F || "%#/:<>?@[\\]^|".toList.contains c

/-- The characters of the whole name, folded and composed. ASCII that a mark has turned into
another character is not forbidden. -/
def fold? (cs : List Char) : Option (List Char) := do
  let images ← cs.mapM fun c => foldPoint? c.toNat
  let folded := (Canonical.compose images.flatten).map Char.ofNat
  if folded.any isForbidden then none else some folded

def isAsciiText (cs : List Char) : Bool := cs.all (·.toNat < 0x80)

/-- No label spells more characters, and none is spelled by more than twice as many. -/
def longestLabel : Nat := 1000

/-- What a label spells after its `xn--`: something that is not ASCII and folds to itself. -/
def decode? (spelling : List Char) : Option (List Char) := do
  if spelling.isEmpty || spelling.getLast? == some '-' || !isAsciiText spelling ||
      2 * longestLabel < spelling.length then none
  else
    let decoded ← Punycode.decode? spelling
    if fold? decoded == some decoded then some decoded else none

/-- The label as read: decoded after `xn--`, itself otherwise. -/
def readLabel? : List Char → Option (List Char)
  | 'x' :: 'n' :: '-' :: '-' :: spelling => decode? spelling
  | label => some label

def nonJoiner : Nat := 0x200C
def joiner : Nat := 0x200D

/-- The letter that a joiner would join in one direction; `points` starts beside the joiner. -/
def joinedLetter? (points : List Nat) : Option Nat :=
  points.find? fun point => !joinTransparent.contains point

/-- A non-joiner keeps two letters apart that would join otherwise. -/
def partsLetters (before after : List Nat) : Bool :=
  (joinedLetter? before).any (fun letter =>
      joinsAfterOnly.contains letter || joinsBoth.contains letter) &&
    (joinedLetter? after).any fun letter =>
      joinsBeforeOnly.contains letter || joinsBoth.contains letter

/-- Joiners stand behind a sign that joins consonants, and a non-joiner also where it parts two
letters. `before` holds the points before the place, last first. -/
def joinersPlaced (before : List Nat) : List Nat → Bool
  | [] => true
  | point :: after =>
    (if point = joiner || point = nonJoiner then
      (before.head?.any fun sign => combiningClass sign == viramaClass) ||
        (point = nonJoiner && partsLetters before after)
    else true) && joinersPlaced (point :: before) after

/-- A label starts with a character of its own. -/
def wellFormed (label : List Char) : Bool :=
  let points := label.map Char.toNat
  !(points.head?.any combiningMarks.contains) && joinersPlaced [] points &&
    (isAsciiText label || label.length ≤ longestLabel)

/-- The direction at the end of a label, past its marks. -/
def lastDirection (directions : List Direction) : Option Direction :=
  (directions.reverse.dropWhile (· == .mark)).head?

/-- A label reads one way from its first character to its last. -/
def readsOneWay (label : List Char) : Bool :=
  let directions := label.map fun c => direction c.toNat
  let last := lastDirection directions
  match directions.head? with
  | none => true
  | some .rightToLeft =>
    directions.all (· != .leftToRight) &&
      (last == some .rightToLeft || last == some .europeanNumber || last == some .arabicNumber) &&
      !(directions.contains .europeanNumber && directions.contains .arabicNumber)
  | some .leftToRight =>
    directions.all (fun d => d != .rightToLeft && d != .arabicNumber) &&
      (last == some .leftToRight || last == some .europeanNumber)
  | some _ => false

/-- Some label is written from right to left. -/
def isBidirectional (labels : List (List Char)) : Bool :=
  labels.any fun label => label.any fun c =>
    direction c.toNat == .rightToLeft || direction c.toNat == .arabicNumber

/-- The labels of the name, decoded. -/
def labels? (cs : List Char) : Option (List (List Char)) := do
  let folded ← fold? cs
  let labels ← (Ipv6.dotted folded).mapM readLabel?
  if labels.all wellFormed && (!isBidirectional labels || labels.all readsOneWay) then some labels
  else none

end SchemaCheck.Uri.DomainName
