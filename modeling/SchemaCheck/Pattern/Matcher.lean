import SchemaCheck.Pattern.Tree
import SchemaCheck.Text.LetterCase

/-! Matching by backtracking. Alternatives are tried in order, and a loop gives up a round that
consumes nothing. Behind a lookbehind the text is read from right to left. -/
namespace SchemaCheck.Pattern

def isLineEnd (point : Nat) : Bool :=
  point == 0x0A || point == 0x0D || point == 0x2028 || point == 0x2029

def isWordPoint (point : Nat) : Bool :=
  (0x30 ≤ point && point ≤ 0x39) || (0x41 ≤ point && point ≤ 0x5A) || point == 0x5F ||
    (0x61 ≤ point && point ≤ 0x7A)

/-- Blanks and line ends. -/
def isSpacePoint (point : Nat) : Bool :=
  (0x09 ≤ point && point ≤ 0x0D) || point == 0x20 || point == 0xA0 || point == 0x1680 ||
    (0x2000 ≤ point && point ≤ 0x200A) || point == 0x2028 || point == 0x2029 ||
    point == 0x202F || point == 0x205F || point == 0x3000 || point == 0xFEFF

def Shorthand.contains : Shorthand → Nat → Bool
  | digit, point => 0x30 ≤ point && point ≤ 0x39
  | space, point => isSpacePoint point
  | word, point => isWordPoint point

def ClassItem.contains : ClassItem → Nat → Bool
  | range first last, point => first ≤ point && point ≤ last
  | shorthand kind negated, point => kind.contains point != negated

/-- Ignoring case, a character belongs if any of its case variants does. -/
def CharClass.contains (members : CharClass) (ignoreCase : Bool) (point : Nat) : Bool :=
  let listed (point : Nat) : Bool := members.items.any (·.contains point)
  (if ignoreCase then (caseVariants point).any listed else listed point) != members.negated

def samePoint (ignoreCase : Bool) (a b : Nat) : Bool :=
  a == b || (ignoreCase && upperCase a == upperCase b)

/-- Where the matcher stands and what the groups hold, as spans of positions. -/
structure Cursor where
  position : Nat
  captures : Array (Option (Nat × Nat))

namespace Cursor

def forget (cursor : Cursor) (firstGroup endGroup : Nat) : Cursor :=
  { cursor with captures := cursor.captures.mapIdx fun index span =>
      if firstGroup ≤ index && index < endGroup then none else span }

def capture (cursor : Cursor) (index first last : Nat) : Cursor :=
  { cursor with captures :=
      cursor.captures.setIfInBounds index (some (min first last, max first last)) }

end Cursor

/-- The character to be read next in the given direction. -/
def nextPoint? (text : Array Char) (backward : Bool) (position : Nat) : Option Nat :=
  if backward then
    if position = 0 then none else text[position - 1]?.map Char.toNat
  else text[position]?.map Char.toNat

def advance (backward : Bool) (cursor : Cursor) : Cursor :=
  { cursor with position := if backward then cursor.position - 1 else cursor.position + 1 }

/-- What is left to read in the given direction. -/
def remaining (text : Array Char) (backward : Bool) (cursor : Cursor) : Nat :=
  if backward then cursor.position else text.size - cursor.position

def readOne (text : Array Char) (backward : Bool) (cursor : Cursor) (accepts : Nat → Bool) :
    Option Cursor :=
  match nextPoint? text backward cursor.position with
  | some point => if accepts point then some (advance backward cursor) else none
  | none => none

/-- Reads the characters again, one after the other. -/
def readAll (text : Array Char) (backward ignoreCase : Bool) : List Nat → Cursor → Option Cursor
  | [], cursor => some cursor
  | point :: rest, cursor =>
    (readOne text backward cursor (samePoint ignoreCase point)).bind
      (readAll text backward ignoreCase rest)

/-- A group that captured nothing reads as the empty text. -/
def reread (text : Array Char) (backward ignoreCase : Bool) (index : Nat) (cursor : Cursor) :
    Option Cursor :=
  match cursor.captures[index]? with
  | some (some (first, last)) =>
    let points := ((text.extract first last).toList.map Char.toNat)
    readAll text backward ignoreCase (if backward then points.reverse else points) cursor
  | _ => some cursor

def isWordAt (text : Array Char) (position : Nat) : Bool :=
  (text[position]?.map fun c => isWordPoint c.toNat).getD false

def atBoundary (text : Array Char) (position : Nat) : Bool :=
  (0 < position && isWordAt text (position - 1)) != isWordAt text position

def atStart (text : Array Char) (multiline : Bool) (position : Nat) : Bool :=
  position == 0 || (multiline &&
    ((text[position - 1]?.map fun c => isLineEnd c.toNat).getD false))

def atFinish (text : Array Char) (multiline : Bool) (position : Nat) : Bool :=
  text.size ≤ position || (multiline &&
    ((text[position]?.map fun c => isLineEnd c.toNat).getD false))

/-- Tries to go on first, or last if the loop is greedy. -/
def preferring (greedy : Bool) (goOn again : Unit → Option Cursor) : Option Cursor :=
  if greedy then (again ()).orElse goOn else (goOn ()).orElse again

/-- Matches `node` at `cursor` and then whatever `next` asks for; the first way that succeeds in
full is taken. -/
def search (text : Array Char) (node : Node) (backward : Bool) (cursor : Cursor)
    (next : Cursor → Option Cursor) : Option Cursor :=
  match node with
  | .empty => next cursor
  | .char point ignoreCase =>
    (readOne text backward cursor (samePoint ignoreCase point)).bind next
  | .any dotAll =>
    (readOne text backward cursor fun point => dotAll || !isLineEnd point).bind next
  | .set members ignoreCase =>
    (readOne text backward cursor (members.contains ignoreCase)).bind next
  | .start multiline => if atStart text multiline cursor.position then next cursor else none
  | .finish multiline => if atFinish text multiline cursor.position then next cursor else none
  | .wordBoundary negated =>
    if atBoundary text cursor.position != negated then next cursor else none
  | .backreference index ignoreCase =>
    (reread text backward ignoreCase index cursor).bind next
  | .sequence first second =>
    if backward then
      search text second backward cursor fun cursor => search text first backward cursor next
    else
      search text first backward cursor fun cursor => search text second backward cursor next
  | .either first second =>
    match search text first backward cursor next with
    | some found => some found
    | none => search text second backward cursor next
  | .group index body =>
    search text body backward cursor fun reached =>
      next (reached.capture index cursor.position reached.position)
  | .look behind negated body =>
    match search text body behind cursor some with
    | some found => if negated then none else next { cursor with captures := found.captures }
    | none => if negated then next cursor else none
  | .loop _ 0 (some 0) _ _ _ => next cursor
  | .loop body 0 (some (extra + 1)) greedy firstGroup endGroup =>
    preferring greedy (fun _ => next cursor) fun _ =>
      search text body backward (cursor.forget firstGroup endGroup) fun reached =>
        if remaining text backward reached < remaining text backward cursor then
          search text (.loop body 0 (some extra) greedy firstGroup endGroup) backward reached next
        else none
  | .loop body 0 none greedy firstGroup endGroup =>
    preferring greedy (fun _ => next cursor) fun _ =>
      search text body backward (cursor.forget firstGroup endGroup) fun reached =>
        if remaining text backward reached < remaining text backward cursor then
          search text (.loop body 0 none greedy firstGroup endGroup) backward reached next
        else none
  | .loop body (least + 1) extra greedy firstGroup endGroup =>
    search text body backward (cursor.forget firstGroup endGroup) fun reached =>
      search text (.loop body least extra greedy firstGroup endGroup) backward reached next
termination_by (sizeOf node, remaining text backward cursor)

/-- Some part of the text from this position on matches. -/
def matchesFrom (text : Array Char) (node : Node) (captures : Array (Option (Nat × Nat))) :
    List Nat → Bool
  | [] => false
  | position :: rest =>
    (search text node false ⟨position, captures⟩ some).isSome ||
      matchesFrom text node captures rest

end SchemaCheck.Pattern
