import SchemaCheck.Yaml.Cursor

/-! Literal and folded scalars: blocks of lines under a header. -/
namespace SchemaCheck.Yaml

/-- What becomes of the line breaks at the end of a block. -/
inductive Chomping where
  | strip
  | clip
  | keep
deriving DecidableEq, Repr

/-- What the header of a block says; its indentation is relative to the collection around it. -/
structure BlockHeader where
  chomping : Chomping := .clip
  indentation : Option Nat := none

/-- A line of a block and the breaks of the empty lines after it. -/
structure BlockLine where
  text : List Char
  ending : List Char
  emptyLines : List Char

/-- Blocks begin with the breaks of empty lines. -/
structure Block where
  emptyLines : List Char
  lines : List BlockLine

namespace Block

def chomping? : Char → Option Chomping
  | '-' => some .strip
  | '+' => some .keep
  | _ => none

/-- A digit from 1 to 9. -/
def indentation? (c : Char) : Option Nat :=
  if c.isDigit && c != '0' then some (c.toNat - '0'.toNat) else none

/-- The marks of a header, in either order, and how many they are. -/
def header : List Char → BlockHeader × Nat
  | a :: rest =>
    match chomping? a, indentation? a with
    | some chomping, _ =>
      match rest.head?.bind indentation? with
      | some width => (⟨chomping, some width⟩, 2)
      | none => (⟨chomping, none⟩, 1)
    | none, some width =>
      match rest.head?.bind chomping? with
      | some chomping => (⟨chomping, some width⟩, 2)
      | none => (⟨.clip, some width⟩, 1)
    | none, none => ({}, 0)
  | [] => ({}, 0)

/-- Indentation and empty lines: their breaks, after `read`, which is reversed, and the greatest
column reached. Spaces count up to the column `indent` if there is one; no tab may stand before. -/
def emptyLines? (indent : Option Nat) :
    Nat → List Char → Nat → Cursor → Option (List Char × Nat × Cursor)
  | 0, _, _, _ => none
  | fuel + 1, read, widest, cursor =>
    let inside := indent.all (cursor.column < ·)
    match cursor.rest with
    | ' ' :: _ =>
      if inside then emptyLines? indent fuel read widest cursor.next
      else some (read.reverse, max widest cursor.column, cursor)
    | c :: _ =>
      let widest := max widest cursor.column
      if c == '\t' && inside then none
      else if isLineBreak c then emptyLines? indent fuel (c :: read) widest cursor.next
      else some (read.reverse, widest, cursor)
    | [] => some (read.reverse, max widest cursor.column, cursor)

/-- Lines that start in the column `indent`. -/
def lines? (indent : Nat) : Nat → List BlockLine → Cursor → Option (List BlockLine × Cursor)
  | 0, _, _ => none
  | fuel + 1, read, cursor =>
    if cursor.column ≠ indent || cursor.rest.isEmpty then some (read.reverse, cursor)
    else do
      let (text, cursor) := cursor.restOfLine
      let ending := cursor.rest.take 1
      let (breaks, _, cursor) ←
        emptyLines? (some indent) (cursor.rest.length + 1) [] 0 cursor.next
      lines? indent fuel (⟨text, ending, breaks⟩ :: read) cursor

def startsBlank (line : BlockLine) : Bool := line.text.head?.any isSpacing

/-- What stands between two lines. Folding joins lines that start with a word. -/
def between (folded : Bool) (before after : BlockLine) : List Char :=
  if folded && before.ending == ['\n'] && !startsBlank before && !startsBlank after then
    (if before.emptyLines.isEmpty then [' '] else before.emptyLines)
  else before.ending ++ before.emptyLines

/-- The lines from one that is given. -/
def joinFrom (folded : Bool) (chomping : Chomping) (line : BlockLine) :
    List BlockLine → List Char
  | [] =>
    line.text ++ match chomping with
      | .strip => []
      | .clip => line.ending
      | .keep => line.ending ++ line.emptyLines
  | next :: rest =>
    line.text ++ between folded line next ++ joinFrom folded chomping next rest

def join (folded : Bool) (chomping : Chomping) (block : Block) : List Char :=
  match block.lines with
  | [] => if chomping = .keep then block.emptyLines else []
  | line :: rest => block.emptyLines ++ joinFrom folded chomping line rest

end Block

/-- A literal or folded scalar; the cursor stands at its mark. `enclosing` is the column of the
block collection around it. Without an indentation in the header, the first lines set it. -/
def block? (folded : Bool) (enclosing : Option Nat) (cursor : Cursor) :
    Option (String × Cursor) := do
  let (header, length) := Block.header (cursor.rest.drop 1)
  let cursor ← (cursor.skip (length + 1)).endLine?
  let given := header.indentation.map (enclosing.getD 0 + ·)
  let (opening, widest, cursor) ←
    Block.emptyLines? given (cursor.rest.length + 1) [] 0 cursor
  let least := max 1 (enclosing.elim 0 (· + 1))
  let indent := given.getD (max widest least)
  let (lines, cursor) ← Block.lines? indent (cursor.rest.length + 1) [] cursor
  some (String.ofList (Block.join folded header.chomping ⟨opening, lines⟩), cursor)

end SchemaCheck.Yaml
