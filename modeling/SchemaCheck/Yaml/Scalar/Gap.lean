import SchemaCheck.Yaml.Cursor

/-! White space inside a scalar, and how line breaks in it fold. -/
namespace SchemaCheck.Yaml

/-- White space between two words of a scalar. -/
structure Gap where
  /-- The blanks on the first line. -/
  blanks : List Char
  breaks : List Char

namespace Gap

def none : Gap := ⟨[], []⟩

def isEmpty (gap : Gap) : Bool := gap.blanks.isEmpty && gap.breaks.isEmpty

/-- One break is a space, of more the first is dropped; a Unicode separator is kept. -/
def fold (gap : Gap) : List Char :=
  match gap.breaks with
  | [] => gap.blanks
  | ['\n'] => [' ']
  | '\n' :: breaks => breaks
  | breaks => breaks

/-- Reads on from `blanks` and `breaks`, which are reversed. On later lines a tab may not stand
before the column `indent`. -/
def readFrom? (indent : Nat) : Nat → List Char → List Char → Cursor → Option (Gap × Cursor)
  | 0, _, _, _ => Option.none
  | fuel + 1, blanks, breaks, cursor =>
    match cursor.rest with
    | [] => some (⟨blanks.reverse, breaks.reverse⟩, cursor)
    | c :: _ =>
      if isLineBreak c then readFrom? indent fuel [] (c :: breaks) cursor.next
      else if !isSpacing c then some (⟨blanks.reverse, breaks.reverse⟩, cursor)
      else if breaks.isEmpty then readFrom? indent fuel (c :: blanks) breaks cursor.next
      else if c == '\t' && cursor.column < indent then Option.none
      else readFrom? indent fuel [] breaks cursor.next

/-- The white space from here to the next word. -/
def read? (indent : Nat) (cursor : Cursor) : Option (Gap × Cursor) :=
  readFrom? indent (cursor.rest.length + 1) [] [] cursor

end Gap
end SchemaCheck.Yaml
