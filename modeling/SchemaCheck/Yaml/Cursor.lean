/-! The characters of a YAML text and a place among them. -/
namespace SchemaCheck.Yaml

/-- Characters that may stand in a YAML text. -/
def isPermitted (c : Char) : Bool :=
  c == '\t' || c == '\n' || c == '\r' || c == '\u0085' || (' ' ≤ c && c ≤ '~') ||
    ('\u00a0' ≤ c && c ≤ '\ufffd') || 0x10000 ≤ c.toNat

/-- Ends of lines in one form; the Unicode separators stay as they are. -/
def unifyBreaks : List Char → List Char
  | '\r' :: '\n' :: rest => '\n' :: unifyBreaks rest
  | '\r' :: rest => '\n' :: unifyBreaks rest
  | '\u0085' :: rest => '\n' :: unifyBreaks rest
  | c :: rest => c :: unifyBreaks rest
  | [] => []

def isSpacing (c : Char) : Bool := c == ' ' || c == '\t'

/-- A line break, once breaks are unified. -/
def isLineBreak (c : Char) : Bool := c == '\n' || c == '\u2028' || c == '\u2029'

/-- Between words: a space, a tab or a line break. -/
def isGap (c : Char) : Bool := isSpacing c || isLineBreak c

/-- The word before this text is over. -/
def endsWord : List Char → Bool
  | [] => true
  | c :: _ => isGap c

/-- What is still to be read, and where it starts. -/
structure Cursor where
  rest : List Char
  line : Nat
  column : Nat

namespace Cursor

/-- The start of a text. A byte order mark takes up a column. -/
def ofText? (text : String) : Option Cursor :=
  let cs := text.toList
  if cs.all isPermitted then
    match unifyBreaks cs with
    | '\ufeff' :: rest => some ⟨rest, 0, 1⟩
    | rest => some ⟨rest, 0, 0⟩
  else none

/-- Past one character. -/
def next (cursor : Cursor) : Cursor :=
  match cursor.rest with
  | [] => cursor
  | c :: rest =>
    if isLineBreak c then ⟨rest, cursor.line + 1, 0⟩ else ⟨rest, cursor.line, cursor.column + 1⟩

/-- Past as many characters. -/
def skip : Nat → Cursor → Cursor
  | 0, cursor => cursor
  | count + 1, cursor => skip count cursor.next

/-- Splits after the longest run of such characters; `accepts` admits no line break. -/
def span (cursor : Cursor) (accepts : Char → Bool) : List Char × Cursor :=
  let (run, rest) := cursor.rest.span accepts
  (run, { cursor with rest, column := cursor.column + run.length })

def skipWhile (cursor : Cursor) (accepts : Char → Bool) : Cursor := (cursor.span accepts).2

/-- Up to the end of the line. -/
def restOfLine (cursor : Cursor) : List Char × Cursor := cursor.span fun c => !isLineBreak c

/-- Past blanks and a comment to the next line; `none` if anything else stands there. -/
def endLine? (cursor : Cursor) : Option Cursor :=
  let cursor := cursor.skipWhile isSpacing
  let cursor := if cursor.rest.head? == some '#' then cursor.restOfLine.2 else cursor
  match cursor.rest with
  | [] => some cursor
  | c :: _ => if isLineBreak c then some cursor.next else none

/-- Three such characters as a word of their own at the start of a line. -/
def marks (cursor : Cursor) (mark : Char) : Bool :=
  cursor.column == 0 && match cursor.rest with
  | a :: b :: c :: rest => a == mark && b == mark && c == mark && endsWord rest
  | _ => false

/-- A document starts or ends here. -/
def atDocumentMark (cursor : Cursor) : Bool := cursor.marks '-' || cursor.marks '.'

end Cursor
end SchemaCheck.Yaml
