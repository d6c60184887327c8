import SchemaCheck.Yaml.Scalar.Plain
import SchemaCheck.Yaml.Scalar.Block
import SchemaCheck.Yaml.Tag

/-! Reading the tokens of a YAML text. Indentation becomes tokens that open and close block
collections, and a key without a mark of its own is recognised by the colon after it: its token
then goes in where the key began. -/
namespace SchemaCheck.Yaml

/-- A place where a key without a mark may have begun. -/
structure KeyStart where
  /-- The number of tokens before it. -/
  index : Nat
  line : Nat
  column : Nat
  /-- Nothing but a key may stand there. -/
  required : Bool

namespace KeyStart

/-- The most characters between the start of a key and its colon. -/
def reach : Nat := 1024

/-- The cursor is too far on for a colon to make this a key. -/
def isStale (start : KeyStart) (cursor : Cursor) : Bool :=
  start.line < cursor.line || start.column + reach < cursor.column

end KeyStart

structure Lexer where
  cursor : Cursor
  /-- The tokens so far, last first. -/
  tokens : List Token := []
  /-- The columns of open block collections, innermost first. -/
  indents : List Nat := []
  keyStart : Option KeyStart := none
  /-- The key starts of the collections around each open flow collection, innermost first. -/
  outerKeyStarts : List (Option KeyStart) := []
  keyAllowed : Bool := true

namespace Lexer

def inFlow (lexer : Lexer) : Bool := !lexer.outerKeyStarts.isEmpty

def push (lexer : Lexer) (token : Token) : Lexer := { lexer with tokens := token :: lexer.tokens }

/-- Adds tokens after the first `index` ones. -/
def insert (lexer : Lexer) (index : Nat) (added : List Token) : Lexer :=
  let (after, before) := lexer.tokens.splitAt (lexer.tokens.length - index)
  { lexer with tokens := after ++ added.reverse ++ before }

/-- The first column inside the innermost block collection. -/
def contentColumn (lexer : Lexer) : Nat := lexer.indents.head?.elim 0 (· + 1)

/-- Outside flow collections, a column beyond the open blocks opens one. -/
def opensBlock (lexer : Lexer) (column : Nat) : Bool :=
  !lexer.inFlow && lexer.contentColumn ≤ column

/-- Opens a block collection here, if the column asks for one. -/
def openBlock (lexer : Lexer) (token : Token) : Lexer :=
  let column := lexer.cursor.column
  if lexer.opensBlock column then
    { lexer.push token with indents := column :: lexer.indents }
  else lexer

/-- Closes the blocks whose column is not `kept`. -/
def closeBlocks (lexer : Lexer) (kept : Nat → Bool) : Lexer :=
  if lexer.inFlow then lexer
  else
    let (closed, indents) := lexer.indents.span fun column => !kept column
    { lexer with indents, tokens := List.replicate closed.length .blockEnd ++ lexer.tokens }

/-- Gives up a possible key; `none` if a key is required there. -/
def dropKeyStart? (lexer : Lexer) : Option Lexer :=
  if lexer.keyStart.any (·.required) then none else some { lexer with keyStart := none }

/-- A key may begin here, where keys are allowed. -/
def noteKeyStart? (lexer : Lexer) : Option Lexer :=
  if lexer.keyAllowed then do
    let column := lexer.cursor.column
    let required := !lexer.inFlow && lexer.indents.head? == some column
    let start : KeyStart := ⟨lexer.tokens.length, lexer.cursor.line, column, required⟩
    some { ← lexer.dropKeyStart? with keyStart := some start }
  else some lexer

/-- Forgets key starts that lie too far behind; `none` if one was required. -/
def dropStale? (lexer : Lexer) : Option Lexer := do
  let check (start : Option KeyStart) : Option (Option KeyStart) :=
    match start with
    | some start =>
      if !start.isStale lexer.cursor then some (some start)
      else if start.required then none
      else some none
    | none => some none
  some { lexer with
    keyStart := ← check lexer.keyStart
    outerKeyStarts := ← lexer.outerKeyStarts.mapM check }

/-- Past white space and comments. A new line allows keys again outside flow collections; where
a key may stand, a tab may not be white space before it. -/
def skipGap : Nat → Lexer → Lexer
  | 0, lexer => lexer
  | fuel + 1, lexer =>
    let tabs := lexer.inFlow || !lexer.keyAllowed
    let cursor := lexer.cursor.skipWhile fun c => c == ' ' || (tabs && c == '\t')
    let cursor := if cursor.rest.head? == some '#' then cursor.restOfLine.2 else cursor
    if cursor.rest.head?.any isLineBreak then
      skipGap fuel
        { lexer with cursor := cursor.next, keyAllowed := lexer.keyAllowed || !lexer.inFlow }
    else { lexer with cursor }

/-- A token that is one character. -/
def mark (lexer : Lexer) (token : Token) : Lexer :=
  { lexer.push token with cursor := lexer.cursor.next }

/-- A directive or the mark of a document, outside all blocks. -/
def atMargin? (lexer : Lexer) (read : Cursor → Option (Token × Cursor)) : Option Lexer := do
  let lexer ← (lexer.closeBlocks fun _ => false).dropKeyStart?
  let (token, cursor) ← read lexer.cursor
  some { lexer.push token with cursor, keyAllowed := false }

def flowStart? (lexer : Lexer) (token : Token) : Option Lexer := do
  let lexer ← lexer.noteKeyStart?
  some { lexer.mark token with
    outerKeyStarts := lexer.keyStart :: lexer.outerKeyStarts
    keyStart := none
    keyAllowed := true }

def flowEnd? (lexer : Lexer) (token : Token) : Option Lexer := do
  let lexer ← lexer.dropKeyStart?
  let (keyStart, outerKeyStarts) := match lexer.outerKeyStarts with
    | outer :: rest => (outer, rest)
    | [] => (none, [])
  some { lexer.mark token with keyStart, outerKeyStarts, keyAllowed := false }

def separator? (lexer : Lexer) : Option Lexer := do
  some { (← lexer.dropKeyStart?).mark .separator with keyAllowed := true }

/-- Marks of a block collection stand where keys are allowed. -/
def blockMark? (lexer : Lexer) (collection token : Token) : Option Lexer :=
  if lexer.inFlow then some (lexer.mark token)
  else if lexer.keyAllowed then some ((lexer.openBlock collection).mark token)
  else none

def entry? (lexer : Lexer) : Option Lexer := do
  some { ← (← lexer.dropKeyStart?).blockMark? .blockSequence .entry with keyAllowed := true }

def key? (lexer : Lexer) : Option Lexer := do
  let lexer ← lexer.blockMark? .blockMapping .key
  some { ← lexer.dropKeyStart? with keyAllowed := !lexer.inFlow }

/-- The colon after a key. -/
def value? (lexer : Lexer) : Option Lexer :=
  match lexer.keyStart with
  | some start =>
    let opens := lexer.opensBlock start.column
    let lexer :=
      if opens then
        { lexer.insert start.index [.blockMapping, .key] with
          indents := start.column :: lexer.indents }
      else lexer.insert start.index [.key]
    some { lexer.mark .value with keyStart := none, keyAllowed := false }
  | none => do
    some { ← lexer.blockMark? .blockMapping .value with keyAllowed := !lexer.inFlow }

/-- A token with a text; a key may begin with it. -/
def word? (lexer : Lexer) (read : Cursor → Option (Token × Cursor)) : Option Lexer := do
  let lexer ← lexer.noteKeyStart?
  let (token, cursor) ← read lexer.cursor
  some { lexer.push token with cursor, keyAllowed := false }

def blockScalar? (lexer : Lexer) (folded : Bool) : Option Lexer := do
  let lexer ← lexer.dropKeyStart?
  let (text, cursor) ← block? folded lexer.indents.head? lexer.cursor
  let style : Style := if folded then .folded else .literal
  some { lexer.push (.scalar style text) with cursor, keyAllowed := true }

def plainScalar? (lexer : Lexer) : Option Lexer := do
  let lexer ← lexer.noteKeyStart?
  let read ← plain? lexer.inFlow lexer.contentColumn lexer.cursor
  some { lexer.push (.scalar .plain read.text) with
    cursor := read.cursor, keyAllowed := read.leftLine }

def named (token : String → Token) (cursor : Cursor) : Option (Token × Cursor) :=
  (anchorName? cursor).map fun (name, cursor) => (token name, cursor)

def quotedScalar (double : Bool) (cursor : Cursor) : Option (Token × Cursor) :=
  (quoted? double cursor).map fun (text, cursor) => (.scalar .quoted text, cursor)

/-- The next token and the tokens that indentation puts before it; the cursor stands at `c`. -/
def token? (lexer : Lexer) (c : Char) (rest : List Char) : Option Lexer :=
  let flow := lexer.inFlow
  let apart := endsWord rest
  if lexer.cursor.column == 0 && c == '%' then lexer.atMargin? directive?
  else if lexer.cursor.marks '-' then
    lexer.atMargin? fun cursor => some (.documentStart, cursor.skip 3)
  else if lexer.cursor.marks '.' then
    lexer.atMargin? fun cursor => some (.documentEnd, cursor.skip 3)
  else match c with
  | '[' => lexer.flowStart? .flowSequence
  | '\x7b' => lexer.flowStart? .flowMapping
  | ']' => lexer.flowEnd? .flowSequenceEnd
  | '\x7d' => lexer.flowEnd? .flowMappingEnd
  | ',' => lexer.separator?
  | '*' => lexer.word? (named .alias)
  | '&' => lexer.word? (named .anchor)
  | '!' => lexer.word? (tag? flow)
  | '\'' => lexer.word? (quotedScalar false)
  | '"' => lexer.word? (quotedScalar true)
  | _ =>
    if c == '-' && apart then lexer.entry?
    else if c == '?' && (flow || apart) then lexer.key?
    else if c == ':' && (flow || apart) then lexer.value?
    else if c == '|' && !flow then lexer.blockScalar? false
    else if c == '>' && !flow then lexer.blockScalar? true
    else if startsPlain flow (c :: rest) then lexer.plainScalar?
    else none

/-- All tokens of the text, last first. -/
def run? : Nat → Lexer → Option (List Token)
  | 0, _ => none
  | fuel + 1, lexer => do
    let lexer ← (lexer.skipGap (lexer.cursor.rest.length + 1)).dropStale?
    let lexer := lexer.closeBlocks (· ≤ lexer.cursor.column)
    match lexer.cursor.rest with
    | [] => some (← (lexer.closeBlocks fun _ => false).dropKeyStart?).tokens
    | c :: rest => run? fuel (← lexer.token? c rest)

end Lexer

/-- The tokens of a text; `none` if it is not well formed. -/
def Token.ofText? (text : String) : Option (List Token) := do
  let cursor ← Cursor.ofText? text
  some (← Lexer.run? (cursor.rest.length + 1) { cursor }).reverse

end SchemaCheck.Yaml
