import SchemaCheck.Yaml.Scalar.Gap

/-! Scalars without quotes. -/
namespace SchemaCheck.Yaml

/-- Brackets, braces and commas, which end a plain scalar inside a flow collection. -/
def isFlowMark (c : Char) : Bool :=
  c == ',' || c == '[' || c == ']' || c == '\x7b' || c == '\x7d'

/-- A word of a plain scalar; inside a flow collection no colon may touch what follows it there. -/
def plainWord? (flow : Bool) : List Char → Option (List Char)
  | [] => some []
  | c :: rest =>
    if isGap c || (flow && isFlowMark c) || (c == ':' && endsWord rest) then some []
    else if flow && c == ':' && rest.head?.any (fun d => isFlowMark d || d == '?') then none
    else (plainWord? flow rest).map (c :: ·)

/-- Characters that mean something else at the start of a token. -/
def isIndicator (c : Char) : Bool := "-?:,[]\x7b\x7d#&*!|>'\"%@\x60".toList.contains c

/-- A plain scalar may start here. -/
def startsPlain (flow : Bool) : List Char → Bool
  | [] => false
  | c :: rest =>
    !(isGap c || isIndicator c) ||
      (c == '-' && !rest.head?.any isSpacing) ||
      (!flow && (c == '?' || c == ':') && !endsWord rest)

/-- A plain scalar that was read. -/
structure Plain where
  text : String
  /-- The cursor left the line of the last word. -/
  leftLine : Bool
  cursor : Cursor

/-- Reads on after `read`, which is reversed, and the white space behind it. Lines of the scalar
start at the column `indent` or later. -/
def plainFrom? (flow : Bool) (indent : Nat) :
    Nat → List Char → Gap → Cursor → Option Plain
  | 0, _, _, _ => none
  | fuel + 1, read, gap, cursor =>
    let finish (read : List Char) (gap : Gap) (cursor : Cursor) : Option Plain :=
      some ⟨String.ofList read.reverse, !gap.breaks.isEmpty, cursor⟩
    if cursor.atDocumentMark || cursor.rest.head? == some '#' then finish read gap cursor
    else do
      let word ← plainWord? flow cursor.rest
      if word.isEmpty then finish read gap cursor
      else
        let read := word.reverse ++ gap.fold.reverse ++ read
        let (gap, next) ← Gap.read? indent (cursor.skip word.length)
        if gap.isEmpty || (!flow && next.column < indent) then finish read gap next
        else plainFrom? flow indent fuel read gap next

def plain? (flow : Bool) (indent : Nat) (cursor : Cursor) : Option Plain :=
  plainFrom? flow indent (cursor.rest.length + 1) [] Gap.none cursor

end SchemaCheck.Yaml
