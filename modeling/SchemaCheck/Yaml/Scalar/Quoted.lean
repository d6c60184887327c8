import SchemaCheck.Yaml.Scalar.Gap

/-! Scalars in single or double quotes. -/
namespace SchemaCheck.Yaml

def hexDigit? (c : Char) : Option Nat :=
  if c.isDigit then some (c.toNat - '0'.toNat)
  else if 'a' ≤ c ∧ c ≤ 'f' then some (c.toNat - 'a'.toNat + 10)
  else if 'A' ≤ c ∧ c ≤ 'F' then some (c.toNat - 'A'.toNat + 10)
  else none

/-- The character with this code, unless it is half of a surrogate pair or beyond Unicode. -/
def charOfCode? (code : Nat) : Option Char :=
  if valid : code.isValidChar then some (Char.ofNatAux code valid) else none

/-- The character written by so many hexadecimal digits. -/
def coded? (count : Nat) (cs : List Char) : Option Char := do
  let digits ← (cs.take count).mapM hexDigit?
  if digits.length = count then charOfCode? (digits.foldl (fun n d => 16 * n + d) 0) else none

/-- The character that an escape stands for, and the length of the escape after its backslash. -/
def escape? : List Char → Option (Char × Nat)
  | '0' :: _ => some ('\x00', 1)
  | 'a' :: _ => some ('\x07', 1)
  | 'b' :: _ => some ('\x08', 1)
  | 't' :: _ => some ('\t', 1)
  | '\t' :: _ => some ('\t', 1)
  | 'n' :: _ => some ('\n', 1)
  | 'v' :: _ => some ('\x0b', 1)
  | 'f' :: _ => some ('\x0c', 1)
  | 'r' :: _ => some ('\r', 1)
  | 'e' :: _ => some ('\x1b', 1)
  | ' ' :: _ => some (' ', 1)
  | '"' :: _ => some ('"', 1)
  | '/' :: _ => some ('/', 1)
  | '\\' :: _ => some ('\\', 1)
  | 'N' :: _ => some ('\u0085', 1)
  | '_' :: _ => some ('\u00a0', 1)
  | 'L' :: _ => some ('\u2028', 1)
  | 'P' :: _ => some ('\u2029', 1)
  | 'x' :: rest => (coded? 2 rest).map fun c => (c, 3)
  | 'u' :: rest => (coded? 4 rest).map fun c => (c, 5)
  | 'U' :: rest => (coded? 8 rest).map fun c => (c, 9)
  | _ => none

/-- Past white space, after which no document may start or end. -/
def quotedGap? (cursor : Cursor) : Option (Gap × Cursor) := do
  let (gap, cursor) ← Gap.read? 0 cursor
  if cursor.atDocumentMark then none else some (gap, cursor)

/-- The text up to the closing quote; `read` is reversed. Single quotes know no escape but a
doubled quote; a backslash at the end of a line joins it to the next. -/
def quotedFrom? (double : Bool) : Nat → List Char → Cursor → Option (String × Cursor)
  | 0, _, _ => none
  | fuel + 1, read, cursor =>
    match cursor.rest with
    | [] => none
    | c :: rest =>
      if isGap c then do
        let (gap, cursor) ← quotedGap? cursor
        quotedFrom? double fuel (gap.fold.reverse ++ read) cursor
      else if double && c == '\\' then
        if rest.head?.any isLineBreak then do
          let (gap, cursor) ← quotedGap? (cursor.skip 2)
          quotedFrom? double fuel (gap.breaks.reverse ++ read) cursor
        else do
          let (c, length) ← escape? rest
          quotedFrom? double fuel (c :: read) (cursor.skip (length + 1))
      else if c == (if double then '"' else '\'') then
        if !double && rest.head? == some '\'' then
          quotedFrom? double fuel ('\'' :: read) (cursor.skip 2)
        else some (String.ofList read.reverse, cursor.next)
      else quotedFrom? double fuel (c :: read) cursor.next

/-- A quoted scalar; the cursor stands at its opening quote. -/
def quoted? (double : Bool) (cursor : Cursor) : Option (String × Cursor) :=
  quotedFrom? double (cursor.rest.length + 1) [] cursor.next

end SchemaCheck.Yaml
