import SchemaCheck.Yaml.Scalar.Quoted
import SchemaCheck.Yaml.Token

/-! Tags, the directives that abbreviate them, and the names of anchors. -/
namespace SchemaCheck.Yaml

/-- Characters of anchors, handles and directive names. -/
def isNameChar (c : Char) : Bool := c.isAlphanum || c == '_' || c == '-'

/-- Characters of an address, apart from escapes; some only outside plain tags. -/
def isAddressChar (full : Bool) (c : Char) : Bool :=
  isNameChar c || ";/?:@&=+$.!~*'()".toList.contains c || (full && ",[]".toList.contains c)

/-- Bytes written as `%` and two hexadecimal digits. -/
def escapedByte? : List Char → Option UInt8
  | '%' :: a :: b :: _ => do
    some (UInt8.ofNat (16 * (← hexDigit? a) + (← hexDigit? b)))
  | _ => none

/-- The number of bytes in a character that starts with this one. -/
def byteCount? (first : UInt8) : Option Nat :=
  if first < 0x80 then some 1
  else if 0xc0 ≤ first && first < 0xe0 then some 2
  else if 0xe0 ≤ first && first < 0xf0 then some 3
  else if 0xf0 ≤ first && first < 0xf8 then some 4
  else none

/-- A character written as escaped bytes, and how many they are. -/
def escapedChar? (cs : List Char) : Option (Char × Nat) := do
  let count ← byteCount? (← escapedByte? cs)
  let bytes ← (List.range count).mapM fun i => escapedByte? (cs.drop (3 * i))
  let text ← String.fromUTF8? ⟨bytes.toArray⟩
  match text.toList with
  | [c] => some (c, count)
  | _ => none

/-- An address, after `read`, which is reversed. -/
def addressFrom? (full : Bool) : Nat → List Char → Cursor → Option (List Char × Cursor)
  | 0, _, _ => none
  | fuel + 1, read, cursor =>
    match cursor.rest with
    | '%' :: _ => do
      let (c, count) ← escapedChar? cursor.rest
      addressFrom? full fuel (c :: read) (cursor.skip (3 * count))
    | c :: _ =>
      if isAddressChar full c then addressFrom? full fuel (c :: read) cursor.next
      else some (read.reverse, cursor)
    | [] => some (read.reverse, cursor)

def address? (full : Bool) (cursor : Cursor) : Option (List Char × Cursor) :=
  addressFrom? full (cursor.rest.length + 1) [] cursor

/-- A handle, or the part of a tag that looks like the start of one: an exclamation mark, a name
and maybe another mark. -/
def handle? (cursor : Cursor) : Option (List Char × Cursor) :=
  match cursor.rest with
  | '!' :: _ =>
    let (name, cursor) := cursor.next.span isNameChar
    if cursor.rest.head? == some '!' then some ('!' :: name ++ ['!'], cursor.next)
    else some ('!' :: name, cursor)
  | _ => none

/-- A tag as it is written, before its end is looked at. -/
def tagBody? (cursor : Cursor) : Option (Token × Cursor) := do
  if cursor.rest.drop 1 |>.head? |>.any (· == '<') then
    let (name, cursor) ← address? true (cursor.skip 2)
    if name.isEmpty || cursor.rest.head? != some '>' then none
    else some (.tag "" (String.ofList name), cursor.next)
  else
    let (handle, cursor) ← handle? cursor
    let (name, cursor) ← address? false cursor
    if 2 ≤ handle.length && handle.getLast? == some '!' then
      if name.isEmpty then none
      else some (.tag (String.ofList handle) (String.ofList name), cursor)
    else
      match handle.drop 1 ++ name with
      | [] => some (.tag "" "!", cursor)
      | name => some (.tag "!" (String.ofList name), cursor)

/-- A tag; it ends at white space or, inside a flow collection, at a comma. -/
def tag? (flow : Bool) (cursor : Cursor) : Option (Token × Cursor) := do
  let (token, cursor) ← tagBody? cursor
  if endsWord cursor.rest || (flow && cursor.rest.head? == some ',') then some (token, cursor)
  else none

/-- The name of an anchor, after its mark. -/
def anchorName? (cursor : Cursor) : Option (String × Cursor) :=
  let (name, cursor) := cursor.next.span isNameChar
  if name.isEmpty then none
  else if endsWord cursor.rest || cursor.rest.head?.any "?:,]\x7d%@\x60".toList.contains then
    some (String.ofList name, cursor)
  else none

/-- A number of at most nine digits. -/
def versionNumber? (cursor : Cursor) : Option (Nat × Cursor) :=
  let (digits, cursor) := cursor.span Char.isDigit
  if digits.isEmpty || 9 < digits.length then none
  else some (digits.foldl (fun n c => 10 * n + (c.toNat - '0'.toNat)) 0, cursor)

/-- What a directive says, after its name. -/
def directiveBody? (name : String) (cursor : Cursor) : Option (Token × Cursor) := do
  let cursor := cursor.skipWhile isSpacing
  match name with
  | "YAML" =>
    let (major, cursor) ← versionNumber? cursor
    if cursor.rest.head? != some '.' then none
    else
      let (minor, cursor) ← versionNumber? cursor.next
      some (.version major minor, cursor)
  | "TAG" =>
    let (handle, cursor) ← handle? cursor
    if handle.getLast? != some '!' || !cursor.rest.head?.any isSpacing then none
    else
      let (expansion, cursor) ← address? true (cursor.skipWhile isSpacing)
      if expansion.isEmpty || !endsWord cursor.rest then none
      else some (.handle (String.ofList handle) (String.ofList expansion), cursor)
  | _ => none

/-- A directive, a line of its own; the cursor stands at its percent sign. -/
def directive? (cursor : Cursor) : Option (Token × Cursor) := do
  let (name, cursor) := cursor.next.span isNameChar
  if name.isEmpty || !endsWord cursor.rest then none
  else
    let (token, cursor) ← directiveBody? (String.ofList name) cursor
    some (token, ← cursor.endLine?)

end SchemaCheck.Yaml
