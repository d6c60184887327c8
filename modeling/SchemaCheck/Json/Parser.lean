import SchemaCheck.Decimal.Scaling
import SchemaCheck.Json.Value

/-! Reading JSON text. Containers nest up to a fixed depth, and numbers beyond the largest double
are refused. A double is read by scaling its leading digits, which may miss the nearest one. In the
parsed value a repeated key keeps its first place and its last value. -/
namespace SchemaCheck.Json

/-- How deep arrays and objects may nest in a text. -/
def nestingLimit : Nat := 127

def skipBlank (cs : List Char) : List Char :=
  cs.dropWhile fun c => c == ' ' || c == '\n' || c == '\t' || c == '\r'

def hexValue? (c : Char) : Option Nat :=
  if c.isDigit then some (c.toNat - '0'.toNat)
  else if 'a' ≤ c ∧ c ≤ 'f' then some (c.toNat - 'a'.toNat + 10)
  else if 'A' ≤ c ∧ c ≤ 'F' then some (c.toNat - 'A'.toNat + 10)
  else none

/-- Four hexadecimal digits. -/
def codeUnit? : List Char → Option (Nat × List Char)
  | a :: b :: c :: d :: rest => do
    let high := 16 * (← hexValue? a) + (← hexValue? b)
    let low := 16 * (← hexValue? c) + (← hexValue? d)
    some (256 * high + low, rest)
  | _ => none

/-- The character written by `\u` and what follows; surrogates stand in pairs only. -/
def unicodeEscape? (cs : List Char) : Option (Char × List Char) := do
  let (unit, rest) ← codeUnit? cs
  if 0xDC00 ≤ unit ∧ unit ≤ 0xDFFF then none
  else if 0xD800 ≤ unit ∧ unit ≤ 0xDBFF then
    match rest with
    | '\\' :: 'u' :: rest => do
      let (low, rest) ← codeUnit? rest
      if 0xDC00 ≤ low ∧ low ≤ 0xDFFF then
        some (Char.ofNat (0x10000 + (unit - 0xD800) * 0x400 + (low - 0xDC00)), rest)
      else none
    | _ => none
  else some (Char.ofNat unit, rest)

/-- The character written after a backslash. -/
def escape? : List Char → Option (Char × List Char)
  | '"' :: rest => some ('"', rest)
  | '\\' :: rest => some ('\\', rest)
  | '/' :: rest => some ('/', rest)
  | 'b' :: rest => some ('\x08', rest)
  | 'f' :: rest => some ('\x0c', rest)
  | 'n' :: rest => some ('\n', rest)
  | 'r' :: rest => some ('\r', rest)
  | 't' :: rest => some ('\t', rest)
  | 'u' :: rest => unicodeEscape? rest
  | _ => none

/-- The text up to the closing quote; `read` holds what was read, last character first. -/
def stringTail? : Nat → List Char → List Char → Option (String × List Char)
  | 0, _, _ => none
  | fuel + 1, read, cs =>
    match cs with
    | [] => none
    | '"' :: rest => some (String.ofList read.reverse, rest)
    | '\\' :: rest => do
      let (c, rest) ← escape? rest
      stringTail? fuel (c :: read) rest
    | c :: rest => if c.toNat < 0x20 then none else stringTail? fuel (c :: read) rest

def string? (cs : List Char) : Option (String × List Char) := stringTail? (cs.length + 1) [] cs

def digitsValue (digits : List Char) : Nat :=
  digits.foldl (fun n c => 10 * n + (c.toNat - '0'.toNat)) 0

/-- The digits after a point, none without one. -/
def fraction? : List Char → Option (List Char × List Char)
  | '.' :: rest =>
    let (digits, rest) := rest.span Char.isDigit
    if digits.isEmpty then none else some (digits, rest)
  | rest => some ([], rest)

/-- The power of ten after an `e`, absent without one. -/
def exponent? : List Char → Option (Option Int × List Char)
  | c :: rest =>
    if c == 'e' || c == 'E' then
      let (negative, rest) := match rest with
        | '-' :: rest => (true, rest)
        | '+' :: rest => (false, rest)
        | rest => (false, rest)
      let (digits, rest) := rest.span Char.isDigit
      if digits.isEmpty then none
      else
        let power : Int := digitsValue digits
        some (some (if negative then -power else power), rest)
    else some (none, c :: rest)
  | [] => some (none, [])

/-- How the digits before and behind a point, with a power of ten, become a double. -/
abbrev DoubleReader := Bool → List Char → List Char → Int → Option Binary64

/-- Goes on with a whole number while it fits 64 bits; also how many digits are left over. -/
def significand (known : Nat) : List Char → Nat × Nat
  | [] => (known, 0)
  | c :: rest =>
    let next := 10 * known + (c.toNat - '0'.toNat)
    if next < 0x10000000000000000 then significand next rest else (known, rest.length + 1)

/-- The digits that fit 64 bits as a double, times a power of ten. Digits left over before the point
count as zeros, those behind it are passed over. -/
def scaledDouble? : DoubleReader := fun negative whole fraction power =>
  let (digits, dropped) := significand 0 whole
  let (digits, ignored) := significand digits fraction
  let double := { Binary64.ofInt digits with negative }
  double.scaled? (power + dropped - (fraction.length - ignored))

/-- An integer literal that fits 64 bits stays an integer; `-0` and the rest are doubles. -/
def literalNumber? (double? : DoubleReader) (negative : Bool) (whole fraction : List Char)
    (exponent : Option Int) : Option Number :=
  let digits := digitsValue whole
  let value : Int := if negative then -(digits : Int) else digits
  let double := (double? negative whole fraction (exponent.getD 0)).map Number.double
  if fraction.isEmpty && exponent.isNone && !(negative && digits == 0) then
    if fits : Number.Fits value then some (.integer value fits) else double
  else double

section Reader

variable (double? : DoubleReader)

def number? (cs : List Char) : Option (Number × List Char) := do
  let (negative, cs) := match cs with
    | '-' :: rest => (true, rest)
    | cs => (false, cs)
  let (whole, cs) := cs.span Char.isDigit
  if whole.isEmpty || (whole.head? == some '0' && whole.length != 1) then none
  else
    let (fraction, cs) ← fraction? cs
    let (exponent, cs) ← exponent? cs
    some (← literalNumber? double? negative whole fraction exponent, cs)

mutual

/-- A value and what follows it; `depth` more containers may open. -/
def value? : Nat → Nat → List Char → Option (Json × List Char)
  | 0, _, _ => none
  | fuel + 1, depth, cs =>
    match skipBlank cs with
    | 'n' :: 'u' :: 'l' :: 'l' :: rest => some (.null, rest)
    | 't' :: 'r' :: 'u' :: 'e' :: rest => some (.bool true, rest)
    | 'f' :: 'a' :: 'l' :: 's' :: 'e' :: rest => some (.bool false, rest)
    | '"' :: rest => (string? rest).map fun (text, rest) => (.string text, rest)
    | '[' :: rest =>
      if depth = 0 then none
      else match skipBlank rest with
        | ']' :: rest => some (.array [], rest)
        | rest => items? fuel (depth - 1) [] rest
    | '\x7b' :: rest =>
      if depth = 0 then none
      else match skipBlank rest with
        | '\x7d' :: rest => some (.object [], rest)
        | rest => members? fuel (depth - 1) [] rest
    | rest => (number? double? rest).map fun (value, rest) => (.number value, rest)

/-- The items up to the closing bracket; `read` holds those before, last first. -/
def items? : Nat → Nat → List Json → List Char → Option (Json × List Char)
  | 0, _, _, _ => none
  | fuel + 1, depth, read, cs => do
    let (item, cs) ← value? fuel depth cs
    match skipBlank cs with
    | ',' :: rest => items? fuel depth (item :: read) rest
    | ']' :: rest => some (.array (item :: read).reverse, rest)
    | _ => none

/-- The members up to the closing brace, repeated names included. -/
def members? : Nat → Nat → List (String × Json) → List Char → Option (Json × List Char)
  | 0, _, _, _ => none
  | fuel + 1, depth, read, cs =>
    match skipBlank cs with
    | '"' :: rest => do
      let (key, cs) ← string? rest
      match skipBlank cs with
      | ':' :: rest => do
        let (value, cs) ← value? fuel depth rest
        match skipBlank cs with
        | ',' :: rest => members? fuel depth ((key, value) :: read) rest
        | '\x7d' :: rest => some (.object ((key, value) :: read).reverse, rest)
        | _ => none
      | _ => none
    | _ => none

end

end Reader

/-- The one value that the text holds, with every member of its objects. -/
def verbatim? (text : String) : Option Json := do
  let cs := text.toList
  let (value, rest) ← value? scaledDouble? (2 * cs.length + 2) nestingLimit cs
  if (skipBlank rest).isEmpty then some value else none

mutual

/-- Gives each name in an object one member, with the value that came last. -/
def merged : Json → Json
  | .array items => .array (mergedItems items)
  | .object members => .object (mergedMembers [] members)
  | value => value

def mergedItems : List Json → List Json
  | [] => []
  | item :: rest => merged item :: mergedItems rest

/-- Adds members to those that are there. -/
def mergedMembers (known : List (String × Json)) : List (String × Json) → List (String × Json)
  | [] => known
  | (name, value) :: rest => mergedMembers (put known name (merged value)) rest

end

/-- The one value that the text holds. -/
def parse? (text : String) : Option Json := (verbatim? text).map merged

end SchemaCheck.Json
