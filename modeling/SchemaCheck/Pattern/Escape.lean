import SchemaCheck.Pattern.Tree
import SchemaCheck.Text.Identifier

/-! Escapes and names inside patterns. -/
namespace SchemaCheck.Pattern

def digit? (radix : Nat) (c : Char) : Option Nat :=
  let n :=
    if c.isDigit then c.toNat - 48
    else if 'a' ≤ c ∧ c ≤ 'f' then c.toNat - 87
    else if 'A' ≤ c ∧ c ≤ 'F' then c.toNat - 55
    else radix
  if n < radix then some n else none

/-- A number in the given radix, nothing else; one plus sign may lead. -/
def number? (radix : Nat) (cs : List Char) : Option Nat :=
  let digits := match cs with
    | '+' :: rest => rest
    | cs => cs
  if digits.isEmpty then none
  else digits.foldlM (fun n c => (digit? radix c).map (radix * n + ·)) 0

/-- Four characters that are a hexadecimal number. -/
def fourDigits? (cs : List Char) : Option (Nat × List Char) :=
  if 4 ≤ cs.length then (number? 16 (cs.take 4)).map fun n => (n, cs.drop 4) else none

/-- The code point after `\u`: a number in braces, four digits, or two surrogates. -/
def unicodePoint? (cs : List Char) : Option (Nat × List Char) :=
  match cs with
  | '\x7b' :: rest =>
    match rest.span (· != '\x7d') with
    | (digits, _ :: rest) => do
      let point ← number? 16 digits
      if point ≤ 0x10FFFF then some (point, rest) else none
    | (_, []) => none
  | cs => do
    let (unit, rest) ← fourDigits? cs
    if 0xD800 ≤ unit ∧ unit ≤ 0xDBFF then
      match rest with
      | '\\' :: 'u' :: tail =>
        match fourDigits? tail with
        | some (low, tail) =>
          if 0xDC00 ≤ low ∧ low ≤ 0xDFFF then
            some (0x10000 + (unit - 0xD800) * 0x400 + (low - 0xDC00), tail)
          else some (unit, rest)
        | none => some (unit, rest)
      | _ => some (unit, rest)
    else some (unit, rest)

def startsName (c : Char) : Bool :=
  c == '$' || c == '_' || identifierStarts.contains c.toNat

def continuesName (c : Char) : Bool :=
  c == '$' || c == '_' || c == '\u200c' || c == '\u200d' || identifierParts.contains c.toNat

/-- The next character of a name, which may be written by number. -/
def nameChar? : List Char → Option (Char × List Char)
  | '\\' :: 'u' :: rest => do
    let (point, rest) ← unicodePoint? rest
    if point.isValidChar then some (Char.ofNat point, rest) else none
  | c :: rest => some (c, rest)
  | [] => none

/-- The name up to the closing bracket; `read` holds it so far, last character first. -/
def nameTail? : Nat → List Char → List Char → Option (String × List Char)
  | 0, _, _ => none
  | fuel + 1, read, cs =>
    match cs with
    | '>' :: rest =>
      if read.isEmpty then none else some (String.ofList read.reverse, rest)
    | cs => do
      let (c, rest) ← nameChar? cs
      if (if read.isEmpty then startsName c else continuesName c) then
        nameTail? fuel (c :: read) rest
      else none

/-- A name in angle brackets. -/
def groupName? : List Char → Option (String × List Char)
  | '<' :: rest => nameTail? (rest.length + 1) [] rest
  | _ => none

/-- Up to three octal digits, as long as the number stays below 256. -/
def octal (cs : List Char) : Nat × List Char :=
  let digits := (cs.takeWhile fun c => (digit? 8 c).isSome).take 3
  let keep := match digits with
    | first :: _ => if '3' < first then min 2 digits.length else digits.length
    | [] => 0
  ((number? 8 (digits.take keep)).getD 0, cs.drop keep)

/-- The code point of a character escape. With named groups, `\k` is none. -/
def characterEscape? (named : Bool) : List Char → Option (Nat × List Char)
  | 'f' :: rest => some (0x0C, rest)
  | 'n' :: rest => some (0x0A, rest)
  | 'r' :: rest => some (0x0D, rest)
  | 't' :: rest => some (0x09, rest)
  | 'v' :: rest => some (0x0B, rest)
  | 'x' :: rest =>
    match rest with
    | a :: b :: tail =>
      match digit? 16 a, digit? 16 b with
      | some high, some low => some (16 * high + low, tail)
      | _, _ => some ('x'.toNat, rest)
    | _ => some ('x'.toNat, rest)
  | 'u' :: rest => some ((unicodePoint? rest).getD ('u'.toNat, rest))
  | 'k' :: rest => if named then none else some ('k'.toNat, rest)
  | c :: rest =>
    if (digit? 8 c).isSome then some (octal (c :: rest)) else some (c.toNat, rest)
  | [] => none

def isLetter (c : Char) : Bool := ('a' ≤ c && c ≤ 'z') || ('A' ≤ c && c ≤ 'Z')

/-- The class that a letter after a backslash names, if any. -/
def shorthand? : Char → Option (Shorthand × Bool)
  | 'd' => some (.digit, false)
  | 'D' => some (.digit, true)
  | 's' => some (.space, false)
  | 'S' => some (.space, true)
  | 'w' => some (.word, false)
  | 'W' => some (.word, true)
  | _ => none

end SchemaCheck.Pattern
