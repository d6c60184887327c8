import SchemaCheck.Json.Value

/-! JSON text, on one line or indented by two spaces. -/
namespace SchemaCheck.Json

def hexDigit (n : Nat) : Char := (Nat.digitChar (n % 16))

/-- A character inside quotes; only the quote, the backslash and control characters change. -/
def escaped (c : Char) : List Char :=
  match c with
  | '"' => ['\\', '"']
  | '\\' => ['\\', '\\']
  | '\n' => ['\\', 'n']
  | '\r' => ['\\', 'r']
  | '\t' => ['\\', 't']
  | '\x08' => ['\\', 'b']
  | '\x0c' => ['\\', 'f']
  | c =>
    if c.toNat < 0x20 then ['\\', 'u', '0', '0', hexDigit (c.toNat / 16), hexDigit c.toNat]
    else [c]

def quoted (text : String) : List Char :=
  '"' :: text.toList.flatMap escaped ++ ['"']

def scalar : Json → List Char
  | .bool true => "true".toList
  | .bool false => "false".toList
  | .number value => (value.render .json).toList
  | .string text => quoted text
  | _ => "null".toList

mutual

def compactChars : Json → List Char
  | .array items => '[' :: compactItems items
  | .object members => '\x7b' :: compactMembers members
  | value => scalar value

def compactItems : List Json → List Char
  | [] => [']']
  | [item] => compactChars item ++ [']']
  | item :: rest => compactChars item ++ ',' :: compactItems rest

def compactMembers : List (String × Json) → List Char
  | [] => ['\x7d']
  | [(key, value)] => quoted key ++ ':' :: (compactChars value ++ ['\x7d'])
  | (key, value) :: rest => quoted key ++ ':' :: (compactChars value ++ ',' :: compactMembers rest)

end

/-- The value on one line, without blanks. -/
def compact (value : Json) : String := String.ofList value.compactChars

def lineBreak (level : Nat) : List Char := '\n' :: List.replicate (2 * level) ' '

mutual

def prettyChars (level : Nat) : Json → List Char
  | .array [] => ['[', ']']
  | .array (item :: rest) =>
    '[' :: (lineBreak (level + 1) ++ prettyChars (level + 1) item ++ prettyItems level rest)
  | .object [] => ['\x7b', '\x7d']
  | .object ((key, value) :: rest) =>
    '\x7b' :: (lineBreak (level + 1) ++ quoted key ++ ':' :: ' ' ::
      (prettyChars (level + 1) value ++ prettyMembers level rest))
  | value => scalar value

def prettyItems (level : Nat) : List Json → List Char
  | [] => lineBreak level ++ [']']
  | item :: rest =>
    ',' :: (lineBreak (level + 1) ++ prettyChars (level + 1) item ++ prettyItems level rest)

def prettyMembers (level : Nat) : List (String × Json) → List Char
  | [] => lineBreak level ++ ['\x7d']
  | (key, value) :: rest =>
    ',' :: (lineBreak (level + 1) ++ quoted key ++ ':' :: ' ' ::
      (prettyChars (level + 1) value ++ prettyMembers level rest))

end

/-- The value with one member or item a line. -/
def pretty (value : Json) : String := String.ofList (value.prettyChars 0)

end SchemaCheck.Json
