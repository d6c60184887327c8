import SchemaCheck.Text.Unprintable

/-! Text in double quotes for a reader's eye: control and invisible characters are written by
escapes. -/
namespace SchemaCheck.Quoted

/-- A character by its number, as in `\u\x7bad\x7d`. -/
def numbered (c : Char) : List Char :=
  '\\' :: 'u' :: '\x7b' :: (Nat.toDigits 16 c.toNat ++ ['\x7d'])

def escaped (c : Char) : List Char :=
  match c with
  | '"' => ['\\', '"']
  | '\\' => ['\\', '\\']
  | '\n' => ['\\', 'n']
  | '\r' => ['\\', 'r']
  | '\t' => ['\\', 't']
  | '\x00' => ['\\', '0']
  | c =>
    if graphemeExtenders.contains c.toNat || glyphless.contains c.toNat then numbered c else [c]

/-- The text between quotes. -/
def encode (text : String) : String :=
  String.ofList ('"' :: text.toList.flatMap escaped ++ ['"'])

/-- Quoted texts in brackets. -/
def encodeList (texts : List String) : String :=
  "[" ++ String.intercalate ", " (texts.map encode) ++ "]"

end SchemaCheck.Quoted
