/-! Internet addresses of version four, with one to four numbers in decimal, octal or
hexadecimal. -/
namespace SchemaCheck.Uri.Ipv4

def digitValue? (c : Char) : Option Nat :=
  if c.isDigit then some (c.toNat - 48)
  else if 'a' ≤ c ∧ c ≤ 'f' then some (c.toNat - 87)
  else if 'A' ≤ c ∧ c ≤ 'F' then some (c.toNat - 55)
  else none

def inRadix? (radix : Nat) (digits : List Char) : Option Nat :=
  digits.foldlM (fun n c => (digitValue? c).bind fun d =>
    if d < radix then some (radix * n + d) else none) 0

/-- One number; `0x` starts a hexadecimal and a zero an octal one, and a lone prefix is zero. -/
def number? : List Char → Option Nat
  | [] => none
  | '0' :: 'x' :: digits => inRadix? 16 digits
  | '0' :: 'X' :: digits => inRadix? 16 digits
  | ['0'] => some 0
  | '0' :: digits => inRadix? 8 digits
  | digits => inRadix? 10 digits

/-- Drops one empty part at the end, where a final dot left it. -/
def dropFinalDot (parts : List (List Char)) : List (List Char) :=
  if parts.getLast? == some [] then parts.dropLast else parts

/-- The last part is a number or looks like one, so the name has to be an address. -/
def looksNumeric (parts : List (List Char)) : Bool :=
  match (dropFinalDot parts).getLast? with
  | some last => (!last.isEmpty && last.all Char.isDigit) || (number? last).isSome
  | none => false

/-- At most four numbers; all but the last fit a byte and the last fills the rest. -/
def isAddress (parts : List (List Char)) : Bool :=
  let parts := dropFinalDot parts
  match parts.mapM number? with
  | none => false
  | some numbers =>
    numbers.length ≤ 4 &&
      match numbers.getLast? with
      | none => false
      | some last =>
        last < Nat.pow 256 (5 - numbers.length) && numbers.dropLast.all (· ≤ 255)

end SchemaCheck.Uri.Ipv4
