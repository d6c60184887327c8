import SchemaCheck.Json.Number

/-! Numbers in YAML, and the words that spell them. -/
namespace SchemaCheck.Yaml

inductive Number where
  | finite (value : Json.Number)
  | infinite (negative : Bool)
  | notANumber
deriving DecidableEq, Repr

namespace Number

/-- Equality of keys: numbers of one kind, and what is no number equals itself. -/
def same : Number → Number → Bool
  | finite a, finite b => a.same b
  | infinite a, infinite b => a == b
  | notANumber, notANumber => true
  | _, _ => false

def render : Number → String
  | finite value => value.render .yaml
  | infinite negative => if negative then "-.inf" else ".inf"
  | notANumber => ".nan"

end Number

/-- The value of a digit in a base up to sixteen. -/
def digitIn? (base : Nat) (c : Char) : Option Nat :=
  let value? :=
    if c.isDigit then some (c.toNat - '0'.toNat)
    else if 'a' ≤ c ∧ c ≤ 'f' then some (c.toNat - 'a'.toNat + 10)
    else if 'A' ≤ c ∧ c ≤ 'F' then some (c.toNat - 'A'.toNat + 10)
    else none
  value?.filter (· < base)

/-- A magnitude in some base, of one digit or more. -/
def magnitude? (base : Nat) (digits : List Char) : Option Nat := do
  let values ← digits.mapM (digitIn? base)
  if values.isEmpty then none else some (values.foldl (fun n d => base * n + d) 0)

/-- The base that `0x`, `0o` or `0b` announces, and the digits after it. -/
def announced? : List Char → Option (Nat × List Char)
  | '0' :: 'x' :: digits => some (16, digits)
  | '0' :: 'o' :: digits => some (8, digits)
  | '0' :: 'b' :: digits => some (2, digits)
  | _ => none

/-- Digits that start with a needless zero: a text, and no number. -/
def isPadded (word : List Char) : Bool :=
  let digits := match word with
    | '-' :: rest => rest
    | '+' :: rest => rest
    | word => word
  1 < digits.length && digits.head? == some '0' && digits.all Char.isDigit

/-- A magnitude without sign. -/
def unsigned? (word : List Char) : Option Nat :=
  match announced? word with
  | some (base, digits) => magnitude? base digits
  | none => if isPadded word then none else magnitude? 10 word

/-- An integer of any size, with or without sign. -/
def wholeNumber? : List Char → Option Int
  | '-' :: word => (unsigned? word).map fun n => -(n : Int)
  | '+' :: word => (unsigned? word).map Int.ofNat
  | word => (unsigned? word).map Int.ofNat

/-- Integers from `-2 ^ 127` up to `2 ^ 128 - 1` are recognised, though not all can be kept. -/
def isRecognised (value : Int) : Bool :=
  -0x80000000000000000000000000000000 ≤ value && value < 0x100000000000000000000000000000000

/-- Digits with at most one point among or around them, and maybe a power of ten. -/
def decimal? (negative : Bool) (word : List Char) : Option Binary64 :=
  let (whole, rest) := word.span Char.isDigit
  let (fraction, rest) := match rest with
    | '.' :: rest => rest.span Char.isDigit
    | rest => ([], rest)
  let power? : Option Int := match rest with
    | [] => some 0
    | c :: rest =>
      if c == 'e' || c == 'E' then
        match rest with
        | '-' :: digits => (magnitude? 10 digits).map fun n => -(n : Int)
        | '+' :: digits => (magnitude? 10 digits).map Int.ofNat
        | digits => (magnitude? 10 digits).map Int.ofNat
      else none
  let digits := whole ++ fraction
  match power?, magnitude? 10 digits with
  | some power, some value =>
    Binary64.ofDecimal? negative value digits.length (power - fraction.length)
  | _, _ => none

/-- A number with a fraction or a power of ten, or one of the words for what is not finite. -/
def fractional? (word : List Char) : Option Number :=
  let spells (words : List String) (word : List Char) : Bool := words.any (·.toList == word)
  let infinity := [".inf", ".Inf", ".INF"]
  let (sign, body) := match word with
    | '-' :: body => (some '-', body)
    | '+' :: body => (some '+', body)
    | body => (none, body)
  if spells infinity body then some (.infinite (sign == some '-'))
  else if spells [".nan", ".NaN", ".NAN"] word then some .notANumber
  else (decimal? (sign == some '-') body).map fun value => .finite (.double value)

end SchemaCheck.Yaml
