import SchemaCheck.Decimal.Shortest

/-! How a number is laid out as text: where positional notation ends and how an exponent is
written. -/
namespace SchemaCheck

def decimalDigits (n : Nat) : List Char := Nat.toDigits 10 n

/-- A layout for finite numbers. Magnitudes whose leading digit stands at a power of ten from
`positionalFrom` up to but not including `positionalBelow` are positional, others scientific. -/
structure NumberLayout where
  tie : Tie
  positionalFrom : Int
  positionalBelow : Int
  wholeSuffix : String
  plusExponent : String
  zero : String
  negativeZero : String

namespace NumberLayout

/-- Numbers in messages: whole numbers plain, `1e+21` and `1e-7` outside `[1e-6, 1e21)`. -/
def message : NumberLayout where
  tie := .up
  positionalFrom := -6
  positionalBelow := 21
  wholeSuffix := ""
  plusExponent := "e+"
  zero := "0"
  negativeZero := "0"

/-- Numbers in JSON text: always a fraction in positional notation. -/
def json : NumberLayout where
  tie := .even
  positionalFrom := -5
  positionalBelow := 16
  wholeSuffix := ".0"
  plusExponent := "e+"
  zero := "0.0"
  negativeZero := "-0.0"

/-- Numbers as YAML mapping keys: as in JSON text, without the plus. -/
def yaml : NumberLayout := { json with plusExponent := "e" }

/-- The digits with the point after the first `places` of them. -/
def positional (suffix : String) (digits : List Char) (places : Int) : List Char :=
  if places ≤ 0 then
    '0' :: '.' :: (List.replicate places.natAbs '0' ++ digits)
  else
    let whole := places.toNat
    if digits.length ≤ whole then
      digits ++ List.replicate (whole - digits.length) '0' ++ suffix.toList
    else digits.take whole ++ '.' :: digits.drop whole

/-- One digit before the point and the power of ten after an `e`. -/
def scientific (plus : String) (digits : List Char) (power : Int) : List Char :=
  let mantissa := match digits with
    | first :: second :: rest => first :: '.' :: second :: rest
    | short => short
  let mark := if power < 0 then ['e', '-'] else plus.toList
  mantissa ++ mark ++ decimalDigits power.natAbs

/-- The text of a number in this layout. -/
def render (layout : NumberLayout) (x : Binary64) : String :=
  if x.isZero then (if x.negative then layout.negativeZero else layout.zero)
  else
    let d := x.shortest layout.tie
    let digits := decimalDigits d.coefficient
    let power := d.exponent + digits.length - 1
    let body :=
      if layout.positionalFrom ≤ power ∧ power < layout.positionalBelow then
        positional layout.wholeSuffix digits (power + 1)
      else scientific layout.plusExponent digits power
    String.ofList (if x.negative then '-' :: body else body)

end NumberLayout
end SchemaCheck
