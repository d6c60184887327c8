import SchemaCheck.Decimal.Binary64

/-! Rounding to the nearest binary64 number, ties to the even coefficient. -/
namespace SchemaCheck

/-- `numerator / denominator` to the nearest whole number, ties to even. -/
def roundQuotient (numerator denominator : Nat) : Nat :=
  let quotient := numerator / denominator
  let twice := 2 * (numerator % denominator)
  if twice < denominator || (twice == denominator && quotient % 2 == 0) then quotient
  else quotient + 1

namespace Binary64

/-- The exponent at which a magnitude of this many whole units has 53 bits. -/
def exponentFor (wholeUnits : Nat) : Nat := wholeUnits.log2 - 52

/-- The nearest number to `± numerator / denominator`; `none` beyond the largest. -/
def ofRatio? (negative : Bool) (numerator denominator : Nat) : Option Binary64 :=
  let scaled := numerator <<< unitBits
  let exponent := exponentFor (scaled / denominator)
  let coefficient := roundQuotient scaled (denominator <<< exponent)
  let (coefficient, exponent) :=
    if coefficient = coefficientLimit then (fullPrecision, exponent + 1) else (coefficient, exponent)
  if fits : Canonical coefficient exponent then some ⟨negative, coefficient, exponent, fits⟩
  else none

/-- Integers far beyond 64 bits stop at the largest number. -/
def ofInt (n : Int) : Binary64 :=
  (ofRatio? (n < 0) n.natAbs 1).getD (largest (n < 0))

/-- Decimal magnitudes from this power of ten on exceed every finite number. -/
def decimalLimit : Int := 310

/-- Decimal magnitudes below this power of ten are nearer to zero than to the least positive
number. -/
def decimalFloor : Int := -330

/-- The nearest number to `± digits * 10 ^ exponent`, where `digits` has `count` decimal places
or fewer; `none` beyond the largest. -/
def ofDecimal? (negative : Bool) (digits : Nat) (count : Nat) (exponent : Int) :
    Option Binary64 :=
  if digits = 0 then some { zero with negative }
  else if exponent > decimalLimit then none
  else if exponent + count < decimalFloor then some { zero with negative }
  else if exponent < 0 then ofRatio? negative digits (Nat.pow 10 exponent.natAbs)
  else ofRatio? negative (digits * Nat.pow 10 exponent.natAbs) 1

end Binary64
end SchemaCheck
