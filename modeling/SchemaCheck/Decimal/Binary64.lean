/-! Finite binary64 numbers as exact data. The value is a whole number of units of 2^-1074, so
order, divisibility and integrality are questions about integers. -/
namespace SchemaCheck

/-- The least positive binary64 number is `2 ^ -unitBits`; every finite one is a multiple of it. -/
def unitBits : Nat := 1074

/-- Coefficients have 53 bits. -/
abbrev Binary64.coefficientLimit : Nat := 0x20000000000000

/-- The least coefficient that uses all bits. -/
abbrev Binary64.fullPrecision : Nat := 0x10000000000000

/-- One representation per number: full precision, or the least exponent. -/
abbrev Binary64.Canonical (coefficient exponent : Nat) : Prop :=
  coefficient < coefficientLimit ∧ exponent ≤ 2045 ∧
    (fullPrecision ≤ coefficient ∨ exponent = 0)

/-- `± coefficient * 2 ^ exponent` units; zero keeps its sign. -/
structure Binary64 where
  negative : Bool
  coefficient : Nat
  exponent : Nat
  canonical : Binary64.Canonical coefficient exponent
deriving DecidableEq, Repr

namespace Binary64

def zero : Binary64 := ⟨false, 0, 0, by decide⟩

instance : Inhabited Binary64 := ⟨zero⟩

/-- The largest finite number. -/
def largest (negative : Bool) : Binary64 := ⟨negative, coefficientLimit - 1, 2045, by decide⟩

def magnitude (x : Binary64) : Nat := x.coefficient <<< x.exponent

/-- The value, counted in units. -/
def units (x : Binary64) : Int := if x.negative then -(x.magnitude : Int) else x.magnitude

/-- Both zeros are one number. -/
def sameValue (x y : Binary64) : Bool := x.units == y.units

def isZero (x : Binary64) : Bool := x.coefficient == 0

/-- No fractional part. -/
def isIntegral (x : Binary64) : Bool := x.magnitude % (1 <<< unitBits) == 0

/-- `x` is a whole multiple of `divisor`; nothing is a multiple of zero. -/
def isMultipleOf (x divisor : Binary64) : Bool :=
  !divisor.isZero && x.magnitude % divisor.magnitude == 0

instance : LT Binary64 := ⟨fun x y => x.units < y.units⟩
instance : LE Binary64 := ⟨fun x y => x.units ≤ y.units⟩
instance (x y : Binary64) : Decidable (x < y) := inferInstanceAs (Decidable (x.units < y.units))
instance (x y : Binary64) : Decidable (x ≤ y) := inferInstanceAs (Decidable (x.units ≤ y.units))

end Binary64
end SchemaCheck
