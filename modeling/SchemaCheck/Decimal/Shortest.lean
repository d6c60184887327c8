import SchemaCheck.Decimal.Binary64

/-! The shortest decimal that reads back as a given binary64 number, and the nearest of those. -/
namespace SchemaCheck

/-- `coefficient * 10 ^ exponent`. -/
structure Decimal where
  coefficient : Nat
  exponent : Int
deriving DecidableEq, Repr

/-- What to do when two shortest decimals are equally near. -/
inductive Tie where
  | even
  | up
deriving DecidableEq, Repr

/-- Decimal places of a positive number; zero has one. -/
def digitCount (n : Nat) : Nat :=
  if n < 10 then 1 else digitCount (n / 10) + 1
termination_by n

/-- The power of ten of the leading digit of `numerator / denominator`, both positive. -/
def leadingPower (numerator denominator : Nat) : Int :=
  if denominator ≤ numerator then (digitCount (numerator / denominator) : Int) - 1
  else -(digitCount ((denominator + numerator - 1) / numerator - 1) : Int)

/-- Divides out factors of ten, at most `fuel` of them. -/
def Decimal.trim : Nat → Decimal → Decimal
  | 0, d => d
  | fuel + 1, d =>
    if d.coefficient % 10 == 0 then Decimal.trim fuel ⟨d.coefficient / 10, d.exponent + 1⟩ else d

namespace Binary64

/-- Four times the magnitude and its distances to the rounding boundaries below and above. -/
structure Boundaries where
  centre : Nat
  below : Nat
  above : Nat
  inclusive : Bool

def boundaries (x : Binary64) : Boundaries where
  centre := x.magnitude <<< 2
  below := (if x.coefficient = fullPrecision ∧ x.exponent ≠ 0 then 1 else 2) <<< x.exponent
  above := 2 <<< x.exponent
  inclusive := x.coefficient % 2 == 0

/-- The decimal on the grid `10 ^ power` nearest to `x`, if it rounds to `x`. -/
def onGrid? (x : Binary64) (tie : Tie) (power : Int) : Option Decimal :=
  let b := x.boundaries
  let step := if power < 0 then 4 <<< unitBits else (4 * Nat.pow 10 power.natAbs) <<< unitBits
  let scale := if power < 0 then Nat.pow 10 power.natAbs else 1
  let centre := b.centre * scale
  let down := centre / step
  let slack := centre % step
  let within (distance limit : Nat) : Bool :=
    distance < limit * scale || (b.inclusive && distance == limit * scale)
  let downOk := down != 0 && within slack b.below
  let upOk := within (step - slack) b.above
  let preferUp := step < 2 * slack || (2 * slack == step && (tie == .up || down % 2 == 1))
  if downOk && !(upOk && preferUp) then some ⟨down, power⟩
  else if upOk then some ⟨down + 1, power⟩
  else none

/-- Tries one more digit at a time; seventeen always suffice. -/
def searchGrid (x : Binary64) (tie : Tie) : Nat → Int → Decimal
  | 0, power => ⟨x.magnitude, power⟩
  | fuel + 1, power => (x.onGrid? tie power).getD (searchGrid x tie fuel (power - 1))

/-- The shortest decimal of the magnitude of `x`, without trailing zeros. -/
def shortest (x : Binary64) (tie : Tie) : Decimal :=
  if x.isZero then ⟨0, 0⟩
  else (searchGrid x tie 18 (leadingPower x.magnitude (1 <<< unitBits))).trim 330

end Binary64
end SchemaCheck
