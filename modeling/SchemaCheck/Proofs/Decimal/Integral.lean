import Mathlib
import SchemaCheck.Json.Number

/-! Rounding an integer to a double leaves no fraction. -/
namespace SchemaCheck

theorem roundQuotient_of_dvd {numerator denominator : Nat} (positive : 0 < denominator)
    (exact : denominator ∣ numerator) :
    roundQuotient numerator denominator = numerator / denominator := by
  simp [roundQuotient, Nat.mod_eq_zero_of_dvd exact, positive]

namespace Binary64

theorem magnitude_eq (x : Binary64) : x.magnitude = x.coefficient * 2 ^ x.exponent :=
  Nat.shiftLeft_eq ..

theorem isIntegral_iff (x : Binary64) : x.isIntegral = true ↔ 2 ^ unitBits ∣ x.magnitude := by
  simp [isIntegral, Nat.shiftLeft_eq, Nat.dvd_iff_mod_eq_zero]

private theorem isIntegral_of_exponent {x : Binary64} (large : unitBits ≤ x.exponent) :
    x.isIntegral = true := by
  rw [isIntegral_iff, magnitude_eq]
  exact (Nat.pow_dvd_pow 2 large).mul_left x.coefficient

/-- A carry into the next exponent keeps the rounded magnitude. -/
theorem magnitude_of_ofRatio? {negative : Bool} {numerator denominator : Nat} {x : Binary64}
    (rounded : ofRatio? negative numerator denominator = some x) :
    x.magnitude =
      roundQuotient (numerator <<< unitBits)
          (denominator <<< exponentFor (numerator <<< unitBits / denominator)) *
        2 ^ exponentFor (numerator <<< unitBits / denominator) := by
  have doubled (exponent : Nat) :
      fullPrecision * 2 ^ (exponent + 1) = coefficientLimit * 2 ^ exponent := by
    rw [Nat.pow_succ, ← Nat.mul_assoc, Nat.mul_right_comm]
    rfl
  rw [magnitude_eq]
  simp only [ofRatio?] at rounded
  split at rounded
  next carry =>
    split at rounded
    · obtain rfl := Option.some.inj rounded
      exact (doubled _).trans (congrArg (· * 2 ^ _) carry.symm)
    · cases rounded
  next =>
    split at rounded
    · obtain rfl := Option.some.inj rounded
      rfl
    · cases rounded

/-- At a scale finer than one the quotient is exact, at a coarser one every result is whole. -/
private theorem unit_dvd_rounded (whole exponent : Nat) :
    2 ^ unitBits ∣ roundQuotient (whole <<< unitBits) (1 <<< exponent) * 2 ^ exponent := by
  simp only [Nat.shiftLeft_eq, Nat.one_mul]
  by_cases fine : exponent ≤ unitBits
  · have exact : 2 ^ exponent ∣ whole * 2 ^ unitBits :=
      (Nat.pow_dvd_pow 2 fine).mul_left whole
    rw [roundQuotient_of_dvd (Nat.two_pow_pos exponent) exact, Nat.div_mul_cancel exact]
    exact Nat.dvd_mul_left _ _
  · exact (Nat.pow_dvd_pow 2 (by omega)).mul_left _

theorem ofInt_isIntegral (n : Int) : (ofInt n).isIntegral = true := by
  rw [ofInt]
  cases rounded : ofRatio? (n < 0) n.natAbs 1 with
  | none =>
    apply isIntegral_of_exponent
    simp [largest, unitBits]
  | some x =>
    rw [Option.getD_some, isIntegral_iff, magnitude_of_ofRatio? rounded]
    exact unit_dvd_rounded ..

end Binary64

/-- No integral number has a fraction once it is a double. -/
theorem Json.Number.toBinary64_isIntegral {number : Json.Number}
    (integral : number.isIntegral = true) : number.toBinary64.isIntegral = true := by
  cases number with
  | integer value fits => exact Binary64.ofInt_isIntegral value
  | double value => exact integral

end SchemaCheck
