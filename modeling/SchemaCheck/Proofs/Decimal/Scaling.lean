import Mathlib
import SchemaCheck.Decimal.Scaling
import SchemaCheck.Proofs.Decimal.Interval

/-! Scaling by powers of ten that are doubles themselves. Only the result is rounded then, so it is
the double nearest to the decimal. -/
namespace SchemaCheck

theorem roundQuotient_mul_right {factor : Nat} (positive : 0 < factor)
    (numerator denominator : Nat) :
    roundQuotient (numerator * factor) (denominator * factor) =
      roundQuotient numerator denominator := by
  have twice (rest : Nat) : 2 * (rest * factor) = 2 * rest * factor := by rw [Nat.mul_assoc]
  have less (rest : Nat) : 2 * rest * factor < denominator * factor ↔ 2 * rest < denominator :=
    Nat.mul_lt_mul_right positive
  have same (rest : Nat) :
      (2 * rest * factor == denominator * factor) = (2 * rest == denominator) := by
    rw [Bool.eq_iff_iff, beq_iff_eq, beq_iff_eq]
    exact Nat.mul_left_inj positive.ne'
  simp only [roundQuotient, Nat.mul_div_mul_right _ _ positive, Nat.mul_mod_mul_right, twice, less,
    same]

namespace Binary64

theorem ofRatio?_mul_right (negative : Bool) (numerator denominator : Nat) {factor : Nat}
    (positive : 0 < factor) :
    ofRatio? negative (numerator * factor) (denominator * factor) =
      ofRatio? negative numerator denominator := by
  simp only [ofRatio?, Nat.shiftLeft_eq, Nat.mul_right_comm _ factor,
    Nat.mul_div_mul_right _ _ positive, roundQuotient_mul_right positive]

section Whole

variable {x y : Binary64} {n m : Nat}

/-- The product of two whole numbers is rounded once. -/
theorem times?_eq (left : x.magnitude = n * 2 ^ unitBits) (right : y.magnitude = m * 2 ^ unitBits) :
    x.times? y = ofRatio? x.negative (n * m) 1 := by
  have unit : 0 < 2 ^ (2 * unitBits) := Nat.two_pow_pos _
  have product : x.magnitude * y.magnitude = n * m * 2 ^ (2 * unitBits) := by
    rw [left, right, Nat.mul_mul_mul_comm, ← Nat.pow_add, ← Nat.two_mul]
  rw [times?, product, Nat.shiftLeft_eq, ofRatio?_mul_right _ _ _ unit]

theorem dividedBy?_eq (left : x.magnitude = n * 2 ^ unitBits)
    (right : y.magnitude = m * 2 ^ unitBits) : x.dividedBy? y = ofRatio? x.negative n m := by
  rw [dividedBy?, left, right, ofRatio?_mul_right _ _ _ (Nat.two_pow_pos _)]

end Whole

/-- The greatest power of ten that is a double is `10 ^ 22`. -/
theorem magnitude_powerOfTen {power : Nat} (small : power ≤ 22) :
    (powerOfTen power).magnitude = 10 ^ power * 2 ^ unitBits := by
  have each : ∀ power < 23, (powerOfTen power).magnitude = 10 ^ power * 2 ^ unitBits := by
    decide +kernel
  exact each power (Nat.lt_succ_of_le small)

/-- A whole number times a power of ten is rounded once where both are doubles. -/
theorem scaled?_eq_ofDecimal? {x : Binary64} {digits : Nat} {power : Int}
    (whole : x.magnitude = digits * 2 ^ unitBits) (small : power.natAbs ≤ 22) (count : Nat) :
    x.scaled? power = ofDecimal? x.negative digits count power := by
  have exact := magnitude_powerOfTen small
  by_cases zero : digits = 0
  · have none : x.magnitude = 0 := by rw [whole, zero, Nat.zero_mul]
    have isZero : x.isZero = true := by
      rw [magnitude_eq] at none
      simpa [isZero] using none
    rw [scaled?, if_pos isZero, ofDecimal?, if_pos zero, Option.some_inj]
    exact eq_of_magnitude rfl none
  · have nonzero : ¬ x.isZero = true := by
      intro isZero
      apply zero
      rw [magnitude_eq, beq_iff_eq.mp isZero, Nat.zero_mul] at whole
      exact (Nat.mul_eq_zero.mp whole.symm).resolve_right (Nat.two_pow_pos _).ne'
    have low : ¬ powerLimit < power := by
      unfold powerLimit
      omega
    have limit : ¬ power > decimalLimit := by
      unfold decimalLimit
      omega
    have floor : ¬ power + count < decimalFloor := by
      unfold decimalFloor
      omega
    rw [scaled?, if_neg nonzero, if_neg low, ofDecimal?, if_neg zero, if_neg limit, if_neg floor]
    by_cases raised : 0 ≤ power
    · rw [if_pos raised, if_neg (not_lt.mpr raised), times?_eq whole exact]
      rfl
    · have once : (power.natAbs - 1) / powerLimit = 0 := by
        unfold powerLimit
        omega
      have kept : x.lowered? 0 = some x := rfl
      rw [if_neg raised, if_pos (not_le.mp raised)]
      simp only [once, kept, Option.bind_some, Nat.mul_zero, Nat.sub_zero,
        dividedBy?_eq whole exact]
      rfl

end Binary64
end SchemaCheck
