import Mathlib
import SchemaCheck.Proofs.Decimal.Integral

/-! Doubles of one value. They are one and the same, or the two zeros, which comparisons do not
tell apart and messages do not show. -/
namespace SchemaCheck

namespace Binary64

theorem lt_iff {x y : Binary64} : x < y ↔ x.units < y.units := .rfl

theorem le_iff {x y : Binary64} : x ≤ y ↔ x.units ≤ y.units := .rfl

theorem sameValue_iff {x y : Binary64} : x.sameValue y = true ↔ x.units = y.units := beq_iff_eq

theorem natAbs_units (x : Binary64) : x.units.natAbs = x.magnitude := by
  rw [units]
  split <;> simp

/-- What is at a larger exponent has full precision, so a smaller exponent has no room for it. -/
private theorem exponent_not_lt {x y : Binary64} (same : x.magnitude = y.magnitude) :
    ¬ x.exponent < y.exponent := by
  intro smaller
  obtain ⟨bounded, _, _⟩ := x.canonical
  obtain ⟨_, _, full⟩ := y.canonical
  have precise : fullPrecision ≤ y.coefficient := full.resolve_right (by omega)
  have split : 2 ^ y.exponent = 2 ^ (y.exponent - x.exponent) * 2 ^ x.exponent := by
    rw [← Nat.pow_add, Nat.sub_add_cancel smaller.le]
  rw [magnitude_eq, magnitude_eq, split, ← Nat.mul_assoc] at same
  have coefficients := Nat.eq_of_mul_eq_mul_right (Nat.two_pow_pos x.exponent) same
  have doubled : 2 ^ 1 ≤ 2 ^ (y.exponent - x.exponent) := Nat.pow_le_pow_right (by omega) (by omega)
  have large := Nat.mul_le_mul precise doubled
  simp only [coefficientLimit, fullPrecision] at bounded large
  omega

theorem magnitude_injective {x y : Binary64} (same : x.magnitude = y.magnitude) :
    x.coefficient = y.coefficient ∧ x.exponent = y.exponent := by
  have exponents : x.exponent = y.exponent :=
    Nat.le_antisymm (Nat.not_lt.mp (exponent_not_lt same.symm))
      (Nat.not_lt.mp (exponent_not_lt same))
  rw [magnitude_eq, magnitude_eq, exponents] at same
  exact ⟨Nat.eq_of_mul_eq_mul_right (Nat.two_pow_pos _) same, exponents⟩

theorem magnitude_eq_of_sameValue {x y : Binary64} (same : x.sameValue y = true) :
    x.magnitude = y.magnitude := by
  rw [← natAbs_units, ← natAbs_units, sameValue_iff.mp same]

theorem isZero_eq_of_sameValue {x y : Binary64} (same : x.sameValue y = true) :
    x.isZero = y.isZero := by
  rw [isZero, isZero, (magnitude_injective (magnitude_eq_of_sameValue same)).1]

theorem magnitude_pos {x : Binary64} (nonzero : x.isZero = false) : 0 < x.magnitude := by
  rw [magnitude_eq]
  exact Nat.mul_pos (Nat.pos_of_ne_zero (by simpa [isZero] using nonzero)) (Nat.two_pow_pos _)

/-- Only the sign of zero is not in the value. -/
theorem eq_or_isZero_of_sameValue {x y : Binary64} (same : x.sameValue y = true) :
    x = y ∨ x.isZero = true ∧ y.isZero = true := by
  have magnitudes := magnitude_eq_of_sameValue same
  obtain ⟨coefficients, exponents⟩ := magnitude_injective magnitudes
  by_cases zero : x.isZero = true
  · exact .inr ⟨zero, isZero_eq_of_sameValue same ▸ zero⟩
  · left
    have positive : 0 < x.magnitude := magnitude_pos (Bool.eq_false_iff.mpr zero)
    have values := sameValue_iff.mp same
    rw [units, units, ← magnitudes] at values
    have signs : x.negative = y.negative := by
      cases first : x.negative <;> cases second : y.negative <;>
        simp only [first, second, Bool.false_eq_true, if_true, if_false] at values ⊢ <;> omega
    cases x
    cases y
    simp_all

theorem isMultipleOf_eq_of_sameValue {divisor other : Binary64}
    (same : divisor.sameValue other = true) (x : Binary64) :
    x.isMultipleOf divisor = x.isMultipleOf other := by
  rw [isMultipleOf, isMultipleOf, isZero_eq_of_sameValue same, magnitude_eq_of_sameValue same]

end Binary64

/-- Messages write both zeros alike. -/
theorem NumberLayout.render_message_eq {x y : Binary64} (same : x.sameValue y = true) :
    NumberLayout.message.render x = NumberLayout.message.render y := by
  rcases Binary64.eq_or_isZero_of_sameValue same with rfl | ⟨first, second⟩
  · rfl
  · simp [render, first, second, message]

end SchemaCheck
