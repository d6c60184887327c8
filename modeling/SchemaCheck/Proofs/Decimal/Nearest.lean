import Mathlib
import SchemaCheck.Proofs.Decimal.Value

/-! Rounding goes to the nearest double, and where two are equally near to the one with an even
coefficient. This settles the value of the result. -/
namespace SchemaCheck

theorem roundQuotient_error {denominator : Nat} (positive : 0 < denominator) (numerator : Nat) :
    2 * |(roundQuotient numerator denominator * denominator - numerator : ℤ)| ≤ denominator ∧
      (2 * |(roundQuotient numerator denominator * denominator - numerator : ℤ)| = denominator →
        Even (roundQuotient numerator denominator)) := by
  have below : numerator % denominator < denominator := Nat.mod_lt _ positive
  have split : ((numerator / denominator : ℕ) * denominator + (numerator % denominator : ℕ) : ℤ) =
      numerator := by
    exact_mod_cast Nat.div_add_mod' numerator denominator
  simp only [roundQuotient]
  generalize numerator / denominator = quotient at *
  generalize numerator % denominator = remainder at *
  split_ifs with down <;> rw [Nat.even_iff]
  · have error : (quotient * denominator - numerator : ℤ) = -remainder := by linarith
    rw [error, abs_neg, Nat.abs_cast]
    simp only [Bool.or_eq_true, decide_eq_true_eq, Bool.and_eq_true, beq_iff_eq] at down
    omega
  · have error : ((quotient + 1 : ℕ) * denominator - numerator : ℤ) = denominator - remainder := by
      push_cast
      linarith
    rw [error, abs_of_pos (by omega)]
    simp only [Bool.or_eq_true, decide_eq_true_eq, Bool.and_eq_true, beq_iff_eq] at down
    omega

/-- No other whole number is nearer to the quotient, and one as near leaves it even. -/
theorem roundQuotient_closest {denominator : Nat} (positive : 0 < denominator) (numerator : Nat)
    {whole : ℤ} (other : whole ≠ roundQuotient numerator denominator) :
    |(roundQuotient numerator denominator * denominator - numerator : ℤ)| ≤
        |whole * denominator - numerator| ∧
      (|whole * denominator - numerator| =
          |(roundQuotient numerator denominator * denominator - numerator : ℤ)| →
        Even (roundQuotient numerator denominator)) := by
  obtain ⟨small, tie⟩ := roundQuotient_error positive numerator
  have apart : (denominator : ℤ) ≤
      |whole * denominator - roundQuotient numerator denominator * denominator| := by
    rw [← sub_mul, abs_mul, Nat.abs_cast]
    exact le_mul_of_one_le_left (by omega) (Int.one_le_abs (sub_ne_zero.mpr other))
  have between := abs_sub_le (whole * denominator) numerator
    (roundQuotient numerator denominator * denominator : ℤ)
  rw [abs_sub_comm (numerator : ℤ)] at between
  exact ⟨by linarith, fun same => tie (by linarith)⟩

private theorem le_roundQuotient {numerator denominator whole : Nat} (positive : 0 < denominator)
    (above : whole * denominator ≤ numerator) : whole ≤ roundQuotient numerator denominator := by
  have quotient := (Nat.le_div_iff_mul_le positive).mpr above
  simp only [roundQuotient]
  split_ifs <;> omega

private theorem roundQuotient_le {numerator denominator whole : Nat} (positive : 0 < denominator)
    (below : numerator < whole * denominator) : roundQuotient numerator denominator ≤ whole := by
  have quotient := (Nat.div_lt_iff_lt_mul positive).mpr below
  simp only [roundQuotient]
  split_ifs <;> omega

namespace Binary64

/-- A double is on the grid of an exponent, or it is finer and too small for it. -/
theorem dvd_magnitude_or_lt (x : Binary64) (exponent : Nat) :
    2 ^ exponent ∣ x.magnitude ∨
      x.exponent < exponent ∧ x.magnitude < fullPrecision * 2 ^ exponent := by
  rw [magnitude_eq]
  rcases Nat.lt_or_ge x.exponent exponent with finer | coarser
  · right
    refine ⟨finer, ?_⟩
    calc x.coefficient * 2 ^ x.exponent
        < coefficientLimit * 2 ^ x.exponent :=
          Nat.mul_lt_mul_of_pos_right x.canonical.1 (Nat.two_pow_pos _)
      _ = fullPrecision * 2 ^ (x.exponent + 1) := by
          rw [Nat.pow_succ, Nat.mul_comm _ 2, ← Nat.mul_assoc]
          rfl
      _ ≤ fullPrecision * 2 ^ exponent :=
          Nat.mul_le_mul_left _ (Nat.pow_le_pow_right (by omega) finer)
  · exact .inl ((Nat.pow_dvd_pow 2 coarser).mul_left _)

private theorem lt_exponentFor (wholeUnits : Nat) :
    wholeUnits < coefficientLimit * 2 ^ exponentFor wholeUnits := by
  have limit : coefficientLimit = 2 ^ 53 := by norm_num
  rw [limit, ← Nat.pow_add, exponentFor]
  exact Nat.lt_log2_self.trans_le (Nat.pow_le_pow_right (by omega) (by omega))

private theorem exponentFor_le {wholeUnits : Nat} (coarse : exponentFor wholeUnits ≠ 0) :
    fullPrecision * 2 ^ exponentFor wholeUnits ≤ wholeUnits := by
  have full : fullPrecision = 2 ^ 52 := by norm_num
  rw [exponentFor] at coarse ⊢
  have positive : wholeUnits ≠ 0 := by
    rintro rfl
    exact coarse rfl
  rw [full, ← Nat.pow_add, Nat.add_sub_cancel' (by omega)]
  exact Nat.log2_self_le positive

theorem exponentFor_le_of_lt {wholeUnits bits : Nat} (small : wholeUnits < 2 ^ bits) :
    exponentFor wholeUnits ≤ bits - 53 := by
  rw [exponentFor]
  rcases eq_or_ne wholeUnits 0 with rfl | positive
  · simp
  · have digits := (Nat.log2_lt positive).mpr small
    omega

/-- The grid that a ratio is rounded on. -/
def ratioExponent (numerator denominator : Nat) : Nat :=
  exponentFor (numerator <<< unitBits / denominator)

/-- The point of the grid that a ratio is rounded to. -/
def ratioCoefficient (numerator denominator : Nat) : Nat :=
  roundQuotient (numerator <<< unitBits) (denominator <<< ratioExponent numerator denominator)

section Ratio

variable {numerator denominator : Nat}

private theorem ratio_lt (positive : 0 < denominator) :
    numerator <<< unitBits <
      coefficientLimit * (denominator <<< ratioExponent numerator denominator) := by
  have quotient := lt_exponentFor (numerator <<< unitBits / denominator)
  rw [Nat.div_lt_iff_lt_mul positive] at quotient
  rwa [Nat.shiftLeft_eq denominator, Nat.mul_comm denominator, ← Nat.mul_assoc]

theorem le_ratio (positive : 0 < denominator) (coarse : ratioExponent numerator denominator ≠ 0) :
    fullPrecision * (denominator <<< ratioExponent numerator denominator) ≤
      numerator <<< unitBits := by
  have quotient := exponentFor_le coarse
  rw [Nat.le_div_iff_mul_le positive] at quotient
  rwa [Nat.shiftLeft_eq denominator, Nat.mul_comm denominator, ← Nat.mul_assoc]

theorem shiftLeft_pos (positive : 0 < denominator) (exponent : Nat) :
    0 < denominator <<< exponent := by
  rw [Nat.shiftLeft_eq]
  exact Nat.mul_pos positive (Nat.two_pow_pos _)

/-- A rounded ratio is a point of its grid. A carry leaves an even coefficient. -/
theorem ofRatio?_eq_some {negative : Bool} {x : Binary64}
    (rounded : ofRatio? negative numerator denominator = some x) :
    x.negative = negative ∧
      x.magnitude =
        ratioCoefficient numerator denominator * 2 ^ ratioExponent numerator denominator ∧
      (Even (ratioCoefficient numerator denominator) → Even x.coefficient) := by
  have magnitude := magnitude_of_ofRatio? rounded
  simp only [ofRatio?] at rounded
  split at rounded <;> split at rounded <;> cases rounded
  · exact ⟨rfl, magnitude, fun _ => ⟨fullPrecision / 2, rfl⟩⟩
  · exact ⟨rfl, magnitude, id⟩

theorem exists_ofRatio?_of_ne (negative : Bool) (positive : 0 < denominator)
    (uncarried : ratioCoefficient numerator denominator ≠ coefficientLimit)
    (small : ratioExponent numerator denominator ≤ 2045) :
    ∃ x, ofRatio? negative numerator denominator = some x := by
  have divisor := shiftLeft_pos positive (ratioExponent numerator denominator)
  have most : ratioCoefficient numerator denominator ≤ coefficientLimit :=
    roundQuotient_le divisor (ratio_lt positive)
  have fits : Canonical (ratioCoefficient numerator denominator)
      (ratioExponent numerator denominator) := by
    refine ⟨lt_of_le_of_ne most uncarried, small, ?_⟩
    by_cases coarse : ratioExponent numerator denominator = 0
    · exact .inr coarse
    · exact .inl (le_roundQuotient divisor (le_ratio positive coarse))
  simp only [ofRatio?]
  split
  next carried => exact absurd carried uncarried
  next => exact ⟨_, dif_pos fits⟩

theorem exists_ofRatio? (negative : Bool) (positive : 0 < denominator)
    (small : ratioExponent numerator denominator ≤ 2044) :
    ∃ x, ofRatio? negative numerator denominator = some x := by
  by_cases carried : ratioCoefficient numerator denominator = coefficientLimit
  · have fits : Canonical fullPrecision (ratioExponent numerator denominator + 1) :=
      ⟨by decide, Nat.succ_le_succ small, .inl le_rfl⟩
    simp only [ofRatio?]
    split
    next => exact ⟨_, dif_pos fits⟩
    next uncarried => exact absurd carried uncarried
  · exact exists_ofRatio?_of_ne negative positive carried (small.trans (by omega))

/-- No other magnitude is nearer to the ratio than the rounded one, and one as near leaves the
coefficient even. A finer double is below the ratio, with a point of the grid in between. -/
private theorem closest_magnitude (positive : 0 < denominator) {magnitude : Nat}
    (rounded : magnitude =
      ratioCoefficient numerator denominator * 2 ^ ratioExponent numerator denominator)
    (other : Binary64) (different : other.magnitude ≠ magnitude) :
    |(magnitude * denominator - numerator * 2 ^ unitBits : ℤ)| ≤
        |(other.magnitude * denominator - numerator * 2 ^ unitBits : ℤ)| ∧
      (|(other.magnitude * denominator - numerator * 2 ^ unitBits : ℤ)| =
          |(magnitude * denominator - numerator * 2 ^ unitBits : ℤ)| →
        Even (ratioCoefficient numerator denominator)) := by
  have divisor := shiftLeft_pos positive (ratioExponent numerator denominator)
  have onGrid (whole : ℕ) (apart : whole ≠ ratioCoefficient numerator denominator) :=
    roundQuotient_closest divisor (numerator <<< unitBits) (Int.ofNat_inj.not.mpr apart)
  have scaled (whole : ℕ) : (whole * (denominator <<< ratioExponent numerator denominator : ℕ) -
      (numerator <<< unitBits : ℕ) : ℤ) =
      (whole * 2 ^ ratioExponent numerator denominator : ℕ) * denominator -
        numerator * 2 ^ unitBits := by
    rw [Nat.shiftLeft_eq, Nat.shiftLeft_eq]
    push_cast
    ring
  simp only [← ratioCoefficient.eq_1, scaled, ← rounded] at onGrid
  rcases other.dvd_magnitude_or_lt (ratioExponent numerator denominator) with
    ⟨whole, multiple⟩ | ⟨finer, small⟩
  · rw [Nat.mul_comm] at multiple
    rw [multiple]
    refine onGrid whole ?_
    rintro rfl
    exact different (multiple.trans rounded.symm)
  · have edge : fullPrecision * (denominator <<< ratioExponent numerator denominator) ≤
        numerator <<< unitBits := le_ratio positive (Nat.ne_zero_of_lt finer)
    have near :
        |(magnitude * denominator - numerator * 2 ^ unitBits : ℤ)| ≤
          |((fullPrecision * 2 ^ ratioExponent numerator denominator : ℕ) * denominator -
            numerator * 2 ^ unitBits : ℤ)| := by
      by_cases same : fullPrecision = ratioCoefficient numerator denominator
      · rw [same, ← rounded]
      · exact (onGrid fullPrecision same).1
    have below : (other.magnitude * denominator : ℤ) <
        (fullPrecision * 2 ^ ratioExponent numerator denominator : ℕ) * denominator := by
      exact_mod_cast Nat.mul_lt_mul_of_pos_right small positive
    have under := scaled fullPrecision
    rw [abs_of_nonpos (a := ((fullPrecision * _ : ℕ) * denominator - _ : ℤ)) (by omega)] at near
    rw [abs_of_neg (a := (other.magnitude * denominator - _ : ℤ)) (by omega)]
    exact ⟨by linarith, fun same => by linarith⟩

end Ratio

/-- The number that a double is. -/
def value (x : Binary64) : ℚ := x.units / 2 ^ unitBits

theorem value_zero : zero.value = 0 := by
  rw [value, show zero.units = 0 from rfl, Int.cast_zero, zero_div]

theorem value_lt_iff {x y : Binary64} : x.value < y.value ↔ x.units < y.units := by
  rw [value, value, div_lt_div_iff_of_pos_right (by positivity), Int.cast_lt]

theorem value_le_iff {x y : Binary64} : x.value ≤ y.value ↔ x.units ≤ y.units := by
  rw [← not_lt, value_lt_iff, not_lt]

theorem value_inj {x y : Binary64} : x.value = y.value ↔ x.units = y.units := by
  rw [value, value, div_left_inj' (by positivity), Int.cast_inj]

theorem value_eq_intCast_iff {x : Binary64} {n : ℤ} :
    x.value = n ↔ x.units = n * 2 ^ unitBits := by
  rw [value, div_eq_iff (by positivity)]
  exact_mod_cast Iff.rfl

theorem abs_value (x : Binary64) : |x.value| = x.magnitude / 2 ^ unitBits := by
  rw [value, abs_div, abs_of_pos (a := (2 : ℚ) ^ unitBits) (by positivity), ← natAbs_units,
    Nat.cast_natAbs, Int.cast_abs]

/-- No double is nearer to the number; one as near, if it is another, leaves the even coefficient
to this one. -/
structure Nearest (x : Binary64) (number : ℚ) : Prop where
  closest (other : Binary64) : |x.value - number| ≤ |other.value - number|
  even (other : Binary64) (different : other.value ≠ x.value)
    (tie : |other.value - number| = |x.value - number|) : Even x.coefficient

theorem nearest_self (x : Binary64) : x.Nearest x.value where
  closest other := by
    rw [sub_self, abs_zero]
    exact abs_nonneg _
  even other different tie := by
    rw [sub_self, abs_zero, abs_eq_zero, sub_eq_zero] at tie
    exact absurd tie different

/-- A number that some double is exactly is rounded to it. -/
theorem Nearest.value_eq_of_exact {x other : Binary64} {number : ℚ} (nearest : x.Nearest number)
    (exact : other.value = number) : x.value = number := by
  have close := nearest.closest other
  rw [exact, sub_self, abs_zero] at close
  exact sub_eq_zero.mp (abs_nonpos_iff.mp close)

/-- The sign of zero makes no double nearer. -/
theorem Nearest.of_value_eq {x other : Binary64} {number : ℚ} (nearest : x.Nearest number)
    (same : other.value = x.value) : other.Nearest number where
  closest := by simpa only [same] using nearest.closest
  even := by
    have sizes : other.magnitude = x.magnitude := by
      rw [← natAbs_units, ← natAbs_units, value_inj.mp same]
    simpa only [same, (magnitude_injective sizes).1] using nearest.even

/-- The distance of two magnitudes in whole units, free of denominators. -/
private theorem abs_value_sub_ratio (x : Binary64) {numerator denominator : Nat}
    (positive : 0 < denominator) :
    |(|x.value| - numerator / denominator)| =
      (|(x.magnitude * denominator - numerator * 2 ^ unitBits : ℤ)| : ℤ) /
        (2 ^ unitBits * denominator) := by
  have scale : (0 : ℚ) < denominator := by exact_mod_cast positive
  have unit : (0 : ℚ) < 2 ^ unitBits := by positivity
  rw [abs_value, div_sub_div _ _ unit.ne' scale.ne', abs_div,
    abs_of_pos (a := (2 ^ unitBits * denominator : ℚ)) (by positivity)]
  push_cast
  rw [mul_comm (2 ^ unitBits : ℚ) (numerator : ℚ)]

theorem abs_value_sub_of_sign {x : Binary64} {negative : Bool} (sign : x.negative = negative)
    (magnitude : ℚ) :
    |x.value - (if negative then -magnitude else magnitude)| = |(|x.value| - magnitude)| := by
  subst sign
  rw [abs_value, value, units]
  split
  · rw [Int.cast_neg, neg_div, ← abs_neg, neg_sub, sub_neg_eq_add, neg_add_eq_sub]
    rfl
  · rfl

/-- What is nearest among the magnitudes is nearest with the sign put in front. -/
theorem nearest_of_magnitudes {x : Binary64} {size : ℚ} (nonneg : 0 ≤ size)
    (magnitudes : ∀ other : Binary64, other.magnitude ≠ x.magnitude →
      |(|x.value| - size)| ≤ |(|other.value| - size)| ∧
        (|(|other.value| - size)| = |(|x.value| - size)| → Even x.coefficient)) :
    x.Nearest (if x.negative then -size else size) := by
  have signed := abs_value_sub_of_sign (x := x) rfl size
  generalize target : (if x.negative then -size else size : ℚ) = number at *
  have sizes : |number| = size := by
    rw [← target]
    split <;> simp [abs_of_nonneg nonneg]
  have further (other : Binary64) := abs_abs_sub_abs_le_abs_sub other.value number
  simp only [sizes] at further
  have closest (other : Binary64) : |x.value - number| ≤ |other.value - number| := by
    rw [signed]
    refine le_trans ?_ (further other)
    by_cases same : other.magnitude = x.magnitude
    · rw [abs_value, abs_value, same]
    · exact (magnitudes other same).1
  refine ⟨closest, fun other different tie => ?_⟩
  by_cases same : other.magnitude = x.magnitude
  · -- the other sign is as near only to zero, where there are no two values
    have sizes : |other.value| = |x.value| := by rw [abs_value, abs_value, same]
    have opposite := (abs_eq_abs.mp sizes).resolve_left different
    have zero : x.value = 0 := by
      have close := closest Binary64.zero
      rw [opposite] at tie
      rcases abs_eq_abs.mp tie with same | mirrored
      · linarith
      · obtain rfl : number = 0 := by linarith
        rw [value_zero, sub_zero, sub_zero, abs_zero] at close
        exact abs_nonpos_iff.mp close
    exact absurd (by rw [opposite, zero, neg_zero]) different
  · have near := (magnitudes other same).1
    have far := further other
    rw [tie, signed] at far
    exact (magnitudes other same).2 (le_antisymm far near)

theorem nearest_of_ofRatio? {negative : Bool} {numerator denominator : Nat} {x : Binary64}
    (positive : 0 < denominator) (rounded : ofRatio? negative numerator denominator = some x) :
    x.Nearest (if negative then -(numerator / denominator) else numerator / denominator) := by
  obtain ⟨sign, magnitude, even⟩ := ofRatio?_eq_some rounded
  have scale : (0 : ℚ) < 2 ^ unitBits * denominator := by
    have : (0 : ℚ) < denominator := by exact_mod_cast positive
    positivity
  have nonneg : (0 : ℚ) ≤ numerator / denominator := div_nonneg (by simp) (by simp)
  rw [← sign]
  refine nearest_of_magnitudes nonneg fun other different => ?_
  simp only [abs_value_sub_ratio _ positive, div_le_div_iff_of_pos_right scale,
    div_left_inj' scale.ne', Int.cast_le, Int.cast_inj]
  exact (closest_magnitude positive magnitude other different).imp_right (even ∘ ·)

theorem signed_natAbs (n : ℤ) :
    (if decide (n < 0) = true then -(n.natAbs : ℚ) else n.natAbs) = n := by
  rw [Nat.cast_natAbs, Int.cast_abs]
  split <;> rename_i sign <;> rw [decide_eq_true_eq] at sign
  · rw [abs_of_neg (by exact_mod_cast sign), neg_neg]
  · rw [abs_of_nonneg (by exact_mod_cast not_lt.mp sign)]

/-- Integers far beyond 64 bits are still below the largest double. -/
theorem exists_ofInt {n : ℤ} {bits : Nat} (small : n.natAbs < 2 ^ bits) (within : bits ≤ 1023) :
    ratioExponent n.natAbs 1 ≤ bits + unitBits - 53 ∧
      ofRatio? (n < 0) n.natAbs 1 = some (ofInt n) := by
  have scaled : n.natAbs <<< unitBits / 1 < 2 ^ (bits + unitBits) := by
    rw [Nat.div_one, Nat.shiftLeft_eq, Nat.pow_add]
    exact Nat.mul_lt_mul_of_pos_right small (Nat.two_pow_pos _)
  have exponent : ratioExponent n.natAbs 1 ≤ bits + unitBits - 53 := exponentFor_le_of_lt scaled
  refine ⟨exponent, ?_⟩
  obtain ⟨x, rounded⟩ := exists_ofRatio? (n < 0) Nat.one_pos
    (exponent.trans (by unfold unitBits; omega))
  rw [ofInt, rounded, Option.getD_some]

theorem ofInt_nearest {n : ℤ} {bits : Nat} (small : n.natAbs < 2 ^ bits) (within : bits ≤ 1023) :
    (ofInt n).Nearest n := by
  have nearest := nearest_of_ofRatio? Nat.one_pos (exists_ofInt small within).2
  rwa [Nat.cast_one, div_one, signed_natAbs] at nearest

/-- Integers of 53 bits are kept. -/
theorem magnitude_ofInt {n : ℤ} (small : n.natAbs < 2 ^ 53) :
    (ofInt n).magnitude = n.natAbs * 2 ^ unitBits := by
  obtain ⟨fine, rounded⟩ := exists_ofInt small (by omega)
  obtain ⟨_, magnitude, _⟩ := ofRatio?_eq_some rounded
  rw [Nat.add_sub_cancel_left] at fine
  have exact : 2 ^ ratioExponent n.natAbs 1 ∣ n.natAbs * 2 ^ unitBits :=
    (Nat.pow_dvd_pow 2 fine).mul_left _
  rw [magnitude, ratioCoefficient, Nat.shiftLeft_eq, Nat.shiftLeft_eq, Nat.one_mul,
    roundQuotient_of_dvd (Nat.two_pow_pos _) exact, Nat.div_mul_cancel exact]

theorem value_ofInt {n : ℤ} (small : n.natAbs < 2 ^ 53) : (ofInt n).value = n := by
  obtain ⟨_, rounded⟩ := exists_ofInt small (by omega)
  have error := abs_value_sub_of_sign (ofRatio?_eq_some rounded).1 n.natAbs
  rw [signed_natAbs, abs_value, magnitude_ofInt small, Nat.cast_mul, Nat.cast_pow, Nat.cast_ofNat,
    mul_div_cancel_right₀ _ (by positivity), sub_self, abs_zero, abs_eq_zero] at error
  exact sub_eq_zero.mp error

def opposite (x : Binary64) : Binary64 := { x with negative := !x.negative }

private theorem units_opposite (x : Binary64) : x.opposite.units = -x.units := by
  cases sign : x.negative <;> simp [opposite, units, magnitude, sign]

theorem units_nonneg {x : Binary64} (sign : x.negative = false) : 0 ≤ x.units := by
  simp [units, sign]

/-- The next coefficient is odd, so it is not yet that of the larger double. -/
private theorem exists_above {x y : Binary64} (first : Even x.coefficient)
    (second : Even y.coefficient) (apart : x.magnitude < y.magnitude) :
    ∃ z : Binary64, z.negative = false ∧ x.magnitude < z.magnitude ∧ z.magnitude < y.magnitude := by
  obtain ⟨bounded, exponent, full⟩ := x.canonical
  have unit : 0 < 2 ^ x.exponent := Nat.two_pow_pos _
  have canonical : Canonical (x.coefficient + 1) x.exponent := by
    refine ⟨?_, exponent, full.imp_left Nat.le_succ_of_le⟩
    rw [Nat.even_iff] at first
    simp only [coefficientLimit] at bounded ⊢
    omega
  let z : Binary64 := ⟨false, x.coefficient + 1, x.exponent, canonical⟩
  have next : z.magnitude = (x.coefficient + 1) * 2 ^ x.exponent := magnitude_eq z
  have parities : z.magnitude ≠ y.magnitude := by
    intro same
    rw [← (magnitude_injective same).1] at second
    exact Nat.not_even_iff_odd.mpr first.add_one second
  refine ⟨z, rfl, ?_, lt_of_le_of_ne ?_ parities⟩
  · rw [next, magnitude_eq]
    exact Nat.mul_lt_mul_of_pos_right (Nat.lt_succ_self _) unit
  · rw [magnitude_eq x] at apart
    rcases y.dvd_magnitude_or_lt x.exponent with ⟨whole, multiple⟩ | ⟨finer, small⟩
    · rw [multiple, Nat.mul_comm, Nat.mul_lt_mul_left unit] at apart
      rw [multiple, next, Nat.mul_comm]
      exact Nat.mul_le_mul_left _ apart
    · have large := Nat.mul_le_mul_right (2 ^ x.exponent)
        (full.resolve_right (Nat.ne_zero_of_lt finer))
      omega

/-- Between two doubles with even coefficients there is a third one. -/
private theorem exists_between {x y : Binary64} (first : Even x.coefficient)
    (second : Even y.coefficient)
    (apart : x.units < y.units) : ∃ z : Binary64, x.units < z.units ∧ z.units < y.units := by
  rcases lt_or_ge x.units 0 with negative | nonnegative
  · rcases lt_or_ge 0 y.units with positive | nonpositive
    · exact ⟨zero, negative, positive⟩
    · have sizes : y.magnitude < x.magnitude := by
        rw [← natAbs_units, ← natAbs_units]
        omega
      obtain ⟨z, sign, above, below⟩ := exists_above second first sizes
      rw [← natAbs_units, ← natAbs_units] at above below
      have positive : 0 ≤ z.units := units_nonneg sign
      refine ⟨z.opposite, ?_, ?_⟩ <;> rw [units_opposite] <;> omega
  · have sizes : x.magnitude < y.magnitude := by
      rw [← natAbs_units, ← natAbs_units]
      omega
    obtain ⟨z, sign, above, below⟩ := exists_above first second sizes
    rw [← natAbs_units, ← natAbs_units] at above below
    have positive : 0 ≤ z.units := units_nonneg sign
    exact ⟨z, by omega, by omega⟩

/-- Only the sign of zero is left open by what is nearest. -/
theorem Nearest.value_eq {x y : Binary64} {number : ℚ} (first : x.Nearest number)
    (second : y.Nearest number) : x.value = y.value := by
  wlog order : x.value < y.value generalizing x y
  · rcases lt_trichotomy x.value y.value with less | same | more
    · exact this first second less
    · exact same
    · exact (this second first more).symm
  have distances := le_antisymm (second.closest x) (first.closest y)
  obtain ⟨z, above, below⟩ := exists_between (first.even y order.ne' distances)
    (second.even x order.ne distances.symm) (value_lt_iff.mp order)
  rw [← value_lt_iff] at above below
  have middle : y.value - number = -(x.value - number) :=
    (abs_eq_abs.mp distances).resolve_left fun same => order.ne (by linarith)
  have nearer : |z.value - number| < |x.value - number| := by
    rw [abs_of_neg (a := x.value - number) (by linarith), abs_lt]
    constructor <;> linarith
  exact absurd (first.closest z) (not_le.mpr nearer)

/-- What is nearer to the higher of two numbers is not below their middle. -/
theorem add_le_of_nearer {low high number : ℚ} (order : low < high)
    (nearer : |high - number| ≤ |low - number|) : low + high ≤ 2 * number := by
  rw [← sq_le_sq] at nearer
  nlinarith

/-- Rounding keeps the order: only the two sides of one tie could be taken for each other. -/
theorem Nearest.mono {x y : Binary64} {number other : ℚ} (first : x.Nearest number)
    (second : y.Nearest other) (order : number ≤ other) : x.value ≤ y.value := by
  rcases le_or_gt x.value y.value with kept | reversed
  · exact kept
  · have above : y.value + x.value ≤ 2 * number := add_le_of_nearer reversed (first.closest y)
    have below : -x.value + -y.value ≤ 2 * -other := by
      refine add_le_of_nearer (neg_lt_neg reversed) ?_
      simpa only [neg_sub_neg, abs_sub_comm other] using second.closest x
    obtain rfl : number = other := by linarith
    exact (first.value_eq second).le

end Binary64

namespace Json.Number

/-- What the number amounts to, however it is kept. -/
def value : Number → ℚ
  | integer value _ => value
  | double value => value.value

theorem toBinary64_nearest (number : Number) : number.toBinary64.Nearest number.value := by
  cases number with
  | integer value fits =>
    have small : value.natAbs < 2 ^ 64 := by
      obtain ⟨least, most⟩ := fits
      omega
    exact Binary64.ofInt_nearest small (by omega)
  | double value => exact value.nearest_self

end Json.Number

end SchemaCheck
