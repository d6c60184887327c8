import Mathlib
import SchemaCheck.Decimal.Shortest
import SchemaCheck.Proofs.Decimal.Nearest

/-! The rounding interval of a double. Whatever lies in it is rounded to the double, and a decimal
is read as the double that covers it. -/
namespace SchemaCheck.Binary64

theorem boundaries_above (x : Binary64) : x.boundaries.above = 2 * 2 ^ x.exponent :=
  Nat.shiftLeft_eq ..

theorem boundaries_below (x : Binary64) :
    x.boundaries.below =
      (if x.coefficient = fullPrecision ∧ x.exponent ≠ 0 then 1 else 2) * 2 ^ x.exponent :=
  Nat.shiftLeft_eq ..

theorem boundaries_below_le (x : Binary64) : x.boundaries.below ≤ 2 * 2 ^ x.exponent := by
  rw [boundaries_below]
  apply Nat.mul_le_mul_right
  split <;> decide

theorem le_boundaries_below (x : Binary64) : 2 ^ x.exponent ≤ x.boundaries.below := by
  rw [boundaries_below]
  apply Nat.le_mul_of_pos_left
  split <;> decide

/-- A larger magnitude is at least twice the upper boundary away. -/
private theorem above_le {x y : Binary64} (larger : x.magnitude < y.magnitude) :
    2 * x.magnitude + x.boundaries.above ≤ 2 * y.magnitude := by
  have unit : 0 < 2 ^ x.exponent := Nat.two_pow_pos _
  rw [boundaries_above]
  rw [magnitude_eq x] at larger ⊢
  suffices next : (x.coefficient + 1) * 2 ^ x.exponent ≤ y.magnitude by
    rw [Nat.add_one_mul] at next
    omega
  rcases y.dvd_magnitude_or_lt x.exponent with ⟨whole, multiple⟩ | ⟨finer, small⟩
  · rw [multiple, Nat.mul_comm (2 ^ _)] at larger ⊢
    exact Nat.mul_le_mul_right _ (Nat.lt_of_mul_lt_mul_right larger)
  · have full := x.canonical.2.2.resolve_right (Nat.ne_zero_of_lt finer)
    have large := Nat.mul_le_mul_right (2 ^ x.exponent) full
    omega

/-- A smaller magnitude is at least twice the lower boundary away. -/
private theorem below_le {x y : Binary64} (smaller : y.magnitude < x.magnitude) :
    2 * y.magnitude + x.boundaries.below ≤ 2 * x.magnitude := by
  have unit : 0 < 2 ^ x.exponent := Nat.two_pow_pos _
  have most := x.boundaries_below_le
  rcases y.dvd_magnitude_or_lt x.exponent with ⟨whole, multiple⟩ | ⟨finer, small⟩
  · rw [magnitude_eq x, multiple, Nat.mul_comm (2 ^ _)] at smaller ⊢
    have next := Nat.mul_le_mul_right (2 ^ x.exponent) (Nat.lt_of_mul_lt_mul_right smaller)
    rw [Nat.succ_mul] at next
    omega
  · have full := x.canonical.2.2.resolve_right (Nat.ne_zero_of_lt finer)
    rcases full.eq_or_lt with least | more
    · -- below a power of two the grid is twice as fine
      obtain ⟨exponent, same⟩ := Nat.exists_eq_succ_of_ne_zero (Nat.ne_zero_of_lt finer)
      have doubled : x.magnitude = 2 * fullPrecision * 2 ^ exponent := by
        rw [magnitude_eq, ← least, same, Nat.pow_succ]
        ring
      rw [boundaries_below, if_pos ⟨least.symm, Nat.ne_zero_of_lt finer⟩, same, Nat.pow_succ]
      rw [doubled] at smaller ⊢
      have half : 0 < 2 ^ exponent := Nat.two_pow_pos _
      rcases y.dvd_magnitude_or_lt exponent with ⟨whole, multiple⟩ | ⟨_, tiny⟩
      · rw [multiple, Nat.mul_comm (2 ^ _)] at smaller ⊢
        have next := Nat.mul_le_mul_right (2 ^ exponent) (Nat.lt_of_mul_lt_mul_right smaller)
        rw [Nat.succ_mul] at next
        omega
      · simp only [fullPrecision] at tiny ⊢
        omega
    · have next := Nat.mul_le_mul_right (2 ^ x.exponent) more
      rw [Nat.succ_mul] at next
      rw [magnitude_eq x]
      omega

/-- The number, counted in units, is between the boundaries; on them only if the coefficient is
even. -/
structure Covers (x : Binary64) (units : ℚ) : Prop where
  below : 4 * (x.magnitude - units) ≤ x.boundaries.below
  above : 4 * (units - x.magnitude) ≤ x.boundaries.above
  even (edge : 4 * (x.magnitude - units) = x.boundaries.below ∨
    4 * (units - x.magnitude) = x.boundaries.above) : Even x.coefficient

theorem Covers.closest {x other : Binary64} {units : ℚ} (covers : x.Covers units)
    (different : other.magnitude ≠ x.magnitude) :
    |(x.magnitude - units : ℚ)| ≤ |(other.magnitude - units : ℚ)| ∧
      (|(other.magnitude - units : ℚ)| = |(x.magnitude - units : ℚ)| → Even x.coefficient) := by
  obtain ⟨below, above, even⟩ := covers
  rcases Nat.lt_or_gt_of_ne different with smaller | larger
  · have apart : 2 * (other.magnitude : ℚ) + x.boundaries.below ≤ 2 * x.magnitude := by
      exact_mod_cast below_le smaller
    have less : (other.magnitude : ℚ) < x.magnitude := by exact_mod_cast smaller
    rcases abs_cases (x.magnitude - units : ℚ) with ⟨near, _⟩ | ⟨near, _⟩ <;>
    rcases abs_cases (other.magnitude - units : ℚ) with ⟨far, _⟩ | ⟨far, _⟩ <;>
    rw [near, far] <;>
    exact ⟨by linarith, fun same => even (.inl (by linarith))⟩
  · have apart : 2 * (x.magnitude : ℚ) + x.boundaries.above ≤ 2 * other.magnitude := by
      exact_mod_cast above_le larger
    have more : (x.magnitude : ℚ) < other.magnitude := by exact_mod_cast larger
    rcases abs_cases (x.magnitude - units : ℚ) with ⟨near, _⟩ | ⟨near, _⟩ <;>
    rcases abs_cases (other.magnitude - units : ℚ) with ⟨far, _⟩ | ⟨far, _⟩ <;>
    rw [near, far] <;>
    exact ⟨by linarith, fun same => even (.inr (by linarith))⟩

/-- A number that a double covers is rounded to it. -/
theorem Covers.nearest {x : Binary64} {size : ℚ} (nonneg : 0 ≤ size)
    (covers : x.Covers (size * 2 ^ unitBits)) : x.Nearest (if x.negative then -size else size) := by
  have unit : (0 : ℚ) < 2 ^ unitBits := by positivity
  have distance (y : Binary64) :
      |(|y.value| - size)| = |(y.magnitude - size * 2 ^ unitBits : ℚ)| / 2 ^ unitBits := by
    rw [abs_value, ← abs_of_pos unit, ← abs_div, abs_of_pos unit, sub_div,
      mul_div_cancel_right₀ _ unit.ne']
  refine nearest_of_magnitudes nonneg fun other different => ?_
  rw [distance, distance, div_le_div_iff_of_pos_right unit, div_left_inj' unit.ne']
  exact covers.closest different

/-- The exponent of the largest doubles. -/
def topExponent : Nat := 2045

/-- Nothing below the middle between the largest double and the next power of two is too large. -/
private theorem exists_ofRatio?_of_lt {numerator denominator : Nat} (negative : Bool)
    (positive : 0 < denominator)
    (small : 2 * (numerator * 2 ^ unitBits) <
      (2 * coefficientLimit - 1) * (denominator * 2 ^ topExponent)) :
    ∃ x, ofRatio? negative numerator denominator = some x := by
  have exponent : ratioExponent numerator denominator ≤ topExponent := by
    have bits : coefficientLimit * 2 ^ topExponent = 2 ^ (53 + topExponent) := by
      rw [Nat.pow_add]
    have bounded : numerator <<< unitBits / denominator < 2 ^ (53 + topExponent) := by
      rw [Nat.shiftLeft_eq, Nat.div_lt_iff_lt_mul positive, ← bits, Nat.mul_assoc,
        Nat.mul_comm _ denominator]
      simp only [coefficientLimit] at small ⊢
      omega
    have fine := exponentFor_le_of_lt bounded
    rwa [Nat.add_sub_cancel_left] at fine
  rcases exponent.lt_or_eq with finer | coarsest
  · exact exists_ofRatio? negative positive (Nat.le_of_lt_succ finer)
  · refine exists_ofRatio?_of_ne negative positive (fun carried => ?_) exponent
    -- one less would be nearer
    have divisor := shiftLeft_pos positive topExponent
    rw [ratioCoefficient, coarsest] at carried
    have other : ((coefficientLimit - 1 : ℕ) : ℤ) ≠
        roundQuotient (numerator <<< unitBits) (denominator <<< topExponent) := by
      rw [carried]
      decide
    have closest := (roundQuotient_closest divisor (numerator <<< unitBits) other).1
    rw [carried] at closest
    simp only [Nat.shiftLeft_eq] at closest divisor
    generalize numerator * 2 ^ unitBits = ratio at *
    generalize denominator * 2 ^ topExponent = unit at *
    simp only [coefficientLimit, Int.abs_eq_natAbs] at *
    omega

theorem Covers.lt_limit {x : Binary64} {units : ℚ} (covers : x.Covers units) :
    2 * units < ((2 * coefficientLimit - 1 : ℕ) : ℚ) * 2 ^ topExponent := by
  obtain ⟨below, above, even⟩ := covers
  obtain ⟨bounded, exponent, _⟩ := x.canonical
  have magnitude : (x.magnitude : ℚ) = x.coefficient * 2 ^ x.exponent := by
    exact_mod_cast x.magnitude_eq
  have edge : (x.boundaries.above : ℚ) = 2 * 2 ^ x.exponent := by
    exact_mod_cast x.boundaries_above
  have unit : (0 : ℚ) < 2 ^ x.exponent := by positivity
  rw [edge] at above even
  suffices within : 2 * units < ((2 * coefficientLimit - 1 : ℕ) : ℚ) * 2 ^ x.exponent by
    have coarser : (2 : ℚ) ^ x.exponent ≤ 2 ^ topExponent :=
      pow_le_pow_right₀ (by norm_num) exponent
    exact within.trans_le (mul_le_mul_of_nonneg_left coarser (Nat.cast_nonneg _))
  rcases (Nat.le_sub_one_of_lt bounded).lt_or_eq with fewer | last
  · have next : ((x.coefficient + 1 : ℕ) : ℚ) ≤ (coefficientLimit - 1 : ℕ) := by
      exact_mod_cast fewer
    have scaled := mul_le_mul_of_nonneg_right next unit.le
    push_cast [coefficientLimit] at scaled ⊢
    linarith
  · -- the last coefficient is odd, so its upper boundary is not in its interval
    have odd : ¬ Even x.coefficient := by
      rw [last]
      decide
    have strict := lt_of_le_of_ne above fun edge => odd (even (.inr edge))
    rw [magnitude, last] at strict
    push_cast [coefficientLimit] at strict ⊢
    linarith

theorem Covers.pos {x : Binary64} {units : ℚ} (covers : x.Covers units)
    (nonzero : x.isZero = false) : 1 ≤ 2 * units := by
  have least : (x.boundaries.below : ℚ) ≤ 2 * 2 ^ x.exponent := by
    exact_mod_cast x.boundaries_below_le
  have magnitude : (x.magnitude : ℚ) = x.coefficient * 2 ^ x.exponent := by
    exact_mod_cast x.magnitude_eq
  have coefficient : (1 : ℚ) ≤ x.coefficient := by
    exact_mod_cast Nat.one_le_iff_ne_zero.mpr (by simpa [isZero] using nonzero)
  have unit : (1 : ℚ) ≤ 2 ^ x.exponent := one_le_pow₀ (by norm_num)
  have larger := le_mul_of_one_le_left (zero_le_one.trans unit) coefficient
  have below := covers.below
  linarith

/-- A number with a digit at this power of ten is too large for a double. -/
private theorem Covers.lt_decimalLimit {x : Binary64} {digits : Nat} {exponent : Int}
    (positive : digits ≠ 0) (covers : x.Covers (digits * 10 ^ exponent * 2 ^ unitBits)) :
    exponent < decimalLimit := by
  by_contra beyond
  have limit :
      ((2 * coefficientLimit - 1 : ℕ) : ℚ) * 2 ^ topExponent ≤ 10 ^ 310 * 2 ^ unitBits := by
    have bits : (2 * coefficientLimit - 1) * 2 ^ topExponent ≤ 10 ^ 310 * 2 ^ unitBits := by
      decide +kernel
    exact_mod_cast bits
  have least : (10 : ℚ) ^ 310 ≤ digits * 10 ^ exponent := by
    have first : (1 : ℚ) ≤ digits := by exact_mod_cast Nat.one_le_iff_ne_zero.mpr positive
    have power : (10 : ℚ) ^ (310 : ℤ) ≤ 10 ^ exponent :=
      zpow_le_zpow_right₀ (by norm_num) (not_lt.mp beyond)
    exact power.trans (le_mul_of_one_le_left (by positivity) first)
  have unit : (0 : ℚ) < 2 ^ unitBits := by positivity
  have scaled := limit.trans (mul_le_mul_of_nonneg_right least unit.le)
  have positive : (0 : ℚ) ≤ digits * 10 ^ exponent * 2 ^ unitBits := by positivity
  have small := covers.lt_limit
  linarith only [scaled, positive, small]

/-- A number with all its digits below this power of ten is less than half a unit. -/
private theorem tiny_of_lt_decimalFloor {digits count : Nat} {exponent : Int}
    (short : digits < 10 ^ count) (below : exponent + count < decimalFloor) :
    2 * (digits * 10 ^ exponent * 2 ^ unitBits : ℚ) < 1 := by
  have floor : (2 : ℚ) * 2 ^ unitBits ≤ 10 ^ 330 := by
    have bits : 2 * 2 ^ unitBits ≤ 10 ^ 330 := by decide +kernel
    exact_mod_cast bits
  have digits_lt : (digits : ℚ) * 10 ^ exponent < 10 ^ decimalFloor := by
    have short : (digits : ℚ) < 10 ^ (count : ℤ) := by exact_mod_cast short
    calc (digits : ℚ) * 10 ^ exponent
        < 10 ^ (count : ℤ) * 10 ^ exponent := mul_lt_mul_of_pos_right short (by positivity)
      _ = 10 ^ (exponent + count) := by rw [← zpow_add₀ (by norm_num), add_comm]
      _ ≤ 10 ^ decimalFloor := zpow_le_zpow_right₀ (by norm_num) below.le
  have unit : (0 : ℚ) < 2 * 2 ^ unitBits := by positivity
  have tiny : (10 : ℚ) ^ decimalFloor * (2 * 2 ^ unitBits) ≤ 1 := by
    rw [decimalFloor, zpow_neg, inv_mul_le_one₀ (by positivity)]
    exact floor
  have scaled := mul_lt_mul_of_pos_right digits_lt unit
  linarith only [scaled, tiny]

private theorem Covers.decimalFloor_le {x : Binary64} (nonzero : x.isZero = false)
    {digits count : Nat} {exponent : Int} (short : digits < 10 ^ count)
    (covers : x.Covers (digits * 10 ^ exponent * 2 ^ unitBits)) :
    decimalFloor ≤ exponent + count := by
  by_contra below
  have least := covers.pos nonzero
  have tiny := tiny_of_lt_decimalFloor short (not_le.mp below)
  linarith only [least, tiny]

theorem eq_of_magnitude {x y : Binary64} (signs : x.negative = y.negative)
    (magnitudes : x.magnitude = y.magnitude) : x = y := by
  obtain ⟨coefficients, exponents⟩ := magnitude_injective magnitudes
  cases x
  cases y
  congr

/-- A ratio is read as the double that covers it. -/
theorem Covers.ofRatio? {x : Binary64} {numerator denominator : Nat} (positive : 0 < denominator)
    (covers : x.Covers (numerator / denominator * 2 ^ unitBits)) :
    ofRatio? x.negative numerator denominator = some x := by
  have size : (0 : ℚ) ≤ numerator / denominator := by positivity
  have scale : (0 : ℚ) < denominator := by exact_mod_cast positive
  have small : 2 * (numerator * 2 ^ unitBits) <
      (2 * coefficientLimit - 1) * (denominator * 2 ^ topExponent) := by
    have bounded := mul_lt_mul_of_pos_right covers.lt_limit scale
    rw [div_mul_eq_mul_div, ← mul_div_assoc, div_mul_cancel₀ _ scale.ne', mul_assoc,
      mul_comm _ (denominator : ℚ)] at bounded
    exact_mod_cast bounded
  obtain ⟨y, rounded⟩ := exists_ofRatio?_of_lt x.negative positive small
  have values := (nearest_of_ofRatio? positive rounded).value_eq (covers.nearest size)
  have magnitudes : y.magnitude = x.magnitude := by
    rw [← natAbs_units, ← natAbs_units, value_inj.mp values]
  rw [rounded, eq_of_magnitude (ofRatio?_eq_some rounded).1 magnitudes]

theorem pow_of_neg {exponent : Int} (negative : exponent < 0) :
    (10 : ℚ) ^ exponent = ((Nat.pow 10 exponent.natAbs : ℕ) : ℚ)⁻¹ := by
  rw [Nat.pow_eq, Nat.cast_pow, Nat.cast_ofNat, ← zpow_natCast, ← zpow_neg,
    Int.ofNat_natAbs_of_nonpos negative.le, neg_neg]

theorem pow_of_nonneg {exponent : Int} (nonneg : 0 ≤ exponent) :
    (10 : ℚ) ^ exponent = (Nat.pow 10 exponent.natAbs : ℕ) := by
  rw [Nat.pow_eq, Nat.cast_pow, Nat.cast_ofNat, ← zpow_natCast, Int.natAbs_of_nonneg nonneg]

/-- A decimal is read as the double that covers it, however its digits and its exponent are
divided up. -/
theorem ofDecimal?_eq_some {x : Binary64} (nonzero : x.isZero = false) {digits count : Nat}
    {exponent : Int} (short : digits < 10 ^ count)
    (covers : x.Covers (digits * 10 ^ exponent * 2 ^ unitBits)) :
    ofDecimal? x.negative digits count exponent = some x := by
  have positive : digits ≠ 0 := by
    rintro rfl
    have large := covers.pos nonzero
    norm_num at large
  rw [ofDecimal?, if_neg positive, if_neg (covers.lt_decimalLimit positive).not_gt,
    if_neg (covers.decimalFloor_le nonzero short).not_gt]
  split
  next negative =>
    refine Covers.ofRatio? (Nat.pow_pos (by decide)) ?_
    rwa [pow_of_neg negative, ← div_eq_mul_inv] at covers
  next nonneg =>
    refine Covers.ofRatio? Nat.one_pos ?_
    rwa [pow_of_nonneg (not_lt.mp nonneg), ← Nat.cast_mul, ← div_one (Nat.cast _),
      ← Nat.cast_one] at covers

section Rounded

variable {negative : Bool} {numerator denominator : Nat} {x : Binary64}

/-- Only a carry leaves the grid that the ratio is rounded on. -/
private theorem exponent_of_ofRatio? (rounded : ofRatio? negative numerator denominator = some x) :
    x.exponent = ratioExponent numerator denominator ∨
      x.exponent = ratioExponent numerator denominator + 1 ∧ Even x.coefficient := by
  simp only [ofRatio?] at rounded
  split at rounded <;> split at rounded <;> cases rounded
  · exact .inr ⟨rfl, fullPrecision / 2, rfl⟩
  · exact .inl rfl

private theorem half_step_of_ofRatio? (positive : 0 < denominator)
    (rounded : ofRatio? negative numerator denominator = some x) :
    2 * |(x.magnitude - numerator / denominator * 2 ^ unitBits : ℚ)| ≤
        2 ^ ratioExponent numerator denominator ∧
      (2 * |(x.magnitude - numerator / denominator * 2 ^ unitBits : ℚ)| =
        2 ^ ratioExponent numerator denominator → Even x.coefficient) := by
  obtain ⟨_, magnitude, even⟩ := ofRatio?_eq_some rounded
  have scale : (0 : ℚ) < denominator := by exact_mod_cast positive
  obtain ⟨error, tie⟩ := roundQuotient_error
    (shiftLeft_pos positive (ratioExponent numerator denominator)) (numerator <<< unitBits)
  rw [← ratioCoefficient.eq_1] at error tie
  have distance : |(x.magnitude - numerator / denominator * 2 ^ unitBits : ℚ)| * denominator =
      |(ratioCoefficient numerator denominator *
        (denominator <<< ratioExponent numerator denominator : ℕ) -
          (numerator <<< unitBits : ℕ) : ℤ)| := by
    rw [← abs_of_pos scale, ← abs_mul, abs_of_pos scale, sub_mul, div_mul_eq_mul_div,
      div_mul_cancel₀ _ scale.ne', magnitude, Nat.shiftLeft_eq, Nat.shiftLeft_eq]
    push_cast
    ring_nf
  generalize |(ratioCoefficient numerator denominator *
    (denominator <<< ratioExponent numerator denominator : ℕ) - (numerator <<< unitBits : ℕ) : ℤ)| =
    gap at *
  have step : ((denominator <<< ratioExponent numerator denominator : ℕ) : ℚ) =
      2 ^ ratioExponent numerator denominator * denominator := by
    rw [Nat.shiftLeft_eq]
    push_cast
    ring
  generalize denominator <<< ratioExponent numerator denominator = unit at *
  constructor
  · refine le_of_mul_le_mul_right ?_ scale
    rw [mul_assoc, distance, ← step]
    exact_mod_cast error
  · intro edge
    refine even (tie ?_)
    have scaled := congrArg (· * (denominator : ℚ)) edge
    simp only [mul_assoc, distance, ← step] at scaled
    exact_mod_cast scaled

/-- A rounded ratio is at most half a step of its grid from the double, and not below a power of
two, where the next grid is finer. -/
theorem covers_of_ofRatio? (positive : 0 < denominator)
    (rounded : ofRatio? negative numerator denominator = some x) :
    x.Covers (numerator / denominator * 2 ^ unitBits) := by
  obtain ⟨half, even⟩ := half_step_of_ofRatio? positive rounded
  have above : (x.boundaries.above : ℚ) = 2 * 2 ^ x.exponent := by
    exact_mod_cast x.boundaries_above
  have unit : (0 : ℚ) < 2 ^ ratioExponent numerator denominator := by positivity
  have least := le_abs_self (x.magnitude - numerator / denominator * 2 ^ unitBits : ℚ)
  have most := neg_le_abs (x.magnitude - numerator / denominator * 2 ^ unitBits : ℚ)
  rcases exponent_of_ofRatio? rounded with exponent | ⟨exponent, parity⟩
  · rw [← exponent] at half even unit
    by_cases finer : x.coefficient = fullPrecision ∧ x.exponent ≠ 0
    · have reached : (x.magnitude : ℚ) ≤ numerator / denominator * 2 ^ unitBits := by
        have scale : (0 : ℚ) < denominator := by exact_mod_cast positive
        have ratio : fullPrecision * (denominator <<< ratioExponent numerator denominator) ≤
            numerator <<< unitBits := le_ratio positive (exponent ▸ finer.2)
        rw [← exponent, ← finer.1, Nat.shiftLeft_eq, Nat.shiftLeft_eq, Nat.mul_left_comm,
          ← magnitude_eq] at ratio
        rw [div_mul_eq_mul_div, le_div_iff₀ scale, mul_comm]
        exact_mod_cast ratio
      have parity : Even x.coefficient := finer.1 ▸ ⟨fullPrecision / 2, rfl⟩
      have room : (0 : ℚ) ≤ x.boundaries.below := Nat.cast_nonneg _
      exact ⟨by linarith, by linarith, fun _ => parity⟩
    · have below : (x.boundaries.below : ℚ) = 2 * 2 ^ x.exponent := by
        rw [boundaries_below, if_neg finer]
        push_cast
        ring
      refine ⟨by linarith, by linarith, ?_⟩
      rintro (edge | edge) <;> exact even (le_antisymm half (by linarith))
  · have wide : (2 : ℚ) ^ x.exponent = 2 * 2 ^ ratioExponent numerator denominator := by
      rw [exponent, pow_succ']
    have below : (2 : ℚ) ^ x.exponent ≤ x.boundaries.below := by
      exact_mod_cast x.le_boundaries_below
    exact ⟨by linarith, by linarith, fun _ => parity⟩

end Rounded

/-- Nothing else is read as the double. -/
theorem covers_of_ofDecimal? {x : Binary64} (nonzero : x.isZero = false) {negative : Bool}
    {digits count : Nat} {exponent : Int}
    (read : ofDecimal? negative digits count exponent = some x) :
    x.Covers (digits * 10 ^ exponent * 2 ^ unitBits) := by
  rw [ofDecimal?] at read
  split at read
  next =>
    cases read
    cases nonzero
  split at read
  next => cases read
  split at read
  next =>
    cases read
    cases nonzero
  split at read
  next negative =>
    have covers := covers_of_ofRatio? (Nat.pow_pos (by decide)) read
    rwa [pow_of_neg negative, ← div_eq_mul_inv]
  next nonneg =>
    have covers := covers_of_ofRatio? Nat.one_pos read
    rwa [pow_of_nonneg (not_lt.mp nonneg), ← Nat.cast_mul, ← div_one (Nat.cast _),
      ← Nat.cast_one]

theorem covers_zero (negative : Bool) {units : ℚ} (nonneg : 0 ≤ units) (small : 2 * units < 1) :
    { zero with negative }.Covers units where
  below := by
    have none : ({ zero with negative } : Binary64).magnitude = 0 := rfl
    have room : (0 : ℚ) ≤ ({ zero with negative } : Binary64).boundaries.below := Nat.cast_nonneg _
    rw [none, Nat.cast_zero]
    linarith
  above := by
    have none : ({ zero with negative } : Binary64).magnitude = 0 := rfl
    have room : ({ zero with negative } : Binary64).boundaries.above = 2 := rfl
    rw [none, room, Nat.cast_zero, Nat.cast_ofNat]
    linarith
  even _ := Even.zero

/-- Decimals are rounded to the nearest double. -/
theorem nearest_of_ofDecimal? {x : Binary64} {negative : Bool} {digits count : Nat}
    {exponent : Int} (short : digits < 10 ^ count)
    (read : ofDecimal? negative digits count exponent = some x) :
    x.Nearest (if negative then -(digits * 10 ^ exponent) else digits * 10 ^ exponent) := by
  have nonneg : (0 : ℚ) ≤ digits * 10 ^ exponent := by positivity
  have tiny (small : 2 * (digits * 10 ^ exponent * 2 ^ unitBits : ℚ) < 1) :
      ({ zero with negative } : Binary64).Nearest
        (if negative then -(digits * 10 ^ exponent) else digits * 10 ^ exponent) :=
    (covers_zero negative (by positivity) small).nearest nonneg
  rw [ofDecimal?] at read
  split at read
  next none =>
    cases read
    apply tiny
    rw [none]
    norm_num
  split at read
  next => cases read
  split at read
  next below =>
    cases read
    exact tiny (tiny_of_lt_decimalFloor short below)
  split at read
  next small =>
    have nearest := nearest_of_ofRatio? (Nat.pow_pos (by decide)) read
    rwa [pow_of_neg small, ← div_eq_mul_inv]
  next large =>
    have nearest := nearest_of_ofRatio? Nat.one_pos read
    rwa [pow_of_nonneg (not_lt.mp large), ← Nat.cast_mul, ← div_one (Nat.cast _), ← Nat.cast_one]

end SchemaCheck.Binary64
