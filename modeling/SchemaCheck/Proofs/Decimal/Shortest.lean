import Mathlib
import SchemaCheck.Proofs.Decimal.Interval

/-! The shortest decimal of a double is in its rounding interval: the search for it ends within
seventeen digits, on a grid that is finer than the interval is wide. -/
namespace SchemaCheck

/-- The number that a decimal is. -/
def Decimal.value (d : Decimal) : ℚ := d.coefficient * 10 ^ d.exponent

theorem lt_pow_digitCount (n : Nat) : n < 10 ^ digitCount n := by
  fun_induction digitCount n with
  | case1 n single => exact single
  | case2 n more ih =>
    rw [Nat.pow_succ]
    omega

theorem pow_digitCount_le {n : Nat} (positive : 0 < n) : 10 ^ (digitCount n - 1) ≤ n := by
  fun_induction digitCount n with
  | case1 n single => exact positive
  | case2 n more ih =>
    have first := ih (by omega)
    have counted : digitCount (n / 10) ≠ 0 := by
      rw [digitCount]
      split <;> omega
    rw [Nat.add_sub_cancel, ← Nat.succ_pred_eq_of_ne_zero counted, Nat.pow_succ,
      Nat.pred_eq_sub_one]
    omega

private theorem pow_leadingPower_le {numerator denominator : Nat} (first : 0 < numerator)
    (second : 0 < denominator) :
    (10 : ℚ) ^ leadingPower numerator denominator ≤ numerator / denominator := by
  have scale : (0 : ℚ) < denominator := by exact_mod_cast second
  rw [leadingPower]
  split
  next large =>
    have quotient : 0 < numerator / denominator := Nat.div_pos large second
    have counted : 1 ≤ digitCount (numerator / denominator) := by
      rw [digitCount]
      split <;> omega
    rw [← Nat.cast_one, ← Nat.cast_sub counted, zpow_natCast, le_div_iff₀ scale]
    exact_mod_cast (Nat.le_div_iff_mul_le second).mp (pow_digitCount_le quotient)
  next small =>
    have below := lt_pow_digitCount ((denominator + numerator - 1) / numerator - 1)
    have ceiling : denominator ≤ (denominator + numerator - 1) / numerator * numerator := by
      have rest := Nat.div_add_mod' (denominator + numerator - 1) numerator
      have := Nat.mod_lt (denominator + numerator - 1) first
      omega
    have factor : denominator ≤
        10 ^ digitCount ((denominator + numerator - 1) / numerator - 1) * numerator := by
      refine ceiling.trans (Nat.mul_le_mul_right _ ?_)
      omega
    have size : (0 : ℚ) < numerator := by exact_mod_cast first
    rw [zpow_neg, zpow_natCast, inv_le_comm₀ (by positivity) (div_pos size scale), inv_div,
      div_le_iff₀ size]
    exact_mod_cast factor

namespace Binary64

/-- The grid, scaled with the magnitude to whole numbers. -/
def gridScale (power : Int) : Nat := if power < 0 then Nat.pow 10 power.natAbs else 1

/-- The distance of two points of the scaled grid. -/
def gridStep (power : Int) : Nat :=
  if power < 0 then 4 <<< unitBits else (4 * Nat.pow 10 power.natAbs) <<< unitBits

theorem gridScale_pos (power : Int) : 0 < gridScale power := by
  rw [gridScale]
  split
  · exact Nat.pow_pos (by decide)
  · exact Nat.one_pos

theorem gridStep_pos (power : Int) : 0 < gridStep power := by
  rw [gridStep]
  split <;> rw [Nat.shiftLeft_eq]
  · exact Nat.mul_pos (by decide) (Nat.two_pow_pos _)
  · exact Nat.mul_pos (Nat.mul_pos (by decide) (Nat.pow_pos (by decide))) (Nat.two_pow_pos _)

theorem boundaries_centre (x : Binary64) : x.boundaries.centre = 4 * x.magnitude :=
  (Nat.shiftLeft_eq ..).trans (Nat.mul_comm ..)

theorem inclusive_iff {x : Binary64} : x.boundaries.inclusive = true ↔ Even x.coefficient := by
  rw [Nat.even_iff]
  exact beq_iff_eq

private theorem boundaries_below_pos (x : Binary64) : 0 < x.boundaries.below :=
  (Nat.two_pow_pos _).trans_le x.le_boundaries_below

private theorem boundaries_above_pos (x : Binary64) : 0 < x.boundaries.above := by
  rw [boundaries_above]
  exact Nat.mul_pos (by decide) (Nat.two_pow_pos _)

private theorem boundaries_below_le_above (x : Binary64) :
    x.boundaries.below ≤ x.boundaries.above := by
  rw [boundaries_above]
  exact x.boundaries_below_le

theorem gridStep_eq (power : Int) :
    (gridStep power : ℚ) = 4 * (10 ^ power * 2 ^ unitBits) * gridScale power := by
  rw [gridStep, gridScale]
  split
  next negative =>
    have scale : (10 : ℚ) ^ power * (10 : ℚ) ^ power.natAbs = 1 := by
      rw [← zpow_natCast, Int.ofNat_natAbs_of_nonpos negative.le, ← zpow_add₀ (by norm_num),
        add_neg_cancel, zpow_zero]
    rw [Nat.shiftLeft_eq]
    push_cast [Nat.pow_eq]
    linear_combination (-4 * 2 ^ unitBits : ℚ) * scale
  next nonneg =>
    have scale : (10 : ℚ) ^ power = (10 : ℚ) ^ power.natAbs := by
      rw [← zpow_natCast, Int.natAbs_of_nonneg (not_lt.mp nonneg)]
    rw [Nat.shiftLeft_eq, scale]
    push_cast [Nat.pow_eq]
    ring

/-- A distance is kept within its limit by the test on the scaled grid. -/
theorem within_of_scaled {distance : ℚ} {scale slack limit : Nat} {inclusive : Prop}
    (positive : 0 < scale) (scaled : distance * scale = slack)
    (within : slack < limit * scale ∨ inclusive ∧ slack = limit * scale) :
    0 ≤ distance ∧ distance ≤ limit ∧ (distance = limit → inclusive) := by
  have positive : (0 : ℚ) < scale := by exact_mod_cast positive
  have bounded : (slack : ℚ) ≤ limit * scale := by
    exact_mod_cast within.elim le_of_lt fun edge => edge.2.le
  refine ⟨?_, le_of_mul_le_mul_right (scaled.trans_le bounded) positive, fun edge => ?_⟩
  · refine le_of_mul_le_mul_right ?_ positive
    rw [zero_mul, scaled]
    exact Nat.cast_nonneg _
  · rw [edge] at scaled
    have exact : limit * scale = slack := by exact_mod_cast scaled
    exact (within.resolve_left exact.not_gt).1

theorem onGrid?_eq_some {x : Binary64} {tie : Tie} {power : Int} {d : Decimal}
    (found : x.onGrid? tie power = some d) :
    0 < d.coefficient ∧ x.Covers (d.value * 2 ^ unitBits) := by
  have whole := Nat.div_add_mod' (x.boundaries.centre * gridScale power) (gridStep power)
  have rest := Nat.mod_lt (x.boundaries.centre * gridScale power) (gridStep_pos power)
  have position (c : ℕ) : 4 * ((⟨c, power⟩ : Decimal).value * 2 ^ unitBits) * gridScale power =
      c * gridStep power := by
    rw [gridStep_eq, Decimal.value]
    ring
  simp only [onGrid?, ← gridStep.eq_1, ← gridScale.eq_1] at found
  rw [boundaries_centre] at *
  generalize 4 * x.magnitude * gridScale power / gridStep power = down at *
  generalize 4 * x.magnitude * gridScale power % gridStep power = slack at *
  have centre : 4 * (x.magnitude : ℚ) * gridScale power = down * gridStep power + slack := by
    exact_mod_cast whole.symm
  split at found
  next below =>
    cases found
    simp only [Bool.and_eq_true, bne_iff_ne, Bool.or_eq_true, decide_eq_true_eq, beq_iff_eq,
      inclusive_iff] at below
    have distance : 4 * (x.magnitude - (⟨down, power⟩ : Decimal).value * 2 ^ unitBits) *
        gridScale power = slack := by
      rw [mul_sub, sub_mul, position, centre, add_sub_cancel_left]
    obtain ⟨before, limit, edge⟩ := within_of_scaled (gridScale_pos power) distance below.1.2
    have room : (0 : ℚ) < x.boundaries.above := by exact_mod_cast x.boundaries_above_pos
    refine ⟨Nat.pos_of_ne_zero below.1.1, limit, by linarith, ?_⟩
    rintro (exact | beyond)
    · exact edge exact
    · linarith
  next =>
    split at found <;> cases found
    next above =>
      simp only [Bool.and_eq_true, Bool.or_eq_true, decide_eq_true_eq, beq_iff_eq,
        inclusive_iff] at above
      have distance : 4 * ((⟨down + 1, power⟩ : Decimal).value * 2 ^ unitBits - x.magnitude) *
          gridScale power = (gridStep power - slack : ℕ) := by
        rw [mul_sub, sub_mul, position, centre, Nat.cast_sub rest.le]
        push_cast
        ring
      obtain ⟨before, limit, edge⟩ := within_of_scaled (gridScale_pos power) distance above
      have room : (0 : ℚ) < x.boundaries.below := by exact_mod_cast x.boundaries_below_pos
      refine ⟨Nat.succ_pos _, by linarith, limit, ?_⟩
      rintro (beyond | exact)
      · linarith
      · exact edge exact

private theorem exists_onGrid? {x : Binary64} (tie : Tie) {power : Int}
    (reaches : gridStep power ≤ 4 * x.magnitude * gridScale power)
    (fine : gridStep power < 2 * (x.boundaries.below * gridScale power)) :
    ∃ d, x.onGrid? tie power = some d := by
  have order := Nat.mul_le_mul_right (gridScale power) x.boundaries_below_le_above
  have first : 4 * x.magnitude * gridScale power / gridStep power ≠ 0 :=
    (Nat.div_pos reaches (gridStep_pos power)).ne'
  simp only [onGrid?, ← gridStep.eq_1, ← gridScale.eq_1, boundaries_centre]
  split
  next => exact ⟨_, rfl⟩
  next neither =>
    refine ⟨_, if_pos ?_⟩
    -- too far from both neighbours on the grid, they would be further apart than its step
    by_contra above
    have near : ¬ 4 * x.magnitude * gridScale power % gridStep power <
        x.boundaries.below * gridScale power := fun near => neither (by simp [first, near, above])
    simp only [Bool.or_eq_true, decide_eq_true_eq, not_or] at above
    omega

/-- The search stops at the first grid with a decimal. -/
theorem searchGrid_found {x : Binary64} {tie : Tie} {fuel tries : Nat} {power : Int}
    (enough : tries < fuel) (found : ∃ d, x.onGrid? tie (power - tries) = some d) :
    ∃ passed : ℕ, passed ≤ tries ∧
      x.onGrid? tie (power - passed) = some (x.searchGrid tie fuel power) ∧
      ∀ earlier : ℕ, earlier < passed → x.onGrid? tie (power - earlier) = none := by
  induction fuel generalizing power tries with
  | zero => omega
  | succ fuel ih =>
    rw [searchGrid]
    cases here : x.onGrid? tie power with
    | some d => exact ⟨0, Nat.zero_le _, by simpa using here, nofun⟩
    | none =>
      cases tries with
      | zero => simp [here] at found
      | succ tries =>
        have further (steps : ℕ) : power - (steps + 1 : ℕ) = power - 1 - steps := by
          rw [Nat.cast_succ, ← sub_sub, sub_right_comm]
        rw [further] at found
        obtain ⟨passed, few, found, missed⟩ := ih (Nat.lt_of_succ_lt_succ enough) found
        refine ⟨passed + 1, Nat.succ_le_succ few, ?_, fun earlier before => ?_⟩
        · rw [further]
          exact found
        · cases earlier with
          | zero => simpa using here
          | succ earlier =>
            rw [further]
            exact missed earlier (Nat.lt_of_succ_lt_succ before)

/-- Seventeen digits are finer than the interval is wide. -/
private theorem magnitude_lt (x : Binary64) : 2 * x.magnitude < x.boundaries.below * 10 ^ 16 := by
  have bounded := x.canonical.1
  have unit : 0 < 2 ^ x.exponent := Nat.two_pow_pos _
  rw [boundaries_below, magnitude_eq, ← Nat.mul_assoc, Nat.mul_right_comm _ (2 ^ x.exponent)]
  refine Nat.mul_lt_mul_of_pos_right ?_ unit
  simp only [coefficientLimit, fullPrecision] at bounded ⊢
  split <;> omega

theorem exists_found {x : Binary64} (nonzero : x.isZero = false) (tie : Tie) :
    ∃ d, x.onGrid? tie (leadingPower x.magnitude (1 <<< unitBits) - (16 : ℕ)) = some d := by
  have positive := magnitude_pos nonzero
  have unit : (0 : ℚ) < 2 ^ unitBits := by positivity
  have leading := pow_leadingPower_le positive (shiftLeft_pos Nat.one_pos unitBits)
  rw [Nat.shiftLeft_eq, Nat.one_mul, Nat.cast_pow, Nat.cast_ofNat, le_div_iff₀ unit] at leading
  rw [Nat.shiftLeft_eq, Nat.one_mul]
  generalize leadingPower x.magnitude (2 ^ unitBits) = power at *
  have finer : (10 : ℚ) ^ (power - (16 : ℕ)) * 2 ^ unitBits * 10 ^ 16 ≤ x.magnitude := by
    rw [zpow_sub₀ (by norm_num), zpow_natCast]
    field_simp
    exact leading
  have width : 2 * (x.magnitude : ℚ) < x.boundaries.below * 10 ^ 16 := by
    exact_mod_cast x.magnitude_lt
  generalize power - (16 : ℕ) = grid at *
  have scale : (0 : ℚ) < gridScale grid := by exact_mod_cast gridScale_pos grid
  have step := gridStep_eq grid
  have least : (0 : ℚ) < 10 ^ grid * 2 ^ unitBits := by positivity
  have reaches : (gridStep grid : ℚ) ≤ 4 * x.magnitude * gridScale grid := by
    have small : (4 * (10 ^ grid * 2 ^ unitBits) : ℚ) ≤ 4 * x.magnitude := by linarith
    exact step.trans_le (mul_le_mul_of_nonneg_right small scale.le)
  have fine : (gridStep grid : ℚ) < 2 * (x.boundaries.below * gridScale grid) := by
    have small : (4 * (10 ^ grid * 2 ^ unitBits) : ℚ) < 2 * x.boundaries.below := by linarith
    rw [← mul_assoc]
    exact step.trans_lt (mul_lt_mul_of_pos_right small scale)
  exact exists_onGrid? tie (by exact_mod_cast reaches) (by exact_mod_cast fine)

end Binary64

theorem Decimal.value_trim (fuel : Nat) (d : Decimal) : (d.trim fuel).value = d.value := by
  induction fuel generalizing d with
  | zero => rfl
  | succ fuel ih =>
    rw [trim]
    split
    next divides =>
      rw [beq_iff_eq] at divides
      have whole : ((d.coefficient / 10 : ℕ) : ℚ) * 10 = d.coefficient := by
        exact_mod_cast Nat.div_mul_cancel (Nat.dvd_of_mod_eq_zero divides)
      rw [ih, value, value, zpow_add_one₀ (by norm_num), ← whole]
      ring
    next => rfl

theorem Decimal.trim_pos (fuel : Nat) {d : Decimal} (positive : 0 < d.coefficient) :
    0 < (d.trim fuel).coefficient := by
  induction fuel generalizing d with
  | zero => exact positive
  | succ fuel ih =>
    rw [trim]
    split
    next divides =>
      refine ih ?_
      rw [beq_iff_eq] at divides
      exact Nat.div_pos (by omega) (by decide)
    next => exact positive

/-- The shortest decimal rounds to the double it is made for. -/
theorem Binary64.covers_shortest {x : Binary64} (nonzero : x.isZero = false) (tie : Tie) :
    0 < (x.shortest tie).coefficient ∧ x.Covers ((x.shortest tie).value * 2 ^ unitBits) := by
  obtain ⟨passed, _, found, _⟩ :=
    searchGrid_found (by decide : 16 < 18) (exists_found nonzero tie)
  obtain ⟨positive, covers⟩ := onGrid?_eq_some found
  rw [shortest, if_neg (Bool.eq_false_iff.mp nonzero)]
  exact ⟨Decimal.trim_pos 330 positive, by rwa [Decimal.value_trim]⟩

end SchemaCheck
