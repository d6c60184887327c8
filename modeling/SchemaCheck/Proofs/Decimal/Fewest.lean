import Mathlib
import SchemaCheck.Proofs.Decimal.Shortest

/-! No decimal in the rounding interval of a double has fewer digits than its shortest one. The
search passes over a grid only if no point of it, and so of no coarser one, is in the interval. -/
namespace SchemaCheck

theorem digitCount_pos (n : Nat) : 0 < digitCount n := by
  rw [digitCount]
  split <;> omega

theorem lt_digitCount_iff {n : Nat} (positive : 0 < n) {count : Nat} :
    count < digitCount n ↔ 10 ^ count ≤ n := by
  constructor
  · intro fewer
    exact (Nat.pow_le_pow_right (by decide) (Nat.le_sub_one_of_lt fewer)).trans
      (pow_digitCount_le positive)
  · intro reached
    exact (Nat.pow_lt_pow_iff_right (by decide)).mp (reached.trans_lt (lt_pow_digitCount n))

private theorem lt_pow_leadingPower_succ {numerator denominator : Nat} (first : 0 < numerator)
    (second : 0 < denominator) :
    (numerator / denominator : ℚ) < 10 ^ (leadingPower numerator denominator + 1) := by
  have scale : (0 : ℚ) < denominator := by exact_mod_cast second
  rw [leadingPower]
  split
  next large =>
    rw [sub_add_cancel, zpow_natCast, div_lt_iff₀ scale]
    exact_mod_cast (Nat.div_lt_iff_lt_mul second).mp (lt_pow_digitCount (numerator / denominator))
  next small =>
    have size : (0 : ℚ) < numerator := by exact_mod_cast first
    have rest := Nat.div_mul_le_self (denominator + numerator - 1) numerator
    have ceiling : 2 ≤ (denominator + numerator - 1) / numerator := by
      rw [Nat.le_div_iff_mul_le first]
      omega
    generalize (denominator + numerator - 1) / numerator = quotient at *
    have below : 10 ^ (digitCount (quotient - 1) - 1) * numerator < denominator := by
      have least := pow_digitCount_le (n := quotient - 1) (by omega)
      have scaled := Nat.mul_le_mul_right numerator least
      rw [Nat.sub_one_mul] at scaled
      have room := Nat.mul_le_mul_right numerator ceiling
      omega
    have counted := digitCount_pos (quotient - 1)
    generalize digitCount (quotient - 1) = count at *
    have power : (-count + 1 : ℤ) = -(count - 1 : ℕ) := by omega
    rw [power, zpow_neg, zpow_natCast, lt_inv_comm₀ (div_pos size scale) (by positivity), inv_div,
      lt_div_iff₀ size]
    exact_mod_cast below

namespace Decimal

theorem value_nonneg (d : Decimal) : 0 ≤ d.value := by
  rw [value]
  positivity

theorem trim_le (fuel : Nat) (d : Decimal) : (d.trim fuel).coefficient ≤ d.coefficient := by
  induction fuel generalizing d with
  | zero => exact le_rfl
  | succ fuel ih =>
    rw [trim]
    split
    next => exact (ih _).trans (Nat.div_le_self ..)
    next => exact le_rfl

/-- Enough steps leave no zero at the end. -/
private theorem trim_mod_ne_zero {fuel : Nat} {d : Decimal} (positive : 0 < d.coefficient)
    (enough : d.coefficient < 10 ^ fuel) : (d.trim fuel).coefficient % 10 ≠ 0 := by
  induction fuel generalizing d with
  | zero => omega
  | succ fuel ih =>
    rw [trim]
    split
    next divides =>
      rw [beq_iff_eq] at divides
      refine ih (Nat.div_pos (by omega) (by decide)) ?_
      rw [Nat.pow_succ] at enough
      exact (Nat.div_lt_iff_lt_mul (by decide)).mpr enough
    next more =>
      rwa [beq_iff_eq] at more

private theorem exists_finer {d : Decimal} {power : Int} (coarse : power ≤ d.exponent)
    (positive : 0 < d.coefficient) :
    ∃ c, 0 < c ∧ (⟨c, power⟩ : Decimal).value = d.value := by
  refine ⟨d.coefficient * 10 ^ (d.exponent - power).toNat,
    Nat.mul_pos positive (Nat.pow_pos (by decide)), ?_⟩
  have split : (10 : ℚ) ^ d.exponent = 10 ^ (d.exponent - power).toNat * 10 ^ power := by
    rw [← zpow_natCast, Int.toNat_of_nonneg (by omega), ← zpow_add₀ (by norm_num), sub_add_cancel]
  rw [value, value, split]
  push_cast
  ring

end Decimal

namespace Binary64

theorem Covers.between {x : Binary64} {low units high : ℚ} (first : x.Covers low)
    (last : x.Covers high) (above : low ≤ units) (below : units ≤ high) : x.Covers units where
  below := by
    have limit := first.below
    linarith
  above := by
    have limit := last.above
    linarith
  even := by
    rintro (edge | edge)
    · exact first.even (.inl (le_antisymm first.below (by linarith)))
    · exact last.even (.inr (le_antisymm last.above (by linarith)))

/-- The test on the scaled grid finds what is within the limit. -/
theorem scaled_within {distance : ℚ} {scale slack limit : Nat} {inclusive : Prop}
    (positive : 0 < scale) (scaled : (slack : ℚ) ≤ distance * scale) (within : distance ≤ limit)
    (edge : distance = limit → inclusive) :
    slack < limit * scale ∨ inclusive ∧ slack = limit * scale := by
  have positive : (0 : ℚ) < scale := by exact_mod_cast positive
  have bounded := scaled.trans (mul_le_mul_of_nonneg_right within positive.le)
  rcases bounded.lt_or_eq with less | exact
  · left
    exact_mod_cast less
  · refine .inr ⟨edge (le_antisymm within ?_), by exact_mod_cast exact⟩
    exact le_of_mul_le_mul_right (exact.symm.le.trans scaled) positive

/-- A grid without a hit has no point in the interval: one of the two neighbours would be nearer. -/
private theorem not_covers_of_missed {x : Binary64} {tie : Tie} {power : Int}
    (missed : x.onGrid? tie power = none) {c : Nat} (positive : 0 < c) :
    ¬ x.Covers ((⟨c, power⟩ : Decimal).value * 2 ^ unitBits) := by
  rintro ⟨below, above, even⟩
  have whole := Nat.div_add_mod' (4 * x.magnitude * gridScale power) (gridStep power)
  have rest := Nat.mod_lt (4 * x.magnitude * gridScale power) (gridStep_pos power)
  have position : 4 * ((⟨c, power⟩ : Decimal).value * 2 ^ unitBits) * gridScale power =
      c * gridStep power := by
    rw [gridStep_eq, Decimal.value]
    ring
  simp only [onGrid?, ← gridStep.eq_1, ← gridScale.eq_1, boundaries_centre] at missed
  generalize 4 * x.magnitude * gridScale power / gridStep power = down at *
  generalize 4 * x.magnitude * gridScale power % gridStep power = slack at *
  have centre : 4 * (x.magnitude : ℚ) * gridScale power = down * gridStep power + slack := by
    exact_mod_cast whole.symm
  have step : (0 : ℚ) < gridStep power := by exact_mod_cast gridStep_pos power
  split at missed
  next => cases missed
  next lower =>
    split at missed
    next => cases missed
    next upper =>
      rcases Nat.lt_or_ge down c with beyond | within
      · have next : ((down + 1 : ℕ) : ℚ) ≤ c := by exact_mod_cast beyond
        have scaled := mul_le_mul_of_nonneg_right next step.le
        have distance : ((gridStep power - slack : ℕ) : ℚ) ≤
            4 * ((⟨c, power⟩ : Decimal).value * 2 ^ unitBits - x.magnitude) * gridScale power := by
          rw [mul_sub, sub_mul, position, centre, Nat.cast_sub rest.le]
          push_cast at scaled
          linarith
        have reached := scaled_within (gridScale_pos power) distance above (even ∘ .inr)
        simp only [Bool.or_eq_true, decide_eq_true_eq, Bool.and_eq_true, inclusive_iff,
          beq_iff_eq] at upper
        exact upper reached
      · have last : (c : ℚ) ≤ down := by exact_mod_cast within
        have scaled := mul_le_mul_of_nonneg_right last step.le
        have distance : (slack : ℚ) ≤
            4 * (x.magnitude - (⟨c, power⟩ : Decimal).value * 2 ^ unitBits) * gridScale power := by
          rw [mul_sub, sub_mul, position, centre]
          linarith
        have reached := scaled_within (gridScale_pos power) distance below (even ∘ .inl)
        have nonzero : down ≠ 0 := by omega
        simp [nonzero, inclusive_iff, reached, upper] at lower

theorem Covers.exponent_lt {x : Binary64} {tie : Tie} {power : Int}
    (missed : x.onGrid? tie power = none) {d : Decimal} (positive : 0 < d.coefficient)
    (covers : x.Covers (d.value * 2 ^ unitBits)) : d.exponent < power := by
  by_contra coarse
  obtain ⟨c, finer, same⟩ := Decimal.exists_finer (not_lt.mp coarse) positive
  rw [← same] at covers
  exact not_covers_of_missed missed finer covers

/-- The lower neighbour has at most one digit for each grid that was tried. -/
private theorem neighbour_lt {x : Binary64} (nonzero : x.isZero = false) (passed : Nat) :
    4 * x.magnitude * gridScale (leadingPower x.magnitude (1 <<< unitBits) - passed) /
        gridStep (leadingPower x.magnitude (1 <<< unitBits) - passed) < 10 ^ (passed + 1) := by
  have unit : (0 : ℚ) < 2 ^ unitBits := by positivity
  have leading := lt_pow_leadingPower_succ (magnitude_pos nonzero)
    (shiftLeft_pos Nat.one_pos unitBits)
  rw [Nat.shiftLeft_eq, Nat.one_mul, Nat.cast_pow, Nat.cast_ofNat, div_lt_iff₀ unit] at leading
  rw [Nat.shiftLeft_eq, Nat.one_mul]
  generalize leadingPower x.magnitude (2 ^ unitBits) = power at *
  have place : power + 1 = power - passed + (passed + 1 : ℕ) := by omega
  rw [place, zpow_add₀ (by norm_num), zpow_natCast] at leading
  generalize power - (passed : ℤ) = grid at *
  have scale : (0 : ℚ) < gridScale grid := by exact_mod_cast gridScale_pos grid
  have size : (4 * x.magnitude * gridScale grid : ℚ) < 10 ^ (passed + 1) * gridStep grid := by
    have scaled := mul_lt_mul_of_pos_right leading scale
    rw [gridStep_eq]
    linarith
  rw [Nat.div_lt_iff_lt_mul (gridStep_pos grid)]
  exact_mod_cast size

private theorem onGrid?_coefficient_le {x : Binary64} (nonzero : x.isZero = false) {tie : Tie}
    {passed : Nat} {d : Decimal}
    (found : x.onGrid? tie (leadingPower x.magnitude (1 <<< unitBits) - passed) = some d) :
    d.exponent = leadingPower x.magnitude (1 <<< unitBits) - passed ∧
      d.coefficient ≤ 10 ^ (passed + 1) := by
  have few := neighbour_lt nonzero passed
  simp only [onGrid?, ← gridStep.eq_1, ← gridScale.eq_1, boundaries_centre] at found
  split at found
  · cases found
    exact ⟨rfl, few.le⟩
  · split at found <;> cases found
    exact ⟨rfl, few⟩

end Binary64

namespace Decimal

private theorem digitCount_trim_le (fuel : Nat) {d : Decimal} (positive : 0 < d.coefficient) :
    digitCount (d.trim fuel).coefficient ≤ digitCount d.coefficient := by
  by_contra more
  have reached := (lt_digitCount_iff (trim_pos fuel positive)).mp (not_le.mp more)
  exact absurd (lt_pow_digitCount d.coefficient) (not_lt.mpr (reached.trans (trim_le fuel d)))

/-- Between a decimal and one with more digits there is a power of ten. -/
private theorem exists_power_between {low high : Decimal} (finer : low.exponent ≤ high.exponent)
    (fewer : digitCount low.coefficient < digitCount high.coefficient)
    (positive : 0 < high.coefficient) :
    ∃ power : Decimal, 0 < power.coefficient ∧ power.exponent = high.exponent + 1 ∧
      low.value ≤ power.value ∧ power.value ≤ high.value := by
  obtain ⟨count, counted⟩ := Nat.exists_eq_add_one.mpr (digitCount_pos low.coefficient)
  let power : Decimal := ⟨10 ^ count, high.exponent + 1⟩
  have value : power.value = 10 ^ digitCount low.coefficient * 10 ^ high.exponent := by
    change ((10 ^ count : ℕ) : ℚ) * 10 ^ (high.exponent + 1) = _
    rw [counted, zpow_add_one₀ (by norm_num)]
    push_cast
    ring
  refine ⟨power, Nat.pow_pos (by decide), rfl, ?_, ?_⟩ <;> rw [value]
  · have digits : (low.coefficient : ℚ) ≤ 10 ^ digitCount low.coefficient := by
      exact_mod_cast (lt_pow_digitCount low.coefficient).le
    have grid : (10 : ℚ) ^ low.exponent ≤ 10 ^ high.exponent :=
      zpow_le_zpow_right₀ (by norm_num) finer
    exact mul_le_mul digits grid (by positivity) (by positivity)
  · have digits : (10 : ℚ) ^ digitCount low.coefficient ≤ high.coefficient := by
      exact_mod_cast (lt_digitCount_iff positive).mp fewer
    exact mul_le_mul_of_nonneg_right digits (by positivity)

end Decimal

namespace Binary64

/-- What the search finds is trimmed completely, and to one digit if it is found at once. -/
theorem exists_searched {x : Binary64} (nonzero : x.isZero = false) (tie : Tie) :
    ∃ d : Decimal, x.shortest tie = d.trim 330 ∧ 0 < d.coefficient ∧ d.coefficient ≤ 10 ^ 17 ∧
      x.Covers (d.value * 2 ^ unitBits) ∧
      (d.coefficient ≤ 10 ∨ x.onGrid? tie (d.exponent + 1) = none) := by
  obtain ⟨passed, few, found, missed⟩ :=
    searchGrid_found (by decide : 16 < 18) (exists_found nonzero tie)
  obtain ⟨positive, covers⟩ := onGrid?_eq_some found
  obtain ⟨exponent, bounded⟩ := onGrid?_coefficient_le nonzero found
  refine ⟨_, ?_, positive, ?_, covers, ?_⟩
  · rw [shortest, if_neg (Bool.eq_false_iff.mp nonzero)]
  · exact bounded.trans (Nat.pow_le_pow_right (by decide) (Nat.succ_le_succ few))
  · cases passed with
    | zero => exact .inl bounded
    | succ passed =>
      refine .inr ?_
      rw [exponent, Nat.cast_succ, ← sub_sub, sub_add_cancel]
      exact missed passed (Nat.lt_succ_self passed)

theorem shortest_mod_ne_zero {x : Binary64} (nonzero : x.isZero = false) (tie : Tie) :
    (x.shortest tie).coefficient % 10 ≠ 0 := by
  obtain ⟨d, trimmed, positive, bounded, _⟩ := exists_searched nonzero tie
  have enough {fuel : Nat} (more : 17 < fuel) : d.coefficient < 10 ^ fuel :=
    bounded.trans_lt (Nat.pow_lt_pow_right (by decide) more)
  rw [trimmed]
  exact Decimal.trim_mod_ne_zero positive (enough (by decide))

/-- A decimal with fewer digits would leave a power of ten between itself and the one that is
found. That is in the interval too, but on a grid that was passed over. -/
theorem digitCount_shortest_le {x : Binary64} (nonzero : x.isZero = false) (tie : Tie)
    (other : Decimal) (covers : x.Covers (other.value * 2 ^ unitBits)) :
    digitCount (x.shortest tie).coefficient ≤ digitCount other.coefficient := by
  have unit : (0 : ℚ) < 2 ^ unitBits := by positivity
  have complete := shortest_mod_ne_zero nonzero tie
  obtain ⟨d, trimmed, positive, _, own, single | missed⟩ := exists_searched nonzero tie
  · have small := Decimal.trim_le 330 d
    rw [trimmed] at complete ⊢
    have one : digitCount (d.trim 330).coefficient = 1 := by
      rw [digitCount, if_pos (by omega)]
    rw [one]
    exact digitCount_pos other.coefficient
  · rw [trimmed]
    refine (Decimal.digitCount_trim_le 330 positive).trans (not_lt.mp fun fewer => ?_)
    have some : 0 < other.coefficient := by
      refine Nat.pos_of_ne_zero fun zero => ?_
      have large := covers.pos nonzero
      rw [Decimal.value, zero] at large
      norm_num at large
    have finer := Int.le_of_lt_add_one (covers.exponent_lt missed some)
    obtain ⟨power, nonempty, exponent, above, below⟩ :=
      Decimal.exists_power_between finer fewer positive
    have between := covers.between own (mul_le_mul_of_nonneg_right above unit.le)
      (mul_le_mul_of_nonneg_right below unit.le)
    exact absurd exponent (between.exponent_lt missed nonempty).ne

end Binary64
end SchemaCheck
