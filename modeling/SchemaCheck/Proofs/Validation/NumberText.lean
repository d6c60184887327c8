import Mathlib
import SchemaCheck.Proofs.Decimal.Fewest
import SchemaCheck.Proofs.Json.RoundTrip

/-! Numbers in messages. A double is written with the fewest digits that are rounded to it, and with
a power of ten only below `1e-6` and from `1e21` on. Numbers written alike are equal. -/
namespace SchemaCheck

namespace Decimal

/-- The leading digit tells the powers of ten up to a decimal. -/
theorem pow_le_value_iff {d : Decimal} (positive : 0 < d.coefficient) (power : Int) :
    (10 : ℚ) ^ power ≤ d.value ↔ power ≤ d.exponent + digitCount d.coefficient - 1 := by
  have counted := digitCount_pos d.coefficient
  have unit : (0 : ℚ) < 10 ^ d.exponent := by positivity
  rw [value]
  rcases le_or_gt power d.exponent with low | high
  · have whole : (1 : ℚ) ≤ d.coefficient := by exact_mod_cast positive
    have below : (10 : ℚ) ^ power ≤ 10 ^ d.exponent := zpow_le_zpow_right₀ (by norm_num) low
    exact iff_of_true (below.trans (le_mul_of_one_le_left unit.le whole)) (by omega)
  · obtain ⟨count, rfl⟩ := Int.exists_add_of_le high.le
    rw [zpow_add₀ (by norm_num), zpow_natCast, mul_comm, mul_le_mul_iff_of_pos_right unit]
    have digits : (10 : ℚ) ^ count ≤ d.coefficient ↔ count < digitCount d.coefficient := by
      rw [lt_digitCount_iff positive]
      exact_mod_cast Iff.rfl
    rw [digits]
    omega

end Decimal

namespace Binary64

/-- The double of `1e-6`. -/
def millionth : Binary64 := ⟨false, 4722366482869645, 1002, by decide⟩

/-- The double `1e21`. -/
def sextillion : Binary64 := ⟨false, 7629394531250000, 1091, by decide⟩

theorem millionth_nearest : millionth.Nearest (10 ^ (-6 : ℤ)) := by
  have rounded : ofRatio? false 1 (10 ^ 6) = some millionth := by decide +kernel
  have nearest := nearest_of_ofRatio? (by decide) rounded
  norm_num at nearest ⊢
  exact nearest

theorem sextillion_nearest : sextillion.Nearest (10 ^ (21 : ℤ)) := by
  have rounded : ofRatio? false (10 ^ 21) 1 = some sextillion := by decide +kernel
  have nearest := nearest_of_ofRatio? (by decide) rounded
  norm_num at nearest ⊢
  exact nearest

/-- The number without its sign. -/
def unsigned (x : Binary64) : Binary64 := { x with negative := false }

private theorem value_unsigned (x : Binary64) : x.unsigned.value = |x.value| := by
  rw [abs_value]
  rfl

private theorem searchGrid_unsigned (x : Binary64) (tie : Tie) (fuel : Nat) (power : Int) :
    x.unsigned.searchGrid tie fuel power = x.searchGrid tie fuel power := by
  induction fuel generalizing power with
  | zero => rfl
  | succ fuel ih =>
    rw [searchGrid, searchGrid, ih]
    rfl

private theorem shortest_unsigned (x : Binary64) (tie : Tie) :
    x.unsigned.shortest tie = x.shortest tie := by
  rw [shortest, shortest, searchGrid_unsigned]
  rfl

private theorem Covers.nearest_unsigned {x : Binary64} {size : ℚ} (nonneg : 0 ≤ size)
    (covers : x.Covers (size * 2 ^ unitBits)) : x.unsigned.Nearest size :=
  Covers.nearest (x := x.unsigned) nonneg ⟨covers.below, covers.above, covers.even⟩

/-- Rounding keeps the order, so what is written for a double reaches a power of ten where the
double reaches the nearest one of the power. -/
theorem pow_le_shortest_iff {edge x : Binary64} (tie : Tie) {power : Int}
    (sign : edge.negative = false) (nearest : edge.Nearest (10 ^ power))
    (kept : (10 : ℚ) ^ power ≤ (edge.shortest tie).value) (nonzero : x.isZero = false) :
    (10 : ℚ) ^ power ≤ (x.shortest tie).value ↔ edge.value ≤ |x.value| := by
  have own := (covers_shortest nonzero tie).2.nearest_unsigned (Decimal.value_nonneg _)
  rw [← value_unsigned]
  constructor
  · exact nearest.mono own
  · intro reached
    rcases reached.lt_or_eq with above | same
    · by_contra below
      exact absurd (own.mono nearest (not_le.mp below).le) (not_le.mpr above)
    · rcases eq_or_isZero_of_sameValue (sameValue_iff.mpr (value_inj.mp same)) with rfl | zeros
      · rwa [shortest_unsigned] at kept
      · exact absurd zeros.2 (Bool.eq_false_iff.mp nonzero)

end Binary64

namespace NumberLayout

theorem isSome_power?_message_iff {d : Decimal} (positive : 0 < d.coefficient) :
    (message.power? d).isSome = true ↔
      d.value < 10 ^ (-6 : ℤ) ∨ (10 : ℚ) ^ (21 : ℤ) ≤ d.value := by
  have first : message.positionalFrom = -6 := rfl
  have last : message.positionalBelow = 21 := rfl
  rw [← not_le, d.pow_le_value_iff positive, d.pow_le_value_iff positive]
  simp only [power?, first, last, Json.length_decimalDigits]
  split <;> simp <;> omega

end NumberLayout

namespace Json.Numeral

/-- What a message says for a double. A power of ten stands only outside the range of positional
notation, with one digit before the point, and no zeros end the fraction. The numeral is rounded to
the double, and nothing that is read as the double has fewer digits. -/
structure Spells (n : Numeral) (x : Binary64) : Prop where
  power : n.power.isSome = true ↔ x.isZero = false ∧
    (|x.value| < Binary64.millionth.value ∨ Binary64.sextillion.value ≤ |x.value|)
  mantissa (raised : n.power.isSome = true) : ∃ digit, n.whole = [digit] ∧ digit ≠ '0'
  trimmed : n.fraction.getLast? ≠ some '0'
  nearest : x.Nearest (if x.negative then -n.size else n.size)
  fewest : ∃ d : Decimal, n.size = d.value ∧ ∀ digits count exponent,
    Binary64.ofDecimal? x.negative digits count exponent = some x →
      digitCount d.coefficient ≤ digitCount digits

private theorem spells_zero {x : Binary64} (zero : x.isZero = true) :
    (Numeral.ofNat 0).Spells x where
  power := by simp [ofNat, zero]
  mantissa := nofun
  trimmed := nofun
  nearest := by
    have size : (Numeral.ofNat 0).size = 0 := by simp [size, ofNat, digitsValue_decimalDigits]
    have value : x.value = 0 := by
      rw [← abs_eq_zero, Binary64.abs_value, Binary64.magnitude_eq, beq_iff_eq.mp zero]
      simp
    rw [size, neg_zero, ite_self, ← value]
    exact x.nearest_self
  fewest := by
    refine ⟨⟨0, 0⟩, ?_, fun digits _ _ _ => ?_⟩
    · simp [size, ofNat, digitsValue_decimalDigits, Decimal.value]
    · rw [digitCount, if_pos (by decide)]
      exact digitCount_pos digits

private theorem spells_of_laidOut {n : Numeral} {x : Binary64} (nonzero : x.isZero = false)
    (size : n.size = (x.shortest .up).value)
    (laidOut : n.LaidOut "" (decimalDigits (x.shortest .up).coefficient)
      (NumberLayout.message.power? (x.shortest .up))) : n.Spells x where
  power := by
    have positive := (Binary64.covers_shortest nonzero .up).1
    have low := Binary64.pow_le_shortest_iff .up rfl Binary64.millionth_nearest
      (by decide +kernel) nonzero
    have high := Binary64.pow_le_shortest_iff .up rfl Binary64.sextillion_nearest
      (by decide +kernel) nonzero
    rw [laidOut.power_eq, NumberLayout.isSome_power?_message_iff positive, ← not_le, low, high,
      not_le]
    exact (and_iff_right nonzero).symm
  mantissa raised := by
    have positive := (Binary64.covers_shortest nonzero .up).1
    have leading := head?_decimalDigits positive
    rw [laidOut.power_eq] at raised
    rw [laidOut.whole_eq raised]
    cases digits : decimalDigits (x.shortest .up).coefficient with
    | nil => exact absurd digits (decimalDigits_ne_nil _)
    | cons first rest =>
      rw [digits] at leading
      exact ⟨first, rfl, leading ∘ congrArg some⟩
  trimmed :=
    laidOut.trimmed rfl (getLast?_decimalDigits (Binary64.shortest_mod_ne_zero nonzero .up))
  nearest := by
    rw [size]
    exact (Binary64.covers_shortest nonzero .up).2.nearest (Decimal.value_nonneg _)
  fewest := ⟨x.shortest .up, size, fun digits _ exponent read =>
    Binary64.digitCount_shortest_le nonzero .up ⟨digits, exponent⟩
      (Binary64.covers_of_ofDecimal? nonzero read)⟩

/-- The digits after the point stand between it and the power. -/
theorem not_suffix_of_trimmed {n : Numeral} (trimmed : n.fraction.getLast? ≠ some '0')
    (negative : Bool) : ¬ ['.', '0'] <:+ signText negative ++ n.text := by
  rintro ⟨before, split⟩
  have front : '.' ∉ signText negative ++ n.whole := by
    rw [List.mem_append, not_or]
    exact ⟨by cases negative <;> decide, n.digits.1.not_mem (by decide)⟩
  have back : '.' ∉ n.fraction ++ powerText n.power := by
    rw [List.mem_append, not_or]
    exact ⟨n.digits.2.not_mem (by decide), not_mem_powerText (by decide) (by decide) n.power⟩
  rw [text, ← List.append_assoc, ← List.append_assoc] at split
  cases fraction : n.fraction with
  | nil =>
    rw [fraction, List.nil_append] at back
    rw [fraction, pointText, List.append_nil] at split
    have point : '.' ∈ signText negative ++ n.whole ++ powerText n.power := split ▸ by simp
    exact (List.mem_append.mp point).elim front back
  | cons first rest =>
    rw [pointText_of_ne_nil (by simp [fraction]), List.append_assoc, List.cons_append] at split
    have digits := ((List.append_cons_inj_of_notMem front back).mp split.symm).2.2
    rw [fraction, List.cons_append, List.cons.injEq, List.append_eq_nil_iff] at digits
    rw [fraction, digits.1, digits.2.1] at trimmed
    exact trimmed rfl

end Json.Numeral

namespace NumberLayout

open Json

theorem exists_spells (x : Binary64) :
    ∃ n : Numeral, (message.render x).toList = signText (x.negative && !x.isZero) ++ n.text ∧
      n.Spells x := by
  cases zero : x.isZero with
  | true =>
    refine ⟨Numeral.ofNat 0, ?_, Numeral.spells_zero zero⟩
    rw [render, if_pos zero]
    cases x.negative <;> rfl
  | false =>
    have readable : message.Readable := ⟨rfl, .inl rfl⟩
    obtain ⟨n, text, size, laidOut⟩ := exists_numeral readable zero
    exact ⟨n, by simpa using text, Numeral.spells_of_laidOut zero size laidOut⟩

/-- The number that is read may be a whole one, which then becomes the double. -/
theorem exists_parseWithin?_message (x : Binary64) :
    ∃ number, parseWithin? nearestDouble? nestingLimit (message.render x) = some (.number number) ∧
      number.toBinary64.sameValue x = true := by
  obtain ⟨number, reads, kept⟩ := readsAsNumber_message x
  have parsed := (readsAs_number nestingLimit reads).parseWithin? trivial (List.forall_mem_nil _)
  rw [List.append_nil, String.ofList_toList] at parsed
  refine ⟨number, parsed, ?_⟩
  rcases kept with rfl | ⟨whole, fits, rfl, nearest⟩
  · exact Binary64.sameValue_iff.mpr rfl
  · have rounded := Number.toBinary64_nearest (.integer whole fits)
    exact Binary64.sameValue_iff.mpr (Binary64.value_inj.mp (rounded.value_eq nearest))

theorem render_message_eq_iff {x y : Binary64} :
    message.render x = message.render y ↔ x.sameValue y = true := by
  constructor
  · intro same
    obtain ⟨first, parsed, kept⟩ := exists_parseWithin?_message x
    obtain ⟨second, again, others⟩ := exists_parseWithin?_message y
    rw [same, again, Option.some_inj, Json.number.injEq] at parsed
    rw [parsed, Binary64.sameValue_iff] at others
    rw [Binary64.sameValue_iff] at kept ⊢
    exact kept.symm.trans others
  · exact render_message_eq

theorem render_message_eq_zero_iff {x : Binary64} :
    message.render x = "0" ↔ x.isZero = true := by
  constructor
  · intro plain
    have same : x.sameValue Binary64.zero = true := render_message_eq_iff.mp plain
    exact Binary64.isZero_eq_of_sameValue same
  · intro zero
    rw [render, if_pos zero]
    exact ite_self _

end NumberLayout

/-- Messages write a double as the shortest numeral that has it as its nearest double, positional
between `1e-6` and `1e21`, without idle zeros and without a sign of zero, so only equal numbers are
written alike. -/
theorem numbers_written_faithfully :
    (Binary64.millionth.Nearest (10 ^ (-6 : ℤ)) ∧ Binary64.sextillion.Nearest (10 ^ (21 : ℤ))) ∧
    (∀ x : Binary64,
      (NumberLayout.message.render x = "0" ↔ x.isZero = true) ∧
      (∃ n : Json.Numeral, (NumberLayout.message.render x).toList =
        Json.signText (x.negative && !x.isZero) ++ n.text ∧ n.Spells x) ∧
      ¬ ['.', '0'] <:+ (NumberLayout.message.render x).toList ∧
      ∃ number, Json.parseWithin? Json.nearestDouble? Json.nestingLimit
          (NumberLayout.message.render x) = some (.number number) ∧
        number.toBinary64.sameValue x = true) ∧
    ∀ x y : Binary64,
      NumberLayout.message.render x = NumberLayout.message.render y ↔ x.sameValue y = true := by
  refine ⟨⟨Binary64.millionth_nearest, Binary64.sextillion_nearest⟩, fun x => ?_,
    fun x y => NumberLayout.render_message_eq_iff⟩
  obtain ⟨n, text, spells⟩ := NumberLayout.exists_spells x
  refine ⟨NumberLayout.render_message_eq_zero_iff, ⟨n, text, spells⟩, ?_,
    NumberLayout.exists_parseWithin?_message x⟩
  rw [text]
  exact Json.Numeral.not_suffix_of_trimmed spells.trimmed _

/-- The two ends of positional notation. -/
example : NumberLayout.message.render Binary64.millionth = "0.000001" ∧
    NumberLayout.message.render Binary64.sextillion = "1e+21" := by
  decide +kernel

end SchemaCheck
