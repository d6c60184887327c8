import Mathlib
import SchemaCheck.Proofs.Decimal.Scaling
import SchemaCheck.Proofs.Json.RoundTrip

/-! Numerals that are read as the nearest double. Reading scales the digits by a power of ten, and
where both are doubles only the result is rounded. -/
namespace SchemaCheck

namespace Json

theorem le_ofDigitChars (known : Nat) (cs : List Char) : known ≤ Nat.ofDigitChars 10 cs known := by
  rw [Nat.ofDigitChars_eq_ofDigitChars_zero]
  exact Nat.le_add_right_of_le (Nat.le_mul_of_pos_left known (Nat.pow_pos (by decide)))

/-- No digit is left over where the number of all fits. -/
theorem significand_eq {known : Nat} {cs : List Char}
    (small : Nat.ofDigitChars 10 cs known < 0x10000000000000000) :
    significand known cs = (Nat.ofDigitChars 10 cs known, 0) := by
  induction cs generalizing known with
  | nil => rfl
  | cons c rest ih =>
    rw [Nat.ofDigitChars_cons] at small ⊢
    rw [significand, if_pos ((le_ofDigitChars _ rest).trans_lt small), ih small]

namespace Numeral

/-- The digits and the power of ten are doubles themselves. -/
structure Brief (n : Numeral) : Prop where
  digits : digitsValue (n.whole ++ n.fraction) < Binary64.coefficientLimit
  power : (n.power.getD 0 - n.fraction.length).natAbs ≤ 22

variable {n : Numeral}

theorem Brief.scaledDouble?_eq (brief : n.Brief) (negative : Bool) :
    scaledDouble? negative n.whole n.fraction (n.power.getD 0) =
      nearestDouble? negative n.whole n.fraction (n.power.getD 0) := by
  obtain ⟨digits, power⟩ := brief
  have all : digitsValue (n.whole ++ n.fraction) =
      Nat.ofDigitChars 10 n.fraction (digitsValue n.whole) := by
    rw [digitsValue_eq, Nat.ofDigitChars_append, ← digitsValue_eq]
  have fits : Nat.ofDigitChars 10 n.fraction (digitsValue n.whole) < 0x10000000000000000 := by
    rw [← all]
    exact digits.trans (by decide)
  have before : significand 0 n.whole = (digitsValue n.whole, 0) :=
    significand_eq ((le_ofDigitChars _ n.fraction).trans_lt fits)
  have behind := significand_eq fits
  rw [← all] at behind
  have whole : (Binary64.ofInt (digitsValue (n.whole ++ n.fraction))).magnitude =
      digitsValue (n.whole ++ n.fraction) * 2 ^ unitBits :=
    Binary64.magnitude_ofInt digits
  have once := Binary64.scaled?_eq_ofDecimal?
    (x := { Binary64.ofInt (digitsValue (n.whole ++ n.fraction)) with negative }) whole power
    (n.whole.length + n.fraction.length)
  simp only [scaledDouble?, before, behind, nearestDouble?]
  rw [← once, Nat.cast_zero, add_zero, sub_zero]

theorem Brief.readsAsNumber (brief : n.Brief) {negative : Bool} {number : Number}
    (reads : ReadsAsNumber nearestDouble? (signText negative ++ n.text) number) :
    ReadsAsNumber scaledDouble? (signText negative ++ n.text) number := by
  intro rest ends
  have nearest := reads rest ends
  rw [n.number?_text _ negative ends] at nearest ⊢
  rw [← nearest, literalNumber?, literalNumber?, brief.scaledDouble?_eq]

end Numeral

end Json

namespace NumberLayout

/-- A double is laid out with digits and a power of ten that are doubles themselves. -/
def WritesBriefly (layout : NumberLayout) (x : Binary64) : Prop :=
  ∃ (n : Json.Numeral) (negative : Bool), n.Brief ∧
    (layout.render x).toList = Json.signText negative ++ n.text

theorem WritesBriefly.readsAsNumber {layout : NumberLayout} {x : Binary64} {number : Json.Number}
    (brief : layout.WritesBriefly x)
    (reads : Json.ReadsAsNumber Json.nearestDouble? (layout.render x).toList number) :
    Json.ReadsAsNumber Json.scaledDouble? (layout.render x).toList number := by
  obtain ⟨n, negative, brief, text⟩ := brief
  rw [text] at reads ⊢
  exact brief.readsAsNumber reads

end NumberLayout
end SchemaCheck
