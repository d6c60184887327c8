import Mathlib
import SchemaCheck.Proofs.Decimal.Nearest
import SchemaCheck.Proofs.Validation.Conformance

/-! Matching a literal. It is equality of values on scalars, except that an integer which is no
double also matches the double that it is rounded to. -/
namespace SchemaCheck

namespace Json

def IsScalar : Json → Prop
  | .array _ | .object _ => False
  | _ => True

/-- Scalars of one value; a number may be kept in two ways. -/
inductive SameScalar : Json → Json → Prop where
  | null : SameScalar .null .null
  | bool (flag : Bool) : SameScalar (.bool flag) (.bool flag)
  | string (text : String) : SameScalar (.string text) (.string text)
  | number {a b : Number} (values : a.value = b.value) : SameScalar (.number a) (.number b)

/-- An integer that is no double, and the double that it is rounded to. -/
inductive TakenFor : Json → Json → Prop where
  | intro {whole : ℤ} {fits : Number.Fits whole} {double : Binary64}
      (nearest : double.Nearest whole) (inexact : double.value ≠ whole) :
      TakenFor (.number (.integer whole fits)) (.number (.double double))

theorem sameScalar_number_iff {a b : Number} :
    (number a).SameScalar (number b) ↔ a.value = b.value := by
  refine ⟨?_, .number⟩
  rintro ⟨⟩
  assumption

namespace SameScalar

variable {a b c : Json}

theorem refl (scalar : a.IsScalar) : a.SameScalar a := by
  cases a with
  | null => exact .null
  | bool flag => exact .bool flag
  | number number => exact .number rfl
  | string text => exact .string text
  | array | object => cases scalar

theorem symm (same : a.SameScalar b) : b.SameScalar a := by
  cases same with
  | null => exact .null
  | bool flag => exact .bool flag
  | string text => exact .string text
  | number values => exact .number values.symm

theorem trans (first : a.SameScalar b) (second : b.SameScalar c) : a.SameScalar c := by
  cases first with
  | null | bool flag | string text => exact second
  | number values =>
    cases second with
    | number others => exact .number (values.trans others)

end SameScalar

theorem Number.equal_integers {whole other : ℤ} {fits : Fits whole} {within : Fits other} :
    (integer whole fits).equal (integer other within) = true ↔
      (integer whole fits).value = (integer other within).value := by
  simp [Number.equal, Number.value]

theorem Number.equal_doubles {a b : Binary64} :
    (double a).equal (double b) = true ↔ (double a).value = (double b).value := by
  rw [Number.value, Number.value, Binary64.value_inj]
  exact Binary64.sameValue_iff

/-- An integer equals the double that is nearest to it. -/
theorem Number.equal_nearest {whole : ℤ} {fits : Fits whole} {x : Binary64} :
    (integer whole fits).equal (double x) = true ↔ x.Nearest whole := by
  have nearest : (Binary64.ofInt whole).Nearest whole := toBinary64_nearest (integer whole fits)
  have rounded : (integer whole fits).equal (double x) = true ↔
      (Binary64.ofInt whole).value = x.value := by
    rw [Binary64.value_inj]
    exact Binary64.sameValue_iff
  rw [rounded]
  exact ⟨fun same => nearest.of_value_eq same.symm, nearest.value_eq⟩

theorem Number.equal_comm (a b : Number) : a.equal b = b.equal a := by
  cases a <;> cases b <;> simp only [Number.equal, Binary64.sameValue, Bool.beq_comm]

theorem Number.equal_iff (a b : Number) :
    a.equal b = true ↔
      a.value = b.value ∨ (number a).TakenFor (number b) ∨ (number b).TakenFor (number a) := by
  have mixed {whole : ℤ} {fits : Fits whole} {x : Binary64} :
      (integer whole fits).equal (double x) = true ↔
        x.value = whole ∨ (number (integer whole fits)).TakenFor (number (double x)) := by
    rw [equal_nearest]
    constructor
    · intro nearest
      by_cases exact : x.value = whole
      · exact .inl exact
      · exact .inr (.intro nearest exact)
    · rintro (same | taken)
      · exact same ▸ x.nearest_self
      · cases taken with
        | intro nearest _ => exact nearest
  cases a with
  | integer whole fits =>
    cases b with
    | integer other within =>
      rw [equal_integers, iff_self_or]
      rintro (taken | taken) <;> cases taken
    | double x =>
      rw [mixed, eq_comm (a := value _)]
      refine or_congr Iff.rfl (or_iff_left ?_).symm
      nofun
  | double x =>
    cases b with
    | integer other within =>
      rw [equal_comm, mixed]
      refine or_congr Iff.rfl (or_iff_right ?_).symm
      nofun
    | double y =>
      rw [equal_doubles, iff_self_or]
      rintro (taken | taken) <;> cases taken

theorem identical_comm (a b : Json) : a.identical b = b.identical a := by
  cases a <;> cases b <;> simp only [identical, Number.equal_comm, Bool.beq_comm]

theorem identical_iff (a b : Json) :
    a.identical b = true ↔ a.SameScalar b ∨ a.TakenFor b ∨ b.TakenFor a := by
  constructor
  · intro matched
    cases a <;> cases b <;> simp only [identical, Bool.false_eq_true] at matched
    case null.null => exact .inl .null
    case bool.bool => exact .inl (beq_iff_eq.mp matched ▸ .bool _)
    case string.string => exact .inl (beq_iff_eq.mp matched ▸ .string _)
    case number.number => exact ((Number.equal_iff ..).mp matched).imp_left .number
  · rintro (same | taken | taken)
    · cases same with
      | null => rfl
      | bool | string => exact beq_self_eq_true _
      | number values => exact (Number.equal_iff ..).mpr (.inl values)
    · cases taken with
      | intro nearest inexact => exact (Number.equal_iff ..).mpr (.inr (.inl (.intro nearest inexact)))
    · cases taken with
      | intro nearest inexact => exact (Number.equal_iff ..).mpr (.inr (.inr (.intro nearest inexact)))

theorem isScalar_of_identical {a b : Json} (matched : a.identical b = true) :
    a.IsScalar ∧ b.IsScalar := by
  rcases (identical_iff a b).mp matched with same | taken | taken
  · cases same <;> exact ⟨trivial, trivial⟩
  · cases taken
    exact ⟨trivial, trivial⟩
  · cases taken
    exact ⟨trivial, trivial⟩

theorem identical_self_iff (a : Json) : a.identical a = true ↔ a.IsScalar :=
  ⟨fun matched => (isScalar_of_identical matched).1,
    fun scalar => (identical_iff a a).mpr (.inl (.refl scalar))⟩

/-- What is no double is kept in one way only. -/
theorem SameScalar.takenFor {a b c : Json} (same : a.SameScalar b) (taken : b.TakenFor c) :
    a.TakenFor c := by
  cases taken with
  | intro nearest inexact =>
    cases same with
    | @number number _ values =>
      cases number with
      | integer whole fits =>
        obtain rfl := Int.cast_injective values
        exact .intro nearest inexact
      | double x => exact absurd (nearest.value_eq_of_exact values) inexact

/-- A chain of matches breaks only where an integer is taken for the double in the middle. -/
theorem identical_trans {a b c : Json} (first : ¬ a.TakenFor b) (last : ¬ c.TakenFor b)
    (before : a.identical b = true) (after : b.identical c = true) : a.identical c = true := by
  rw [identical_iff] at before after ⊢
  rcases before with same | taken | around
  · rcases after with alike | around | taken
    · exact .inl (same.trans alike)
    · exact .inr (.inl (same.takenFor around))
    · exact absurd taken last
  · exact absurd taken first
  · rcases after with alike | beside | taken
    · exact .inr (.inr (alike.symm.takenFor around))
    · cases around with
      | intro nearest _ =>
        cases beside with
        | intro other _ => exact .inl (.number (nearest.value_eq other))
    · exact absurd taken last

/-- The same value, its number perhaps kept in another way. -/
def Respelled (a b : Json) : Prop := a = b ∨ a.SameScalar b

/-- Neither is an integer taken for the other one. -/
def Apart (a b : Json) : Prop := ¬ a.TakenFor b ∧ ¬ b.TakenFor a

theorem Apart.symm {a b : Json} (apart : a.Apart b) : b.Apart a := And.symm apart

theorem Apart.identical_iff {a b : Json} (apart : a.Apart b) :
    a.identical b = true ↔ a.SameScalar b := by
  rw [Json.identical_iff]
  exact or_iff_left (not_or.mpr apart)

theorem TakenFor.not_sameScalar {a b : Json} (taken : a.TakenFor b) : ¬ a.SameScalar b := by
  cases taken with
  | intro nearest inexact =>
    exact fun same => inexact (sameScalar_number_iff.mp same).symm

/-- Matching is equality of values for just those that are apart. -/
theorem apart_iff {a b : Json} : (a.identical b = true ↔ a.SameScalar b) ↔ a.Apart b := by
  refine ⟨fun same => ⟨fun taken => ?_, fun taken => ?_⟩, Apart.identical_iff⟩
  · exact taken.not_sameScalar (same.mp ((Json.identical_iff a b).mpr (.inr (.inl taken))))
  · exact taken.not_sameScalar
      (same.mp ((Json.identical_iff a b).mpr (.inr (.inr taken)))).symm

/-- Integers of 53 bits are doubles, so none is taken for another number. -/
private theorem apart_of_small {whole : ℤ} {fits : Number.Fits whole}
    (small : whole.natAbs < 2 ^ 53)
    (other : Json) : (number (.integer whole fits)).Apart other := by
  constructor
  · rintro ⟨nearest, inexact⟩
    exact inexact (nearest.value_eq_of_exact (Binary64.value_ofInt small))
  · nofun

theorem Respelled.sameScalar_iff {a b c d : Json} (left : a.Respelled b) (right : c.Respelled d) :
    a.SameScalar c ↔ b.SameScalar d := by
  constructor
  · intro same
    rcases left with rfl | left <;> rcases right with rfl | right
    · exact same
    · exact same.trans right
    · exact left.symm.trans same
    · exact left.symm.trans (same.trans right)
  · intro same
    rcases left with rfl | left <;> rcases right with rfl | right
    · exact same
    · exact same.trans right.symm
    · exact left.trans same
    · exact left.trans (same.trans right.symm)

theorem Respelled.identical_iff {a b c d : Json} (left : a.Respelled b) (right : c.Respelled d)
    (before : a.Apart c) (after : b.Apart d) :
    a.identical c = true ↔ b.identical d = true := by
  rw [before.identical_iff, after.identical_iff, left.sameScalar_iff right]

end Json

namespace Assertions

/-- What `const` and `enum` hold. -/
def literals (assertions : Assertions) : List Json :=
  assertions.constant.toList ++ assertions.enumeration.getD []

/-- The same literals, their numbers perhaps kept in another way. -/
structure RespelledLiterals (assertions others : Assertions) : Prop where
  constant : Option.Rel Json.Respelled assertions.constant others.constant
  enumeration : Option.Rel (List.Forall₂ Json.Respelled) assertions.enumeration others.enumeration

variable {assertions others : Assertions} {a b : Json}

theorem exists_identical_iff {literals respelled : List Json} (alike : a.Respelled b)
    (each : List.Forall₂ Json.Respelled literals respelled)
    (before : ∀ literal ∈ literals, a.Apart literal)
    (after : ∀ literal ∈ respelled, b.Apart literal) :
    (∃ literal ∈ literals, a.identical literal = true) ↔
      ∃ literal ∈ respelled, b.identical literal = true := by
  induction each with
  | nil => simp
  | cons first _ ih =>
    rw [List.forall_mem_cons] at before after
    rw [List.exists_mem_cons_iff, List.exists_mem_cons_iff,
      alike.identical_iff first before.1 after.1, ih before.2 after.2]

private theorem literalsHold_respelled (alike : a.Respelled b)
    (same : assertions.RespelledLiterals others)
    (before : ∀ literal ∈ assertions.literals, a.Apart literal)
    (after : ∀ literal ∈ others.literals, b.Apart literal) :
    assertions.LiteralsHold a ↔ others.LiteralsHold b := by
  obtain ⟨constant, enumeration⟩ := same
  simp only [literals, List.mem_append, Option.mem_toList, or_imp, forall_and] at before after
  refine and_congr ?_ ?_
  · rcases given : assertions.constant with _ | literal <;>
      rcases other : others.constant with _ | respelled <;>
      rw [given, other] at constant <;> cases constant
    · simp
    next first =>
      simpa using alike.identical_iff first (before.1 _ given) (after.1 _ other)
  · rcases given : assertions.enumeration with _ | literals <;>
      rcases other : others.enumeration with _ | respelled <;>
      rw [given, other] at enumeration <;> cases enumeration
    · simp
    next each =>
      simpa using exists_identical_iff alike each (by simpa [given] using before.2)
        (by simpa [other] using after.2)

end Assertions

/-- A literal matches by value, except for an integer that is no double, which also matches the
double that is nearest to it. Away from that, matching is an equivalence on scalars, and it does
not matter whether numbers in the value and under `const` and `enum` are kept as integers. -/
theorem literals_match_by_value (a b c : Json) (assertions others : Assertions) :
    (¬ a.IsScalar ∨ ¬ b.IsScalar → a.identical b = false) ∧
    ((a.identical b = true ↔ a.SameScalar b) ↔ a.Apart b) ∧
    (∀ (whole : ℤ) (fits : Json.Number.Fits whole), whole.natAbs < 2 ^ 53 →
      (Json.number (.integer whole fits)).Apart b) ∧
    (a.IsScalar → a.identical a = true) ∧
    a.identical b = b.identical a ∧
    (¬ a.TakenFor b → ¬ c.TakenFor b →
      a.identical b = true → b.identical c = true → a.identical c = true) ∧
    (a.Respelled b → assertions.RespelledLiterals others →
      (∀ literal ∈ assertions.literals, a.Apart literal) →
      (∀ literal ∈ others.literals, b.Apart literal) →
      (assertions.literalViolations a = [] ↔ others.literalViolations b = [])) := by
  refine ⟨fun composite => ?_, Json.apart_iff,
    fun whole fits small => Json.apart_of_small small b,
    fun scalar => (Json.identical_self_iff a).mpr scalar, Json.identical_comm a b,
    fun first last => Json.identical_trans first last, ?_⟩
  · rw [← Bool.not_eq_true]
    intro matched
    obtain ⟨left, right⟩ := Json.isScalar_of_identical matched
    exact composite.elim (· left) (· right)
  · intro alike same before after
    rw [Assertions.literalViolations_eq_nil_iff, Assertions.literalViolations_eq_nil_iff]
    exact Assertions.literalsHold_respelled alike same before after

/-- 2 ^ 53 + 1 matches the double 2 ^ 53, which matches 2 ^ 53 as an integer; the two integers do
not match, so the same number is accepted as a double only. -/
theorem integer_matches_unequal_double :
    let odd : Json := .number (.integer 9007199254740993 (by decide))
    let even : Json := .number (.integer 9007199254740992 (by decide))
    let double : Json := .number (.double ⟨false, 4503599627370496, 1075, by decide⟩)
    odd.identical double = true ∧ ¬ odd.SameScalar double ∧
      even.SameScalar double ∧ double.identical even = true ∧ odd.identical even = false ∧
      Assertions.literalViolations { constant := some odd } double = [] ∧
      Assertions.literalViolations { constant := some odd } even ≠ [] := by
  intro odd even double
  have value : Binary64.value ⟨false, 4503599627370496, 1075, by decide⟩ =
      (9007199254740992 : ℤ) :=
    Binary64.value_eq_intCast_iff.mpr (by decide +kernel)
  refine ⟨by decide +kernel, ?_, .number value.symm, by decide +kernel, by decide, ?_, ?_⟩
  · intro same
    exact absurd (Int.cast_injective ((Json.sameScalar_number_iff.mp same).trans value)) (by decide)
  · decide +kernel
  · decide

/-- 1 and 1.0 match and may stand for each other as a value and under `const`. -/
theorem literals_match_by_value_one :
    let one : Json := .number (.integer 1 (by decide))
    let double : Json := .number (.double ⟨false, 4503599627370496, 1022, by decide⟩)
    one.identical double = true ∧ one.identical one = true ∧
      Json.identical (.array []) (.array []) = false ∧
      (Assertions.literalViolations { constant := some double } one = [] ↔
        Assertions.literalViolations { constant := some one } double = []) := by
  intro one double
  have value : Binary64.value ⟨false, 4503599627370496, 1022, by decide⟩ = (1 : ℤ) :=
    Binary64.value_eq_intCast_iff.mpr (by decide +kernel)
  have same : one.SameScalar double := .number value.symm
  obtain ⟨-, exact, small, -, symmetric, transitive, verdict⟩ :=
    literals_match_by_value one double one { constant := some double } { constant := some one }
  have apart : one.Apart double := small 1 (by decide) (by decide)
  have matched : one.identical double = true := (exact.mpr apart).mpr same
  have around : one.identical one = true :=
    transitive apart.1 apart.1 matched (symmetric.symm.trans matched)
  refine ⟨matched, around,
    (literals_match_by_value (.array []) (.array []) .null {} {}).1 (.inl id), ?_⟩
  refine verdict (.inr same) ⟨.some (.inr same.symm), .none⟩ ?_ ?_
  · simpa [Assertions.literals] using apart
  · simpa [Assertions.literals] using apart.symm

end SchemaCheck
