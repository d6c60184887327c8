import Mathlib
import SchemaCheck.Proofs.Decimal.Nearest
import SchemaCheck.Proofs.Validation.Exhaustive

/-! What is said of a number: the limits that its nearest double breaks, compared exactly, and
never that it is no integer. -/
namespace SchemaCheck

namespace Binary64

/-- `x` is a whole number of times `divisor`, exactly. -/
def WholeMultiple (x divisor : Binary64) : Prop := ∃ factor : ℤ, x.value = factor * divisor.value

theorem wholeMultiple_iff {x divisor : Binary64} :
    x.WholeMultiple divisor ↔ divisor.units ∣ x.units := by
  refine exists_congr fun factor => ?_
  rw [value, value, ← mul_div_assoc, div_left_inj' (by positivity), mul_comm (divisor.units)]
  exact_mod_cast Iff.rfl

instance (x divisor : Binary64) : Decidable (x.WholeMultiple divisor) :=
  decidable_of_iff _ wholeMultiple_iff.symm

private theorem value_eq_zero_iff {x : Binary64} : x.value = 0 ↔ x.isZero = true := by
  rw [← abs_eq_zero, abs_value, div_eq_zero_iff, or_iff_left (by positivity), Nat.cast_eq_zero,
    magnitude_eq, isZero, beq_iff_eq]
  simp

/-- Whatever the signs, also those of zeros. -/
theorem isMultipleOf_iff {x divisor : Binary64} :
    x.isMultipleOf divisor = true ↔ divisor.value ≠ 0 ∧ x.WholeMultiple divisor := by
  rw [wholeMultiple_iff, ← Int.natAbs_dvd_natAbs, natAbs_units, natAbs_units, isMultipleOf,
    Bool.and_eq_true, beq_iff_eq, Nat.dvd_iff_mod_eq_zero, Ne, value_eq_zero_iff,
    Bool.not_eq_true', Bool.not_eq_true]

end Binary64

/-- The issue of a limit that is set and broken. -/
def limitIssues (place : String) (limit? : Option Binary64) (broken : Binary64 → Prop)
    [DecidablePred broken] (opening : String) : List Issue :=
  match limit? with
  | some limit => if broken limit then [⟨place, opening ++ Violation.number limit⟩] else []
  | none => []

theorem Assertions.issues_breach (assertions : Assertions) (path : Path) (bound : Bound)
    (violation : Binary64 → Violation) (opening : String) {test : Binary64 → Bool}
    {broken : Binary64 → Prop} [DecidablePred broken] (decides : ∀ limit, test limit = true ↔ broken limit)
    (worded : ∀ limit, (violation limit).message = opening ++ Violation.number limit) :
    ((assertions.breach bound test violation).map (Finding.mk path)).map Finding.issue =
      limitIssues path.render (assertions.bound bound) broken opening := by
  cases given : assertions.bound bound with
  | none => simp [breach, limitIssues, given]
  | some limit =>
    by_cases outside : broken limit
    · simp [breach, limitIssues, given, outside, (decides limit).mpr outside, Finding.issue, worded]
    · have kept : test limit = false := by
        rw [← Bool.not_eq_true, decides]
        exact outside
      simp [breach, limitIssues, given, outside, kept]

/-- The issues of a number with this nearest double, in the order of the keywords. -/
def Assertions.numberIssues (assertions : Assertions) (place : String) (x : Binary64) :
    List Issue :=
  limitIssues place (assertions.bound .minimum) (x.value < ·.value) "Value must be >= " ++
    limitIssues place (assertions.bound .maximum) (x.value > ·.value) "Value must be <= " ++
    limitIssues place (assertions.bound .exclusiveMinimum) (x.value ≤ ·.value) "Value must be > " ++
    limitIssues place (assertions.bound .exclusiveMaximum) (x.value ≥ ·.value) "Value must be < " ++
    limitIssues place (assertions.bound .multipleOf)
      (fun divisor => divisor.value = 0 ∨ ¬ x.WholeMultiple divisor) "Value must be a multiple of "

/-- Bounds and divisibility are decided on the values of doubles, without rounding. -/
theorem Assertions.issues_doubleViolations (assertions : Assertions) (path : Path) (x : Binary64) :
    ((assertions.doubleViolations x).map (Finding.mk path)).map Finding.issue =
      assertions.numberIssues path.render x := by
  have below (limit : Binary64) : decide (x < limit) = true ↔ x.value < limit.value := by
    rw [decide_eq_true_eq, Binary64.value_lt_iff, Binary64.lt_iff]
  have above (limit : Binary64) : decide (limit < x) = true ↔ x.value > limit.value := by
    rw [decide_eq_true_eq, gt_iff_lt, Binary64.value_lt_iff, Binary64.lt_iff]
  have notAbove (limit : Binary64) : decide (x ≤ limit) = true ↔ x.value ≤ limit.value := by
    rw [decide_eq_true_eq, Binary64.value_le_iff, Binary64.le_iff]
  have notBelow (limit : Binary64) : decide (limit ≤ x) = true ↔ x.value ≥ limit.value := by
    rw [decide_eq_true_eq, ge_iff_le, Binary64.value_le_iff, Binary64.le_iff]
  have indivisible (divisor : Binary64) :
      (!x.isMultipleOf divisor) = true ↔ divisor.value = 0 ∨ ¬ x.WholeMultiple divisor := by
    rw [Bool.not_eq_true', ← Bool.not_eq_true, Binary64.isMultipleOf_iff, not_and_or, not_not]
  simp only [doubleViolations, List.map_append, numberIssues]
  rw [assertions.issues_breach path .minimum .below "Value must be >= " below fun _ => rfl,
    assertions.issues_breach path .maximum .above "Value must be <= " above fun _ => rfl,
    assertions.issues_breach path .exclusiveMinimum .notAbove "Value must be > " notAbove
      fun _ => rfl,
    assertions.issues_breach path .exclusiveMaximum .notBelow "Value must be < " notBelow
      fun _ => rfl,
    assertions.issues_breach path .multipleOf .notMultipleOf "Value must be a multiple of "
      indivisible fun _ => rfl]

/-- No report says that a number is no integer. -/
theorem message_ne_notInteger {options : ValidationOptions} {document : Json} {schema : Schema}
    {issue : Issue} (member : issue ∈ report options document schema) :
    issue.message ≠ "Value must be an integer" := by
  rw [(report_perm_trace options document schema).mem_iff, List.mem_map] at member
  obtain ⟨⟨source, finding⟩, traced, rfl⟩ := member
  intro same
  have worded : finding.violation.wording = Violation.notInteger.wording :=
    Violation.wording_eq_of_message same
  cases reported_iff_mem_trace.mpr traced with
  | tooDeep => simp [Violation.wording] at worded
  | breaks _ _ broken =>
    have keyword := broken.keyword_wording
    rw [worded] at keyword
    cases keyword

/-- A number has one nearest double, up to the sign of zero. Its issues are those of the limits that
this double breaks, compared exactly; the second look at integers finds nothing, so no report says
that a number is no integer. -/
theorem number_issues_exact :
    (∀ number : Json.Number, ∃ x : Binary64,
      x.Nearest number.value ∧ (∀ y : Binary64, y.Nearest number.value → y.value = x.value) ∧
      (number.isIntegral = true → x.isIntegral = true) ∧
      (∀ assertions : Assertions,
        assertions.numberViolations number = assertions.doubleViolations x) ∧
      ∀ (schema : Schema) (path : Path),
        (schema.ownOutcome (.number number) path).findings.map Finding.issue =
          schema.assertions.numberIssues path.render x) ∧
    ∀ (options : ValidationOptions) (document : Json) (schema : Schema),
      ∀ issue ∈ report options document schema, issue.message ≠ "Value must be an integer" := by
  refine ⟨fun number => ?_, fun options document schema issue => message_ne_notInteger⟩
  have nearest := number.toBinary64_nearest
  refine ⟨number.toBinary64, nearest, fun y other => other.value_eq nearest,
    Json.Number.toBinary64_isIntegral, fun assertions => assertions.numberViolations_eq number,
    fun schema path => ?_⟩
  rw [Schema.ownOutcome, Assertions.numberViolations_eq]
  exact schema.assertions.issues_doubleViolations path number.toBinary64

end SchemaCheck
