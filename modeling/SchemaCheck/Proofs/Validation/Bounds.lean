import Mathlib
import SchemaCheck.Proofs.Decimal.Nearest
import SchemaCheck.Proofs.Validation.Conformance

/-! The numbers that pass the limits of a schema: whatever lies between two of them passes too,
however the three are kept. -/
namespace SchemaCheck

/-- A larger number has no smaller double, also where integers are rounded. -/
theorem Json.Number.toBinary64_mono {number other : Json.Number}
    (order : number.value ≤ other.value) : number.toBinary64 ≤ other.toBinary64 := by
  rw [Binary64.le_iff, ← Binary64.value_le_iff]
  exact number.toBinary64_nearest.mono other.toBinary64_nearest order

/-- Lower limits hold above what meets them, upper limits below. -/
theorem Assertions.NumberHolds.between {assertions : Assertions} {x y z : Binary64}
    (undivided : assertions.bound .multipleOf = none) (first : assertions.NumberHolds x)
    (last : assertions.NumberHolds z) (above : x ≤ y) (below : y ≤ z) :
    assertions.NumberHolds y := by
  obtain ⟨minimum, _, exclusiveMinimum, _, _⟩ := first
  obtain ⟨_, maximum, _, exclusiveMaximum, _⟩ := last
  rw [Binary64.le_iff] at above below
  refine ⟨fun limit given => ?_, fun limit given => ?_, fun limit given => ?_,
    fun limit given => ?_, fun divisor given => ?_⟩
  · exact (minimum limit given).trans above
  · exact below.trans (maximum limit given)
  · exact (exclusiveMinimum limit given).trans_le above
  · exact below.trans_lt (exclusiveMaximum limit given)
  · rw [undivided] at given
    cases given

namespace Schema

theorem findings_ownOutcome_number (schema : Schema) (number : Json.Number) (path : Path) :
    (schema.ownOutcome (.number number) path).findings = [] ↔
      schema.assertions.NumberHolds number.toBinary64 := by
  rw [ownOutcome, Outcome.findings_located, List.map_eq_nil_iff,
    Assertions.numberViolations_eq_nil_iff]

/-- The schema with these limits and no other keyword. -/
def limiting (limits : Bound → Option Binary64) : Schema :=
  ⟨{ bound := limits }, none, none, none, none, none, none, []⟩

theorem report_limiting_eq_nil_iff (options : ValidationOptions)
    (limits : Bound → Option Binary64) (number : Json.Number) :
    report options (.number number) (limiting limits) = [] ↔
      (limiting limits).assertions.NumberHolds number.toBinary64 := by
  have run : (evaluate options.maxDepth (options.maxDepth + 1) (.number number)
      (limiting limits) []).findings =
        ((limiting limits).ownOutcome (.number number) []).findings := by
    simp [evaluate, nodeOutcome, branchOutcome, anyOutcome, oneOutcome, limiting, children,
      closingOutcome, Assertions.literalViolations, Assertions.mismatch?]
  rw [report, List.map_eq_nil_iff, ← findings_ownOutcome_number _ _ [], ← run]
  rfl

end Schema

/-- Between two numbers that no limit of a node excludes there is none that one excludes, and the
numbers that a schema of limits accepts are an interval. -/
theorem bounds_accept_interval {x y z : Json.Number} (above : x.value ≤ y.value)
    (below : y.value ≤ z.value) :
    (∀ (schema : Schema) (path : Path), schema.assertions.bound .multipleOf = none →
      (schema.ownOutcome (.number x) path).findings = [] →
      (schema.ownOutcome (.number z) path).findings = [] →
      (schema.ownOutcome (.number y) path).findings = []) ∧
    ∀ (options : ValidationOptions) (limits : Bound → Option Binary64),
      limits .multipleOf = none →
      report options (.number x) (.limiting limits) = [] →
      report options (.number z) (.limiting limits) = [] →
      report options (.number y) (.limiting limits) = [] := by
  have low : x.toBinary64 ≤ y.toBinary64 := Json.Number.toBinary64_mono above
  have high : y.toBinary64 ≤ z.toBinary64 := Json.Number.toBinary64_mono below
  constructor
  · intro schema path undivided first last
    rw [Schema.findings_ownOutcome_number] at *
    exact first.between undivided last low high
  · intro options limits undivided first last
    rw [Schema.report_limiting_eq_nil_iff] at *
    exact first.between undivided last low high

/-- The two outer numbers are integers that only pass because they are rounded onto the limits. -/
theorem bounds_accept_interval_at_limits :
    let x : Json.Number := .integer 9007199254740993 (by decide)
    let y : Json.Number := .double ⟨false, 0x10000000000001, 1075, by decide⟩
    let z : Json.Number := .integer 18446744073709551615 (by decide)
    let limits : Bound → Option Binary64 := fun bound =>
      match bound with
      | .minimum => some (.ofInt 9007199254740992)
      | .maximum => some (.ofInt 18446744073709551616)
      | _ => none
    x.value ≤ y.value ∧ y.value ≤ z.value ∧ limits .multipleOf = none ∧
      report ⟨0⟩ (.number x) (.limiting limits) = [] ∧
      report ⟨0⟩ (.number z) (.limiting limits) = [] ∧
      report ⟨0⟩ (.number y) (.limiting limits) = [] := by
  intro x y z limits
  have middle : y.value = (9007199254740994 : ℤ) :=
    Binary64.value_eq_intCast_iff.mpr (by decide +kernel)
  have above : x.value ≤ y.value := by
    rw [middle]
    exact Int.cast_le.mpr (by decide)
  have below : y.value ≤ z.value := by
    rw [middle]
    exact Int.cast_le.mpr (by decide)
  have first : report ⟨0⟩ (.number x) (.limiting limits) = [] := by decide +kernel
  have last : report ⟨0⟩ (.number z) (.limiting limits) = [] := by decide +kernel
  exact ⟨above, below, rfl, first, last,
    (bounds_accept_interval above below).2 ⟨0⟩ limits rfl first last⟩

end SchemaCheck
