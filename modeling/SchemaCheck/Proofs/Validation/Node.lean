import Mathlib
import SchemaCheck.Validation.Validator
import SchemaCheck.Proofs.Decimal.Integral

/-! What one node finds, with the evaluations below it as given. Branches of `anyOf` and `oneOf`
matter only by whether they pass. -/
namespace SchemaCheck

namespace Binary64

theorem not_lt {x y : Binary64} : ¬ x < y ↔ y ≤ x := Int.not_lt

theorem not_le {x y : Binary64} : ¬ x ≤ y ↔ y < x := Int.not_le

end Binary64

namespace Outcome

@[simp] theorem findings_empty : empty.findings = [] := rfl

@[simp] theorem events_empty : empty.events = [] := rfl

@[simp] theorem findings_append (a b : Outcome) :
    (a ++ b).findings = a.findings ++ b.findings := rfl

@[simp] theorem events_append (a b : Outcome) : (a ++ b).events = a.events ++ b.events := rfl

@[simp] theorem findings_concat (outcomes : List Outcome) :
    (concat outcomes).findings = outcomes.flatMap findings := rfl

@[simp] theorem events_concat (outcomes : List Outcome) :
    (concat outcomes).events = outcomes.flatMap events := rfl

@[simp] theorem findings_located (path : Path) (violations : List Violation) :
    (located path violations).findings = violations.map (Finding.mk path) := rfl

@[simp] theorem events_located (path : Path) (violations : List Violation) :
    (located path violations).events = [] := rfl

theorem passes_iff (outcome : Outcome) : outcome.passes = true ↔ outcome.findings = [] :=
  List.isEmpty_iff

@[simp] theorem passes_empty : empty.passes = true := rfl

theorem passes_append (a b : Outcome) :
    (a ++ b).passes = true ↔ a.passes = true ∧ b.passes = true := by
  simp only [passes_iff, findings_append, List.append_eq_nil_iff]

theorem passes_concat (outcomes : List Outcome) :
    (concat outcomes).passes = true ↔ ∀ outcome ∈ outcomes, outcome.passes = true := by
  simp only [passes_iff, findings_concat, List.flatMap_eq_nil_iff]

theorem passes_located (path : Path) (violations : List Violation) :
    (located path violations).passes = true ↔ violations = [] := by
  simp [passes_iff]

end Outcome

private theorem firstPassing_found (run : Schema → Outcome) (branches : List Schema) :
    (firstPassing run branches).1 = branches.any fun branch => (run branch).passes := by
  induction branches with
  | nil => rfl
  | cons branch rest ih => by_cases passed : (run branch).passes <;> simp [firstPassing, passed, ih]

theorem findings_anyOutcome (run : Schema → Outcome) (path : Path) (branches : List Schema) :
    (anyOutcome run path branches).findings =
      if branches = [] ∨ branches.any (fun branch => (run branch).passes) then []
      else [⟨path, .matchesNoBranch⟩] := by
  cases branches with
  | nil => simp [anyOutcome]
  | cons branch rest => simp only [anyOutcome, firstPassing_found, reduceCtorEq, false_or]; rfl

theorem findings_oneOutcome (run : Schema → Outcome) (path : Path) (branches : List Schema) :
    (oneOutcome run path branches).findings =
      if branches = [] ∨ branches.countP (fun branch => (run branch).passes) = 1 then []
      else [⟨path, .matchesNotOneBranch⟩] := by
  cases branches with
  | nil => simp [oneOutcome]
  | cons branch rest =>
    have counted : ((branch :: rest).map run).countP Outcome.passes =
        (branch :: rest).countP fun branch => (run branch).passes := List.countP_map
    rw [← counted]
    simp [oneOutcome]

theorem passes_anyOutcome (run : Schema → Outcome) (path : Path) (branches : List Schema) :
    (anyOutcome run path branches).passes = true ↔
      branches = [] ∨ ∃ branch ∈ branches, (run branch).passes = true := by
  simp [Outcome.passes_iff, findings_anyOutcome, or_iff_not_imp_left]

theorem passes_oneOutcome (run : Schema → Outcome) (path : Path) (branches : List Schema) :
    (oneOutcome run path branches).passes = true ↔
      branches = [] ∨ branches.countP (fun branch => (run branch).passes) = 1 := by
  simp [Outcome.passes_iff, findings_oneOutcome, or_iff_not_imp_left]

/-- One of the names is that of the value's kind, or `number` for an integer. -/
def Assertions.TypeHolds (assertions : Assertions) (value : Json) : Prop :=
  ∀ types, assertions.types = some types →
    ∃ name ∈ types.names, name = value.kind.name ∨ name = "number" ∧ value.kind = .integer

theorem Assertions.mismatch_eq_none_iff (assertions : Assertions) (value : Json) :
    assertions.mismatch? value = none ↔ assertions.TypeHolds value := by
  cases given : assertions.types with
  | none => simp [mismatch?, TypeHolds, given]
  | some types =>
    simp [mismatch?, TypeHolds, given, TypeSpec.admits, Kind.admittedBy, or_iff_not_imp_left]

/-- The second look at integers never finds a fraction. -/
theorem Assertions.numberViolations_eq (assertions : Assertions) (number : Json.Number) :
    assertions.numberViolations number = assertions.doubleViolations number.toBinary64 := by
  cases integral : number.isIntegral
  · simp [numberViolations, integral]
  · simp [numberViolations, Json.Number.toBinary64_isIntegral integral]

namespace Schema

theorem passes_branchOutcome (schema : Schema) (run : Schema → Outcome) (path : Path) :
    (schema.branchOutcome run path).passes = true ↔
      (∀ branch ∈ schema.allOf.getD [], (run branch).passes = true) ∧
      (schema.anyOf.getD [] = [] ∨ ∃ branch ∈ schema.anyOf.getD [], (run branch).passes = true) ∧
      (schema.oneOf.getD [] = [] ∨
        (schema.oneOf.getD []).countP (fun branch => (run branch).passes) = 1) := by
  simp only [branchOutcome, Outcome.passes_append, Outcome.passes_concat, List.forall_mem_map,
    passes_anyOutcome, passes_oneOutcome, and_assoc]

/-- A node passes if its branches and literals do, the type admits the value, and the value's own
keywords and all its children pass. -/
theorem passes_nodeOutcome (schema : Schema) (run : Evaluation) (value : Json) (path : Path) :
    (schema.nodeOutcome run value path).passes = true ↔
      (schema.branchOutcome (fun branch => run value branch path) path).passes = true ∧
      schema.assertions.literalViolations value = [] ∧
      schema.assertions.mismatch? value = none ∧
      (schema.ownOutcome value path).passes = true ∧
      (∀ child ∈ schema.children value,
        (run child.2.1 child.2.2 (path.child child.1)).passes = true) ∧
      (schema.closingOutcome value path).passes = true := by
  cases mismatch : schema.assertions.mismatch? value with
  | some violation =>
    simp [nodeOutcome, mismatch, Outcome.passes_append, Outcome.passes_located]
  | none =>
    simp only [nodeOutcome, mismatch, Outcome.passes_append, Outcome.passes_located,
      Outcome.passes_concat, List.forall_mem_map, and_assoc, true_and]

end Schema
end SchemaCheck
