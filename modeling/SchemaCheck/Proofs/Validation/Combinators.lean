import Mathlib
import SchemaCheck.Proofs.Validation.Placement

/-! A report from the reports of the branches, which have one level less. -/
namespace SchemaCheck

namespace Schema

/-- The same node without `allOf`, `anyOf` and `oneOf`. -/
def withoutBranches (schema : Schema) : Schema :=
  { schema with allOf := none, anyOf := none, oneOf := none }

theorem branchOutcome_withoutBranches (schema : Schema) (run : Schema → Outcome) (path : Path) :
    schema.withoutBranches.branchOutcome run path = .empty := rfl

/-- The branches come first, and nothing else of the node looks at them. -/
private theorem findings_nodeOutcome_eq (schema : Schema) (run : Evaluation) (value : Json)
    (path : Path) :
    (schema.nodeOutcome run value path).findings =
      (schema.branchOutcome (run value · path) path).findings ++
        (schema.withoutBranches.nodeOutcome run value path).findings := by
  have assertions : schema.withoutBranches.assertions = schema.assertions := rfl
  cases mismatch : schema.assertions.mismatch? value with
  | some violation =>
    simp only [nodeOutcome, assertions, mismatch, branchOutcome_withoutBranches,
      Outcome.findings_append, Outcome.findings_empty, List.nil_append, List.append_assoc]
  | none =>
    have own : schema.withoutBranches.ownOutcome value path = schema.ownOutcome value path := rfl
    have children : schema.withoutBranches.children value = schema.children value := rfl
    have closing :
        schema.withoutBranches.closingOutcome value path = schema.closingOutcome value path := rfl
    simp only [nodeOutcome, assertions, mismatch, branchOutcome_withoutBranches, own, children,
      closing, Outcome.findings_append, Outcome.findings_empty, List.nil_append,
      List.append_assoc]

/-- The issue of `anyOf` or `oneOf` is there if there are branches and their reports call for it. -/
private theorem branchIssues_eq_ite (schema : Schema) (run : Schema → List Issue) (place : String) :
    schema.branchIssues run place =
      (schema.allOf.getD []).flatMap run ++
      (if schema.anyOf.getD [] ≠ [] ∧ ∀ branch ∈ schema.anyOf.getD [], run branch ≠ []
        then [⟨place, Violation.matchesNoBranch.message⟩] else []) ++
      (if schema.oneOf.getD [] ≠ [] ∧
          (schema.oneOf.getD []).countP (fun branch => run branch = []) ≠ 1
        then [⟨place, Violation.matchesNotOneBranch.message⟩] else []) := by
  have empty (branch : Schema) : (run branch).isEmpty = decide (run branch = []) := by
    rw [Bool.eq_iff_iff, List.isEmpty_iff, decide_eq_true_iff]
  have none : ¬ (schema.anyOf.getD [] = [] ∨
        (schema.anyOf.getD []).any (fun branch => (run branch).isEmpty)) ↔
      schema.anyOf.getD [] ≠ [] ∧ ∀ branch ∈ schema.anyOf.getD [], run branch ≠ [] := by
    simp
  have several : ¬ (schema.oneOf.getD [] = [] ∨
        (schema.oneOf.getD []).countP (fun branch => (run branch).isEmpty) = 1) ↔
      schema.oneOf.getD [] ≠ [] ∧
        (schema.oneOf.getD []).countP (fun branch => run branch = []) ≠ 1 := by
    simp only [empty, not_or, ne_eq]
  refine congrArg₂ (· ++ ·) (congrArg (_ ++ ·) ?any) ?one
  case any => exact (ite_not ..).symm.trans (if_congr none rfl rfl)
  case one => exact (ite_not ..).symm.trans (if_congr several rfl rfl)

end Schema

/-- The branches of a node are validated like the node itself, with one level less. -/
theorem report_eq_branchIssues_append (limit : Nat) (document : Json) (schema : Schema) :
    report ⟨limit + 1⟩ document schema =
      schema.branchIssues (report ⟨limit⟩ document) "$" ++
        report ⟨limit + 1⟩ document schema.withoutBranches := by
  have branches : report ⟨limit⟩ document =
      fun branch => (evaluate (limit + 1) (limit + 1) document branch []).issuesAt "$" :=
    funext fun branch => report_eq_issuesAt ⟨limit⟩ (limit + 1) document branch
  rw [branches, Schema.branchIssues_eq, report_eq_issuesAt ⟨limit + 1⟩ (limit + 1),
    report_eq_issuesAt ⟨limit + 1⟩ (limit + 1)]
  simp only [Outcome.issuesAt, evaluate, schema.findings_nodeOutcome_eq, List.map_append]

/-- A report is that of the branches of `allOf`, one after the other, then an issue if there are
branches of `anyOf` and none of them has an empty report, then an issue if there are branches of
`oneOf` and not exactly one of them has, then that of the node without branches. The branches are
validated with one level less. -/
theorem report_eq_branches_append (limit : Nat) (document : Json) (schema : Schema) :
    report ⟨limit + 1⟩ document schema =
      (schema.allOf.getD []).flatMap (fun branch => report ⟨limit⟩ document branch) ++
      (if schema.anyOf.getD [] ≠ [] ∧
          ∀ branch ∈ schema.anyOf.getD [], report ⟨limit⟩ document branch ≠ []
        then [⟨"$", "Value does not match any of the allowed schemas"⟩] else []) ++
      (if schema.oneOf.getD [] ≠ [] ∧
          (schema.oneOf.getD []).countP (fun branch => report ⟨limit⟩ document branch = []) ≠ 1
        then [⟨"$", "Value must match exactly one schema option"⟩] else []) ++
      report ⟨limit + 1⟩ document schema.withoutBranches := by
  rw [report_eq_branchIssues_append, Schema.branchIssues_eq_ite]
  rfl

end SchemaCheck
