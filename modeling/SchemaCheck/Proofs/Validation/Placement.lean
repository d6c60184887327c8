import Mathlib
import SchemaCheck.Proofs.Validation.Relocation

/-! Places as text. An evaluation that carries the text of its place and counts its depth from the
root finds what a validation of the value alone does, behind another text. -/
namespace SchemaCheck

/-- The issue of a finding whose path starts at the place. -/
def Finding.issueAt (place : String) (finding : Finding) : Issue :=
  ⟨place ++ finding.path.suffix, finding.violation.message⟩

theorem Finding.issueAt_movedTo (place : String) (base : Path) (finding : Finding) :
    (finding.movedTo base).issueAt place = finding.issueAt (place ++ base.suffix) := by
  simp only [issueAt, movedTo, Path.suffix_append, String.append_assoc]

namespace Outcome

def issuesAt (place : String) (outcome : Outcome) : List Issue :=
  outcome.findings.map (Finding.issueAt place)

theorem issuesAt_append (place : String) (a b : Outcome) :
    (a ++ b).issuesAt place = a.issuesAt place ++ b.issuesAt place :=
  List.map_append

theorem issuesAt_concat (place : String) (outcomes : List Outcome) :
    (concat outcomes).issuesAt place = outcomes.flatMap (issuesAt place) :=
  List.map_flatMap

theorem isEmpty_issuesAt (place : String) (outcome : Outcome) :
    (outcome.issuesAt place).isEmpty = outcome.passes :=
  List.isEmpty_map

theorem issuesAt_evaluate (limit other budget : Nat) (value : Json) (schema : Schema)
    (path : Path) (place : String) :
    (evaluate limit budget value schema path).issuesAt place =
      (evaluate other budget value schema []).issuesAt (place ++ path.suffix) := by
  simp only [issuesAt, findings_evaluate limit other budget value schema path, List.map_map]
  exact List.map_congr_left fun finding _ => finding.issueAt_movedTo place path

end Outcome

theorem report_eq_issuesAt (options : ValidationOptions) (limit : Nat) (document : Json)
    (schema : Schema) :
    report options document schema =
      (evaluate limit (options.maxDepth + 1) document schema []).issuesAt "$" :=
  Outcome.issuesAt_evaluate options.maxDepth limit (options.maxDepth + 1) document schema [] "$"

namespace Schema

/-- What the branches of a node bring up, with `run` for each of them. -/
def branchIssues (schema : Schema) (run : Schema → List Issue) (place : String) : List Issue :=
  let passes (branch : Schema) : Bool := (run branch).isEmpty
  (schema.allOf.getD []).flatMap run
    ++ (if schema.anyOf.getD [] = [] ∨ (schema.anyOf.getD []).any passes then []
        else [⟨place, Violation.matchesNoBranch.message⟩])
    ++ (if schema.oneOf.getD [] = [] ∨ (schema.oneOf.getD []).countP passes = 1 then []
        else [⟨place, Violation.matchesNotOneBranch.message⟩])

/-- One node at a place given as text, with `run` for everything below it. -/
def nodeIssues (schema : Schema) (run : Json → Schema → String → List Issue) (value : Json)
    (place : String) : List Issue :=
  let here (violation : Violation) : Issue := ⟨place, violation.message⟩
  let general := schema.branchIssues (run value · place) place
    ++ (schema.assertions.literalViolations value).map here
  match schema.assertions.mismatch? value with
  | some violation => general ++ [here violation]
  | none =>
    general ++ (schema.ownOutcome value []).issuesAt place
      ++ (schema.children value).flatMap (fun (step, child, below) =>
        run child below (place ++ step.render))
      ++ (schema.closingOutcome value []).issuesAt place

end Schema

/-- Evaluation so many levels below the root, at a place given as text. -/
def evaluateAt (limit depth : Nat) (value : Json) (schema : Schema) (place : String) :
    List Issue :=
  if limit < depth then [⟨place, Violation.tooDeep.message⟩]
  else schema.nodeIssues (evaluateAt limit (depth + 1)) value place
termination_by limit + 1 - depth

namespace Schema

theorem branchIssues_eq (schema : Schema) (run : Schema → Outcome) (place : String) :
    schema.branchIssues (fun branch => (run branch).issuesAt place) place =
      (schema.branchOutcome run []).issuesAt place := by
  simp only [branchIssues, branchOutcome, Outcome.issuesAt_append, Outcome.issuesAt_concat,
    Outcome.isEmpty_issuesAt, List.flatMap_map]
  congr 2
  · rw [Outcome.issuesAt, findings_anyOutcome]
    split <;> simp [Finding.issueAt]
  · rw [Outcome.issuesAt, findings_oneOutcome]
    split <;> simp [Finding.issueAt]

theorem nodeIssues_eq {run : Json → Schema → String → List Issue} {other : Evaluation}
    {place : String}
    (agree : ∀ value schema path,
      run value schema (place ++ path.suffix) = (other value schema path).issuesAt place)
    (schema : Schema) (value : Json) :
    schema.nodeIssues run value place = (schema.nodeOutcome other value []).issuesAt place := by
  have here (branch : Schema) :
      run value branch place = (other value branch []).issuesAt place := by
    simpa using agree value branch []
  have below (child : Json) (schema : Schema) (step : Step) :
      run child schema (place ++ step.render) =
        (other child schema (Path.child [] step)).issuesAt place := by
    rw [← agree, Path.suffix_child]
    simp
  have branches := schema.branchIssues_eq (other value · []) place
  have located (violations : List Violation) :
      (Outcome.located [] violations).issuesAt place =
        violations.map fun violation => ⟨place, violation.message⟩ := by
    simp [Outcome.issuesAt, Finding.issueAt, Function.comp_def]
  cases mismatch : schema.assertions.mismatch? value with
  | some violation =>
    simp only [nodeIssues, nodeOutcome, mismatch, Outcome.issuesAt_append, here, branches, located,
      List.map_singleton]
  | none =>
    simp only [nodeIssues, nodeOutcome, mismatch, Outcome.issuesAt_append, here, branches, located,
      Outcome.issuesAt_concat, List.flatMap_map, below]

end Schema

/-- The levels that are left decide; the text of the place only stands in front. -/
theorem evaluateAt_eq {limit depth levels : Nat} (left : limit + 1 - depth = levels) (value : Json)
    (schema : Schema) (place : String) :
    evaluateAt limit depth value schema place =
      (evaluate limit levels value schema []).issuesAt place := by
  induction levels generalizing depth value schema place with
  | zero =>
    rw [evaluateAt, if_pos (by omega)]
    simp [evaluate, Outcome.issuesAt, Finding.issueAt]
  | succ levels ih =>
    rw [evaluateAt, if_neg (by omega)]
    refine schema.nodeIssues_eq (fun value schema path => ?_) value
    rw [ih (by omega), ← Outcome.issuesAt_evaluate]

theorem evaluateAt_root (options : ValidationOptions) (document : Json) (schema : Schema) :
    evaluateAt options.maxDepth 0 document schema "$" = report options document schema := by
  rw [evaluateAt_eq (Nat.sub_zero _), report_eq_issuesAt options options.maxDepth]

/-- A nested evaluation is a validation of the value alone, moved to its place: its issues are those
of the validation with the levels that are left, in order, with the text of the place for `$`. -/
theorem nested_evaluation_is_validation_moved (levels : Nat) (value : Json) (schema : Schema) :
    ∃ found : List (String × String),
      report ⟨levels⟩ value schema =
        found.map (fun (rest, message) => ⟨"$" ++ rest, message⟩) ∧
      (∀ (depth : Nat) (place : String),
        evaluateAt (depth + levels) depth value schema place =
          found.map fun (rest, message) => ⟨place ++ rest, message⟩) ∧
      ∀ (depth : Nat) (path : Path),
        (evaluate (depth + levels) (levels + 1) value schema path).findings.map Finding.issue =
          found.map fun (rest, message) => ⟨path.render ++ rest, message⟩ := by
  let alone := evaluate levels (levels + 1) value schema []
  have placed (place : String) :
      alone.issuesAt place = (alone.findings.map fun finding =>
        (finding.path.suffix, finding.violation.message)).map
          fun (rest, message) => ⟨place ++ rest, message⟩ := by
    simp [Outcome.issuesAt, Finding.issueAt, Function.comp_def]
  refine ⟨_, placed "$", fun depth place => ?_, fun depth path => ?_⟩
  · rw [← placed, evaluateAt_eq (by omega : depth + levels + 1 - depth = levels + 1)]
    simpa using Outcome.issuesAt_evaluate (depth + levels) levels (levels + 1) value schema [] place
  · rw [← placed]
    exact Outcome.issuesAt_evaluate (depth + levels) levels (levels + 1) value schema path "$"

end SchemaCheck
