import Mathlib
import SchemaCheck.Proofs.Path
import SchemaCheck.Proofs.Validation.Node

/-! The place of a value matters for the paths of its findings alone, and the limit only through
the levels that are left. -/
namespace SchemaCheck

/-- The finding of a value that stands at `base` and not at the root. -/
def Finding.movedTo (base : Path) (finding : Finding) : Finding :=
  { finding with path := base ++ finding.path }

@[simp] theorem Finding.movedTo_mk (base path : Path) (violation : Violation) :
    Finding.movedTo base ⟨path, violation⟩ = ⟨base ++ path, violation⟩ := rfl

section Local

variable (base path : Path)

theorem Outcome.findings_located_moved (violations : List Violation) :
    (located (base ++ path) violations).findings =
      (located path violations).findings.map (Finding.movedTo base) := by
  simp

theorem findings_keyFindings_moved (violation : Violation) (names : List String) :
    (keyFindings (base ++ path) violation names).findings =
      (keyFindings path violation names).findings.map (Finding.movedTo base) := by
  simp [keyFindings, Path.append_child]

theorem Assertions.findings_patternOutcome_moved (assertions : Assertions) (text : String) :
    (assertions.patternOutcome text (base ++ path)).findings =
      (assertions.patternOutcome text path).findings.map (Finding.movedTo base) := by
  unfold patternOutcome
  split
  · rfl
  · rfl
  · split
    · rfl
    · exact Outcome.findings_located_moved ..

namespace Schema

private theorem findings_ownOutcome_moved (schema : Schema) (value : Json) :
    (schema.ownOutcome value (base ++ path)).findings =
      (schema.ownOutcome value path).findings.map (Finding.movedTo base) := by
  cases value with
  | object members =>
    simp only [ownOutcome, Outcome.findings_append, findings_keyFindings_moved,
      Outcome.findings_located_moved base path, List.map_append]
  | string text =>
    simp only [ownOutcome, Assertions.stringOutcome, Outcome.findings_append,
      Assertions.findings_patternOutcome_moved, Outcome.findings_located_moved base path,
      List.map_append]
  | array items => exact Outcome.findings_located_moved ..
  | number number => exact Outcome.findings_located_moved ..
  | _ => rfl

private theorem findings_closingOutcome_moved (schema : Schema) (value : Json) :
    (schema.closingOutcome value (base ++ path)).findings =
      (schema.closingOutcome value path).findings.map (Finding.movedTo base) := by
  cases value with
  | object members => exact findings_keyFindings_moved ..
  | _ => rfl

end Schema

end Local

section Node

variable {base : Path} {run other : Evaluation}

/-- Moved findings are as many, so that branches keep their verdicts. -/
theorem passes_eq_of_moved {outcome moved : Outcome}
    (same : moved.findings = outcome.findings.map (Finding.movedTo base)) :
    moved.passes = outcome.passes := by
  simp [Outcome.passes, same]

namespace Schema

theorem findings_branchOutcome_moved (schema : Schema) (value : Json) (path : Path)
    (moved : ∀ branch, (run value branch (base ++ path)).findings =
      (other value branch path).findings.map (Finding.movedTo base)) :
    (schema.branchOutcome (run value · (base ++ path)) (base ++ path)).findings =
      (schema.branchOutcome (other value · path) path).findings.map (Finding.movedTo base) := by
  have verdicts (branch : Schema) :
      (run value branch (base ++ path)).passes = (other value branch path).passes :=
    passes_eq_of_moved (moved branch)
  simp only [branchOutcome, Outcome.findings_append, Outcome.findings_concat, List.flatMap_map,
    findings_anyOutcome, findings_oneOutcome, moved, verdicts, List.map_append, List.map_flatMap]
  congr 2
  · split <;> rfl
  · split <;> rfl

theorem findings_nodeOutcome_moved (schema : Schema) (value : Json) (path : Path)
    (moved : ∀ value schema path, (run value schema (base ++ path)).findings =
      (other value schema path).findings.map (Finding.movedTo base)) :
    (schema.nodeOutcome run value (base ++ path)).findings =
      (schema.nodeOutcome other value path).findings.map (Finding.movedTo base) := by
  have branches := schema.findings_branchOutcome_moved value path (moved value · path)
  cases mismatch : schema.assertions.mismatch? value with
  | some violation =>
    simp only [nodeOutcome, mismatch, Outcome.findings_append, branches,
      Outcome.findings_located_moved base path, List.map_append]
  | none =>
    simp only [nodeOutcome, mismatch, Outcome.findings_append, branches,
      Outcome.findings_located_moved base path, findings_ownOutcome_moved,
      findings_closingOutcome_moved, Outcome.findings_concat, List.flatMap_map, List.map_append,
      List.map_flatMap, ← Path.append_child, moved]

end Schema

end Node

theorem findings_evaluate_append (limit other budget : Nat) (value : Json) (schema : Schema)
    (base path : Path) :
    (evaluate limit budget value schema (base ++ path)).findings =
      (evaluate other budget value schema path).findings.map (Finding.movedTo base) := by
  induction budget generalizing value schema path with
  | zero => rfl
  | succ budget ih => exact schema.findings_nodeOutcome_moved value path ih

/-- With the same levels left, a value brings up at any place what it brings up at the root. The
limit itself only shows in what is noted. -/
theorem findings_evaluate (limit other budget : Nat) (value : Json) (schema : Schema)
    (path : Path) :
    (evaluate limit budget value schema path).findings =
      (evaluate other budget value schema []).findings.map (Finding.movedTo path) := by
  simpa using findings_evaluate_append limit other budget value schema path []

end SchemaCheck
