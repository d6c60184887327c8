import Mathlib
import SchemaCheck.Proofs.Validation.Fault

/-! The findings of one node, keyword by keyword. -/
namespace SchemaCheck

/-- Keywords of the value's own kind, without the members that are not allowed. -/
def ownKeywords : List Keyword :=
  [.required, .bound .minProperties, .bound .maxProperties, .bound .minItems, .bound .maxItems,
    .bound .minLength, .bound .maxLength, .pattern, .format, .bound .minimum, .bound .maximum,
    .bound .exclusiveMinimum, .bound .exclusiveMaximum, .bound .multipleOf]

/-- In the order of evaluation. The keywords that descend into children find nothing themselves. -/
def evaluationOrder : List Keyword :=
  [.anyOf, .oneOf, .constant, .enumeration, .types] ++ ownKeywords ++ [.additionalProperties]

theorem Breaks.mem_evaluationOrder {judge : Schema → Bool} {visit : Visit} {keyword : Keyword}
    {entry : Nat} {finding : Finding} (broken : Breaks judge visit keyword entry finding) :
    keyword ∈ evaluationOrder := by
  cases broken with
  | bound typed given applies broken => rename_i bound _ _; cases bound <;> decide
  | _ => decide

namespace Visit

def found (judge : Schema → Bool) (visit : Visit) (keyword : Keyword) : List Finding :=
  (visit.faults judge keyword).map Prod.snd

variable (judge : Schema → Bool) (visit : Visit)

/-- Without the right type nothing of the value's own kind is looked at. -/
theorem found_of_not_typed (untyped : visit.typed = false) :
    ownKeywords.flatMap (visit.found judge) = [] ∧
      visit.found judge .additionalProperties = [] := by
  simp [found, ownKeywords, faults, violation?, keyFaults, untyped]

theorem found_bound (typed : visit.typed = true) (bound : Bound) :
    visit.found judge (.bound bound) =
      match bound.measure? visit.value with
      | some measured =>
        (visit.schema.assertions.breach bound (bound.brokenBy measured) bound.violation).map
          (Finding.mk visit.path)
      | none => [] := by
  cases applies : bound.measure? visit.value with
  | none => simp [found, faults, violation?, keyFaults, applies]
  | some measured =>
    cases given : visit.schema.assertions.bound bound with
    | none => simp [found, faults, violation?, keyFaults, given, Assertions.breach]
    | some limit =>
      cases broken : bound.brokenBy measured limit <;>
        simp [found, faults, violation?, keyFaults, typed, applies, given, broken,
          Assertions.breach]

theorem found_pattern (typed : visit.typed = true) :
    visit.found judge .pattern =
      match visit.value with
      | .string text => (visit.schema.assertions.patternOutcome text visit.path).findings
      | _ => [] := by
  obtain ⟨path, value, schema⟩ := visit
  cases value with
  | string text =>
    cases given : schema.assertions.pattern with
    | none => simp [found, faults, violation?, keyFaults, given, Assertions.patternOutcome]
    | some source =>
      by_cases blank : source = ""
      · simp [found, faults, violation?, keyFaults, given, blank, Assertions.patternOutcome]
      · cases compiled : Pattern.compile? source with
        | none =>
          simp [found, faults, violation?, keyFaults, typed, Json.asString?, given, blank, compiled,
            Assertions.patternOutcome]
        | some pattern =>
          cases matched : pattern.foundIn text <;>
            simp [found, faults, violation?, keyFaults, typed, Json.asString?, given, blank,
              compiled, matched, Assertions.patternOutcome]
  | _ => simp [found, faults, violation?, keyFaults, Json.asString?]

theorem found_format (typed : visit.typed = true) :
    visit.found judge .format =
      match visit.value with
      | .string text => (visit.schema.assertions.formatViolations text).map (Finding.mk visit.path)
      | _ => [] := by
  obtain ⟨path, value, schema⟩ := visit
  cases value with
  | string text =>
    cases known : schema.assertions.format.bind Format.ofName? with
    | none => simp [found, faults, violation?, keyFaults, known, Assertions.formatViolations]
    | some format =>
      cases accepted : format.accepts text <;>
        simp [found, faults, violation?, keyFaults, typed, Json.asString?, known, accepted,
          Assertions.formatViolations]
  | _ => simp [found, faults, violation?, keyFaults, Json.asString?]

theorem found_required (typed : visit.typed = true) :
    visit.found judge .required =
      match visit.value with
      | .object members =>
        (keyFindings visit.path .missing (visit.schema.missingNames members)).findings
      | _ => [] := by
  obtain ⟨path, value, schema⟩ := visit
  cases value with
  | object members =>
    have missing := map_snd_positioned_guarded (fun name => (members.lookup name).isNone)
      (fun name => some (Finding.mk (path.child (.key name)) .missing))
      (schema.assertions.required.getD [])
    simp only [found, faults, violation?, keyFaults, typed, Option.map_none, Option.toList_none,
      List.nil_append, missing]
    exact congrFun List.filterMap_eq_map _
  | _ => simp [found, faults, violation?, keyFaults]

theorem found_additionalProperties (typed : visit.typed = true) :
    visit.found judge .additionalProperties =
      (visit.schema.closingOutcome visit.value visit.path).findings := by
  obtain ⟨path, value, schema⟩ := visit
  cases value with
  | object members =>
    have undeclared := map_snd_positioned_guarded
      (fun member : String × Json => !schema.declares member.1)
      (fun member => some (Finding.mk (path.child (.key member.1)) .notAllowed)) members
    simp only [found, faults, violation?, keyFaults, typed, Option.map_none, Option.toList_none,
      List.nil_append, Schema.closingOutcome, Schema.forbiddenNames, keyFindings]
    rcases schema.additional with _ | flag | child
    · rfl
    · cases flag with
      | false => exact undeclared.trans (by simp [Schema.extras, Function.comp_def])
      | true => rfl
    · rfl
  | _ => simp [found, faults, violation?, keyFaults, Schema.closingOutcome]

/-- In the order of evaluation, the own keywords find what the node itself brings up. -/
theorem found_ownKeywords (typed : visit.typed = true) :
    ownKeywords.flatMap (visit.found judge) =
      (visit.schema.ownOutcome visit.value visit.path).findings := by
  simp only [ownKeywords, List.flatMap_cons, List.flatMap_nil, found_required _ _ typed,
    found_bound _ _ typed, found_pattern _ _ typed, found_format _ _ typed]
  cases visit.value with
  | number number =>
    simp [Bound.measure?, Schema.ownOutcome, Assertions.numberViolations_eq,
      Assertions.doubleViolations, Bound.brokenBy, Bound.violation]
  | _ =>
    simp [Bound.measure?, Schema.ownOutcome, Assertions.countViolations, Bound.brokenBy,
      Bound.violation, Assertions.stringOutcome]

theorem found_anyOf (run : Schema → Outcome) :
    visit.found (fun branch => (run branch).passes) .anyOf =
      (anyOutcome run visit.path (visit.schema.anyOf.getD [])).findings := by
  rw [findings_anyOutcome]
  simp only [found, faults, violation?, keyFaults]
  split <;> rfl

theorem found_oneOf (run : Schema → Outcome) :
    visit.found (fun branch => (run branch).passes) .oneOf =
      (oneOutcome run visit.path (visit.schema.oneOf.getD [])).findings := by
  rw [findings_oneOutcome]
  simp only [found, faults, violation?, keyFaults]
  split <;> rfl

theorem found_literals :
    visit.found judge .constant ++ visit.found judge .enumeration =
      (visit.schema.assertions.literalViolations visit.value).map (Finding.mk visit.path) := by
  rw [Assertions.literalViolations, List.map_append]
  congr 1
  · cases given : visit.schema.assertions.constant with
    | none => simp [found, faults, violation?, keyFaults, given]
    | some literal =>
      cases same : visit.value.identical literal <;>
        simp [found, faults, violation?, keyFaults, given, same]
  · cases given : visit.schema.assertions.enumeration with
    | none => simp [found, faults, violation?, keyFaults, given]
    | some literals =>
      by_cases same : ∃ literal ∈ literals, visit.value.identical literal = true <;>
        simp [found, faults, violation?, keyFaults, given, same]

theorem found_types :
    visit.found judge .types =
      (visit.schema.assertions.mismatch? visit.value).toList.map (Finding.mk visit.path) := by
  cases mismatch : visit.schema.assertions.mismatch? visit.value <;>
    simp [found, faults, violation?, keyFaults, mismatch]

private theorem found_branches (run : Evaluation) :
    (visit.branchTurns.flatMap fun (_, below) =>
        (run below.value below.schema below.path).findings) =
      (Outcome.concat ((visit.schema.allOf.getD []).map fun branch =>
        run visit.value branch visit.path)).findings := by
  have turned := congrArg
    (List.flatMap fun below : Visit => (run below.value below.schema below.path).findings)
    visit.map_snd_branchTurns
  simpa [List.flatMap_map] using turned

private theorem found_children (run : Evaluation) :
    (visit.childTurns.flatMap fun (_, below) =>
        (run below.value below.schema below.path).findings) =
      (Outcome.concat ((visit.schema.children visit.value).map fun (step, child, below) =>
        run child below (visit.path.child step))).findings := by
  have turned := congrArg
    (List.flatMap fun below : Visit => (run below.value below.schema below.path).findings)
    visit.map_snd_childTurns
  simpa [List.flatMap_map] using turned

/-- What a node finds is what its keywords find, with everything found below. -/
theorem findings_nodeOutcome_perm (run : Evaluation) :
    (visit.schema.nodeOutcome run visit.value visit.path).findings.Perm
      (evaluationOrder.flatMap
          (visit.found fun branch => (run visit.value branch visit.path).passes) ++
        visit.turns.flatMap fun (_, below) =>
          (run below.value below.schema below.path).findings) := by
  have literals := visit.found_literals fun branch => (run visit.value branch visit.path).passes
  simp only [Schema.nodeOutcome, Schema.branchOutcome, evaluationOrder, List.flatMap_append,
    List.flatMap_cons, List.flatMap_nil, List.append_nil, found_anyOf, found_oneOf, found_types,
    turns]
  cases mismatch : visit.schema.assertions.mismatch? visit.value with
  | some violation =>
    obtain ⟨own, closing⟩ := visit.found_of_not_typed
      (fun branch => (run visit.value branch visit.path).passes) (by simp [typed, mismatch])
    simp only [own, closing, found_branches, Outcome.findings_append, Outcome.findings_located,
      ← literals, ← Multiset.coe_eq_coe, ← Multiset.coe_add, Multiset.coe_nil,
      Option.toList_some]
    abel
  | none =>
    have typed : visit.typed = true := by simp [Visit.typed, mismatch]
    simp only [found_ownKeywords _ _ typed, found_additionalProperties _ _ typed, found_branches,
      found_children, Outcome.findings_append, Outcome.findings_located, ← literals,
      ← Multiset.coe_eq_coe, ← Multiset.coe_add, Multiset.coe_nil, Option.toList_none,
      List.map_nil]
    abel

end Visit
end SchemaCheck
