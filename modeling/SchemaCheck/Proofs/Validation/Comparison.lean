import Mathlib
import SchemaCheck.Proofs.Matching
import SchemaCheck.Proofs.Json.Members
import SchemaCheck.Proofs.Schema.Tree
import SchemaCheck.Proofs.Validation.Node

/-! Two evaluations part by part. Where the parts agree in what they find, so do the nodes; whether
the findings are the same or the same in another order makes no difference to the argument. -/
namespace SchemaCheck

/-- A way for findings to agree that joins parts in order and that no verdict tells apart. -/
structure Joining (agree : List Finding → List Finding → Prop) : Prop where
  refl (findings : List Finding) : agree findings findings
  append {first second found met : List Finding} :
    agree first second → agree found met → agree (first ++ found) (second ++ met)
  isEmpty {first second : List Finding} : agree first second → first.isEmpty = second.isEmpty

/-- One that can be followed through several comparisons. -/
structure Agreement (agree : List Finding → List Finding → Prop) : Prop extends Joining agree where
  trans {first second third : List Finding} :
    agree first second → agree second third → agree first third

theorem agreement_eq : Agreement Eq where
  refl _ := rfl
  trans := Eq.trans
  append first rest := by rw [first, rest]
  isEmpty same := by rw [same]

theorem agreement_perm : Agreement List.Perm where
  refl := .refl
  trans := .trans
  append := .append
  isEmpty := List.Perm.isEmpty_eq

/-- What one run finds for a branch agrees with what the other finds for its twin. -/
def Agrees (agree : List Finding → List Finding → Prop) (run rerun : Schema → Outcome)
    (branch twin : Schema) : Prop :=
  agree (run branch).findings (rerun twin).findings

namespace Joining

variable {agree : List Finding → List Finding → Prop} (law : Joining agree)

include law

theorem flatMap {α β : Type} {related : α → β → Prop} {items : List α} {others : List β}
    (each : List.Forall₂ related items others) {found : α → List Finding} {met : β → List Finding}
    (same : ∀ item other, related item other → agree (found item) (met other)) :
    agree (items.flatMap found) (others.flatMap met) := by
  induction each with
  | nil => exact law.refl []
  | cons one _ ih => exact law.append (same _ _ one) ih

section Branches

variable {run rerun : Schema → Outcome} {branches others : List Schema}

/-- Only the verdicts of branches count, and neither `anyOf` nor `oneOf` looks at their order. -/
theorem verdicts_perm (matched : Matched (Agrees agree run rerun) branches others) :
    (branches.map fun branch => (run branch).passes).Perm
      (others.map fun branch => (rerun branch).passes) :=
  matched.map_perm fun _ _ same => law.isEmpty same

private theorem findings_anyOutcome_eq (path : Path)
    (matched : Matched (Agrees agree run rerun) branches others) :
    (anyOutcome run path branches).findings = (anyOutcome rerun path others).findings := by
  have verdicts := law.verdicts_perm matched
  have some : branches.any (fun branch => (run branch).passes) =
      others.any fun branch => (rerun branch).passes := by
    simpa using verdicts.any_eq (f := id)
  simp only [findings_anyOutcome, matched.eq_nil_iff, some]

private theorem findings_oneOutcome_eq (path : Path)
    (matched : Matched (Agrees agree run rerun) branches others) :
    (oneOutcome run path branches).findings = (oneOutcome rerun path others).findings := by
  have verdicts := law.verdicts_perm matched
  have count : branches.countP (fun branch => (run branch).passes) =
      others.countP fun branch => (rerun branch).passes := by
    simpa [List.countP_map, Function.comp_def] using verdicts.countP_eq id
  simp only [findings_oneOutcome, matched.eq_nil_iff, count]

end Branches

theorem branchOutcome {schema other : Schema} {run rerun : Schema → Outcome} (path : Path)
    (allOf : List.Forall₂ (Agrees agree run rerun) (schema.allOf.getD []) (other.allOf.getD []))
    (anyOf : Matched (Agrees agree run rerun) (schema.anyOf.getD []) (other.anyOf.getD []))
    (oneOf : Matched (Agrees agree run rerun) (schema.oneOf.getD []) (other.oneOf.getD [])) :
    agree (schema.branchOutcome run path).findings (other.branchOutcome rerun path).findings := by
  simp only [Schema.branchOutcome, Outcome.findings_append, Outcome.findings_concat,
    List.flatMap_map, law.findings_anyOutcome_eq path anyOf, law.findings_oneOutcome_eq path oneOf]
  exact law.append (law.append (law.flatMap allOf fun _ _ => id) (law.refl _)) (law.refl _)

/-- Nodes agree if the types admit the same and everything else agrees part by part. -/
theorem nodeOutcome_of_parts {schema other : Schema} {run rerun : Evaluation} {value moved : Json}
    {path : Path}
    (branches : agree (schema.branchOutcome (fun branch => run value branch path) path).findings
      (other.branchOutcome (fun branch => rerun moved branch path) path).findings)
    (literals : agree (Outcome.located path (schema.assertions.literalViolations value)).findings
      (Outcome.located path (other.assertions.literalViolations moved)).findings)
    (types : schema.assertions.mismatch? value = other.assertions.mismatch? moved)
    (own : agree (schema.ownOutcome value path).findings (other.ownOutcome moved path).findings)
    (children : agree
      ((schema.children value).flatMap fun child =>
        (run child.2.1 child.2.2 (path.child child.1)).findings)
      ((other.children moved).flatMap fun child =>
        (rerun child.2.1 child.2.2 (path.child child.1)).findings))
    (closing : agree (schema.closingOutcome value path).findings
      (other.closingOutcome moved path).findings) :
    agree (schema.nodeOutcome run value path).findings
      (other.nodeOutcome rerun moved path).findings := by
  simp only [Schema.nodeOutcome, types]
  have general := law.append branches literals
  cases other.assertions.mismatch? moved with
  | some violation => exact law.append general (law.refl _)
  | none =>
    simp only [Outcome.findings_append, Outcome.findings_concat, List.flatMap_map]
    exact law.append (law.append (law.append general own) children) closing

/-- Nodes agree if they agree on branches, children and extra members and find the same on their
own. -/
theorem nodeOutcome {schema other : Schema} {run rerun : Evaluation} {value moved : Json}
    {path : Path}
    (branches : agree (schema.branchOutcome (fun branch => run value branch path) path).findings
      (other.branchOutcome (fun branch => rerun moved branch path) path).findings)
    (literals : schema.assertions.literalViolations value =
      other.assertions.literalViolations moved)
    (types : schema.assertions.mismatch? value = other.assertions.mismatch? moved)
    (own : (schema.ownOutcome value path).findings = (other.ownOutcome moved path).findings)
    (children : agree
      ((schema.children value).flatMap fun child =>
        (run child.2.1 child.2.2 (path.child child.1)).findings)
      ((other.children moved).flatMap fun child =>
        (rerun child.2.1 child.2.2 (path.child child.1)).findings))
    (closing : agree (schema.closingOutcome value path).findings
      (other.closingOutcome moved path).findings) :
    agree (schema.nodeOutcome run value path).findings
      (other.nodeOutcome rerun moved path).findings :=
  law.nodeOutcome_of_parts branches (literals ▸ law.refl _) types (own ▸ law.refl _) children
    closing

end Joining

private theorem forall₂_mapIdx {α β γ δ : Type} {related : α → β → Prop} {holds : γ → δ → Prop}
    {items : List α} {others : List β} (each : List.Forall₂ related items others)
    {first : Nat → α → γ} {second : Nat → β → δ}
    (same : ∀ position item other, related item other →
      holds (first position item) (second position other)) :
    List.Forall₂ holds (items.mapIdx first) (others.mapIdx second) := by
  induction each generalizing first second with
  | nil => exact .nil
  | cons one _ ih =>
    rw [List.mapIdx_cons, List.mapIdx_cons]
    exact .cons (same 0 _ _ one) (ih fun position => same (position + 1))

/-- The same step, and values and schemas that are related. -/
structure Beside (values : Json → Json → Prop) (schemas : Schema → Schema → Prop)
    (child other : Step × Json × Schema) : Prop where
  step : child.1 = other.1
  value : values child.2.1 other.2.1
  schema : schemas child.2.2 other.2.2

section Children

variable {values : Json → Json → Prop} {schemas : Schema → Schema → Prop} {schema other : Schema}

/-- A declared property is present on both sides or on neither. -/
theorem declaredChild_beside {members moved : List (String × Json)}
    (found : ∀ key, Option.Rel values (members.lookup key) (moved.lookup key))
    {entry twin : String × Schema} (same : Named schemas entry twin) :
    Option.Rel (Beside values schemas)
      ((members.lookup entry.1).map fun value => (.key entry.1, value, entry.2))
      ((moved.lookup twin.1).map fun value => (.key twin.1, value, twin.2)) := by
  cases same with
  | intro alike => exact rel_map (found _) fun value twin related => ⟨rfl, related, alike⟩

theorem declaredChildren_beside {members moved : List (String × Json)}
    (declared : List.Forall₂ (Named schemas) schema.declared other.declared)
    (found : ∀ key, Option.Rel values (members.lookup key) (moved.lookup key)) :
    List.Forall₂ (Beside values schemas) (schema.declaredChildren members)
      (other.declaredChildren moved) :=
  List.rel_filterMap (fun _ _ same => declaredChild_beside found same) declared

theorem declaredChildren_matched {members moved : List (String × Json)}
    (declared : Matched (Named schemas) schema.declared other.declared)
    (found : ∀ key, Option.Rel values (members.lookup key) (moved.lookup key)) :
    Matched (Beside values schemas) (schema.declaredChildren members)
      (other.declaredChildren moved) :=
  declared.filterMap fun _ _ same => declaredChild_beside found same

theorem declares_eq_of_perm
    (names : (schema.declared.map Prod.fst).Perm (other.declared.map Prod.fst)) (key : String) :
    schema.declares key = other.declares key := by
  rw [Bool.eq_iff_iff, Schema.declares, Schema.declares, Option.isSome_iff_ne_none,
    Option.isSome_iff_ne_none, ne_eq, ne_eq, lookup_eq_none_iff_not_mem,
    lookup_eq_none_iff_not_mem, names.mem_iff]

section Extras

variable (declares : ∀ key, schema.declares key = other.declares key)
  {members moved : List (String × Json)} (each : List.Forall₂ (Named values) members moved)

include declares each

theorem extras_named :
    List.Forall₂ (Named values) (schema.extras members) (other.extras moved) := by
  simp only [Schema.extras, declares]
  exact Named.filter each fun key => !other.declares key

theorem extraChildren_beside
    (additional : Option.Rel (Additional.Rel schemas) schema.additional other.additional) :
    List.Forall₂ (Beside values schemas) (schema.extraChildren members)
      (other.extraChildren moved) := by
  rw [Schema.extraChildren, Schema.extraChildren]
  generalize schema.additional = given, other.additional = regiven at additional
  cases additional with
  | none => exact .nil
  | some alike =>
    cases alike with
    | allowed flag => exact .nil
    | schema below =>
      refine List.rel_map (fun entry twin same => ?_) (extras_named declares each)
      cases same with
      | intro value => exact ⟨rfl, value, below⟩

theorem forbiddenNames_eq
    (additional : Option.Rel (Additional.Rel schemas) schema.additional other.additional) :
    schema.forbiddenNames members = other.forbiddenNames moved := by
  rw [Schema.forbiddenNames, Schema.forbiddenNames, Named.map_fst (extras_named declares each)]
  generalize schema.additional = given, other.additional = regiven at additional
  cases additional with
  | none => rfl
  | some alike => cases alike <;> rfl

end Extras

theorem itemChildren_beside {items others : List Json}
    (described : Option.Rel schemas schema.items other.items)
    (each : List.Forall₂ values items others) :
    List.Forall₂ (Beside values schemas) (schema.itemChildren items)
      (other.itemChildren others) := by
  rw [Schema.itemChildren, Schema.itemChildren]
  revert described
  rcases schema.items with _ | child <;> rcases other.items with _ | below <;> rintro ⟨⟩
  · exact .nil
  · exact forall₂_mapIdx each fun position item other value => ⟨rfl, value, ‹_›⟩

end Children
end SchemaCheck
