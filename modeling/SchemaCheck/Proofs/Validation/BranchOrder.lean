import Mathlib
import SchemaCheck.Proofs.Validation.Comparison

/-! Schemas whose `anyOf` and `oneOf` have their branches in another order. No report tells them
apart, although `anyOf` is tried only up to the first branch that passes. -/
namespace SchemaCheck

namespace Schema

/-- The same schema up to the order of branches under `anyOf` and `oneOf`, at any node. Each list of
branches is first related branch by branch and then put in order. -/
inductive Reordered : Schema → Schema → Prop where
  | node {schema other : Schema} {anyMoved oneMoved : Option (List Schema)}
      (assertions : schema.assertions = other.assertions)
      (properties : Option.Rel (List.Forall₂ (Named Reordered)) schema.properties other.properties)
      (additional : Option.Rel (Additional.Rel Reordered) schema.additional other.additional)
      (items : Option.Rel Reordered schema.items other.items)
      (allOf : Option.Rel (List.Forall₂ Reordered) schema.allOf other.allOf)
      (anyOf : Option.Rel (List.Forall₂ Reordered) schema.anyOf anyMoved)
      (anyOrder : Option.Rel List.Perm anyMoved other.anyOf)
      (oneOf : Option.Rel (List.Forall₂ Reordered) schema.oneOf oneMoved)
      (oneOrder : Option.Rel List.Perm oneMoved other.oneOf)
      (unrecognized : schema.unrecognized = other.unrecognized) :
      Reordered schema other

theorem Reordered.children_beside {schema other : Schema} (same : schema.Reordered other)
    (value : Json) :
    List.Forall₂ (Beside Eq Reordered) (schema.children value) (other.children value) := by
  cases same with
  | node _ properties additional items =>
    have declared := forall₂_getD properties
    cases value with
    | object members =>
      have declares := declares_eq_of_perm (.of_eq (Named.map_fst declared))
      exact List.rel_append (declaredChildren_beside declared (Named.lookup (named_self members)))
        (extraChildren_beside declares (named_self members) additional)
    | array values => exact itemChildren_beside items (List.forall₂_same.mpr fun _ _ => rfl)
    | _ => exact .nil

theorem Reordered.findings_nodeOutcome {schema other : Schema} (same : schema.Reordered other)
    {run : Evaluation} (value : Json) (path : Path)
    (below : ∀ {child twin : Schema}, child.Reordered twin → ∀ value path,
      (run value child path).findings = (run value twin path).findings) :
    (schema.nodeOutcome run value path).findings = (other.nodeOutcome run value path).findings := by
  have children : (schema.children value).flatMap (fun child =>
        (run child.2.1 child.2.2 (path.child child.1)).findings) =
      (other.children value).flatMap fun child =>
        (run child.2.1 child.2.2 (path.child child.1)).findings :=
    agreement_eq.flatMap (same.children_beside value) fun child twin beside => by
      rw [← beside.step, ← beside.value, below beside.schema]
  cases same with
  | node assertions properties additional items allOf anyOf anyOrder oneOf oneOrder =>
    have branch (child twin : Schema) (same : child.Reordered twin) := below same value path
    have own : schema.ownOutcome value path = other.ownOutcome value path := by
      simp only [ownOutcome, missingNames, assertions]
    have closing : schema.closingOutcome value path = other.closingOutcome value path := by
      cases value with
      | object members =>
        have declares := declares_eq_of_perm (.of_eq (Named.map_fst (forall₂_getD properties)))
        rw [closingOutcome, closingOutcome,
          forbiddenNames_eq declares (named_self members) additional]
      | _ => rfl
    refine agreement_eq.nodeOutcome ?_ (by rw [assertions]) (by rw [assertions]) (by rw [own])
      children (by rw [closing])
    exact agreement_eq.branchOutcome path ((forall₂_getD allOf).imp branch)
      ((matched_getD anyOf anyOrder).imp branch) ((matched_getD oneOf oneOrder).imp branch)

end Schema

theorem findings_evaluate_reordered (limit budget : Nat) (value : Json) {schema other : Schema}
    (same : schema.Reordered other) (path : Path) :
    (evaluate limit budget value schema path).findings =
      (evaluate limit budget value other path).findings := by
  induction budget generalizing value schema other path with
  | zero => rfl
  | succ budget ih =>
    exact same.findings_nodeOutcome value path fun same value path => ih value same path

/-- In whatever order `anyOf` and `oneOf` list their branches, the report is the same. -/
theorem branch_order_keeps_report (options : ValidationOptions) (document : Json)
    {schema other : Schema} (same : schema.Reordered other) :
    report options document schema = report options document other :=
  congrArg (List.map Finding.issue)
    (findings_evaluate_reordered options.maxDepth (options.maxDepth + 1) document same [])

/-- One branch is cut by the limit, and the inner branches stand in another order too. -/
theorem branch_order_keeps_report_nested :
    let leaf (name : String) : Schema :=
      ⟨{ types := some (.single name) }, none, none, none, none, none, none, []⟩
    let one (branches : List Schema) : Schema :=
      ⟨{}, none, none, none, none, none, some branches, []⟩
    let deep : Schema := ⟨{}, none, none, none, some [leaf "object"], none, none, []⟩
    let first := one [leaf "string", leaf "boolean"]
    let second := one [leaf "boolean", leaf "string"]
    let schema : Schema := ⟨{}, some [("a", first)], none, none, none, some [deep, first], none, []⟩
    let other : Schema :=
      ⟨{}, some [("a", second)], none, none, none, some [second, deep], none, []⟩
    let document : Json := .object [("a", .null)]
    schema.Reordered other ∧
      report ⟨1⟩ document schema = [⟨"$", "Value does not match any of the allowed schemas"⟩,
        ⟨"$.a", "Value must match exactly one schema option"⟩] ∧
      report ⟨1⟩ document schema = report ⟨1⟩ document other := by
  intro leaf one deep first second schema other document
  have same (name : String) : (leaf name).Reordered (leaf name) :=
    .node rfl .none .none .none .none .none .none .none .none rfl
  have inner : first.Reordered second :=
    .node rfl .none .none .none .none .none .none
      (.some (.cons (same "string") (.cons (same "boolean") .nil))) (.some (.swap ..)) rfl
  have cut : deep.Reordered deep :=
    .node rfl .none .none .none (.some (.cons (same "object") .nil)) .none .none .none .none rfl
  have outer : schema.Reordered other :=
    .node rfl (.some (.cons (.intro inner) .nil)) .none .none .none
      (.some (.cons cut (.cons inner .nil))) (.some (.swap ..)) .none .none rfl
  exact ⟨outer, by decide, branch_order_keeps_report ⟨1⟩ document outer⟩

end SchemaCheck
