import Mathlib
import SchemaCheck.Validation.Validator
import SchemaCheck.Proofs.Json.Members
import SchemaCheck.Proofs.Schema.Tree

/-! Schemas without what they set aside. Validation does not tell the difference. -/
namespace SchemaCheck

def Additional.map {σ τ : Type} (change : σ → τ) : Additional σ → Additional τ
  | .allowed flag => .allowed flag
  | .schema child => .schema (change child)

namespace Schema

mutual

/-- The same schema with nothing set aside at any node. -/
def bare : Schema → Schema
  | ⟨assertions, properties, additional, items, allOf, anyOf, oneOf, _⟩ =>
    { assertions
      properties := match properties with
        | some declared => some (bareEntries declared)
        | none => none
      additional := match additional with
        | some (.allowed flag) => some (.allowed flag)
        | some (.schema child) => some (.schema (bare child))
        | none => none
      items := match items with
        | some child => some (bare child)
        | none => none
      allOf := match allOf with
        | some branches => some (bareBranches branches)
        | none => none
      anyOf := match anyOf with
        | some branches => some (bareBranches branches)
        | none => none
      oneOf := match oneOf with
        | some branches => some (bareBranches branches)
        | none => none
      unrecognized := [] }

def bareBranches : List Schema → List Schema
  | [] => []
  | branch :: rest => bare branch :: bareBranches rest

def bareEntries : List (String × Schema) → List (String × Schema)
  | [] => []
  | (key, child) :: rest => (key, bare child) :: bareEntries rest

end

private theorem bareBranches_eq_map : bareBranches = List.map bare := by
  funext branches
  induction branches with
  | nil => rfl
  | cons branch rest ih => rw [bareBranches, ih, List.map_cons]

private theorem bareEntries_eq_map : bareEntries = List.map fun (key, child) =>
    (key, child.bare) := by
  funext declared
  induction declared with
  | nil => rfl
  | cons entry rest ih => rw [bareEntries, ih, List.map_cons]

theorem bare_eq (schema : Schema) :
    schema.bare =
      { assertions := schema.assertions
        properties := schema.properties.map (List.map fun (key, child) => (key, child.bare))
        additional := schema.additional.map (Additional.map bare)
        items := schema.items.map bare
        allOf := schema.allOf.map (List.map bare)
        anyOf := schema.anyOf.map (List.map bare)
        oneOf := schema.oneOf.map (List.map bare)
        unrecognized := [] } := by
  obtain ⟨assertions, properties, additional, items, allOf, anyOf, oneOf, unrecognized⟩ := schema
  rw [← bareBranches_eq_map, ← bareEntries_eq_map]
  -- The recursion unfolds where every field is known.
  rcases properties with _ | _ <;> rcases additional with _ | _ | _ <;>
    rcases items with _ | _ <;> rcases allOf with _ | _ <;> rcases anyOf with _ | _ <;>
    rcases oneOf with _ | _ <;> rfl

theorem unrecognized_bare (schema : Schema) : schema.bare.unrecognized = [] := by rw [bare_eq]

theorem assertions_bare (schema : Schema) : schema.bare.assertions = schema.assertions := by
  rw [bare_eq]

theorem declared_bare (schema : Schema) :
    schema.bare.declared = schema.declared.map fun (key, child) => (key, child.bare) := by
  rw [declared, declared, bare_eq]
  cases schema.properties <;> rfl

theorem getD_branches_bare (branches : Option (List Schema)) :
    (branches.map (List.map bare)).getD [] = (branches.getD []).map bare := by
  cases branches <;> rfl

theorem subschemas_bare (schema : Schema) :
    schema.bare.subschemas = schema.subschemas.map bare := by
  have extra : schema.bare.extraSchema? = schema.extraSchema?.map bare := by
    rw [extraSchema?, extraSchema?, bare_eq]
    rcases schema.additional with _ | _ | _ <;> rfl
  rw [subschemas, subschemas, declared_bare, extra, bare_eq]
  simp [getD_branches_bare, Function.comp_def, Option.toList_map]

theorem unrecognized_of_contains_bare (schema : Schema) :
    ∀ node, schema.bare.Contains node → node.unrecognized = [] := by
  induction schema using Schema.induction with
  | node schema ih =>
    refine forall_contains schema.unrecognized_bare fun child below => ?_
    rw [subschemas_bare] at below
    obtain ⟨child, member, rfl⟩ := List.mem_map.mp below
    exact ih child member

theorem extras_bare (schema : Schema) (members : List (String × Json)) :
    schema.bare.extras members = schema.extras members := by
  simp [extras, declares, declared_bare, Json.lookup_map]

theorem children_bare (schema : Schema) (value : Json) :
    schema.bare.children value =
      (schema.children value).map fun (step, child, below) => (step, child, below.bare) := by
  cases value with
  | object members =>
    have declared : schema.bare.declaredChildren members =
        (schema.declaredChildren members).map fun (step, child, below) =>
          (step, child, below.bare) := by
      simp [declaredChildren, declared_bare, List.filterMap_map, List.map_filterMap,
        Function.comp_def]
    have extra : schema.bare.extraChildren members =
        (schema.extraChildren members).map fun (step, child, below) =>
          (step, child, below.bare) := by
      rw [extraChildren, extraChildren, extras_bare, bare_eq]
      rcases schema.additional with _ | _ | child <;> simp [Additional.map]
    rw [children, children, declared, extra, List.map_append]
  | array items =>
    rw [children, children, itemChildren, itemChildren, bare_eq]
    cases schema.items <;> simp [List.mapIdx_eq_zipIdx_map]
  | _ => rfl

private theorem firstPassing_map (run : Schema → Outcome) (change : Schema → Schema)
    (branches : List Schema) :
    firstPassing run (branches.map change) = firstPassing (run ∘ change) branches := by
  induction branches with
  | nil => rfl
  | cons branch rest ih => simp [firstPassing, ih]

private theorem branchOutcome_bare (schema : Schema) (run : Schema → Outcome) (path : Path) :
    schema.bare.branchOutcome run path =
      schema.branchOutcome (fun branch => run branch.bare) path := by
  rw [branchOutcome, branchOutcome, bare_eq]
  simp only [getD_branches_bare, anyOutcome, oneOutcome, firstPassing_map, List.map_map,
    List.isEmpty_map, Function.comp_def]

private theorem nodeOutcome_bare (schema : Schema) (run : Evaluation) (value : Json) (path : Path) :
    schema.bare.nodeOutcome run value path =
      schema.nodeOutcome (fun value child path => run value child.bare path) value path := by
  have own : schema.bare.ownOutcome value path = schema.ownOutcome value path := by
    simp only [ownOutcome, missingNames, assertions_bare]
  have closing : schema.bare.closingOutcome value path = schema.closingOutcome value path := by
    simp only [closingOutcome, forbiddenNames, extras_bare]
    rw [bare_eq]
    rcases schema.additional with _ | _ | _ <;> rfl
  simp only [nodeOutcome, branchOutcome_bare, assertions_bare, own, closing, children_bare,
    List.map_map, Function.comp_def]

end Schema

theorem evaluate_bare (limit budget : Nat) (value : Json) (schema : Schema) (path : Path) :
    evaluate limit budget value schema.bare path = evaluate limit budget value schema path := by
  induction budget generalizing value schema path with
  | zero => rfl
  | succ budget ih =>
    rw [evaluate, evaluate, schema.nodeOutcome_bare]
    simp only [ih]

theorem report_bare (options : ValidationOptions) (document : Json) (schema : Schema) :
    report options document schema.bare = report options document schema := by
  rw [report, report, validate, validate, evaluate_bare]

end SchemaCheck
