import Mathlib
import SchemaCheck.Validation.Walk
import SchemaCheck.Proofs.Json.Members
import SchemaCheck.Proofs.Schema.Tree

/-! The values below a value, and the schemas they have to meet. -/
namespace SchemaCheck

namespace Schema

theorem declares_eq_false_iff (schema : Schema) (key : String) :
    schema.declares key = false ↔ key ∉ schema.declared.map Prod.fst := by
  rw [declares, Option.isSome_eq_false_iff, Option.isNone_iff_eq_none, lookup_eq_none_iff_not_mem]

theorem mem_extras {schema : Schema} {members : List (String × Json)} {member : String × Json} :
    member ∈ schema.extras members ↔
      member ∈ members ∧ member.1 ∉ schema.declared.map Prod.fst := by
  rw [extras, List.mem_filter, ← declares_eq_false_iff, Bool.not_eq_true']

theorem mem_declaredChildren {schema : Schema} {members : List (String × Json)}
    {child : Step × Json × Schema} :
    child ∈ schema.declaredChildren members ↔
      ∃ key below item, (key, below) ∈ schema.declared ∧ members.lookup key = some item ∧
        child = (.key key, item, below) := by
  simp only [declaredChildren, List.mem_filterMap, Option.map_eq_some_iff, Prod.exists]
  grind

theorem mem_extraChildren {schema : Schema} {members : List (String × Json)}
    {child : Step × Json × Schema} :
    child ∈ schema.extraChildren members ↔
      ∃ key item below, schema.additional = some (.schema below) ∧
        (key, item) ∈ schema.extras members ∧ child = (.key key, item, below) := by
  rcases found : schema.additional with _ | _ | below
  · simp [extraChildren, found]
  · simp [extraChildren, found]
  · simp only [extraChildren, found, List.mem_map, Prod.exists]
    grind

theorem mem_itemChildren {schema : Schema} {items : List Json} {child : Step × Json × Schema} :
    child ∈ schema.itemChildren items ↔
      ∃ position item below, schema.items = some below ∧ items[position]? = some item ∧
        child = (.index position, item, below) := by
  cases found : schema.items with
  | none => simp [itemChildren, found]
  | some below =>
    simp only [itemChildren, found, List.mem_mapIdx]
    grind

/-- Every child stands under a keyword of the schema. -/
theorem mem_subschemas_of_mem_children {schema : Schema} {value : Json}
    {child : Step × Json × Schema} (member : child ∈ schema.children value) :
    child.2.2 ∈ schema.subschemas := by
  rw [mem_subschemas]
  cases value with
  | object members =>
    rcases List.mem_append.mp member with declared | extra
    · obtain ⟨key, below, item, found, _, rfl⟩ := mem_declaredChildren.mp declared
      exact .inl ⟨key, found⟩
    · obtain ⟨key, item, below, found, _, rfl⟩ := mem_extraChildren.mp extra
      exact .inr (.inl found)
  | array items =>
    obtain ⟨position, item, below, found, _, rfl⟩ := mem_itemChildren.mp member
    exact .inr (.inr (.inl found))
  | _ => cases member

end Schema
end SchemaCheck
