import Mathlib
import SchemaCheck.Schema.Basic

/-! The tree of a schema: its direct subschemas, the nodes in it, and how deep they nest. -/
namespace SchemaCheck

/-- The schema form. -/
def Additional.schema? {σ : Type} : Additional σ → Option σ
  | .schema child => some child
  | .allowed _ => none

/-- The same answer for extra members, or schemas that are related. -/
inductive Additional.Rel {σ τ : Type} (related : σ → τ → Prop) :
    Additional σ → Additional τ → Prop where
  | allowed (flag : Bool) : Rel related (.allowed flag) (.allowed flag)
  | schema {child : σ} {other : τ} (alike : related child other) :
      Rel related (.schema child) (.schema other)

namespace Schema

/-- What members that are not declared have to meet. -/
def extraSchema? (schema : Schema) : Option Schema := schema.additional.bind Additional.schema?

theorem extraSchema?_eq_some_iff {child : Schema} (schema : Schema) :
    schema.extraSchema? = some child ↔ schema.additional = some (.schema child) := by
  rcases found : schema.additional with _ | _ | other <;>
    simp [extraSchema?, found, Additional.schema?]

/-- Everything that stands directly under a keyword of the schema. -/
def subschemas (schema : Schema) : List Schema :=
  schema.declared.map Prod.snd ++ schema.extraSchema?.toList ++ schema.items.toList ++
    schema.allOf.getD [] ++ schema.anyOf.getD [] ++ schema.oneOf.getD []

theorem mem_subschemas {schema child : Schema} :
    child ∈ schema.subschemas ↔
      (∃ key, (key, child) ∈ schema.declared) ∨ schema.additional = some (.schema child) ∨
      schema.items = some child ∨ child ∈ schema.allOf.getD [] ∨ child ∈ schema.anyOf.getD [] ∨
      child ∈ schema.oneOf.getD [] := by
  simp [subschemas, extraSchema?_eq_some_iff]

private theorem sizeOf_branch {branch : Schema} {keyword : Option (List Schema)}
    (member : branch ∈ keyword.getD []) : sizeOf branch < sizeOf keyword := by
  cases keyword with
  | none => cases member
  | some branches =>
    have smaller := List.sizeOf_lt_of_mem member
    simp only [Option.getD_some, Option.some.sizeOf_spec] at *
    omega

private theorem sizeOf_entry {key : String} {child : Schema}
    {properties : Option (List (String × Schema))}
    (member : (key, child) ∈ properties.getD []) : sizeOf child < sizeOf properties := by
  cases properties with
  | none => cases member
  | some entries =>
    have smaller := List.sizeOf_lt_of_mem member
    simp only [Option.some.sizeOf_spec, Prod.mk.sizeOf_spec, Option.getD_some] at *
    omega

theorem sizeOf_lt_of_mem {schema child : Schema} (member : child ∈ schema.subschemas) :
    sizeOf child < sizeOf schema := by
  obtain ⟨assertions, properties, additional, items, allOf, anyOf, oneOf, unrecognized⟩ := schema
  simp only [mem_subschemas, declared] at member
  simp only [mk.sizeOf_spec]
  rcases member with ⟨key, declared⟩ | rfl | rfl | branch | branch | branch
  · have smaller := sizeOf_entry declared
    omega
  · simp only [Option.some.sizeOf_spec, Additional.schema.sizeOf_spec]
    omega
  · simp only [Option.some.sizeOf_spec]
    omega
  all_goals
    have smaller := sizeOf_branch branch
    omega

/-- Whatever passes from the direct subschemas to the schema holds of every schema. -/
@[elab_as_elim]
theorem induction {motive : Schema → Prop}
    (node : ∀ schema, (∀ child ∈ schema.subschemas, motive child) → motive schema)
    (schema : Schema) : motive schema :=
  node schema fun child _ => induction node child
termination_by sizeOf schema
decreasing_by exact sizeOf_lt_of_mem ‹_›

/-- Zero without subschemas, otherwise one more than the highest of them. -/
def height (schema : Schema) : Nat :=
  (schema.subschemas.attach.map fun child => height child.1 + 1).foldr max 0
termination_by sizeOf schema
decreasing_by exact sizeOf_lt_of_mem child.2

/-- The height is the least bound above the heights of all subschemas. -/
theorem height_le_iff (schema : Schema) (bound : Nat) :
    schema.height ≤ bound ↔ ∀ child ∈ schema.subschemas, child.height < bound := by
  have largest (heights : List Nat) : heights.foldr max 0 ≤ bound ↔ ∀ n ∈ heights, n ≤ bound := by
    induction heights with
    | nil => simp
    | cons first rest ih => simp [ih]
  rw [height, largest]
  simp

theorem height_lt_of_mem {schema child : Schema} (member : child ∈ schema.subschemas) :
    child.height < schema.height :=
  (height_le_iff schema schema.height).mp le_rfl child member

theorem height_eq_zero_iff (schema : Schema) : schema.height = 0 ↔ schema.subschemas = [] := by
  rw [← Nat.le_zero, height_le_iff, List.eq_nil_iff_forall_not_mem]
  simp

/-- The node is the schema itself or stands somewhere below it. -/
inductive Contains : Schema → Schema → Prop where
  | self {schema : Schema} : Contains schema schema
  | child {schema child node : Schema} (member : child ∈ schema.subschemas)
      (inside : Contains child node) : Contains schema node

theorem forall_contains {schema : Schema} {holds : Schema → Prop} (own : holds schema)
    (below : ∀ child ∈ schema.subschemas, ∀ node, child.Contains node → holds node) :
    ∀ node, schema.Contains node → holds node := by
  intro node inside
  cases inside with
  | self => exact own
  | child member inside => exact below _ member node inside

theorem forall_contains_of_leaf {schema : Schema} {holds : Schema → Prop}
    (leaf : schema.subschemas = []) (own : holds schema) :
    ∀ node, schema.Contains node → holds node := by
  refine forall_contains own fun child member => ?_
  rw [leaf] at member
  cases member

end Schema
end SchemaCheck
