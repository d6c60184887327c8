import Mathlib
import SchemaCheck.Schema.Printer
import SchemaCheck.Proofs.Schema.Reading

/-! What a schema writes, keyword by keyword. -/
namespace SchemaCheck

def Additional.toJson : Additional Schema → Json
  | .allowed flag => .bool flag
  | .schema child => child.toJson

namespace Schema

theorem branchesToJson_eq_map (branches : List Schema) :
    branchesToJson branches = branches.map toJson := by
  induction branches with
  | nil => rfl
  | cons branch rest ih => rw [branchesToJson, ih, List.map_cons]

theorem propertiesToJson_eq_map (declared : List (String × Schema)) :
    propertiesToJson declared = declared.map fun (key, child) => (key, child.toJson) := by
  induction declared with
  | nil => rfl
  | cons entry rest ih => rw [propertiesToJson, ih, List.map_cons]

/-- What stands under a keyword, none if the field is absent. -/
def written (schema : Schema) : Keyword → Option Json
  | .types => schema.assertions.types.map TypeSpec.toJson
  | .properties => schema.properties.map fun declared => .object (propertiesToJson declared)
  | .required => schema.assertions.required.map fun names => .array (names.map .string)
  | .additionalProperties => schema.additional.map Additional.toJson
  | .items => schema.items.map toJson
  | .enumeration => schema.assertions.enumeration.map .array
  | .constant => schema.assertions.constant
  | .pattern => schema.assertions.pattern.map .string
  | .format => schema.assertions.format.map .string
  | .allOf => schema.allOf.map fun branches => .array (branchesToJson branches)
  | .anyOf => schema.anyOf.map fun branches => .array (branchesToJson branches)
  | .oneOf => schema.oneOf.map fun branches => .array (branchesToJson branches)
  | .bound bound => (schema.assertions.bound bound).map fun value => .number (.double value)

/-- The members for the fields that are present. -/
def fields (schema : Schema) : List (String × Json) :=
  Keyword.all.flatMap fun keyword => field keyword (schema.written keyword)

/-- A schema is written field by field, with what it set aside behind. -/
theorem toJson_eq (schema : Schema) :
    schema.toJson = .object (schema.fields ++ schema.unrecognized) := by
  obtain ⟨assertions, properties, additional, items, allOf, anyOf, oneOf, unrecognized⟩ := schema
  simp only [fields, Keyword.all, List.flatMap_cons, List.flatMap_nil, List.append_nil,
    ← List.append_assoc]
  -- Writing is by recursion on the schema, so it unfolds where every field is known.
  rcases properties with _ | _ <;> rcases additional with _ | _ | _ <;>
    rcases items with _ | _ <;> rcases allOf with _ | _ <;> rcases anyOf with _ | _ <;>
    rcases oneOf with _ | _ <;> rfl

theorem mem_fields {schema : Schema} {name : String} {value : Json} :
    (name, value) ∈ schema.fields ↔
      ∃ keyword, name = keyword.name ∧ schema.written keyword = some value := by
  simp only [fields, List.mem_flatMap, Keyword.mem_all, true_and]
  refine exists_congr fun keyword => ?_
  cases schema.written keyword <;> simp [field, eq_comm]

theorem nodup_fields (schema : Schema) : (schema.fields.map Prod.fst).Nodup := by
  have names : schema.fields.map Prod.fst =
      (Keyword.all.filter fun keyword => (schema.written keyword).isSome).map Keyword.name := by
    rw [fields]
    induction Keyword.all with
    | nil => rfl
    | cons keyword rest ih =>
      rw [List.flatMap_cons, List.map_append, ih, List.filter_cons]
      cases schema.written keyword <;> rfl
  rw [names]
  exact (Keyword.nodup_all.filter _).map Keyword.name_injective

end Schema
end SchemaCheck
