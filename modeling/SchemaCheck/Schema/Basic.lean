import SchemaCheck.Schema.Kind
import SchemaCheck.Schema.Keyword

/-! Schemas: one optional field for each keyword, and the members set aside. -/
namespace SchemaCheck

/-- What holds of members that `properties` does not declare. -/
inductive Additional (σ : Type) where
  | allowed (flag : Bool)
  | schema (schema : σ)

/-- The keywords that hold no schema. -/
structure Assertions where
  types : Option TypeSpec := none
  required : Option (List String) := none
  enumeration : Option (List Json) := none
  constant : Option Json := none
  pattern : Option String := none
  format : Option String := none
  bound : Bound → Option Binary64 := fun _ => none

/-- A schema node. `unrecognized` holds unknown members and malformed keywords, by name. -/
structure Schema where
  assertions : Assertions
  properties : Option (List (String × Schema))
  additional : Option (Additional Schema)
  items : Option Schema
  allOf : Option (List Schema)
  anyOf : Option (List Schema)
  oneOf : Option (List Schema)
  unrecognized : List (String × Json)

namespace Schema

/-- The schema that every value meets. -/
def unconstrained : Schema := ⟨{}, none, none, none, none, none, none, []⟩

instance : Inhabited Schema := ⟨unconstrained⟩

def declared (schema : Schema) : List (String × Schema) := schema.properties.getD []

/-- `properties` has an entry for the key. -/
def declares (schema : Schema) (key : String) : Bool := (schema.declared.lookup key).isSome

def unrecognizedNames (schema : Schema) : List String := schema.unrecognized.map Prod.fst

end Schema
end SchemaCheck
