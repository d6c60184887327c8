import SchemaCheck.Schema.Basic

/-! Writing a schema as a JSON value: the keywords in their fixed order, then the members set
aside. -/
namespace SchemaCheck.Schema

def field (keyword : Keyword) (value : Option Json) : List (String × Json) :=
  match value with
  | some value => [(keyword.name, value)]
  | none => []

def boundField (assertions : Assertions) (bound : Bound) : List (String × Json) :=
  field (.bound bound) ((assertions.bound bound).map fun value => .number (.double value))

mutual

def toJson : Schema → Json
  | ⟨assertions, properties, additional, items, allOf, anyOf, oneOf, unrecognized⟩ =>
    let bound := boundField assertions
    .object
      (field .types (assertions.types.map TypeSpec.toJson)
        ++ field .properties (match properties with
          | some declared => some (.object (propertiesToJson declared))
          | none => none)
        ++ field .required (assertions.required.map fun names => .array (names.map .string))
        ++ field .additionalProperties (match additional with
          | some (.allowed flag) => some (.bool flag)
          | some (.schema schema) => some (toJson schema)
          | none => none)
        ++ bound .minProperties ++ bound .maxProperties
        ++ field .items (match items with
          | some schema => some (toJson schema)
          | none => none)
        ++ bound .minItems ++ bound .maxItems
        ++ field .enumeration (assertions.enumeration.map .array)
        ++ field .constant assertions.constant
        ++ bound .minLength ++ bound .maxLength
        ++ field .pattern (assertions.pattern.map .string)
        ++ field .format (assertions.format.map .string)
        ++ bound .minimum ++ bound .maximum ++ bound .exclusiveMinimum ++ bound .exclusiveMaximum
        ++ bound .multipleOf
        ++ field .allOf (match allOf with
          | some branches => some (.array (branchesToJson branches))
          | none => none)
        ++ field .anyOf (match anyOf with
          | some branches => some (.array (branchesToJson branches))
          | none => none)
        ++ field .oneOf (match oneOf with
          | some branches => some (.array (branchesToJson branches))
          | none => none)
        ++ unrecognized)

def branchesToJson : List Schema → List Json
  | [] => []
  | schema :: rest => toJson schema :: branchesToJson rest

def propertiesToJson : List (String × Schema) → List (String × Json)
  | [] => []
  | (key, schema) :: rest => (key, toJson schema) :: propertiesToJson rest

end

end SchemaCheck.Schema
