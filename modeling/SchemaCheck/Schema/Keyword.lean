/-! The keywords a schema understands. -/
namespace SchemaCheck

/-- Keywords that hold one number. -/
inductive Bound where
  | minProperties
  | maxProperties
  | minItems
  | maxItems
  | minLength
  | maxLength
  | minimum
  | maximum
  | exclusiveMinimum
  | exclusiveMaximum
  | multipleOf
deriving DecidableEq, Repr

def Bound.name : Bound → String
  | .minProperties => "minProperties"
  | .maxProperties => "maxProperties"
  | .minItems => "minItems"
  | .maxItems => "maxItems"
  | .minLength => "minLength"
  | .maxLength => "maxLength"
  | .minimum => "minimum"
  | .maximum => "maximum"
  | .exclusiveMinimum => "exclusiveMinimum"
  | .exclusiveMaximum => "exclusiveMaximum"
  | .multipleOf => "multipleOf"

inductive Keyword where
  | types
  | properties
  | required
  | additionalProperties
  | items
  | enumeration
  | constant
  | pattern
  | format
  | allOf
  | anyOf
  | oneOf
  | bound (bound : Bound)
deriving DecidableEq, Repr

namespace Keyword

def name : Keyword → String
  | types => "type"
  | properties => "properties"
  | required => "required"
  | additionalProperties => "additionalProperties"
  | items => "items"
  | enumeration => "enum"
  | constant => "const"
  | pattern => "pattern"
  | format => "format"
  | allOf => "allOf"
  | anyOf => "anyOf"
  | oneOf => "oneOf"
  | bound b => b.name

/-- Every keyword, in the order in which a schema is written. -/
def all : List Keyword :=
  [types, properties, required, additionalProperties, bound .minProperties, bound .maxProperties,
    items, bound .minItems, bound .maxItems, enumeration, constant, bound .minLength,
    bound .maxLength, pattern, format, bound .minimum, bound .maximum, bound .exclusiveMinimum,
    bound .exclusiveMaximum, bound .multipleOf, allOf, anyOf, oneOf]

def ofName? (name : String) : Option Keyword := all.find? (·.name == name)

end Keyword
end SchemaCheck
