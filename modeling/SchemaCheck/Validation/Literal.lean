import SchemaCheck.Json.Printer

/-! Literals under `const` and `enum`. -/
namespace SchemaCheck.Json

/-- Identity with a literal: scalars by value, arrays and objects never. -/
def identical : Json → Json → Bool
  | .null, .null => true
  | .bool a, .bool b => a == b
  | .string a, .string b => a == b
  | .number a, .number b => a.equal b
  | _, _ => false

/-- A literal in a message: strings between quotes as they are, numbers as in bounds, the rest as
JSON. -/
def literal : Json → String
  | .string text => "\"" ++ text ++ "\""
  | .number value => value.render .message
  | value => value.compact

end SchemaCheck.Json
