import SchemaCheck.Schema.Reader
import SchemaCheck.Json.Printer
import SchemaCheck.Text.Quoted

/-! Values that are no schema, and how they are named. -/
namespace SchemaCheck

/-- What a value is, where something else was expected; every number is given as a double. -/
def Json.description : Json → String
  | .null => "null"
  | .bool flag => "boolean " ++ "\x60" ++ (if flag then "true" else "false") ++ "\x60"
  | .number value =>
    "floating point \x60" ++ NumberLayout.json.render value.toBinary64 ++ "\x60"
  | .string text => "string " ++ Quoted.encode text
  | .array _ => "sequence"
  | .object _ => "map"

/-- The root of a schema is neither an object nor a boolean. -/
structure NotASchema where
  found : Json

namespace NotASchema

def cause (error : NotASchema) : String :=
  "invalid type: " ++ error.found.description ++ ", expected a schema object or boolean"

def message (error : NotASchema) : String := "schema parse error: " ++ error.cause

end NotASchema

/-- Reads a schema, or says why the value is none. -/
def Schema.ofJson (value : Json) : Except NotASchema (Noted Schema) :=
  match Schema.read? value with
  | some noted => .ok noted
  | none => .error ⟨value⟩

end SchemaCheck
