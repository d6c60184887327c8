import SchemaCheck.Schema.Shape

/-! Why an input cannot be used. -/
namespace SchemaCheck

inductive LoadFault where
  | unreadable
  | invalidJson
  | invalidYaml
  | unconvertible (reason : String)
deriving DecidableEq, Repr

def LoadFault.message : LoadFault → String
  | .unreadable => "cannot read file"
  | .invalidJson => "invalid JSON"
  | .invalidYaml => "invalid YAML"
  | .unconvertible reason => "YAML-to-JSON conversion failed: " ++ reason

inductive InputError where
  | blank
  | load (origin : String) (fault : LoadFault)
  | notASchema (error : NotASchema)

namespace InputError

def message : InputError → String
  | blank => "Please provide both a schema and JSON data"
  | load origin fault => "load error for '" ++ origin ++ "': " ++ fault.message
  | notASchema error => error.message

end InputError
end SchemaCheck
