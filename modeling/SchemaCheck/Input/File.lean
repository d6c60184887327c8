import SchemaCheck.Input.Text
import SchemaCheck.Files.Name

/-! Reading documents and schemas from files. -/
namespace SchemaCheck

/-- Files by name; `none` for one that cannot be read. -/
abbrev ReadFile := String → Option String

/-- YAML for two extensions, JSON for all else. -/
def Syntax.ofFileName (name : String) : Syntax :=
  match Files.extension? name with
  | some "yaml" => .yaml
  | some "yml" => .yaml
  | _ => .json

/-- The value in a file. -/
def loadValue (read : ReadFile) (name : String) : Except InputError Json :=
  match read name with
  | some text => parseText (.ofFileName name) name text
  | none => .error (.load name .unreadable)

/-- The schema in a file. -/
def loadSchema (read : ReadFile) (name : String) : Except InputError (Noted Schema) := do
  let value ← loadValue read name
  (Schema.ofJson value).mapError .notASchema

end SchemaCheck
