import SchemaCheck.Input.Error
import SchemaCheck.Json.Parser
import SchemaCheck.Yaml.Conversion
import SchemaCheck.Text.Blank

/-! Reading documents from text. -/
namespace SchemaCheck

inductive Syntax where
  | json
  | yaml
deriving DecidableEq, Repr

/-- The value that a text holds; `origin` names the text in errors. -/
def parseText (format : Syntax) (origin text : String) : Except InputError Json :=
  if isBlankText text then .error .blank
  else match format with
    | .json =>
      match Json.parse? text with
      | some value => .ok value
      | none => .error (.load origin .invalidJson)
    | .yaml =>
      match Yaml.toJson text with
      | .ok value => .ok value
      | .error .malformed => .error (.load origin .invalidYaml)
      | .error (.inexpressible what) => .error (.load origin (.unconvertible what.message))

end SchemaCheck
