import SchemaCheck.Validation.Options
import SchemaCheck.Report.Rendering

/-! The configuration file: settings that hold unless an argument says otherwise. -/
namespace SchemaCheck

structure Configuration where
  validation : ValidationOptions := {}
  output : ReportFormat := .text
deriving DecidableEq, Repr

namespace Configuration

/-- A record of two fields; the one that is missing keeps its default. -/
def ofContent? (content : Yaml.Content) : Option Configuration := do
  let fields ← content.fields? ["validation", "output"]
  let validation ← match fields.lookup "validation" with
    | some value => ValidationOptions.ofContent? value
    | none => some {}
  let output ← match fields.lookup "output" with
    | some value => value.choice?.bind ReportFormat.ofName?
    | none => some .text
  some { validation, output }

/-- Reads a configuration in YAML. -/
def ofText? (text : String) : Option Configuration :=
  (Yaml.Content.ofText? text).bind ofContent?

end Configuration
end SchemaCheck
