import SchemaCheck.Command.Configuration
import SchemaCheck.Command.Error
import SchemaCheck.Input.File
import SchemaCheck.Validation.Validator

/-! Validating a document file against a schema file. -/
namespace SchemaCheck

/-- Exit codes of the program. -/
def exitValid : Nat := 0

def exitInvalid : Nat := 1

def exitError : Nat := 2

/-- The configuration in a file, or the default one without a file. -/
def Configuration.resolve (read : ReadFile) :
    Option String → Except CommandError (Configuration × List Event)
  | none => .ok ({}, [])
  | some file =>
    match read file with
    | none => .error (.configurationUnreadable file)
    | some text =>
      match Configuration.ofText? text with
      | none => .error (.configurationMalformed file)
      | some configuration => .ok (configuration, [.configurationLoaded file])

/-- What to validate, and settings that win over those of the configuration. -/
structure ValidateRequest where
  document : String
  schema : String
  format : Option ReportFormat := none
  maxDepth : Option Nat := none
deriving DecidableEq, Repr

/-- A command that ran to its end. -/
structure Completion where
  exitCode : Nat
  stdout : String
  events : List Event

namespace ValidateRequest

def options (request : ValidateRequest) (configuration : Configuration) : ValidationOptions where
  maxDepth := request.maxDepth.getD configuration.validation.maxDepth

def reportFormat (request : ValidateRequest) (configuration : Configuration) : ReportFormat :=
  request.format.getD configuration.output

/-- Loads the schema, reads it, and loads the document; the first step that fails is the error. -/
def load (read : ReadFile) (request : ValidateRequest) :
    Except CommandError (Noted Schema × Json) := do
  let value ← (loadValue read request.schema).mapError (.schemaNotLoaded request.schema)
  let schema ← (Schema.ofJson value).mapError (.schemaNotUnderstood request.schema)
  let document ← (loadValue read request.document).mapError (.documentNotLoaded request.document)
  .ok (schema, document)

/-- The report in the format asked for, and what was noted on the way. -/
def complete (request : ValidateRequest) (configuration : Configuration)
    (schema : Noted Schema) (document : Json) : Completion :=
  let names := schema.content.unrecognizedNames
  let outcome := validate (request.options configuration) document schema.content
  let report : Report := outcome.findings.map Finding.issue
  { exitCode := if report.isEmpty then exitValid else exitInvalid
    stdout := report.render (request.reportFormat configuration)
    events :=
      schema.malformed.map Event.keywordSetAside ++
        (if names.isEmpty then [] else [.keywordsIgnored names]) ++
        outcome.events ++ [.finished request.document report.length] }

def run (read : ReadFile) (request : ValidateRequest) (configuration : Configuration) :
    Except CommandError Completion := do
  let (schema, document) ← request.load read
  .ok (request.complete configuration schema document)

end ValidateRequest
end SchemaCheck
