import SchemaCheck.Validation.Options
import SchemaCheck.Validation.Walk
import SchemaCheck.Report.Issue

/-! Validating a whole document. -/
namespace SchemaCheck

/-- Everything found and noted, with a closing event. -/
def validate (options : ValidationOptions) (document : Json) (schema : Schema) : Outcome :=
  let outcome := evaluate options.maxDepth (options.maxDepth + 1) document schema []
  ⟨outcome.findings, outcome.events ++ [.validated outcome.findings.length]⟩

def report (options : ValidationOptions) (document : Json) (schema : Schema) : Report :=
  (validate options document schema).findings.map Finding.issue

def isValid (options : ValidationOptions) (document : Json) (schema : Schema) : Bool :=
  (validate options document schema).passes

/-- The document has issues. -/
structure ValidationFailed where
  report : Report

def ValidationFailed.message (failed : ValidationFailed) : String :=
  "validation failed with " ++ toString failed.report.length ++ " issue(s):\n" ++
    failed.report.display

/-- Accepts a document without issues. -/
def check (options : ValidationOptions) (document : Json) (schema : Schema) :
    Except ValidationFailed Unit :=
  let report := report options document schema
  if report.isEmpty then .ok () else .error ⟨report⟩

end SchemaCheck
