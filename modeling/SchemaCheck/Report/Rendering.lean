import SchemaCheck.Report.Issue

/-! Reports as text for readers and as JSON for programs. -/
namespace SchemaCheck

inductive ReportFormat where
  | text
  | json
deriving DecidableEq, Repr

namespace ReportFormat

def name : ReportFormat → String
  | text => "text"
  | json => "json"

def ofName? : String → Option ReportFormat
  | "text" => some text
  | "json" => some json
  | _ => none

end ReportFormat

namespace Report

def validBanner : String := "✓ JSON is valid for this schema"

def heading (report : Report) : String :=
  "Validation Errors (" ++ toString report.length ++
    (if report.length = 1 then " issue)" else " issues)")

/-- A banner, or a heading and two lines for each issue. -/
def renderText (report : Report) : String :=
  if report.isEmpty then validBanner ++ "\n"
  else report.heading ++ "\n" ++
    String.join (report.map fun issue => "  " ++ issue.path ++ "\n    " ++ issue.message ++ "\n")

/-- The verdict and the issues as one JSON object. -/
def verdictJson (report : Report) : Json :=
  .object [("valid", .bool report.isEmpty), ("issues", report.toJson)]

def renderJson (report : Report) : String := report.verdictJson.pretty ++ "\n"

def render (report : Report) : ReportFormat → String
  | .text => report.renderText
  | .json => report.renderJson

end Report
end SchemaCheck
