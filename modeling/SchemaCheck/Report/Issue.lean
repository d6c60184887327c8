import SchemaCheck.Validation.Violation

/-! Issues as they are reported: a place and a message, both as text. -/
namespace SchemaCheck

structure Issue where
  path : String
  message : String
deriving DecidableEq, Repr

def Finding.issue (finding : Finding) : Issue := ⟨finding.path.render, finding.violation.message⟩

namespace Issue

def display (issue : Issue) : String := issue.path ++ ": " ++ issue.message

def toJson (issue : Issue) : Json :=
  .object [("path", .string issue.path), ("message", .string issue.message)]

end Issue

/-- The issues of one validation, in order. -/
abbrev Report := List Issue

namespace Report

/-- One indented line for each issue. -/
def display (report : Report) : String :=
  String.intercalate "\n" (report.map fun issue => "  " ++ issue.display)

def toJson (report : Report) : Json := .array (report.map Issue.toJson)

end Report
end SchemaCheck
