import SchemaCheck.Report.Issue
import SchemaCheck.Schema.Shape

/-! Reading a report back from its JSON form. -/
namespace SchemaCheck

/-- Why a value is no report. -/
inductive ReportFault where
  | unexpected (found : Json) (expected : String)
  | missing (field : String)
  | tooFew (count : Nat)
  | tooMany (count : Nat)

namespace ReportFault

/-- Here an integer keeps its kind. -/
def describe : Json → String
  | .number (.integer value _) => "integer \x60" ++ toString value ++ "\x60"
  | value => value.description

def message : ReportFault → String
  | unexpected found expected => "invalid type: " ++ describe found ++ ", expected " ++ expected
  | missing field => "missing field \x60" ++ field ++ "\x60"
  | tooFew count =>
    "invalid length " ++ toString count ++ ", expected struct Issue with 2 elements"
  | tooMany count => "invalid length " ++ toString count ++ ", expected fewer elements in array"

end ReportFault

namespace Issue

def text : Json → Except ReportFault String
  | .string text => .ok text
  | value => .error (.unexpected value "a string")

/-- Known members in document order; others are passed over. -/
def readMembers : List (String × Json) → Option String → Option String → Except ReportFault Issue
  | [], none, _ => .error (.missing "path")
  | [], some _, none => .error (.missing "message")
  | [], some path, some message => .ok ⟨path, message⟩
  | ("path", value) :: rest, _, message => do readMembers rest (some (← text value)) message
  | ("message", value) :: rest, path, _ => do readMembers rest path (some (← text value))
  | _ :: rest, path, message => readMembers rest path message

/-- An object with a path and a message, or the two texts in a row. -/
def ofJson : Json → Except ReportFault Issue
  | .object members => readMembers members none none
  | .array [] => .error (.tooFew 0)
  | .array [path] => do
    let _ ← text path
    .error (.tooFew 1)
  | .array [path, message] => do .ok ⟨← text path, ← text message⟩
  | .array items@(path :: message :: _) => do
    let _ ← text path
    let _ ← text message
    .error (.tooMany items.length)
  | value => .error (.unexpected value "struct Issue")

end Issue

namespace Report

def ofJson : Json → Except ReportFault Report
  | .array items => items.mapM Issue.ofJson
  | value => .error (.unexpected value "a sequence")

end Report
end SchemaCheck
