import SchemaCheck.Event
import SchemaCheck.Validation.Violation

/-! What an evaluation finds and what it notes, both in order. -/
namespace SchemaCheck

structure Outcome where
  findings : List Finding
  events : List Event

namespace Outcome

def empty : Outcome := ⟨[], []⟩

def append (a b : Outcome) : Outcome := ⟨a.findings ++ b.findings, a.events ++ b.events⟩

instance : Append Outcome := ⟨append⟩

def concat (outcomes : List Outcome) : Outcome :=
  ⟨outcomes.flatMap findings, outcomes.flatMap events⟩

/-- Violations of one place. -/
def located (path : Path) (violations : List Violation) : Outcome :=
  ⟨violations.map (Finding.mk path), []⟩

/-- No findings: the value conforms. -/
def passes (outcome : Outcome) : Bool := outcome.findings.isEmpty

end Outcome
end SchemaCheck
