/-! Places in a document. -/
namespace SchemaCheck

inductive Step where
  | key (name : String)
  | index (position : Nat)
deriving DecidableEq, Repr

/-- The steps from the root down. -/
abbrev Path := List Step

def Step.render : Step → String
  | .key name => "." ++ name
  | .index position => "[" ++ toString position ++ "]"

namespace Path

/-- The text of the steps alone. -/
def suffix : Path → String
  | [] => ""
  | step :: rest => step.render ++ suffix rest

/-- The text of a place, from `$`. -/
def render (path : Path) : String := "$" ++ suffix path

def child (path : Path) (step : Step) : Path := path ++ [step]

end Path
end SchemaCheck
