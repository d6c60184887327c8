import SchemaCheck.Json.Parser
import SchemaCheck.Json.Printer
import SchemaCheck.Yaml.Record

/-! Settings of a validation, and how they are written. -/
namespace SchemaCheck

structure ValidationOptions where
  /-- The deepest nested evaluation allowed; the root is at depth zero. -/
  maxDepth : Nat := 256
deriving DecidableEq, Repr

namespace ValidationOptions

/-- A count below `2 ^ 64`, written without sign, fraction or exponent. -/
def count? : Json → Option Nat
  | .number (.integer (.ofNat n) _) => some n
  | _ => none

/-- An object whose only member may be `max_depth`, or a list of at most that value. -/
def ofJson? : Json → Option ValidationOptions
  | .object [] => some {}
  | .object [("max_depth", value)] => (count? value).map fun maxDepth => { maxDepth }
  | .array [] => some {}
  | .array [value] => (count? value).map fun maxDepth => { maxDepth }
  | _ => none

def ofContent? (content : Yaml.Content) : Option ValidationOptions := do
  match ← content.fields? ["max_depth"] with
  | [(_, value)] => (value.count?).map fun maxDepth => { maxDepth }
  | _ => some {}

def toJson (options : ValidationOptions) : Json :=
  .object [("max_depth", .number (.ofInt options.maxDepth))]

/-- Reads settings in JSON. -/
def ofJsonText? (text : String) : Option ValidationOptions :=
  (Json.verbatim? text).bind ofJson?

/-- Reads settings in YAML. -/
def ofYamlText? (text : String) : Option ValidationOptions :=
  (Yaml.Content.ofText? text).bind ofContent?

end ValidationOptions
end SchemaCheck
