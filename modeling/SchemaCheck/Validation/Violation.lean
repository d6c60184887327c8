import SchemaCheck.Path
import SchemaCheck.Schema.Basic
import SchemaCheck.Format.Basic
import SchemaCheck.Validation.Literal

/-! What can be wrong with a value, and how it is said. -/
namespace SchemaCheck

inductive Violation where
  | tooDeep
  | matchesNoBranch
  | matchesNotOneBranch
  | differsFrom (literal : Json)
  | notAmong (literals : List Json)
  | wrongType (expected : TypeSpec) (found : Kind)
  | missing
  | notAllowed
  | tooFewProperties (least : Binary64)
  | tooManyProperties (most : Binary64)
  | tooFewItems (least : Binary64)
  | tooManyItems (most : Binary64)
  | tooShort (least : Binary64)
  | tooLong (most : Binary64)
  | badPattern (pattern : String)
  | noMatch (pattern : String)
  | badFormat (format : Format)
  | notInteger
  | below (least : Binary64)
  | above (most : Binary64)
  | notAbove (bound : Binary64)
  | notBelow (bound : Binary64)
  | notMultipleOf (divisor : Binary64)

namespace Violation

def number (value : Binary64) : String := NumberLayout.message.render value

def message : Violation → String
  | tooDeep => "maximum nesting depth exceeded"
  | matchesNoBranch => "Value does not match any of the allowed schemas"
  | matchesNotOneBranch => "Value must match exactly one schema option"
  | differsFrom literal => "Value must equal " ++ literal.literal
  | notAmong literals =>
    "Value must be one of: " ++ String.intercalate ", " (literals.map Json.literal)
  | wrongType expected found => "Expected type " ++ expected.display ++ ", got " ++ found.name
  | missing => "Property is required"
  | notAllowed => "Additional properties are not allowed"
  | tooFewProperties least => "Expected at least " ++ number least ++ " properties"
  | tooManyProperties most => "Expected at most " ++ number most ++ " properties"
  | tooFewItems least => "Expected at least " ++ number least ++ " items"
  | tooManyItems most => "Expected at most " ++ number most ++ " items"
  | tooShort least => "Expected at least " ++ number least ++ " characters"
  | tooLong most => "Expected at most " ++ number most ++ " characters"
  | badPattern pattern => "Invalid pattern: " ++ pattern
  | noMatch pattern => "Value does not match pattern " ++ pattern
  | badFormat format => format.message
  | notInteger => "Value must be an integer"
  | below least => "Value must be >= " ++ number least
  | above most => "Value must be <= " ++ number most
  | notAbove bound => "Value must be > " ++ number bound
  | notBelow bound => "Value must be < " ++ number bound
  | notMultipleOf divisor => "Value must be a multiple of " ++ number divisor

end Violation

/-- A violation and the place it concerns. -/
structure Finding where
  path : Path
  violation : Violation

end SchemaCheck
