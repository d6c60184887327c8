import SchemaCheck.Text.Utf16
import SchemaCheck.Pattern.Basic
import SchemaCheck.Validation.Outcome

/-! Keywords that look at one value and descend nowhere. -/
namespace SchemaCheck

/-- The violation of a bound that the schema sets and the value breaks. -/
def Assertions.breach (assertions : Assertions) (bound : Bound) (broken : Binary64 → Bool)
    (violation : Binary64 → Violation) : List Violation :=
  match assertions.bound bound with
  | some limit => if broken limit then [violation limit] else []
  | none => []

/-- Counts compare as numbers, so a fractional limit is no error. -/
def Assertions.countViolations (assertions : Assertions) (count : Nat)
    (least most : Bound) (tooFew tooMany : Binary64 → Violation) : List Violation :=
  let count := Binary64.ofInt count
  assertions.breach least (fun limit => decide (count < limit)) tooFew ++
    assertions.breach most (fun limit => decide (limit < count)) tooMany

/-- Bounds and divisibility, over the double nearest to the number. -/
def Assertions.doubleViolations (assertions : Assertions) (value : Binary64) : List Violation :=
  assertions.breach .minimum (fun bound => decide (value < bound)) .below ++
    assertions.breach .maximum (fun bound => decide (bound < value)) .above ++
    assertions.breach .exclusiveMinimum (fun bound => decide (value ≤ bound)) .notAbove ++
    assertions.breach .exclusiveMaximum (fun bound => decide (bound ≤ value)) .notBelow ++
    assertions.breach .multipleOf (fun divisor => !value.isMultipleOf divisor) .notMultipleOf

/-- An integral number whose double has a fraction is no integer; the rest are compared. -/
def Assertions.numberViolations (assertions : Assertions) (number : Json.Number) :
    List Violation :=
  let value := number.toBinary64
  if number.isIntegral && !value.isIntegral then [.notInteger]
  else assertions.doubleViolations value

/-- `pattern`, unless empty; a pattern that does not compile is a violation of its own. -/
def Assertions.patternOutcome (assertions : Assertions) (text : String) (path : Path) : Outcome :=
  match assertions.pattern with
  | none => .empty
  | some "" => .empty
  | some source =>
    match Pattern.compile? source with
    | none => ⟨[⟨path, .badPattern source⟩], [.patternRefused source]⟩
    | some pattern => .located path (if pattern.foundIn text then [] else [.noMatch source])

def Assertions.formatViolations (assertions : Assertions) (text : String) : List Violation :=
  match assertions.format.bind Format.ofName? with
  | some format => if format.accepts text then [] else [.badFormat format]
  | none => []

def Assertions.stringOutcome (assertions : Assertions) (text : String) (path : Path) : Outcome :=
  .located path (assertions.countViolations (utf16Length text) .minLength .maxLength
      .tooShort .tooLong)
    ++ assertions.patternOutcome text path
    ++ .located path (assertions.formatViolations text)

def Assertions.literalViolations (assertions : Assertions) (value : Json) : List Violation :=
  (match assertions.constant with
    | some literal => if value.identical literal then [] else [.differsFrom literal]
    | none => [])
  ++ (match assertions.enumeration with
    | some literals => if literals.any value.identical then [] else [.notAmong literals]
    | none => [])

/-- The type, if the schema names types and none admits the value. -/
def Assertions.mismatch? (assertions : Assertions) (value : Json) : Option Violation :=
  match assertions.types with
  | some types => if types.admits value then none else some (.wrongType types value.kind)
  | none => none

end SchemaCheck
