import SchemaCheck.Decimal.Rounding
import SchemaCheck.Decimal.Layout

/-! JSON numbers: 64-bit integers, signed or unsigned, and finite doubles. -/
namespace SchemaCheck.Json

/-- The integers kept exactly. -/
abbrev Number.Fits (value : Int) : Prop :=
  -0x8000000000000000 ≤ value ∧ value < 0x10000000000000000

inductive Number where
  | integer (value : Int) (fits : Number.Fits value)
  | double (value : Binary64)
deriving DecidableEq, Repr

namespace Number

/-- The nearest double. -/
def toBinary64 : Number → Binary64
  | integer value _ => .ofInt value
  | double value => value

def isIntegral : Number → Bool
  | integer _ _ => true
  | double value => value.isIntegral

/-- Numbers of one kind, equal within it. -/
def same : Number → Number → Bool
  | integer a _, integer b _ => a == b
  | double a, double b => a.sameValue b
  | _, _ => false

/-- Integers compare exactly; against a double, an integer is rounded first. -/
def equal : Number → Number → Bool
  | integer a _, integer b _ => a == b
  | a, b => a.toBinary64.sameValue b.toBinary64

/-- An integer of any size; one that does not fit becomes the nearest double. -/
def ofInt (value : Int) : Number :=
  if fits : Fits value then integer value fits else double (.ofInt value)

/-- The text of the number, doubles laid out as `layout` says. -/
def render (layout : NumberLayout) : Number → String
  | integer value _ => toString value
  | double value => layout.render value

end Number
end SchemaCheck.Json
