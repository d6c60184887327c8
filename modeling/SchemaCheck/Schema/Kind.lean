import SchemaCheck.Json.Value

/-! Kinds of values and the type names that admit them. -/
namespace SchemaCheck

inductive Kind where
  | null
  | boolean
  | object
  | array
  | string
  | number
  | integer
deriving DecidableEq, Repr

def Kind.name : Kind → String
  | .null => "null"
  | .boolean => "boolean"
  | .object => "object"
  | .array => "array"
  | .string => "string"
  | .number => "number"
  | .integer => "integer"

/-- Numbers without a fractional part are integers, however they are written. -/
def Json.kind : Json → Kind
  | .null => .null
  | .bool _ => .boolean
  | .number value => if value.isIntegral then .integer else .number
  | .string _ => .string
  | .array _ => .array
  | .object _ => .object

/-- A kind is admitted by its own name; integers also by `number`. -/
def Kind.admittedBy (kind : Kind) (name : String) : Bool :=
  name == kind.name || (name == "number" && kind == .integer)

/-- The names under `type`, as written; a name of no kind admits nothing. -/
inductive TypeSpec where
  | single (name : String)
  | several (names : List String)
deriving DecidableEq, Repr

namespace TypeSpec

def names : TypeSpec → List String
  | single name => [name]
  | several names => names

def admits (types : TypeSpec) (value : Json) : Bool :=
  types.names.any value.kind.admittedBy

def display (types : TypeSpec) : String := String.intercalate " | " types.names

def toJson : TypeSpec → Json
  | single name => .string name
  | several names => .array (names.map .string)

/-- A name or a list of names, nothing else. -/
def ofJson? : Json → Option TypeSpec
  | .string name => some (single name)
  | .array items => (items.mapM Json.asString?).map several
  | _ => none

/-- What is said of a value that is neither. -/
def refusal : String := "data did not match any variant of untagged enum TypeSpec"

end TypeSpec
end SchemaCheck
