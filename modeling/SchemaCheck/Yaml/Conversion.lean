import SchemaCheck.Yaml.Resolution
import SchemaCheck.Json.Value

/-! YAML values as JSON values. Tags fall away, and keys become texts. -/
namespace SchemaCheck.Yaml

namespace Node

mutual

/-- The structure of a node, for a reader's eye. -/
def describe : Node → String
  | .null => "Null"
  | .bool flag => "Bool(" ++ (if flag then "true" else "false") ++ ")"
  | .number value => "Number(" ++ value.render ++ ")"
  | .string text => "String(" ++ Quoted.encode text ++ ")"
  | .sequence items => "Sequence [" ++ describeItems items ++ "]"
  | .mapping entries => "Mapping \x7b" ++ describeEntries entries ++ "\x7d"
  | .tagged tag node =>
    "TaggedValue \x7b tag: !" ++ tag ++ ", value: " ++ describe node ++ " \x7d"

def describeItems : List Node → String
  | [] => ""
  | [item] => describe item
  | item :: rest => describe item ++ ", " ++ describeItems rest

/-- Keys that are booleans, numbers or texts stand without the name of their kind. -/
def describeEntries : List (Node × Node) → String
  | [] => ""
  | (key, value) :: rest =>
    let name := match key with
      | .bool flag => if flag then "true" else "false"
      | .number value => value.render
      | .string text => Quoted.encode text
      | key => describe key
    name ++ ": " ++ describe value ++
      (match rest with
        | [] => ""
        | _ => ", ") ++ describeEntries rest

end

end Node

/-- What JSON cannot say. -/
inductive Inexpressible where
  | number (value : Number)
  | key (node : Node)

def Inexpressible.message : Inexpressible → String
  | .number value => "number " ++ value.render ++ " has no JSON representation"
  | .key node => "mapping key " ++ node.describe ++ " cannot be a JSON object key"

namespace Node

/-- The name of an object member that a key becomes. -/
def memberName : Node → Except Inexpressible String
  | .string text => .ok text
  | .number value => .ok value.render
  | .bool flag => .ok (if flag then "true" else "false")
  | other => .error (.key other)

mutual

/-- The JSON value; of members that get one name, the first gives the place and the last the
value. -/
def toJson : Node → Except Inexpressible Json
  | .null => .ok .null
  | .bool flag => .ok (.bool flag)
  | .number (.finite value) => .ok (.number value)
  | .number value => .error (.number value)
  | .string text => .ok (.string text)
  | .sequence items => (itemsToJson items).map .array
  | .mapping entries => (entriesToJson [] entries).map .object
  | .tagged _ node => toJson node

def itemsToJson : List Node → Except Inexpressible (List Json)
  | [] => .ok []
  | item :: rest => do
    let item ← toJson item
    .ok (item :: (← itemsToJson rest))

/-- Adds entries to the members that are there. -/
def entriesToJson (members : List (String × Json)) :
    List (Node × Node) → Except Inexpressible (List (String × Json))
  | [] => .ok members
  | (key, value) :: rest => do
    let name ← memberName key
    let value ← toJson value
    entriesToJson (Json.put members name value) rest

end

end Node

/-- Why a text gives no value. -/
inductive Fault where
  | malformed
  | inexpressible (what : Inexpressible)

/-- The JSON value of a YAML text. -/
def toJson (text : String) : Except Fault Json :=
  match (Content.ofText? text).bind Node.ofContent? with
  | some node => node.toJson.mapError .inexpressible
  | none => .error .malformed

end SchemaCheck.Yaml
