import SchemaCheck.Yaml.Resolution
import SchemaCheck.Json.Value

/-! Content read straight as JSON, without the rules of YAML mappings: keys are what is written,
the last of a repeated key counts, and a number that is not finite is null. -/
namespace SchemaCheck.Yaml.Content

/-- The JSON value of a scalar; local tags are refused. -/
def scalarJson? (tag : Option String) (style : Style) (text : String) : Option Json :=
  match Node.ofScalar? tag style text with
  | some .null => some .null
  | some (.bool flag) => some (.bool flag)
  | some (.number (.finite value)) => some (.number value)
  | some (.number _) => some .null
  | some (.string text) => some (.string text)
  | _ => none

/-- The text of a scalar, however it is written. -/
def text? : Content → Option String
  | .scalar _ _ text => some text
  | _ => none

def hasLocalTag (tag : Option String) : Bool := tag.any isLocalTag

mutual

def json? : Content → Option Json
  | .scalar tag style text => scalarJson? tag style text
  | .sequence tag items =>
    if hasLocalTag tag then none else (itemsJson? items).map .array
  | .mapping tag entries =>
    if hasLocalTag tag then none else (entriesJson? [] entries).map .object

def itemsJson? : List Content → Option (List Json)
  | [] => some []
  | item :: rest => do some ((← json? item) :: (← itemsJson? rest))

/-- Adds entries to the members that are there. -/
def entriesJson? (members : List (String × Json)) :
    List (Content × Content) → Option (List (String × Json))
  | [] => some members
  | (key, value) :: rest => do
    entriesJson? (Json.put members (← key.text?) (← json? value)) rest

end

end SchemaCheck.Yaml.Content
