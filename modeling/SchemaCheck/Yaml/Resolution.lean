import SchemaCheck.Yaml.Node

/-! The values of scalars and collections. -/
namespace SchemaCheck.Yaml

/-- The tag of a type that every document knows. -/
def coreTag (name : String) : String := "tag:yaml.org,2002:" ++ name

def isNullWord (text : String) : Bool := ["null", "Null", "NULL", "~"].contains text

def boolean? (text : String) : Option Bool :=
  if ["true", "True", "TRUE"].contains text then some true
  else if ["false", "False", "FALSE"].contains text then some false
  else none

namespace Node

/-- An integer, if it fits the numbers that are kept. -/
def ofInt? (value : Int) : Option Node :=
  if fits : Json.Number.Fits value then some (.number (.finite (.integer value fits))) else none

/-- A word that is no integer. -/
def ofWord (text : String) : Node :=
  let word := text.toList
  match if isPadded word then none else fractional? word with
  | some value => .number value
  | none => .string text

/-- A plain scalar means what it looks like; `none` for an integer that cannot be kept. -/
def ofPlain? (text : String) : Option Node :=
  if text.isEmpty || isNullWord text then some .null
  else match boolean? text, wholeNumber? text.toList with
  | some flag, _ => some (.bool flag)
  | none, some value => if isRecognised value then ofInt? value else some (ofWord text)
  | none, none => some (ofWord text)

def ofUntagged? (style : Style) (text : String) : Option Node :=
  if style = .plain then ofPlain? text else some (.string text)

/-- The tag of a core type forces it; any other tag makes a scalar a text. -/
def ofCoreTag? (tag text : String) : Option Node :=
  if tag == coreTag "bool" then (boolean? text).map .bool
  else if tag == coreTag "int" then
    (wholeNumber? text.toList).bind ofInt?
  else if tag == coreTag "float" then (fractional? text.toList).map .number
  else if tag == coreTag "null" then if isNullWord text then some .null else none
  else some (.string text)

/-- Without an exclamation mark before a name. -/
def unmarked (tag : List Char) : List Char :=
  match tag with
  | '!' :: c :: rest => c :: rest
  | tag => tag

/-- The name that a local tag gives. -/
def localName (tag : String) : String := String.ofList (unmarked (unmarked tag.toList))

/-- Wraps a node in its tag, if that is local. -/
def withTag (tag : Option String) (node : Node) : Node :=
  match tag with
  | some tag => if isLocalTag tag then .tagged (localName tag) node else node
  | none => node

def ofScalar? (tag : Option String) (style : Style) (text : String) : Option Node :=
  match tag with
  | none => ofUntagged? style text
  | some tag =>
    if isLocalTag tag then (ofUntagged? style text).map (.tagged (localName tag))
    else ofCoreTag? tag text

/-- Entries with keys that differ from each other. -/
def distinct? (entries : List (Node × Node)) : Option (List (Node × Node)) :=
  if entries.Pairwise fun a b => !same a.1 b.1 then some entries else none

mutual

/-- The value of some content; `none` if a scalar does not fit its tag, an integer is out of
range, or a mapping has a key twice. -/
def ofContent? : Content → Option Node
  | .scalar tag style text => ofScalar? tag style text
  | .sequence tag items => (ofItems? items).map fun items => withTag tag (.sequence items)
  | .mapping tag entries => do
    some (withTag tag (.mapping (← distinct? (← ofEntries? entries))))

def ofItems? : List Content → Option (List Node)
  | [] => some []
  | item :: rest => do some ((← ofContent? item) :: (← ofItems? rest))

def ofEntries? : List (Content × Content) → Option (List (Node × Node))
  | [] => some []
  | (key, value) :: rest => do
    some (((← ofContent? key), (← ofContent? value)) :: (← ofEntries? rest))

end

end Node
end SchemaCheck.Yaml
