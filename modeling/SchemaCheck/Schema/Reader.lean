import SchemaCheck.Schema.Basic

/-! Reading a schema from a JSON value. Each keyword is read on its own: one whose value has the
wrong shape is set aside with the unknown members, and the rest of the tree is still read. -/
namespace SchemaCheck

/-- Something read, and the malformed keywords met on the way, in document order. -/
structure Noted (α : Type) where
  content : α
  malformed : List String

/-- What a value says at each place of a schema where it may stand. -/
structure Reading where
  value : Json
  schema : Option (Noted Schema)
  properties : Option (Noted (List (String × Schema)))
  branches : Option (Noted (List Schema))

namespace Reading

/-- In a list of schemas or a map of properties, what is no schema constrains nothing. -/
def schemaOrFree (reading : Reading) : Schema :=
  (reading.schema.map Noted.content).getD .unconstrained

def schemaNotes (reading : Reading) : List String :=
  (reading.schema.map Noted.malformed).getD []

/-- The strings of an array; other items are dropped. -/
def strings (reading : Reading) : Option (List String) :=
  reading.value.asArray?.map (·.filterMap Json.asString?)

def types (reading : Reading) : Option TypeSpec :=
  match reading.value with
  | .string name => some (.single name)
  | _ => reading.strings.map .several

def additional (reading : Reading) : Option (Additional Schema) :=
  match reading.value with
  | .bool flag => some (.allowed flag)
  | _ => reading.schema.map fun noted => .schema noted.content

def double (reading : Reading) : Option Binary64 :=
  reading.value.asNumber?.map Json.Number.toBinary64

/-- The value has the shape that the keyword asks for. -/
def wellShaped (reading : Reading) : Keyword → Bool
  | .types => reading.types.isSome
  | .properties => reading.properties.isSome
  | .required => reading.strings.isSome
  | .additionalProperties => reading.additional.isSome
  | .items => reading.schema.isSome
  | .enumeration => reading.value.asArray?.isSome
  | .constant => true
  | .pattern => reading.value.asString?.isSome
  | .format => reading.value.asString?.isSome
  | .allOf => reading.branches.isSome
  | .anyOf => reading.branches.isSome
  | .oneOf => reading.branches.isSome
  | .bound _ => reading.double.isSome

/-- The malformed keywords below a well-shaped keyword. -/
def notesUnder (reading : Reading) : Keyword → List String
  | .properties => (reading.properties.map Noted.malformed).getD []
  | .additionalProperties => reading.schemaNotes
  | .items => reading.schemaNotes
  | .allOf => (reading.branches.map Noted.malformed).getD []
  | .anyOf => (reading.branches.map Noted.malformed).getD []
  | .oneOf => (reading.branches.map Noted.malformed).getD []
  | _ => []

end Reading

/-- The member is a keyword of the right shape. -/
def recognized (name : String) (reading : Reading) : Bool :=
  match Keyword.ofName? name with
  | some keyword => reading.wellShaped keyword
  | none => false

def memberNotes (name : String) (reading : Reading) : List String :=
  match Keyword.ofName? name with
  | some keyword => if reading.wellShaped keyword then reading.notesUnder keyword else [name]
  | none => []

/-- The members that no field holds, sorted by name. -/
def setAside (members : List (String × Reading)) : List (String × Json) :=
  ((members.filter fun (name, reading) => !recognized name reading).map
    fun (name, reading) => (name, reading.value)).mergeSort fun a b => a.1 ≤ b.1

/-- The schema whose members have these readings. -/
def Schema.ofReadings (members : List (String × Reading)) : Schema :=
  let find (keyword : Keyword) : Option Reading := members.lookup keyword.name
  { assertions :=
      { types := (find .types).bind Reading.types
        required := (find .required).bind Reading.strings
        enumeration := (find .enumeration).bind (·.value.asArray?)
        constant := (find .constant).map Reading.value
        pattern := (find .pattern).bind (·.value.asString?)
        format := (find .format).bind (·.value.asString?)
        bound := fun bound => (find (.bound bound)).bind Reading.double }
    properties := ((find .properties).bind Reading.properties).map Noted.content
    additional := (find .additionalProperties).bind Reading.additional
    items := ((find .items).bind Reading.schema).map Noted.content
    allOf := ((find .allOf).bind Reading.branches).map Noted.content
    anyOf := ((find .anyOf).bind Reading.branches).map Noted.content
    oneOf := ((find .oneOf).bind Reading.branches).map Noted.content
    unrecognized := setAside members }

namespace Reading

def ofItems (items : List Reading) : Noted (List Schema) :=
  ⟨items.map schemaOrFree, items.flatMap schemaNotes⟩

def ofProperties (members : List (String × Reading)) : Noted (List (String × Schema)) :=
  ⟨members.map fun (key, reading) => (key, reading.schemaOrFree),
    members.flatMap fun (_, reading) => reading.schemaNotes⟩

def ofMembers (members : List (String × Reading)) : Noted Schema :=
  ⟨.ofReadings members, members.flatMap fun (name, reading) => memberNotes name reading⟩

mutual

def read : Json → Reading
  | .bool flag => ⟨.bool flag, some ⟨.unconstrained, []⟩, none, none⟩
  | .array items => ⟨.array items, none, none, some (ofItems (readItems items))⟩
  | .object members =>
    let readings := readMembers members
    ⟨.object members, some (ofMembers readings), some (ofProperties readings), none⟩
  | value => ⟨value, none, none, none⟩

def readItems : List Json → List Reading
  | [] => []
  | item :: rest => read item :: readItems rest

def readMembers : List (String × Json) → List (String × Reading)
  | [] => []
  | (name, value) :: rest => (name, read value) :: readMembers rest

end

end Reading

/-- The schema that an object or a boolean describes, and its malformed keywords. -/
def Schema.read? (value : Json) : Option (Noted Schema) := (Reading.read value).schema

end SchemaCheck
