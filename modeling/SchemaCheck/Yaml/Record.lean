import SchemaCheck.Yaml.Resolution

/-! Content read as a record: named fields, counts and choices. -/
namespace SchemaCheck.Yaml.Content

/-- The text of every key with its value. -/
def namedEntries? : List (Content × Content) → Option (List (String × Content))
  | [] => some []
  | (.scalar _ _ name, value) :: rest => (namedEntries? rest).map ((name, value) :: ·)
  | _ => none

/-- The fields of a record, all of them `known` and none twice; nothing at all is a record
without fields. -/
def fields? (known : List String) : Content → Option (List (String × Content))
  | .mapping _ entries =>
    match namedEntries? entries with
    | some fields =>
      let names := fields.map Prod.fst
      if names.Nodup ∧ names.all known.contains then some fields else none
    | none => none
  | .scalar _ .plain "" => some []
  | _ => none

/-- A count below `2 ^ 64`: a plain scalar, or a literal one with the tag of integers. -/
def count? : Content → Option Nat
  | .scalar tag style text =>
    if style = .plain || (style = .literal && tag == some (coreTag "int")) then
      match wholeNumber? text.toList with
      | some (.ofNat n) =>
        if n < 0x10000000000000000 && text.toList.head? != some '-' then some n else none
      | _ => none
    else none
  | _ => none

/-- The name of a choice: a text, or a local tag on nothing. -/
def choice? : Content → Option String
  | .scalar tag style text =>
    match tag.filter isLocalTag with
    | some tag =>
      if style = .plain && (text.isEmpty || isNullWord text) then
        some (String.ofList (Node.unmarked tag.toList))
      else none
    | none => some text
  | _ => none

end SchemaCheck.Yaml.Content
