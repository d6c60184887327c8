import Mathlib
import SchemaCheck.Schema.Shape
import SchemaCheck.Proofs.Schema.Bare
import SchemaCheck.Proofs.Schema.Reading

/-! Values cleaned of everything that reading a schema sets aside or passes over. What is read from
them validates alike. -/
namespace SchemaCheck

namespace Schema

mutual

/-- A value where a schema stands: only members that a schema understands, and for what is no object
the one without members. Literals and the names of properties stay. -/
def cleaned : Json → Json
  | .object members => .object (cleanedMembers members)
  | _ => .object []

/-- Members with unknown names go, and keywords whose value has the wrong shape. -/
def cleanedMembers : List (String × Json) → List (String × Json)
  | [] => []
  | (name, value) :: rest =>
    match (Keyword.ofName? name).bind fun keyword => cleanedUnder keyword value with
    | some clean => (name, clean) :: cleanedMembers rest
    | none => cleanedMembers rest

/-- The value of a keyword, none if it has the wrong shape. -/
def cleanedUnder : Keyword → Json → Option Json
  | .types, .string name => some (.string name)
  | .types, .array names => some (.array (names.filter fun name => name.asString?.isSome))
  | .properties, .object entries => some (.object (cleanedEntries entries))
  | .required, .array names => some (.array (names.filter fun name => name.asString?.isSome))
  | .additionalProperties, .bool flag => some (.bool flag)
  | .additionalProperties, .object members => some (.object (cleanedMembers members))
  | .items, .bool _ => some (.object [])
  | .items, .object members => some (.object (cleanedMembers members))
  | .enumeration, .array literals => some (.array literals)
  | .constant, literal => some literal
  | .pattern, .string source => some (.string source)
  | .format, .string name => some (.string name)
  | .bound _, .number limit => some (.number limit)
  | .allOf, .array branches => some (.array (cleanedBranches branches))
  | .anyOf, .array branches => some (.array (cleanedBranches branches))
  | .oneOf, .array branches => some (.array (cleanedBranches branches))
  | _, _ => none

def cleanedBranches : List Json → List Json
  | [] => []
  | branch :: rest => cleaned branch :: cleanedBranches rest

def cleanedEntries : List (String × Json) → List (String × Json)
  | [] => []
  | (key, value) :: rest => (key, cleaned value) :: cleanedEntries rest

end

/-- The same at the root, where a boolean may stand. -/
def cleanedRoot : Json → Json
  | .object members => cleaned (.object members)
  | value => value

private theorem cleanedBranches_eq_map (branches : List Json) :
    cleanedBranches branches = branches.map cleaned := by
  induction branches with
  | nil => rfl
  | cons branch rest ih => rw [cleanedBranches, ih, List.map_cons]

private theorem cleanedEntries_eq_map (entries : List (String × Json)) :
    cleanedEntries entries = entries.map fun (key, value) => (key, cleaned value) := by
  induction entries with
  | nil => rfl
  | cons entry rest ih => rw [cleanedEntries, ih, List.map_cons]

/-- What becomes of a member. -/
def cleanedMember? (name : String) (value : Json) : Option Json :=
  (Keyword.ofName? name).bind fun keyword => cleanedUnder keyword value

theorem cleanedMembers_eq_filterMap (members : List (String × Json)) :
    cleanedMembers members =
      members.filterMap fun (name, value) => (cleanedMember? name value).map (name, ·) := by
  induction members with
  | nil => rfl
  | cons member rest ih =>
    obtain ⟨name, value⟩ := member
    rw [cleanedMembers, ← cleanedMember?, ih]
    cases chosen : cleanedMember? name value <;> simp [chosen]

private theorem wellShaped_of_cleanedUnder {keyword : Keyword} {value clean : Json}
    (kept : cleanedUnder keyword value = some clean) :
    (Reading.read clean).wellShaped keyword = true := by
  cases keyword <;> cases value <;>
    simp only [cleanedUnder, reduceCtorEq, Option.some.injEq] at kept <;> subst kept <;> rfl

private theorem setAside_cleanedMembers (members : List (String × Json)) :
    setAside (Reading.readMembers (cleanedMembers members)) = [] := by
  have known : (cleanedMembers members).filter
      (fun member => !recognized member.1 (.read member.2)) = [] := by
    rw [List.filter_eq_nil_iff, cleanedMembers_eq_filterMap]
    intro member listed
    obtain ⟨⟨name, value⟩, _, kept⟩ := List.mem_filterMap.mp listed
    obtain ⟨clean, chosen, rfl⟩ := Option.map_eq_some_iff.mp kept
    obtain ⟨keyword, named, under⟩ := Option.bind_eq_some_iff.mp chosen
    simp [recognized, named, wellShaped_of_cleanedUnder under]
  rw [setAside_readMembers, known, List.mergeSort_nil]

theorem bind_lookup_cleanedMembers {α : Type} {members : List (String × Json)}
    (names : (members.map Prod.fst).Nodup) {keyword : Keyword} {part : Reading → Option α}
    {trim : α → α}
    (each : ∀ value, (keyword.name, value) ∈ members →
      ((cleanedUnder keyword value).bind fun clean => part (.read clean)) =
        (part (.read value)).map trim) :
    ((Reading.readMembers (cleanedMembers members)).lookup keyword.name).bind part =
      (((Reading.readMembers members).lookup keyword.name).bind part).map trim := by
  rw [Reading.lookup_readMembers, Reading.lookup_readMembers, cleanedMembers_eq_filterMap,
    Json.lookup_filterMap _ names]
  cases looked : members.lookup keyword.name with
  | none => rfl
  | some value =>
    have one := each value (Json.mem_of_lookup looked)
    simpa [cleanedMember?, Keyword.ofName?_name, Option.bind_map, Function.comp_def] using one

/-- Read as a schema, the cleaned value is what the value is, with nothing set aside. -/
def Trims (value : Json) : Prop :=
  (Reading.read (cleaned value)).schema.map Noted.content =
    some (Reading.read value).schemaOrFree.bare

theorem strings_filter (names : List Json) :
    (names.filter fun name => name.asString?.isSome).filterMap Json.asString? =
      names.filterMap Json.asString? := by
  rw [List.filterMap_filter]
  congr 1
  funext name
  cases name <;> rfl

private theorem types_cleanedUnder (value : Json) :
    ((cleanedUnder .types value).bind fun clean => (Reading.read clean).types) =
      (Reading.read value).types := by
  cases value with
  | array names =>
    simp [cleanedUnder, Reading.types, Reading.read, Reading.strings, Json.asArray?, strings_filter]
  | _ => rfl

private theorem strings_cleanedUnder (value : Json) :
    ((cleanedUnder .required value).bind fun clean => (Reading.read clean).strings) =
      (Reading.read value).strings := by
  cases value with
  | array names =>
    simp [cleanedUnder, Reading.read, Reading.strings, Json.asArray?, strings_filter]
  | _ => rfl

private theorem additional_cleanedUnder {value : Json} (trims : Trims value) :
    ((cleanedUnder .additionalProperties value).bind fun clean => (Reading.read clean).additional) =
      (Reading.read value).additional.map (Additional.map bare) := by
  cases value with
  | object members => exact congrArg (Option.map Additional.schema) trims
  | _ => rfl

private theorem items_cleanedUnder {value : Json} (trims : Trims value) :
    ((cleanedUnder .items value).bind fun clean => (Reading.read clean).schema.map Noted.content) =
      ((Reading.read value).schema.map Noted.content).map bare := by
  cases value with
  | bool _ | object _ => exact trims
  | _ => rfl

theorem schemaOrFree_cleaned {value : Json} (trims : Trims value) :
    (Reading.read (cleaned value)).schemaOrFree = (Reading.read value).schemaOrFree.bare := by
  rw [Reading.schemaOrFree, trims]
  rfl

private theorem properties_cleanedUnder {value : Json} (trims : ∀ part ∈ value.parts, Trims part) :
    ((cleanedUnder .properties value).bind fun clean =>
        (Reading.read clean).properties.map Noted.content) =
      ((Reading.read value).properties.map Noted.content).map
        (List.map fun (key, child) => (key, child.bare)) := by
  cases value with
  | object entries =>
    simp only [cleanedUnder, cleanedEntries_eq_map, Reading.read, Reading.ofProperties,
      Reading.readMembers_eq_map, Option.bind_some, Option.map_some, List.map_map]
    congr 1
    refine List.map_congr_left fun entry listed => ?_
    exact congrArg _ (schemaOrFree_cleaned (trims _ (List.mem_map_of_mem listed)))
  | _ => rfl

private theorem branches_cleanedBranches {branches : List Json}
    (trims : ∀ branch ∈ branches, Trims branch) :
    (Reading.read (.array (cleanedBranches branches))).branches.map Noted.content =
      ((Reading.read (.array branches)).branches.map Noted.content).map (List.map bare) := by
  simp only [cleanedBranches_eq_map, Reading.read, Reading.ofItems, Reading.readItems_eq_map,
    Option.map_some, List.map_map]
  congr 1
  exact List.map_congr_left fun branch listed => schemaOrFree_cleaned (trims branch listed)

private theorem branches_cleanedUnder {value : Json} (trims : ∀ part ∈ value.parts, Trims part)
    {keyword : Keyword} (combines : keyword = .allOf ∨ keyword = .anyOf ∨ keyword = .oneOf) :
    ((cleanedUnder keyword value).bind fun clean =>
        (Reading.read clean).branches.map Noted.content) =
      ((Reading.read value).branches.map Noted.content).map (List.map bare) := by
  cases value with
  | array branches =>
    rcases combines with rfl | rfl | rfl <;> exact branches_cleanedBranches trims
  | _ => rcases combines with rfl | rfl | rfl <;> rfl

section Members

variable {members : List (String × Json)}

private theorem assertions_cleanedMembers (names : (members.map Prod.fst).Nodup) :
    (ofReadings (Reading.readMembers (cleanedMembers members))).assertions =
      (ofReadings (Reading.readMembers members)).assertions := by
  have kept {α : Type} (keyword : Keyword) (part : Reading → Option α)
      (same : ∀ value,
        ((cleanedUnder keyword value).bind fun clean => part (.read clean)) = part (.read value)) :
      ((Reading.readMembers (cleanedMembers members)).lookup keyword.name).bind part =
        ((Reading.readMembers members).lookup keyword.name).bind part := by
    have slot := bind_lookup_cleanedMembers names fun value _ =>
      (same value).trans (Option.map_id_apply ..).symm
    exact slot.trans (Option.map_id_apply ..)
  have enumeration := kept .enumeration (·.value.asArray?) fun value => by cases value <;> rfl
  have constant := kept .constant (some ∘ Reading.value) fun value => by cases value <;> rfl
  have pattern := kept .pattern (·.value.asString?) fun value => by cases value <;> rfl
  have format := kept .format (·.value.asString?) fun value => by cases value <;> rfl
  have bound (bound : Bound) := kept (.bound bound) Reading.double fun value => by
    cases value <;> rfl
  simp only [ofReadings, kept .types _ types_cleanedUnder, kept .required _ strings_cleanedUnder,
    enumeration, Option.map_eq_bind, constant, pattern, format, bound]

/-- Cleaning takes away exactly what reading sets aside. -/
private theorem ofReadings_cleanedMembers (names : (members.map Prod.fst).Nodup)
    (trims : ∀ member ∈ members, Trims member.2 ∧ ∀ part ∈ member.2.parts, Trims part) :
    ofReadings (Reading.readMembers (cleanedMembers members)) =
      (ofReadings (Reading.readMembers members)).bare := by
  have trimmed {α : Type} {keyword : Keyword} {part : Reading → Option (Noted α)} {trim : α → α}
      (each : ∀ value, (keyword.name, value) ∈ members →
        ((cleanedUnder keyword value).bind fun clean => (part (.read clean)).map Noted.content) =
          ((part (.read value)).map Noted.content).map trim) :
      (((Reading.readMembers (cleanedMembers members)).lookup keyword.name).bind part).map
          Noted.content =
        ((((Reading.readMembers members).lookup keyword.name).bind part).map Noted.content).map
          trim := by
    rw [Option.map_bind, Option.map_bind]
    exact bind_lookup_cleanedMembers names each
  have properties := trimmed fun value listed => properties_cleanedUnder (trims (_, value) listed).2
  have additional := bind_lookup_cleanedMembers names fun value listed =>
    additional_cleanedUnder (trims (_, value) listed).1
  have items := trimmed fun value listed => items_cleanedUnder (trims (_, value) listed).1
  have branches {keyword : Keyword}
      (combines : keyword = .allOf ∨ keyword = .anyOf ∨ keyword = .oneOf) :=
    trimmed fun value listed => branches_cleanedUnder (trims (_, value) listed).2 combines
  have assertions := assertions_cleanedMembers names
  rw [bare_eq]
  simp only [ofReadings] at assertions ⊢
  rw [assertions, properties, additional, items, branches (.inl rfl), branches (.inr (.inl rfl)),
    branches (.inr (.inr rfl)), setAside_cleanedMembers]

end Members

theorem ofReadings_nil : ofReadings [] = unconstrained := by
  simp [ofReadings, setAside, unconstrained]

/-- The parts are taken along: under `properties` and in lists of branches they are the schemas. -/
private theorem trims_all (value : Json) (distinct : value.Distinct) :
    Trims value ∧ ∀ part ∈ value.parts, Trims part := by
  induction value using Json.induction with
  | null | bool | number | string =>
    exact ⟨congrArg some ofReadings_nil, nofun⟩
  | array items ih =>
    have values := Json.distinctItems_iff.mp distinct
    exact ⟨congrArg some ofReadings_nil, fun item listed => (ih item listed (values item listed)).1⟩
  | object members ih =>
    have values := Json.distinctMembers_iff.mp distinct.2
    have inside member (listed : member ∈ members) := ih member listed (values member listed)
    refine ⟨congrArg some (ofReadings_cleanedMembers distinct.1 inside), ?_⟩
    exact List.forall_mem_map.mpr fun member listed => (inside member listed).1

end Schema

theorem read_cleanedRoot {value : Json} (distinct : value.Distinct) {noted : Noted Schema}
    (read : Schema.ofJson value = .ok noted) :
    ∃ clean, Schema.ofJson (Schema.cleanedRoot value) = .ok clean ∧
      clean.content = noted.content.bare := by
  have described := Schema.ofJson_eq_ok_iff.mp read
  cases value with
  | object members =>
    obtain ⟨clean, reread, same⟩ :=
      Option.map_eq_some_iff.mp (Schema.trims_all _ distinct).1
    refine ⟨clean, Schema.ofJson_eq_ok_iff.mpr reread, ?_⟩
    rw [same, Reading.schemaOrFree, described]
    rfl
  | bool flag =>
    obtain rfl := Option.some.inj described
    exact ⟨_, read, rfl⟩
  | _ => cases described

/-- The names that `properties` gives are declared, whatever stands under them. -/
theorem Schema.declared_ofJson {members entries : List (String × Json)}
    (names : (members.map Prod.fst).Nodup)
    (given : (Keyword.properties.name, .object entries) ∈ members) {noted : Noted Schema}
    (read : Schema.ofJson (.object members) = .ok noted) :
    noted.content.declared.map Prod.fst = entries.map Prod.fst := by
  obtain rfl := Option.some.inj (Schema.ofJson_eq_ok_iff.mp read)
  simp only [Reading.ofMembers, declared, ofReadings, Reading.lookup_readMembers,
    Json.lookup_eq_some names given]
  simp [Reading.read, Reading.ofProperties, Reading.readMembers_eq_map, Function.comp_def]

/-- A schema asks for the same with all that reading sets aside taken out of its text. Nothing set
aside anywhere bears on validation, and a malformed property is declared. -/
theorem lenient_reading_keeps_meaning (value : Json) (distinct : value.Distinct)
    (shape : (∃ members, value = .object members) ∨ ∃ flag, value = .bool flag) :
    ∃ noted clean, Schema.ofJson value = .ok noted ∧
      Schema.ofJson (Schema.cleanedRoot value) = .ok clean ∧
      (∀ node, clean.content.Contains node → node.unrecognized = []) ∧
      (∀ entries, (Keyword.properties.name, .object entries) ∈ value.asObject?.getD [] →
        noted.content.declared.map Prod.fst = entries.map Prod.fst) ∧
      (∀ options document,
        report options document noted.content = report options document clean.content) ∧
      ∀ other : Schema, other.bare = noted.content.bare → ∀ options document,
        report options document noted.content = report options document other := by
  obtain ⟨noted, read⟩ := Schema.exists_ofJson shape
  obtain ⟨clean, reread, same⟩ := read_cleanedRoot distinct read
  refine ⟨noted, clean, read, reread, ?_, fun entries given => ?_, fun options document => ?_,
    fun other alike options document => ?_⟩
  · rw [same]
    exact noted.content.unrecognized_of_contains_bare
  · cases value with
    | object members => exact Schema.declared_ofJson distinct.1 given read
    | _ => cases given
  · rw [same, report_bare]
  · rw [← report_bare, ← alike, report_bare]

/-- Lookalikes of keywords under `const` and below `properties` are no keywords and stay. -/
theorem lenient_reading_keeps_meaning_malformed :
    let entries : List (String × Json) := [("minItems", .string "2"), ("a", .bool false),
      ("b", .object [("items", .bool true), ("allOf", .array [.null]), ("enum", .null)])]
    let value : Json := .object [("title", .string "t"), ("minItems", .string "2"),
      ("type", .array [.string "object", .null]), ("required", .array [.string "a", .bool true]),
      ("const", .object [("minItems", .string "2")]), ("properties", .object entries),
      ("additionalProperties", .string "no")]
    let clean : Json := .object [("type", .array [.string "object"]),
      ("required", .array [.string "a"]), ("const", .object [("minItems", .string "2")]),
      ("properties", .object [("minItems", .object []), ("a", .object []),
        ("b", .object [("items", .object []), ("allOf", .array [.object []])])])]
    value.Distinct ∧ Schema.cleanedRoot value = clean ∧
      ∃ noted trimmed, Schema.ofJson value = .ok noted ∧ Schema.ofJson clean = .ok trimmed ∧
        noted.content.declared.map Prod.fst = ["minItems", "a", "b"] ∧
        ∀ options document,
          report options document noted.content = report options document trimmed.content := by
  intro entries value clean
  have distinct : value.Distinct := by
    simp [value, entries, Json.Distinct, Json.DistinctMembers, Json.DistinctItems]
  obtain ⟨noted, trimmed, read, reread, _, declared, alike, _⟩ :=
    lenient_reading_keeps_meaning value distinct (.inl ⟨_, rfl⟩)
  exact ⟨distinct, rfl, noted, trimmed, read, reread,
    declared entries (by simp [value, Json.asObject?, Keyword.name]), alike⟩

end SchemaCheck
