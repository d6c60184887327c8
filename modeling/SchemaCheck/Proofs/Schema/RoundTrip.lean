import Mathlib
import SchemaCheck.Schema.Shape
import SchemaCheck.Proofs.Schema.Writing

/-! Schemas that were read: written and read again they are the same. -/
namespace SchemaCheck

namespace Schema

/-- The values that a node keeps as they are. -/
def literals (schema : Schema) : List Json :=
  schema.assertions.constant.toList ++ schema.assertions.enumeration.getD [] ++
    schema.unrecognized.map Prod.snd

/-- What holds of every node that is read. A name is never both that of a field and set aside. -/
structure Tidy (schema : Schema) : Prop where
  sorted : schema.unrecognized.Pairwise fun a b => a.1 ≤ b.1
  names : schema.unrecognizedNames.Nodup
  foreign : ∀ member ∈ schema.unrecognized, recognized member.1 (.read member.2) = false
  apart : ∀ keyword, (schema.written keyword).isSome → keyword.name ∉ schema.unrecognizedNames
  keys : (schema.declared.map Prod.fst).Nodup
  literals : ∀ literal ∈ schema.literals, literal.Distinct

theorem wellShaped_of_written {readings : List (String × Reading)} {keyword : Keyword}
    (present : ((ofReadings readings).written keyword).isSome) :
    ∃ reading, readings.lookup keyword.name = some reading ∧ reading.wellShaped keyword = true := by
  cases found : readings.lookup keyword.name with
  | none => cases keyword <;> simp [written, ofReadings, found] at present
  | some reading =>
    refine ⟨reading, rfl, ?_⟩
    cases keyword <;> simp [written, ofReadings, found, Reading.wellShaped] at present ⊢ <;>
      exact present

private theorem tidy_unconstrained : unconstrained.Tidy where
  sorted := .nil
  names := .nil
  foreign := nofun
  apart keyword present := by cases keyword <;> cases present
  keys := .nil
  literals := nofun

theorem tidy_ofReadings {members : List (String × Json)}
    (distinct : (Json.object members).Distinct) :
    (ofReadings (Reading.readMembers members)).Tidy := by
  obtain ⟨names, values⟩ := distinct
  rw [Json.distinctMembers_iff] at values
  have found {keyword : Keyword} {reading : Reading}
      (present : (Reading.readMembers members).lookup keyword.name = some reading) :
      ∃ value, (keyword.name, value) ∈ members ∧ reading = .read value := by
    rw [Reading.lookup_readMembers] at present
    obtain ⟨value, listed, rfl⟩ := Option.map_eq_some_iff.mp present
    exact ⟨value, Json.mem_of_lookup listed, rfl⟩
  refine ⟨sorted_setAside _, nodup_setAside names, ?foreign, ?apart, ?keys, ?literals⟩
  case foreign => exact fun member listed => (mem_setAside.mp listed).2
  case apart =>
    intro keyword present listed
    obtain ⟨reading, looked, shaped⟩ := wellShaped_of_written present
    obtain ⟨value, given, rfl⟩ := found looked
    obtain ⟨⟨_, other⟩, aside, rfl⟩ := List.mem_map.mp listed
    obtain ⟨alike, foreign⟩ := mem_setAside.mp aside
    obtain rfl : other = value := Json.value_eq_of_mem names alike given
    rw [recognized_name, shaped] at foreign
    cases foreign
  case keys =>
    cases looked : (Reading.readMembers members).lookup Keyword.properties.name with
    | none => simp [declared, ofReadings, looked]
    | some reading =>
      obtain ⟨value, given, rfl⟩ := found looked
      simp only [declared, ofReadings, looked, Option.bind_some]
      exact Reading.nodup_properties (values _ given)
  case literals =>
    simp only [literals, List.forall_mem_append, List.forall_mem_map]
    refine ⟨⟨fun literal constant => ?_, fun literal entry => ?_⟩, fun member aside => ?_⟩
    · obtain ⟨reading, looked, rfl⟩ := Option.map_eq_some_iff.mp (Option.mem_toList.mp constant)
      obtain ⟨value, given, rfl⟩ := found looked
      rw [Reading.read_value]
      exact values _ given
    · cases looked : (Reading.readMembers members).lookup Keyword.enumeration.name with
      | none => simp [ofReadings, looked] at entry
      | some reading =>
        obtain ⟨value, given, rfl⟩ := found looked
        simp only [ofReadings, looked, Option.bind_some, Reading.read_value] at entry
        cases value with
        | array items => exact Json.distinctItems_iff.mp (values _ given) literal entry
        | _ => cases entry
    · exact values member (mem_setAside.mp aside).1

theorem tidy_of_contains_unconstrained : ∀ node, unconstrained.Contains node → node.Tidy :=
  forall_contains_of_leaf rfl tidy_unconstrained

private theorem tidy_schemaOrFree {value : Json}
    (described : ∀ schema ∈ (Reading.read value).schemas,
      ∀ node, schema.Contains node → node.Tidy) :
    ∀ node, (Reading.read value).schemaOrFree.Contains node → node.Tidy := by
  rcases (Reading.read value).eq_unconstrained_or_mem_schemas with free | member
  · rw [free]
    exact tidy_of_contains_unconstrained
  · exact described _ member

/-- Every node that is read is tidy, at any place where the value may stand. -/
private theorem tidy_of_mem_schemas (value : Json) (distinct : value.Distinct) :
    ∀ schema ∈ (Reading.read value).schemas, ∀ node, schema.Contains node → node.Tidy := by
  induction value using Json.induction with
  | null | number | string => exact nofun
  | bool flag =>
    intro schema member
    obtain rfl := List.mem_singleton.mp member
    exact tidy_of_contains_unconstrained
  | array items ih =>
    have values := Json.distinctItems_iff.mp distinct
    intro schema member
    simp [Reading.mem_schemas, Reading.read, Reading.ofItems, Reading.readItems_eq_map] at member
    obtain ⟨item, listed, rfl⟩ := member
    exact tidy_schemaOrFree (ih item listed (values item listed))
  | object members ih =>
    have values := Json.distinctMembers_iff.mp distinct.2
    intro schema member
    simp [Reading.mem_schemas, Reading.read, Reading.ofMembers, Reading.ofProperties] at member
    rcases member with rfl | ⟨key, listed⟩
    · refine forall_contains (tidy_ofReadings distinct) fun child below => ?_
      obtain ⟨entry, listed, described⟩ := mem_schemas_of_mem_subschemas below
      rw [Reading.readMembers_eq_map] at listed
      obtain ⟨member, given, rfl⟩ := List.mem_map.mp listed
      exact ih member given (values member given) child described
    · rw [Reading.readMembers_eq_map] at listed
      simp at listed
      obtain ⟨value, given, rfl⟩ := listed
      exact tidy_schemaOrFree (ih (key, value) given (values _ given))

theorem Tidy.nodup_members {schema : Schema} (tidy : schema.Tidy) :
    ((schema.fields ++ schema.unrecognized).map Prod.fst).Nodup := by
  rw [List.map_append]
  refine List.nodup_append'.mpr ⟨schema.nodup_fields, tidy.names, fun name field aside => ?_⟩
  obtain ⟨⟨_, value⟩, listed, rfl⟩ := List.mem_map.mp field
  obtain ⟨keyword, rfl, present⟩ := mem_fields.mp listed
  exact tidy.apart keyword (Option.isSome_of_eq_some present) aside

private theorem distinct_strings (texts : List String) :
    (Json.array (texts.map .string)).Distinct := by
  refine Json.distinctItems_iff.mpr fun item listed => ?_
  obtain ⟨text, _, rfl⟩ := List.mem_map.mp listed
  trivial

private theorem distinct_branches {branches : List Schema}
    (below : ∀ branch ∈ branches, branch.toJson.Distinct) :
    (Json.array (branchesToJson branches)).Distinct := by
  rw [branchesToJson_eq_map]
  refine Json.distinctItems_iff.mpr fun item listed => ?_
  obtain ⟨branch, member, rfl⟩ := List.mem_map.mp listed
  exact below branch member

theorem Tidy.distinct_written {schema : Schema} (tidy : schema.Tidy)
    (below : ∀ child ∈ schema.subschemas, child.toJson.Distinct) {keyword : Keyword} {value : Json}
    (present : schema.written keyword = some value) : value.Distinct := by
  simp only [mem_subschemas] at below
  cases keyword <;> simp only [written, Option.map_eq_some_iff] at present
  case constant => exact tidy.literals value (by simp [Schema.literals, present])
  all_goals obtain ⟨part, given, rfl⟩ := present
  case types =>
    cases part with
    | single name => trivial
    | several names => exact distinct_strings names
  case properties =>
    have keys := tidy.keys
    simp only [declared, given, Option.getD_some] at keys below
    rw [propertiesToJson_eq_map]
    refine ⟨by simpa [Function.comp_def] using keys, Json.distinctMembers_iff.mpr ?_⟩
    intro member listed
    obtain ⟨⟨key, child⟩, entry, rfl⟩ := List.mem_map.mp listed
    exact below child (.inl ⟨key, entry⟩)
  case required => exact distinct_strings part
  case additionalProperties =>
    cases part with
    | allowed flag => trivial
    | schema child => exact below child (by simp [given])
  case items => exact below part (by simp [given])
  case enumeration =>
    exact Json.distinctItems_iff.mpr fun literal listed =>
      tidy.literals literal (by simp [Schema.literals, given, listed])
  case pattern => trivial
  case format => trivial
  case allOf => exact distinct_branches fun branch member => below branch (by simp [given, member])
  case anyOf => exact distinct_branches fun branch member => below branch (by simp [given, member])
  case oneOf => exact distinct_branches fun branch member => below branch (by simp [given, member])
  case bound bound => trivial

theorem distinct_toJson (schema : Schema) (tidy : ∀ node, schema.Contains node → node.Tidy) :
    schema.toJson.Distinct := by
  induction schema using Schema.induction with
  | node schema ih =>
    have own := tidy schema .self
    have below (child : Schema) (member : child ∈ schema.subschemas) : child.toJson.Distinct :=
      ih child member fun node inside => tidy node (.child member inside)
    rw [toJson_eq]
    refine ⟨own.nodup_members, Json.distinctMembers_iff.mpr (List.forall_mem_append.mpr ⟨?_, ?_⟩)⟩
    · intro member listed
      obtain ⟨keyword, _, present⟩ := mem_fields.mp listed
      exact own.distinct_written below present
    · exact fun member aside =>
        own.literals member.2 (List.mem_append_right _ (List.mem_map_of_mem aside))

private theorem wellShaped_read_written {schema : Schema} {keyword : Keyword} {value : Json}
    (present : schema.written keyword = some value) :
    (Reading.read value).wellShaped keyword = true := by
  cases keyword <;> simp only [written, Option.map_eq_some_iff] at present
  case constant => rfl
  all_goals obtain ⟨part, given, rfl⟩ := present
  case types => cases part <;> rfl
  case additionalProperties =>
    cases part with
    | allowed flag => rfl
    | schema child => rw [Additional.toJson, toJson_eq]; rfl
  case items => rw [toJson_eq]; rfl
  all_goals rfl

/-- The members of a tidy node that is written are set aside again. -/
theorem Tidy.setAside_eq {schema : Schema} (tidy : schema.Tidy) :
    setAside (Reading.readMembers (schema.fields ++ schema.unrecognized)) =
      schema.unrecognized := by
  have fields :
      schema.fields.filter (fun member => !recognized member.1 (.read member.2)) = [] := by
    rw [List.filter_eq_nil_iff]
    intro member listed
    obtain ⟨keyword, name, present⟩ := mem_fields.mp listed
    simp [name, recognized_name, wellShaped_read_written present]
  have aside : schema.unrecognized.filter (fun member => !recognized member.1 (.read member.2)) =
      schema.unrecognized := by
    rw [List.filter_eq_self]
    intro member listed
    simp [tidy.foreign member listed]
  rw [setAside_readMembers, List.filter_append, fields, aside, List.nil_append]
  exact List.mergeSort_of_pairwise (tidy.sorted.imp decide_eq_true)

/-- A field of a tidy node that is written holds again what it held, if its value reads back. -/
theorem Tidy.bind_lookup {α : Type} {schema : Schema} (tidy : schema.Tidy) (keyword : Keyword)
    (part : Reading → Option α) {stored : Option α} {write : α → Json}
    (written : schema.written keyword = stored.map write)
    (shaped : ∀ reading, reading.wellShaped keyword = (part reading).isSome)
    (back : ∀ content, stored = some content → part (.read (write content)) = some content) :
    ((Reading.readMembers (schema.fields ++ schema.unrecognized)).lookup keyword.name).bind part =
      stored := by
  rw [Reading.lookup_readMembers]
  cases given : stored with
  | some content =>
    have listed : (keyword.name, write content) ∈ schema.fields :=
      mem_fields.mpr ⟨keyword, rfl, by rw [written, given, Option.map_some]⟩
    rw [Json.lookup_eq_some tidy.nodup_members (List.mem_append_left _ listed)]
    exact back content given
  | none =>
    cases looked : (schema.fields ++ schema.unrecognized).lookup keyword.name with
    | none => rfl
    | some value =>
      rcases List.mem_append.mp (Json.mem_of_lookup looked) with field | aside
      · obtain ⟨other, same, present⟩ := mem_fields.mp field
        rw [← Keyword.name_injective same, written, given] at present
        cases present
      · have malformed := tidy.foreign _ aside
        rw [recognized_name, shaped, Option.isSome_eq_false_iff, Option.isNone_iff_eq_none]
          at malformed
        exact malformed

private theorem strings_read (texts : List String) :
    (Reading.read (.array (texts.map .string))).strings = some texts := by
  simp [Reading.strings, Json.asArray?, Function.comp_def, Json.asString?]

theorem Tidy.assertions_eq {schema : Schema} (tidy : schema.Tidy) :
    (ofReadings (Reading.readMembers (schema.fields ++ schema.unrecognized))).assertions =
      schema.assertions := by
  have types := tidy.bind_lookup .types Reading.types rfl (fun _ => rfl)
    fun content _ => by
      cases content with
      | single name => rfl
      | several names => exact congrArg (Option.map TypeSpec.several) (strings_read names)
  have required := tidy.bind_lookup .required Reading.strings rfl
    (fun _ => rfl) fun names _ => strings_read names
  have enumeration := tidy.bind_lookup .enumeration (·.value.asArray?) rfl
    (fun _ => rfl) fun literals _ => rfl
  have literal : schema.written .constant = schema.assertions.constant.map id :=
    (Option.map_id_apply ..).symm
  have constant := tidy.bind_lookup .constant (some ∘ Reading.value) literal (fun _ => rfl)
    fun literal _ => by simp
  have pattern := tidy.bind_lookup .pattern (·.value.asString?) rfl
    (fun _ => rfl) fun text _ => rfl
  have format := tidy.bind_lookup .format (·.value.asString?) rfl
    (fun _ => rfl) fun text _ => rfl
  have bound (bound : Bound) := tidy.bind_lookup (.bound bound) Reading.double
    rfl (fun _ => rfl) fun value _ => rfl
  simp only [ofReadings, types, required, enumeration, pattern, format, bound, Option.map_eq_bind,
    constant]

private theorem readItems_branchesToJson {branches : List Schema}
    (back : ∀ branch ∈ branches,
      (Reading.read branch.toJson).schema.map Noted.content = some branch) :
    (Reading.readItems (branchesToJson branches)).map Reading.schemaOrFree = branches := by
  rw [branchesToJson_eq_map, Reading.readItems_eq_map, List.map_map, List.map_map]
  conv_rhs => rw [← List.map_id branches]
  refine List.map_congr_left fun branch member => ?_
  simp [Reading.schemaOrFree, back branch member]

private theorem readMembers_propertiesToJson {declared : List (String × Schema)}
    (back : ∀ entry ∈ declared,
      (Reading.read entry.2.toJson).schema.map Noted.content = some entry.2) :
    (Reading.readMembers (propertiesToJson declared)).map
      (fun (key, reading) => (key, reading.schemaOrFree)) = declared := by
  rw [propertiesToJson_eq_map, Reading.readMembers_eq_map, List.map_map, List.map_map]
  conv_rhs => rw [← List.map_id declared]
  refine List.map_congr_left fun entry member => ?_
  simp [Reading.schemaOrFree, back entry member]

private theorem additional_toJson {additional : Additional Schema}
    (back : ∀ child, additional = .schema child →
      (Reading.read child.toJson).schema.map Noted.content = some child) :
    (Reading.read additional.toJson).additional = some additional := by
  cases additional with
  | allowed flag => rfl
  | schema child =>
    have form : (Reading.read child.toJson).additional =
        ((Reading.read child.toJson).schema.map Noted.content).map .schema := by
      rw [toJson_eq]
      rfl
    rw [Additional.toJson, form, back child rfl, Option.map_some]

private theorem Tidy.bind_branches {schema : Schema} (tidy : schema.Tidy) (keyword : Keyword)
    {stored : Option (List Schema)}
    (written : schema.written keyword = stored.map fun branches => .array (branchesToJson branches))
    (shaped : ∀ reading : Reading, reading.wellShaped keyword = reading.branches.isSome)
    (back : ∀ branch ∈ stored.getD [],
      (Reading.read branch.toJson).schema.map Noted.content = some branch) :
    ((Reading.readMembers (schema.fields ++ schema.unrecognized)).lookup keyword.name).bind
      (fun reading => reading.branches.map Noted.content) = stored := by
  refine tidy.bind_lookup keyword _ written (fun reading => ?_) fun branches given => ?_
  · rw [shaped, Option.isSome_map]
  · exact congrArg some (readItems_branchesToJson (by simpa [given] using back))

/-- Each field holds again what it held, since the subschemas read as themselves. -/
theorem Tidy.ofReadings_eq {schema : Schema} (tidy : schema.Tidy)
    (back : ∀ child ∈ schema.subschemas,
      (Reading.read child.toJson).schema.map Noted.content = some child) :
    ofReadings (Reading.readMembers (schema.fields ++ schema.unrecognized)) = schema := by
  simp only [mem_subschemas] at back
  have properties := tidy.bind_lookup .properties
    (fun reading => reading.properties.map Noted.content) rfl
    (fun reading => (Option.isSome_map ..).symm) fun declared given => congrArg some <|
      readMembers_propertiesToJson fun entry member =>
        back entry.2 (.inl ⟨entry.1, by simpa [Schema.declared, given] using member⟩)
  have additional := tidy.bind_lookup .additionalProperties
    Reading.additional rfl (fun _ => rfl) fun additional given =>
      additional_toJson fun child form => back child (.inr (.inl (form ▸ given)))
  have items := tidy.bind_lookup .items
    (fun reading => reading.schema.map Noted.content) rfl
    (fun reading => (Option.isSome_map ..).symm) fun child given => back child (by simp [given])
  have allOf := tidy.bind_branches .allOf rfl (fun _ => rfl)
    fun branch member => back branch (by simp [member])
  have anyOf := tidy.bind_branches .anyOf rfl (fun _ => rfl)
    fun branch member => back branch (by simp [member])
  have oneOf := tidy.bind_branches .oneOf rfl (fun _ => rfl)
    fun branch member => back branch (by simp [member])
  refine (?_ : Schema.mk (ofReadings _).assertions _ _ _ _ _ _ _ = schema)
  rw [tidy.assertions_eq]
  simp only [Option.map_bind, Function.comp_def, properties, additional, items, allOf, anyOf,
    oneOf, tidy.setAside_eq]
  cases schema
  rfl

/-- A tidy schema that is written reads as itself. -/
theorem read_toJson (schema : Schema) (tidy : ∀ node, schema.Contains node → node.Tidy) :
    (Reading.read schema.toJson).schema.map Noted.content = some schema := by
  induction schema using Schema.induction with
  | node schema ih =>
    have back (child : Schema) (member : child ∈ schema.subschemas) :
        (Reading.read child.toJson).schema.map Noted.content = some child :=
      ih child member fun node inside => tidy node (.child member inside)
    rw [toJson_eq]
    exact congrArg some ((tidy schema .self).ofReadings_eq back)

end Schema

/-- Reads a schema and writes it. -/
def Schema.rewritten (value : Json) : Except NotASchema Json :=
  (Schema.ofJson value).map fun noted => noted.content.toJson

/-- Every object or boolean reads as a schema; what this writes has no repeated name and reads as
the same schema, so that reading and writing once more changes nothing. -/
theorem written_schema_reads_back (value : Json) (distinct : value.Distinct)
    (shape : (∃ members, value = .object members) ∨ ∃ flag, value = .bool flag) :
    ∃ noted again, Schema.ofJson value = .ok noted ∧ noted.content.toJson.Distinct ∧
      Schema.ofJson noted.content.toJson = .ok again ∧ again.content = noted.content ∧
      Schema.rewritten value = .ok noted.content.toJson ∧
      Schema.rewritten noted.content.toJson = .ok noted.content.toJson := by
  obtain ⟨noted, read⟩ := Schema.exists_ofJson shape
  have described := Schema.ofJson_eq_ok_iff.mp read
  have tidy := Schema.tidy_of_mem_schemas value distinct noted.content
    (Reading.mem_schemas.mpr (.inl (congrArg _ described)))
  obtain ⟨again, reread, same⟩ := Option.map_eq_some_iff.mp (noted.content.read_toJson tidy)
  have back := Schema.ofJson_eq_ok_iff.mpr reread
  refine ⟨noted, again, read, noted.content.distinct_toJson tidy, back, same, ?_, ?_⟩
  · rw [Schema.rewritten, read]
    rfl
  · rw [Schema.rewritten, back, ← same]
    rfl

theorem written_schema_reads_back_set_aside :
    let value : Json := .object [("title", .null), ("const", .null), ("minItems", .string "2"),
      ("properties", .object [("b", .null), ("a", .bool false)]),
      ("additionalProperties", .bool false)]
    value.Distinct ∧ ∃ noted again, Schema.ofJson value = .ok noted ∧
      noted.malformed = ["minItems"] ∧ noted.content.assertions.constant = some .null ∧
      noted.content.declared.map Prod.fst = ["b", "a"] ∧
      Schema.ofJson noted.content.toJson = .ok again ∧ again.content = noted.content := by
  intro value
  have distinct : value.Distinct := by
    simp [value, Json.Distinct, Json.DistinctMembers]
  obtain ⟨noted, again, read, _, back, same, _⟩ :=
    written_schema_reads_back value distinct (.inl ⟨_, rfl⟩)
  have found : noted = ⟨_, _⟩ := (Except.ok.inj read).symm
  refine ⟨distinct, noted, again, read, ?_, ?_, ?_, back, same⟩
  · rw [found]
    rfl
  · rw [found]
    rfl
  · rw [found]
    rfl

end SchemaCheck
