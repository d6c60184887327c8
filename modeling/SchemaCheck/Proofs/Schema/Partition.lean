import Mathlib
import SchemaCheck.Proofs.Schema.RoundTrip

/-! Where the members of an object go when it is read as a schema. A keyword whose value has the
right shape fills its field, and every other member is set aside. -/
namespace SchemaCheck

/-- The value has the shape that the keyword asks for. -/
def Keyword.Fits (value : Json) : Keyword → Prop
  | .types => (∃ name, value = .string name) ∨ ∃ items, value = .array items
  | .properties => ∃ members, value = .object members
  | .additionalProperties => (∃ members, value = .object members) ∨ ∃ flag, value = .bool flag
  | .items => (∃ members, value = .object members) ∨ ∃ flag, value = .bool flag
  | .constant => True
  | .pattern => ∃ text, value = .string text
  | .format => ∃ text, value = .string text
  | .required => ∃ items, value = .array items
  | .enumeration => ∃ items, value = .array items
  | .allOf => ∃ items, value = .array items
  | .anyOf => ∃ items, value = .array items
  | .oneOf => ∃ items, value = .array items
  | .bound _ => ∃ number, value = .number number

namespace Schema

/-- The schema that a value describes; what is no schema constrains nothing. -/
def described (value : Json) : Schema :=
  match ofJson value with
  | .ok noted => noted.content
  | .error _ => unconstrained

/-- The field of `allOf`, `anyOf` or `oneOf`. -/
def branchesUnder (schema : Schema) : Keyword → Option (List Schema)
  | .allOf => schema.allOf
  | .anyOf => schema.anyOf
  | .oneOf => schema.oneOf
  | _ => none

/-- The field of the keyword is present. -/
def sets (schema : Schema) : Keyword → Bool
  | .types => schema.assertions.types.isSome
  | .properties => schema.properties.isSome
  | .required => schema.assertions.required.isSome
  | .additionalProperties => schema.additional.isSome
  | .items => schema.items.isSome
  | .enumeration => schema.assertions.enumeration.isSome
  | .constant => schema.assertions.constant.isSome
  | .pattern => schema.assertions.pattern.isSome
  | .format => schema.assertions.format.isSome
  | .allOf => schema.allOf.isSome
  | .anyOf => schema.anyOf.isSome
  | .oneOf => schema.oneOf.isSome
  | .bound bound => (schema.assertions.bound bound).isSome

/-- The field of the keyword holds what the value says. -/
inductive Holds (schema : Schema) : Keyword → Json → Prop where
  | type {name : String} (field : schema.assertions.types = some (.single name)) :
      Holds schema .types (.string name)
  | types {items : List Json}
      (field : schema.assertions.types = some (.several (items.filterMap Json.asString?))) :
      Holds schema .types (.array items)
  | properties {entries : List (String × Json)}
      (field : schema.properties = some (entries.map fun (key, value) => (key, described value))) :
      Holds schema .properties (.object entries)
  | required {items : List Json}
      (field : schema.assertions.required = some (items.filterMap Json.asString?)) :
      Holds schema .required (.array items)
  | allowed {flag : Bool} (field : schema.additional = some (.allowed flag)) :
      Holds schema .additionalProperties (.bool flag)
  | additional {entries : List (String × Json)}
      (field : schema.additional = some (.schema (described (.object entries)))) :
      Holds schema .additionalProperties (.object entries)
  | items {value : Json} (field : schema.items = some (described value)) :
      Holds schema .items value
  | enumeration {items : List Json} (field : schema.assertions.enumeration = some items) :
      Holds schema .enumeration (.array items)
  | constant {value : Json} (field : schema.assertions.constant = some value) :
      Holds schema .constant value
  | pattern {text : String} (field : schema.assertions.pattern = some text) :
      Holds schema .pattern (.string text)
  | format {text : String} (field : schema.assertions.format = some text) :
      Holds schema .format (.string text)
  | branches {keyword : Keyword} {items : List Json}
      (field : schema.branchesUnder keyword = some (items.map described)) :
      Holds schema keyword (.array items)
  | bound {bound : Bound} {number : Json.Number}
      (field : schema.assertions.bound bound = some number.toBinary64) :
      Holds schema (.bound bound) (.number number)

/-- Every member of the object is in one place of the schema, and nothing else is there. -/
structure Partitioned (members : List (String × Json)) (schema : Schema) : Prop where
  sets_iff (keyword : Keyword) :
    schema.sets keyword = true ↔ ∃ value, (keyword.name, value) ∈ members ∧ keyword.Fits value
  holds {keyword : Keyword} {value : Json} (listed : (keyword.name, value) ∈ members)
    (shaped : keyword.Fits value) : schema.Holds keyword value
  aside_iff {name : String} {value : Json} :
    (name, value) ∈ schema.unrecognized ↔
      (name, value) ∈ members ∧ ∀ keyword : Keyword, keyword.name = name → ¬ keyword.Fits value
  aside_once : schema.unrecognizedNames.Nodup
  one_place {name : String} {value : Json} (listed : (name, value) ∈ members) :
    Xor (∃ keyword, Keyword.name keyword = name ∧ schema.sets keyword = true)
      (name ∈ schema.unrecognizedNames)
  written_names : ∃ written, schema.toJson = .object written ∧
    (written.map Prod.fst).Perm (members.map Prod.fst)

/-- The node was read from the value, which stands at a schema position of the root: at the root
itself, or under a keyword of an object that stands at one. -/
inductive Placed (root : Json) (schema : Schema) : Json → Schema → Prop where
  | root : Placed root schema root schema
  | property {members entries : List (String × Json)} {node child : Schema}
      {declared : List (String × Schema)} {position : Nat} {key : String} {value : Json}
      (above : Placed root schema (.object members) node)
      (given : (Keyword.properties.name, .object entries) ∈ members)
      (field : node.properties = some declared)
      (entry : entries[position]? = some (key, value))
      (found : declared[position]? = some (key, child)) : Placed root schema value child
  | additional {members : List (String × Json)} {node child : Schema} {value : Json}
      (above : Placed root schema (.object members) node)
      (given : (Keyword.additionalProperties.name, value) ∈ members)
      (field : node.additional = some (.schema child)) : Placed root schema value child
  | items {members : List (String × Json)} {node child : Schema} {value : Json}
      (above : Placed root schema (.object members) node)
      (given : (Keyword.items.name, value) ∈ members)
      (field : node.items = some child) : Placed root schema value child
  | branch {members : List (String × Json)} {node child : Schema} {keyword : Keyword}
      {values : List Json} {branches : List Schema} {position : Nat} {value : Json}
      (above : Placed root schema (.object members) node)
      (given : (keyword.name, .array values) ∈ members)
      (field : node.branchesUnder keyword = some branches)
      (item : values[position]? = some value)
      (found : branches[position]? = some child) : Placed root schema value child

end Schema

theorem Keyword.fits_iff_wellShaped (keyword : Keyword) (value : Json) :
    keyword.Fits value ↔ (Reading.read value).wellShaped keyword = true := by
  cases value <;> cases keyword <;>
    simp [Fits, Reading.wellShaped, Reading.read, Reading.types, Reading.strings,
      Reading.additional, Reading.double, Json.asArray?, Json.asString?, Json.asNumber?]

theorem recognized_eq_false_iff {name : String} {value : Json} :
    recognized name (.read value) = false ↔
      ∀ keyword : Keyword, keyword.name = name → ¬ keyword.Fits value := by
  constructor
  · rintro foreign keyword rfl
    rw [keyword.fits_iff_wellShaped, ← recognized_name, foreign]
    exact Bool.false_ne_true
  · intro unfit
    rw [recognized]
    cases named : Keyword.ofName? name with
    | none => rfl
    | some keyword =>
      have same : keyword.name = name := by simpa using List.find?_some named
      have shape := unfit keyword same
      rwa [keyword.fits_iff_wellShaped, Bool.not_eq_true] at shape

namespace Schema

theorem schemaOrFree_read (value : Json) : (Reading.read value).schemaOrFree = described value := by
  rw [described, ofJson, read?, Reading.schemaOrFree]
  cases (Reading.read value).schema <;> rfl

theorem sets_eq_isSome_written (schema : Schema) (keyword : Keyword) :
    schema.sets keyword = (schema.written keyword).isSome := by
  cases keyword <;> simp [sets, written]

private theorem sets_ofReadings {readings : List (String × Reading)} {keyword : Keyword}
    {reading : Reading}
    (found : readings.lookup keyword.name = some reading) :
    (ofReadings readings).sets keyword = reading.wellShaped keyword := by
  cases keyword <;> simp [sets, ofReadings, found, Reading.wellShaped]

private theorem content_properties_read (entries : List (String × Json)) :
    (Reading.read (.object entries)).properties.map Noted.content =
      some (entries.map fun (key, value) => (key, described value)) := by
  simp [Reading.read, Reading.ofProperties, Reading.readMembers_eq_map, schemaOrFree_read]

private theorem content_branches_read (items : List Json) :
    (Reading.read (.array items)).branches.map Noted.content = some (items.map described) := by
  simp [Reading.read, Reading.ofItems, Reading.readItems_eq_map, schemaOrFree_read]

/-- A keyword that is found and has the right shape fills its own field. -/
private theorem holds_ofReadings {readings : List (String × Reading)} {keyword : Keyword}
    {value : Json}
    (found : readings.lookup keyword.name = some (.read value)) (shaped : keyword.Fits value) :
    (ofReadings readings).Holds keyword value := by
  cases keyword with
  | types =>
    rcases shaped with ⟨name, rfl⟩ | ⟨items, rfl⟩
    · exact .type (by simp only [ofReadings, found]; rfl)
    · exact .types (by simp only [ofReadings, found]; rfl)
  | properties =>
    obtain ⟨entries, rfl⟩ := shaped
    exact .properties (by simp only [ofReadings, found, Option.bind_some, content_properties_read])
  | required =>
    obtain ⟨items, rfl⟩ := shaped
    exact .required (by simp only [ofReadings, found]; rfl)
  | additionalProperties =>
    rcases shaped with ⟨entries, rfl⟩ | ⟨flag, rfl⟩
    · exact .additional (by simp only [ofReadings, found]; rfl)
    · exact .allowed (by simp only [ofReadings, found]; rfl)
  | items =>
    refine .items ?_
    rcases shaped with ⟨entries, rfl⟩ | ⟨flag, rfl⟩ <;> (simp only [ofReadings, found]; rfl)
  | enumeration =>
    obtain ⟨items, rfl⟩ := shaped
    exact .enumeration (by simp only [ofReadings, found]; rfl)
  | constant => exact .constant (by simp [ofReadings, found])
  | pattern =>
    obtain ⟨text, rfl⟩ := shaped
    exact .pattern (by simp only [ofReadings, found]; rfl)
  | format =>
    obtain ⟨text, rfl⟩ := shaped
    exact .format (by simp only [ofReadings, found]; rfl)
  | allOf | anyOf | oneOf =>
    obtain ⟨items, rfl⟩ := shaped
    exact .branches (by
      simp only [branchesUnder, ofReadings, found, Option.bind_some, content_branches_read])
  | bound bound =>
    obtain ⟨number, rfl⟩ := shaped
    exact .bound (by simp only [ofReadings, found]; rfl)

private theorem mem_map_fst_fields {schema : Schema} {name : String} :
    name ∈ schema.fields.map Prod.fst ↔
      ∃ keyword, Keyword.name keyword = name ∧ schema.sets keyword = true := by
  simp only [List.mem_map, Prod.exists, mem_fields, sets_eq_isSome_written,
    Option.isSome_iff_exists]
  constructor
  · rintro ⟨_, value, ⟨keyword, rfl, present⟩, rfl⟩
    exact ⟨keyword, rfl, value, present⟩
  · rintro ⟨keyword, rfl, value, present⟩
    exact ⟨_, value, ⟨keyword, rfl, present⟩, rfl⟩

section Object

variable {members : List (String × Json)} (distinct : (Json.object members).Distinct)

include distinct

/-- The reader finds a keyword by its name, which no other member has. -/
theorem lookup_readMembers_of_mem {name : String} {value : Json}
    (listed : (name, value) ∈ members) :
    (Reading.readMembers members).lookup name = some (.read value) := by
  rw [Reading.lookup_readMembers, Json.lookup_eq_some distinct.1 listed, Option.map_some]

theorem sets_ofReadings_iff (keyword : Keyword) :
    (ofReadings (Reading.readMembers members)).sets keyword = true ↔
      ∃ value, (keyword.name, value) ∈ members ∧ keyword.Fits value := by
  constructor
  · intro present
    rw [sets_eq_isSome_written] at present
    obtain ⟨reading, looked, shaped⟩ := wellShaped_of_written present
    rw [Reading.lookup_readMembers] at looked
    obtain ⟨value, found, rfl⟩ := Option.map_eq_some_iff.mp looked
    exact ⟨value, Json.mem_of_lookup found, (keyword.fits_iff_wellShaped value).mpr shaped⟩
  · rintro ⟨value, listed, shaped⟩
    rw [sets_ofReadings (lookup_readMembers_of_mem distinct listed)]
    exact (keyword.fits_iff_wellShaped value).mp shaped

theorem one_place_ofReadings {name : String} {value : Json} (listed : (name, value) ∈ members) :
    Xor (∃ keyword, Keyword.name keyword = name ∧
        (ofReadings (Reading.readMembers members)).sets keyword = true)
      (name ∈ (ofReadings (Reading.readMembers members)).unrecognizedNames) := by
  by_cases fits : ∃ keyword : Keyword, keyword.name = name ∧ keyword.Fits value
  · left
    obtain ⟨keyword, rfl, shaped⟩ := fits
    have present := (sets_ofReadings_iff distinct keyword).mpr ⟨value, listed, shaped⟩
    refine ⟨⟨keyword, rfl, present⟩, ?_⟩
    rw [sets_eq_isSome_written] at present
    exact (tidy_ofReadings distinct).apart keyword present
  · right
    have unfit : ∀ keyword : Keyword, keyword.name = name → ¬ keyword.Fits value :=
      fun keyword same shaped => fits ⟨keyword, same, shaped⟩
    have aside := mem_setAside.mpr ⟨listed, recognized_eq_false_iff.mpr unfit⟩
    refine ⟨List.mem_map_of_mem aside, ?_⟩
    rintro ⟨keyword, rfl, present⟩
    obtain ⟨other, given, shaped⟩ := (sets_ofReadings_iff distinct keyword).mp present
    obtain rfl : other = value := Json.value_eq_of_mem distinct.1 given listed
    exact unfit keyword rfl shaped

/-- The members of one object go each to one place. -/
theorem partitioned_ofReadings :
    Partitioned members (ofReadings (Reading.readMembers members)) := by
  have tidy := tidy_ofReadings distinct
  refine ⟨sets_ofReadings_iff distinct,
    fun listed shaped => holds_ofReadings (lookup_readMembers_of_mem distinct listed) shaped,
    mem_setAside.trans (and_congr_right fun _ => recognized_eq_false_iff), tidy.names,
    one_place_ofReadings distinct, _, toJson_eq _, ?_⟩
  rw [List.perm_ext_iff_of_nodup tidy.nodup_members distinct.1]
  intro name
  rw [List.map_append, List.mem_append, mem_map_fst_fields]
  constructor
  · rintro (⟨keyword, rfl, present⟩ | aside)
    · obtain ⟨value, listed, _⟩ := (sets_ofReadings_iff distinct keyword).mp present
      exact List.mem_map_of_mem listed
    · obtain ⟨member, kept, rfl⟩ := List.mem_map.mp aside
      exact List.mem_map_of_mem (mem_setAside.mp kept).1
  · intro listed
    obtain ⟨⟨_, value⟩, given, rfl⟩ := List.mem_map.mp listed
    rcases one_place_ofReadings distinct given with ⟨field, _⟩ | ⟨aside, _⟩
    · exact .inl field
    · exact .inr aside

end Object

/-- With no name repeated, a field that is present is that of the member with its name. -/
theorem Partitioned.fits {members : List (String × Json)} {schema : Schema} {keyword : Keyword}
    {value : Json} (partitioned : Partitioned members schema) (names : (members.map Prod.fst).Nodup)
    (listed : (keyword.name, value) ∈ members) (present : schema.sets keyword = true) :
    keyword.Fits value := by
  obtain ⟨other, given, shaped⟩ := (partitioned.sets_iff keyword).mp present
  obtain rfl : other = value := Json.value_eq_of_mem names given listed
  exact shaped

/-- At each position stands what the value there describes. The cases follow the position from the
root down: an object above is partitioned, so the field on the way holds what its member says. -/
theorem Placed.eq_described {root value : Json} {schema node : Schema}
    (placed : Placed root schema value node) (distinct : root.Distinct)
    (read : schema = described root) : node = described value ∧ value.Distinct := by
  have partitioned {members : List (String × Json)} {node : Schema}
      (above : node = described (.object members) ∧ (Json.object members).Distinct) :
      Partitioned members node := by
    rw [above.1]
    exact partitioned_ofReadings above.2
  induction placed with
  | root => exact ⟨read, distinct⟩
  | @property members entries node child declared position key value above given field entry found
      ih =>
    have values := Json.distinctMembers_iff.mp ih.2.2 _ given
    refine ⟨?_, Json.distinctMembers_iff.mp values.2 _ (List.mem_of_getElem? entry)⟩
    cases (partitioned ih).holds given ⟨entries, rfl⟩ with
    | properties holds =>
      obtain rfl := Option.some.inj (field.symm.trans holds)
      rw [List.getElem?_map, entry, Option.map_some] at found
      exact (congrArg Prod.snd (Option.some.inj found)).symm
  | @additional members node child value above given field ih =>
    refine ⟨?_, Json.distinctMembers_iff.mp ih.2.2 _ given⟩
    have present : node.sets .additionalProperties = true := by rw [sets, field]; rfl
    have shaped := (partitioned ih).fits ih.2.1 given present
    cases (partitioned ih).holds given shaped with
    | allowed holds => cases field.symm.trans holds
    | additional holds => exact Additional.schema.inj (Option.some.inj (field.symm.trans holds))
    | branches holds => cases holds
  | @items members node child value above given field ih =>
    refine ⟨?_, Json.distinctMembers_iff.mp ih.2.2 _ given⟩
    have present : node.sets .items = true := by rw [sets, field]; rfl
    have shaped := (partitioned ih).fits ih.2.1 given present
    cases (partitioned ih).holds given shaped with
    | items holds => exact Option.some.inj (field.symm.trans holds)
    | branches holds => cases holds
  | @branch members node child keyword values branches position value above given field item found
      ih =>
    have within := Json.distinctMembers_iff.mp ih.2.2 _ given
    refine ⟨?_, Json.distinctItems_iff.mp within _ (List.mem_of_getElem? item)⟩
    have holds : node.branchesUnder keyword = some (values.map described) := by
      cases keyword with
      | allOf | anyOf | oneOf =>
        cases (partitioned ih).holds given ⟨values, rfl⟩ with
        | branches holds => exact holds
      | _ => cases field
    obtain rfl := Option.some.inj (field.symm.trans holds)
    rw [List.getElem?_map, item, Option.map_some] at found
    exact (Option.some.inj found).symm

end Schema

/-- The reader splits every object that it reads as a schema, at the root and below: a keyword fills
its field if and only if it has the right shape, the field then holds what the value says, every
other member is set aside as it is, and writing the schema gives the names of the object again. -/
theorem reader_partitions_keywords {root : Json} {noted : Noted Schema} (distinct : root.Distinct)
    (read : Schema.ofJson root = .ok noted) (members : List (String × Json)) (node : Schema)
    (placed : Schema.Placed root noted.content (.object members) node) :
    Schema.Partitioned members node := by
  have described : noted.content = Schema.described root := by rw [Schema.described, read]
  obtain ⟨same, names⟩ := placed.eq_described distinct described
  rw [same]
  exact Schema.partitioned_ofReadings names

/-- A branch of a property, with a keyword of the wrong shape and an unknown member. -/
theorem reader_partitions_keywords_in_branch :
    let branch : List (String × Json) :=
      [("title", .null), ("minItems", .string "2"), ("const", .null)]
    let property : List (String × Json) := [("anyOf", .array [.null, .object branch])]
    let members : List (String × Json) := [("properties", .object [("a", .object property)])]
    (Json.object members).Distinct ∧ ∃ noted node, Schema.ofJson (.object members) = .ok noted ∧
      Schema.Placed (.object members) noted.content (.object branch) node ∧
      node.assertions.constant = some .null ∧ node.sets (.bound .minItems) = false ∧
      Schema.Partitioned branch node := by
  intro branch property members
  have distinct : (Json.object members).Distinct := by
    simp [members, property, branch, Json.Distinct, Json.DistinctMembers, Json.DistinctItems]
  obtain ⟨noted, read⟩ : ∃ noted, Schema.ofJson (.object members) = .ok noted := ⟨_, rfl⟩
  have content : noted.content = Schema.described (.object members) := by
    rw [Schema.described, read]
  have outer : Schema.Placed (.object members) noted.content (.object property)
      (Schema.described (.object property)) := by
    have entry : [("a", Json.object property)][0]? = some ("a", .object property) := rfl
    rw [content]
    exact .property .root (List.mem_cons_self ..) rfl entry rfl
  have placed : Schema.Placed (.object members) noted.content (.object branch)
      (Schema.described (.object branch)) := by
    have given : (Keyword.anyOf.name, .array [.null, .object branch]) ∈ property :=
      List.mem_cons_self ..
    have item : [Json.null, .object branch][1]? = some (.object branch) := rfl
    exact .branch outer given rfl item rfl
  exact ⟨distinct, noted, _, read, placed, rfl, rfl,
    reader_partitions_keywords distinct read _ _ placed⟩

end SchemaCheck
