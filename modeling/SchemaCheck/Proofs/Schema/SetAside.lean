import Mathlib
import SchemaCheck.Proofs.Schema.DocumentOrder

/-! Which nodes of a schema set keywords aside. Each keyword of the wrong shape that a reader notes
is set aside by one node, since every schema that is read is kept. -/
namespace SchemaCheck

namespace Schema

/-- The nodes of the tree, once for each place where they stand. -/
def nodes (schema : Schema) : List Schema :=
  schema :: schema.subschemas.attach.flatMap fun child => nodes child.1
termination_by sizeOf schema
decreasing_by exact sizeOf_lt_of_mem child.2

theorem nodes_eq (schema : Schema) : schema.nodes = schema :: schema.subschemas.flatMap nodes := by
  rw [nodes]
  conv_rhs => rw [← List.attach_map_subtype_val schema.subschemas, List.flatMap_map]

/-- The keywords among the names that this node sets aside. -/
def ownKeywordsAside (schema : Schema) : List Keyword :=
  schema.unrecognizedNames.filterMap Keyword.ofName?

/-- Each node with each keyword that it sets aside. -/
def keywordsAside (schema : Schema) : List (Schema × Keyword) :=
  schema.nodes.flatMap fun node => node.ownKeywordsAside.map fun keyword => (node, keyword)

/-- The names of the keywords that the nodes set aside. -/
def namesAside (schema : Schema) : List String :=
  schema.keywordsAside.map fun pair => pair.2.name

theorem namesAside_eq_flatMap (schema : Schema) :
    schema.namesAside = schema.nodes.flatMap fun node => node.ownKeywordsAside.map Keyword.name := by
  rw [namesAside, keywordsAside, List.map_flatMap]
  simp only [List.map_map]
  rfl

theorem namesAside_eq (schema : Schema) :
    schema.namesAside =
      schema.ownKeywordsAside.map Keyword.name ++ schema.subschemas.flatMap namesAside := by
  rw [namesAside_eq_flatMap, nodes_eq, List.flatMap_cons, List.flatMap_assoc]
  simp only [← namesAside_eq_flatMap]

private theorem namesAside_unconstrained : unconstrained.namesAside = [] := by
  rw [namesAside_eq]
  rfl

end Schema

namespace Reading

/-- The schemas that a keyword gives, if its value reads like this. -/
def schemasUnder (reading : Reading) : Keyword → List Schema
  | .properties => ((reading.properties.map Noted.content).getD []).map Prod.snd
  | .additionalProperties => (reading.additional.bind Additional.schema?).toList
  | .items => (reading.schema.map Noted.content).toList
  | .allOf => (reading.branches.map Noted.content).getD []
  | .anyOf => (reading.branches.map Noted.content).getD []
  | .oneOf => (reading.branches.map Noted.content).getD []
  | _ => []

private theorem schemasUnder_eq_nil {reading : Reading} {keyword : Keyword}
    (shapeless : reading.wellShaped keyword = false) : reading.schemasUnder keyword = [] := by
  cases keyword <;> simp_all [schemasUnder, wellShaped]

private theorem schemasUnder_of_not_mem_holders {reading : Reading} {keyword : Keyword}
    (other : keyword ∉ Keyword.holders) : reading.schemasUnder keyword = [] := by
  cases keyword with
  | properties | additionalProperties | items | allOf | anyOf | oneOf =>
    simp [Keyword.holders] at other
  | _ => rfl

/-- What a function finds under each keyword of the members. -/
def byKeyword {α : Type} (find : Keyword → Reading → List α) (readings : List (String × Reading)) :
    List α :=
  Keyword.all.flatMap fun keyword => ((readings.lookup keyword.name).map (find keyword)).getD []

/-- What a function finds in a member, if its name is a keyword. -/
def inMember {α : Type} (find : Keyword → Reading → List α) (member : String × Reading) : List α :=
  ((Keyword.ofName? member.1).map fun keyword => find keyword member.2).getD []

private theorem flatMap_eq_single {α β : Type} {items : List α} {item : α} {part : α → List β}
    (distinct : items.Nodup) (listed : item ∈ items)
    (others : ∀ other ∈ items, other ≠ item → part other = []) :
    items.flatMap part = part item := by
  induction items with
  | nil => cases listed
  | cons first rest ih =>
    obtain ⟨fresh, distinct⟩ := List.nodup_cons.mp distinct
    rw [List.flatMap_cons]
    rcases List.mem_cons.mp listed with rfl | later
    · have nothing : rest.flatMap part = [] := by
        rw [List.flatMap_eq_nil_iff]
        intro other inside
        apply others other (List.mem_cons_of_mem _ inside)
        rintro rfl
        exact fresh inside
      rw [nothing, List.append_nil]
    · have different : first ≠ item := by
        rintro rfl
        exact fresh later
      rw [others first (List.mem_cons_self ..) different, List.nil_append]
      exact ih distinct later fun other inside => others other (List.mem_cons_of_mem _ inside)

/-- A name is that of one keyword at most. -/
private theorem flatMap_named_eq {α : Type} (part : Keyword → List α) (name : String) :
    (Keyword.all.flatMap fun keyword => if keyword.name = name then part keyword else []) =
      ((Keyword.ofName? name).map part).getD [] := by
  cases named : Keyword.ofName? name with
  | none =>
    rw [Option.map_none, Option.getD_none, List.flatMap_eq_nil_iff]
    intro keyword _
    apply if_neg
    rintro rfl
    rw [Keyword.ofName?_name] at named
    cases named
  | some keyword =>
    obtain rfl : keyword.name = name := by simpa using List.find?_some named
    rw [flatMap_eq_single Keyword.nodup_all keyword.mem_all, if_pos rfl, Option.map_some,
      Option.getD_some]
    intro other _ different
    exact if_neg fun same => different (Keyword.name_injective same)

/-- Members with different names can be gone through keyword by keyword. -/
theorem flatMap_inMember_perm {α : Type} (find : Keyword → Reading → List α)
    {readings : List (String × Reading)} (names : (readings.map Prod.fst).Nodup) :
    (readings.flatMap (inMember find)).Perm (byKeyword find readings) := by
  induction readings with
  | nil =>
    have nothing : byKeyword find [] = [] := List.flatMap_eq_nil_iff.mpr fun _ _ => rfl
    rw [nothing]
    exact .nil
  | cons member rest ih =>
    obtain ⟨name, reading⟩ := member
    rw [List.map_cons, List.nodup_cons] at names
    obtain ⟨fresh, names⟩ := names
    let first (keyword : Keyword) := if keyword.name = name then find keyword reading else []
    let later (keyword : Keyword) := ((rest.lookup keyword.name).map (find keyword)).getD []
    have split : byKeyword find ((name, reading) :: rest) =
        Keyword.all.flatMap fun keyword => first keyword ++ later keyword := by
      refine List.flatMap_congr fun keyword _ => ?_
      rw [List.lookup_cons]
      by_cases same : keyword.name = name
      · have missing : rest.lookup name = none := lookup_eq_none_iff_not_mem.mpr fresh
        simp [first, later, same, missing]
      · have different : (keyword.name == name) = false := beq_eq_false_iff_ne.mpr same
        simp [first, later, same, different]
    rw [List.flatMap_cons, split]
    calc inMember find (name, reading) ++ rest.flatMap (inMember find)
        = Keyword.all.flatMap first ++ rest.flatMap (inMember find) := by
          rw [flatMap_named_eq fun keyword => find keyword reading]
          rfl
      List.Perm _ (Keyword.all.flatMap first ++ Keyword.all.flatMap later) :=
          (ih names).append_left _
      List.Perm _ _ := List.flatMap_append_perm _ _ _

private theorem subschemas_ofReadings (readings : List (String × Reading)) :
    (Schema.ofReadings readings).subschemas =
      byKeyword (fun keyword reading => reading.schemasUnder keyword) readings := by
  let part (keyword : Keyword) : List Schema :=
    ((readings.lookup keyword.name).map fun reading => reading.schemasUnder keyword).getD []
  have empty (keyword : Keyword) (other : keyword ∉ Keyword.holders) : part keyword = [] := by
    simp only [part]
    cases readings.lookup keyword.name with
    | none => rfl
    | some reading => exact schemasUnder_of_not_mem_holders other
  have properties : part .properties = (Schema.ofReadings readings).declared.map Prod.snd := by
    simp only [part, Schema.declared, Schema.ofReadings]
    cases readings.lookup Keyword.properties.name <;> rfl
  have additional : part .additionalProperties =
      (Schema.ofReadings readings).extraSchema?.toList := by
    simp only [part, Schema.extraSchema?, Schema.ofReadings]
    cases readings.lookup Keyword.additionalProperties.name <;> rfl
  have items : part .items = (Schema.ofReadings readings).items.toList := by
    simp only [part, Schema.ofReadings]
    cases readings.lookup Keyword.items.name <;> rfl
  have allOf : part .allOf = (Schema.ofReadings readings).allOf.getD [] := by
    simp only [part, Schema.ofReadings]
    cases readings.lookup Keyword.allOf.name <;> rfl
  have anyOf : part .anyOf = (Schema.ofReadings readings).anyOf.getD [] := by
    simp only [part, Schema.ofReadings]
    cases readings.lookup Keyword.anyOf.name <;> rfl
  have oneOf : part .oneOf = (Schema.ofReadings readings).oneOf.getD [] := by
    simp only [part, Schema.ofReadings]
    cases readings.lookup Keyword.oneOf.name <;> rfl
  rw [Schema.subschemas, ← properties, ← additional, ← items, ← allOf, ← anyOf, ← oneOf]
  change _ = Keyword.all.flatMap part
  simp [Keyword.all, empty, Keyword.holders]

section ByKeyword

variable {α β : Type} {find other : Keyword → Reading → List α}
  (readings : List (String × Reading))

private theorem byKeyword_perm
    (each : ∀ keyword reading, readings.lookup keyword.name = some reading →
      (find keyword reading).Perm (other keyword reading)) :
    (byKeyword find readings).Perm (byKeyword other readings) := by
  refine List.Perm.flatMap_left _ fun keyword _ => ?_
  cases found : readings.lookup keyword.name with
  | none => exact .nil
  | some reading => exact each keyword reading found

private theorem byKeyword_append_perm :
    (byKeyword (fun keyword reading => find keyword reading ++ other keyword reading) readings).Perm
      (byKeyword find readings ++ byKeyword other readings) := by
  refine List.Perm.trans (List.Perm.of_eq ?_) (List.flatMap_append_perm _ _ _).symm
  refine List.flatMap_congr fun keyword _ => ?_
  cases readings.lookup keyword.name <;> rfl

private theorem flatMap_byKeyword (change : α → List β) :
    (byKeyword find readings).flatMap change =
      byKeyword (fun keyword reading => (find keyword reading).flatMap change) readings := by
  rw [byKeyword, List.flatMap_assoc]
  refine List.flatMap_congr fun keyword _ => ?_
  cases readings.lookup keyword.name <;> rfl

end ByKeyword

/-- The keyword itself, if its value has the wrong shape. -/
def ownNotes (keyword : Keyword) (reading : Reading) : List String :=
  if reading.wellShaped keyword then [] else [keyword.name]

def keywordNotes (keyword : Keyword) (reading : Reading) : List String :=
  if reading.wellShaped keyword then reading.notesUnder keyword else [keyword.name]

private theorem memberNotes_eq (name : String) (reading : Reading) :
    memberNotes name reading = inMember keywordNotes (name, reading) := by
  rw [memberNotes, inMember]
  cases named : Keyword.ofName? name with
  | none => rfl
  | some keyword =>
    obtain rfl : keyword.name = name := by simpa using List.find?_some named
    rfl

/-- A keyword is set aside by the node whose member it is. -/
private theorem ownKeywordsAside_perm (readings : List (String × Reading)) :
    ((Schema.ofReadings readings).ownKeywordsAside.map Keyword.name).Perm
      (readings.flatMap (inMember ownNotes)) := by
  have kept : (((readings.filter fun member => !recognized member.1 member.2).map
      Prod.fst).filterMap Keyword.ofName?).map Keyword.name =
        readings.flatMap (inMember ownNotes) := by
    induction readings with
    | nil => rfl
    | cons member rest ih =>
      obtain ⟨name, reading⟩ := member
      rw [List.flatMap_cons, ← ih, List.filter_cons]
      cases named : Keyword.ofName? name with
      | none => simp [recognized, inMember, named]
      | some keyword =>
        cases shape : reading.wellShaped keyword <;>
          simp [recognized, inMember, ownNotes, named, shape]
  rw [← kept]
  apply List.Perm.map
  apply List.Perm.filterMap
  have sorted := (List.mergeSort_perm ((readings.filter fun member =>
    !recognized member.1 member.2).map fun member => (member.1, member.2.value))
      fun a b => a.1 ≤ b.1).map Prod.fst
  rw [List.map_map] at sorted
  exact sorted

/-- What is noted while a value is read as a schema is what the nodes of the schema set aside. -/
def NotedAside (value : Json) : Prop :=
  (read value).schemaNotes.Perm (read value).schemaOrFree.namesAside

private theorem notedAside_of_no_object {value : Json}
    (other : ∀ members, value ≠ .object members) :
    NotedAside value := by
  have free : (read value).schemaOrFree = .unconstrained := by
    cases value with
    | object members => exact absurd rfl (other members)
    | _ => rfl
  rw [NotedAside, schemaNotes_eq_nil other, free, Schema.namesAside_unconstrained]

private theorem properties_aside {entries : List (String × Json)}
    (parts : ∀ entry ∈ entries, NotedAside entry.2) :
    ((read (.object entries)).notesUnder .properties).Perm
      (((read (.object entries)).schemasUnder .properties).flatMap Schema.namesAside) := by
  have schemas : (read (.object entries)).schemasUnder .properties =
      entries.map fun entry => (read entry.2).schemaOrFree := by
    simp [schemasUnder, read, ofProperties, readMembers_eq_map]
  rw [notesUnder_properties, schemas, List.flatMap_map]
  exact List.Perm.flatMap_left _ parts

theorem branches_aside {keyword : Keyword} {values : List Json}
    (combines : keyword = .allOf ∨ keyword = .anyOf ∨ keyword = .oneOf)
    (parts : ∀ value ∈ values, NotedAside value) :
    ((read (.array values)).notesUnder keyword).Perm
      (((read (.array values)).schemasUnder keyword).flatMap Schema.namesAside) := by
  have schemas : (read (.array values)).schemasUnder keyword =
      values.map fun value => (read value).schemaOrFree := by
    rcases combines with rfl | rfl | rfl <;>
      simp [schemasUnder, read, ofItems, readItems_eq_map]
  rw [notesUnder_branches values combines, schemas, List.flatMap_map]
  exact List.Perm.flatMap_left _ parts

private theorem notesUnder_aside {value : Json} (own : NotedAside value)
    (parts : ∀ part ∈ value.parts, NotedAside part) {keyword : Keyword}
    (fits : keyword.Fits value) :
    ((read value).notesUnder keyword).Perm
      (((read value).schemasUnder keyword).flatMap Schema.namesAside) := by
  cases keyword with
  | additionalProperties =>
    rcases fits with ⟨members, rfl⟩ | ⟨flag, rfl⟩
    · exact own.trans (List.Perm.of_eq (List.append_nil _).symm)
    · exact .nil
  | items =>
    rcases fits with ⟨members, rfl⟩ | ⟨flag, rfl⟩
    · exact own.trans (List.Perm.of_eq (List.append_nil _).symm)
    · exact own.trans (List.Perm.of_eq (List.append_nil _).symm)
  | properties =>
    obtain ⟨entries, rfl⟩ := fits
    exact properties_aside (List.forall_mem_map.mp parts)
  | allOf =>
    obtain ⟨values, rfl⟩ := fits
    exact branches_aside (.inl rfl) parts
  | anyOf =>
    obtain ⟨values, rfl⟩ := fits
    exact branches_aside (.inr (.inl rfl)) parts
  | oneOf =>
    obtain ⟨values, rfl⟩ := fits
    exact branches_aside (.inr (.inr rfl)) parts
  | _ => exact .nil

/-- The notes of one keyword are its own name or those of the schemas it gives. -/
private theorem keywordNotes_perm {value : Json} (own : NotedAside value)
    (parts : ∀ part ∈ value.parts, NotedAside part) (keyword : Keyword) :
    (keywordNotes keyword (read value)).Perm
      (ownNotes keyword (read value) ++
        ((read value).schemasUnder keyword).flatMap Schema.namesAside) := by
  rw [keywordNotes, ownNotes]
  cases shape : (read value).wellShaped keyword with
  | false =>
    rw [schemasUnder_eq_nil shape]
    exact .refl _
  | true => exact notesUnder_aside own parts ((keyword.fits_iff_wellShaped value).mpr shape)

private theorem object_aside {members : List (String × Json)} (names : (members.map Prod.fst).Nodup)
    (each : ∀ member ∈ members, NotedAside member.2 ∧ ∀ part ∈ member.2.parts, NotedAside part) :
    NotedAside (.object members) := by
  have distinct : ((readMembers members).map Prod.fst).Nodup := by
    simpa [readMembers_eq_map, Function.comp_def] using names
  have notes : (read (.object members)).schemaNotes =
      (readMembers members).flatMap (inMember keywordNotes) := by
    rw [schemaNotes_object, readMembers_eq_map, List.flatMap_map]
    exact List.flatMap_congr fun member _ => memberNotes_eq member.1 (read member.2)
  have found keyword reading (looked : (readMembers members).lookup keyword.name = some reading) :
      (keywordNotes keyword reading).Perm
        (ownNotes keyword reading ++ (reading.schemasUnder keyword).flatMap Schema.namesAside) := by
    rw [lookup_readMembers] at looked
    obtain ⟨value, given, rfl⟩ := Option.map_eq_some_iff.mp looked
    obtain ⟨own, parts⟩ := each _ (Json.mem_of_lookup given)
    exact keywordNotes_perm own parts keyword
  have free : (read (.object members)).schemaOrFree = .ofReadings (readMembers members) := rfl
  rw [NotedAside, notes, free, Schema.namesAside_eq, subschemas_ofReadings, flatMap_byKeyword]
  calc List.Perm ((readMembers members).flatMap (inMember keywordNotes))
          (byKeyword keywordNotes (readMembers members)) := flatMap_inMember_perm _ distinct
    List.Perm _ (byKeyword (fun keyword reading => ownNotes keyword reading ++
          (reading.schemasUnder keyword).flatMap Schema.namesAside) (readMembers members)) :=
      byKeyword_perm _ found
    List.Perm _ (byKeyword ownNotes (readMembers members) ++
          byKeyword (fun _ reading => _) (readMembers members)) := byKeyword_append_perm _
    List.Perm _ _ := ((flatMap_inMember_perm _ distinct).symm.trans
      (ownKeywordsAside_perm _).symm).append_right _

theorem notedAside (value : Json) (distinct : value.Distinct) : NotedAside value := by
  induction value using Json.object_induction with
  | other value plain => exact notedAside_of_no_object plain
  | object members ih =>
    refine object_aside distinct.1 fun member listed => ?_
    have held : member.2.Distinct := Json.distinctMembers_iff.mp distinct.2 member listed
    obtain ⟨own, parts⟩ := ih member listed
    exact ⟨own held, fun part inside => parts part inside (held.of_mem_parts inside)⟩

end Reading
end SchemaCheck
