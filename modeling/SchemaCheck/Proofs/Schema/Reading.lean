import Mathlib
import SchemaCheck.Schema.Shape
import SchemaCheck.Proofs.Json.Distinct
import SchemaCheck.Proofs.Json.Members
import SchemaCheck.Proofs.Json.Tree
import SchemaCheck.Proofs.Schema.Tree

/-! What a value says as a part of a schema, from what the values in it say. -/
namespace SchemaCheck

namespace Keyword

theorem ofName?_name (keyword : Keyword) : ofName? keyword.name = some keyword := by
  cases keyword with
  | bound bound => cases bound <;> rfl
  | _ => rfl

theorem name_injective : Function.Injective name := by
  intro keyword other same
  have found := ofName?_name keyword
  rw [same, ofName?_name] at found
  exact (Option.some.inj found).symm

theorem nodup_all : all.Nodup := by decide

theorem mem_all (keyword : Keyword) : keyword ∈ all :=
  List.mem_of_find?_eq_some (ofName?_name keyword)

end Keyword

theorem recognized_name (keyword : Keyword) (reading : Reading) :
    recognized keyword.name reading = reading.wellShaped keyword := by
  simp [recognized, Keyword.ofName?_name]

namespace Reading

theorem readItems_eq_map (items : List Json) : readItems items = items.map read := by
  induction items with
  | nil => rfl
  | cons item rest ih => rw [readItems, ih, List.map_cons]

theorem readMembers_eq_map (members : List (String × Json)) :
    readMembers members = members.map fun (name, value) => (name, read value) := by
  induction members with
  | nil => rfl
  | cons member rest ih => rw [readMembers, ih, List.map_cons]

@[simp] theorem read_value (value : Json) : (read value).value = value := by
  cases value <;> rfl

theorem lookup_readMembers (members : List (String × Json)) (name : String) :
    (readMembers members).lookup name = (members.lookup name).map read := by
  rw [readMembers_eq_map, Json.lookup_map]

/-- The schemas that a value describes at the places where it may stand. -/
def schemas (reading : Reading) : List Schema :=
  (reading.schema.map Noted.content).toList ++
    ((reading.properties.map Noted.content).getD []).map Prod.snd ++
    (reading.branches.map Noted.content).getD []

theorem mem_schemas {reading : Reading} {schema : Schema} :
    schema ∈ reading.schemas ↔
      reading.schema.map Noted.content = some schema ∨
      (∃ key, (key, schema) ∈ (reading.properties.map Noted.content).getD []) ∨
      schema ∈ (reading.branches.map Noted.content).getD [] := by
  simp [schemas]

theorem eq_unconstrained_or_mem_schemas (reading : Reading) :
    reading.schemaOrFree = .unconstrained ∨ reading.schemaOrFree ∈ reading.schemas := by
  cases described : reading.schema with
  | none => exact .inl (by simp [schemaOrFree, described])
  | some noted => exact .inr (mem_schemas.mpr (.inl (by simp [schemaOrFree, described])))

theorem nodup_properties {value : Json} (distinct : value.Distinct) :
    (((read value).properties.map Noted.content).getD []).map Prod.fst |>.Nodup := by
  cases value with
  | object entries =>
    simpa [read, ofProperties, readMembers_eq_map, Function.comp_def] using distinct.1
  | _ => exact .nil

end Reading

theorem Schema.ofJson_eq_ok_iff {value : Json} {noted : Noted Schema} :
    Schema.ofJson value = .ok noted ↔ (Reading.read value).schema = some noted := by
  rw [Schema.ofJson, Schema.read?]
  cases (Reading.read value).schema <;> simp

/-- Every object and every boolean is read. -/
theorem Schema.exists_ofJson {value : Json}
    (shape : (∃ members, value = .object members) ∨ ∃ flag, value = .bool flag) :
    ∃ noted, Schema.ofJson value = .ok noted := by
  rcases shape with ⟨members, rfl⟩ | ⟨flag, rfl⟩ <;> exact ⟨_, rfl⟩

/-- Every subschema stands in one of the members. -/
theorem Schema.mem_schemas_of_mem_subschemas {readings : List (String × Reading)} {child : Schema}
    (member : child ∈ (Schema.ofReadings readings).subschemas) :
    ∃ entry ∈ readings, child ∈ entry.2.schemas := by
  have found {keyword : Keyword} {reading : Reading}
      (present : readings.lookup keyword.name = some reading)
      (described : child ∈ reading.schemas) :
      ∃ entry ∈ readings, child ∈ entry.2.schemas :=
    ⟨_, Json.mem_of_lookup present, described⟩
  have branches {keyword : Keyword}
      (branch : child ∈
        (((readings.lookup keyword.name).bind Reading.branches).map Noted.content).getD []) :
      ∃ entry ∈ readings, child ∈ entry.2.schemas := by
    cases present : readings.lookup keyword.name with
    | none => simp [present] at branch
    | some reading =>
      rw [present] at branch
      exact found present (Reading.mem_schemas.mpr (.inr (.inr branch)))
  simp only [mem_subschemas, ofReadings, declared] at member
  rcases member with ⟨key, declared⟩ | extra | item | branch | branch | branch
  · cases present : readings.lookup Keyword.properties.name with
    | none => simp [present] at declared
    | some reading =>
      rw [present] at declared
      exact found present (Reading.mem_schemas.mpr (.inr (.inl ⟨key, declared⟩)))
  · obtain ⟨reading, present, additional⟩ := Option.bind_eq_some_iff.mp extra
    refine found present (Reading.mem_schemas.mpr (.inl ?_))
    unfold Reading.additional at additional
    split at additional
    · cases additional
    · simpa using additional
  · cases present : readings.lookup Keyword.items.name with
    | none => simp [present] at item
    | some reading =>
      rw [present] at item
      exact found present (Reading.mem_schemas.mpr (.inl item))
  · exact branches branch
  · exact branches branch
  · exact branches branch

theorem setAside_readMembers (members : List (String × Json)) :
    setAside (Reading.readMembers members) =
      (members.filter fun member => !recognized member.1 (.read member.2)).mergeSort
        fun a b => a.1 ≤ b.1 := by
  rw [setAside, Reading.readMembers_eq_map, List.filter_map, List.map_map]
  simp [Function.comp_def]

theorem mem_setAside {members : List (String × Json)} {name : String} {value : Json} :
    (name, value) ∈ setAside (Reading.readMembers members) ↔
      (name, value) ∈ members ∧ recognized name (.read value) = false := by
  rw [setAside_readMembers, List.mem_mergeSort, List.mem_filter, Bool.not_eq_true']

theorem sorted_setAside (readings : List (String × Reading)) :
    (setAside readings).Pairwise fun a b => a.1 ≤ b.1 := by
  have sorted : (setAside readings).Pairwise fun a b => decide (a.1 ≤ b.1) = true :=
    List.pairwise_mergeSort (fun a b c => by simpa using le_trans)
      (fun a b => by simpa using le_total a.1 b.1) _
  exact sorted.imp of_decide_eq_true

theorem nodup_setAside {members : List (String × Json)}
    (names : (members.map Prod.fst).Nodup) :
    ((setAside (Reading.readMembers members)).map Prod.fst).Nodup := by
  rw [setAside_readMembers, ((List.mergeSort_perm _ _).map Prod.fst).nodup_iff]
  exact names.sublist (List.filter_sublist.map Prod.fst)

end SchemaCheck
