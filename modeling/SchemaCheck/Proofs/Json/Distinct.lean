import Mathlib
import SchemaCheck.Input.Text
import SchemaCheck.Proofs.Failure
import SchemaCheck.Proofs.Json.Tree

/-! Values without repeated names. Every document that is read from a text is one. -/
namespace SchemaCheck

namespace Json

theorem distinctItems_iff {items : List Json} :
    DistinctItems items ↔ ∀ item ∈ items, item.Distinct := by
  induction items with
  | nil => simp [DistinctItems]
  | cons item rest ih => simp [DistinctItems, ih]

theorem distinctMembers_iff {members : List (String × Json)} :
    DistinctMembers members ↔ ∀ member ∈ members, member.2.Distinct := by
  induction members with
  | nil => simp [DistinctMembers]
  | cons member rest ih => simp [DistinctMembers, ih]

theorem Distinct.of_mem_parts {value part : Json} (distinct : value.Distinct)
    (inside : part ∈ value.parts) : part.Distinct := by
  cases value with
  | array items => exact distinctItems_iff.mp distinct part inside
  | object members =>
    obtain ⟨member, listed, rfl⟩ := List.mem_map.mp inside
    exact distinctMembers_iff.mp distinct.2 member listed
  | null | bool | number | string => cases inside

private theorem map_fst_put {α : Type} (members : List (String × α)) (name : String) (value : α) :
    (put members name value).map Prod.fst =
      if name ∈ members.map Prod.fst then members.map Prod.fst
      else members.map Prod.fst ++ [name] := by
  induction members with
  | nil => simp [put]
  | cons member rest ih =>
    obtain ⟨known, old⟩ := member
    by_cases same : known = name
    · simp [put, same]
    · by_cases later : name ∈ rest.map Prod.fst <;>
        simp [put, same, Ne.symm same, ih, later]

private theorem mem_put {α : Type} {members : List (String × α)} {name : String} {value : α}
    {member : String × α} (listed : member ∈ put members name value) :
    member ∈ members ∨ member.2 = value := by
  induction members with
  | nil =>
    obtain rfl := List.mem_singleton.mp listed
    exact .inr rfl
  | cons first rest ih =>
    obtain ⟨known, old⟩ := first
    rw [put] at listed
    split at listed
    · rcases List.mem_cons.mp listed with rfl | later
      · exact .inr rfl
      · exact .inl (List.mem_cons_of_mem _ later)
    · rcases List.mem_cons.mp listed with rfl | later
      · exact .inl (List.mem_cons_self ..)
      · exact (ih later).imp_left (List.mem_cons_of_mem _)

theorem distinct_object_put {members : List (String × Json)} (name : String) {value : Json}
    (known : (object members).Distinct) (added : value.Distinct) :
    (object (put members name value)).Distinct := by
  obtain ⟨names, values⟩ := known
  rw [distinctMembers_iff] at values
  refine ⟨?_, distinctMembers_iff.mpr fun member listed => ?_⟩
  · rw [map_fst_put]
    split
    · exact names
    · next fresh =>
      exact List.nodup_append'.mpr ⟨names, List.nodup_singleton _, by simpa using fresh⟩
  · rcases mem_put listed with old | new
    · exact values member old
    · exact new ▸ added

theorem distinct_object_nil : (object []).Distinct := ⟨List.nodup_nil, trivial⟩

/-- Puts members one after another. -/
def putAll {α : Type} (known added : List (String × α)) : List (String × α) :=
  added.foldl (fun members member => put members member.1 member.2) known

private theorem put_eq_append {α : Type} {members : List (String × α)} {name : String}
    (fresh : name ∉ members.map Prod.fst) (value : α) :
    put members name value = members ++ [(name, value)] := by
  induction members with
  | nil => rfl
  | cons member rest ih =>
    rw [List.map_cons, List.mem_cons, not_or] at fresh
    simp [put, Ne.symm fresh.1, ih fresh.2]

theorem putAll_eq_append {α : Type} (added : List (String × α)) {known : List (String × α)}
    (distinct : ((known ++ added).map Prod.fst).Nodup) : putAll known added = known ++ added := by
  induction added generalizing known with
  | nil => simp [putAll]
  | cons member rest ih =>
    have fresh : member.1 ∉ known.map Prod.fst := by
      rw [List.map_append, List.map_cons] at distinct
      exact fun listed => List.disjoint_of_nodup_append distinct listed (List.mem_cons_self ..)
    have step : putAll known (member :: rest) = putAll (known ++ [member]) rest := by
      rw [putAll, List.foldl_cons, put_eq_append fresh]
      rfl
    rw [step, ih (by simpa using distinct), List.append_assoc, List.singleton_append]

mutual

theorem distinct_merged : ∀ value : Json, value.merged.Distinct
  | .null | .bool _ | .number _ | .string _ => trivial
  | .array items => distinct_mergedItems items
  | .object members => distinct_mergedMembers distinct_object_nil members

theorem distinct_mergedItems : ∀ items : List Json, DistinctItems (mergedItems items)
  | [] => trivial
  | item :: rest => ⟨distinct_merged item, distinct_mergedItems rest⟩

theorem distinct_mergedMembers {known : List (String × Json)} (distinct : (object known).Distinct) :
    ∀ members : List (String × Json), (object (mergedMembers known members)).Distinct
  | [] => distinct
  | (name, value) :: rest =>
    distinct_mergedMembers (distinct_object_put name distinct (distinct_merged value)) rest

end

theorem distinct_of_parse? {text : String} {value : Json} (parsed : parse? text = some value) :
    value.Distinct := by
  obtain ⟨verbatim, _, rfl⟩ := Option.map_eq_some_iff.mp parsed
  exact distinct_merged verbatim

end Json

namespace Yaml.Node

mutual

theorem distinct_of_toJson :
    ∀ (node : Node) {value : Json}, node.toJson = .ok value → value.Distinct
  | .null, _, converted => by cases converted; trivial
  | .bool _, _, converted => by cases converted; trivial
  | .string _, _, converted => by cases converted; trivial
  | .number amount, _, converted => by
    cases amount <;> cases converted
    trivial
  | .tagged _ node, _, converted => distinct_of_toJson node converted
  | .sequence items, _, converted => by
    obtain ⟨values, each, rfl⟩ := map_eq_ok.mp converted
    exact distinctItems_of_itemsToJson items each
  | .mapping entries, _, converted => by
    obtain ⟨members, each, rfl⟩ := map_eq_ok.mp converted
    exact distinct_of_entriesToJson entries Json.distinct_object_nil each

theorem distinctItems_of_itemsToJson :
    ∀ (items : List Node) {values : List Json}, itemsToJson items = .ok values →
      Json.DistinctItems values
  | [], _, converted => by cases converted; trivial
  | item :: rest, _, converted => by
    obtain ⟨first, single, onward⟩ := bind_eq_ok.mp converted
    obtain ⟨others, each, result⟩ := bind_eq_ok.mp onward
    cases result
    exact ⟨distinct_of_toJson item single, distinctItems_of_itemsToJson rest each⟩

theorem distinct_of_entriesToJson :
    ∀ (entries : List (Node × Node)) {known members : List (String × Json)},
      (Json.object known).Distinct → entriesToJson known entries = .ok members →
        (Json.object members).Distinct
  | [], _, _, distinct, converted => by cases converted; exact distinct
  | (key, value) :: rest, known, _, distinct, converted => by
    obtain ⟨name, _, onward⟩ := bind_eq_ok.mp converted
    obtain ⟨item, single, added⟩ := bind_eq_ok.mp onward
    have more := Json.distinct_object_put name distinct (distinct_of_toJson value single)
    exact distinct_of_entriesToJson rest more added

end

end Yaml.Node

private theorem distinct_of_yaml {text : String} {value : Json}
    (read : Yaml.toJson text = .ok value) :
    value.Distinct := by
  unfold Yaml.toJson at read
  split at read
  next node _ =>
    cases converted : node.toJson with
    | error fault => simp [converted, Except.mapError] at read
    | ok document =>
      simp only [converted, Except.mapError, Except.ok.injEq] at read
      exact read ▸ node.distinct_of_toJson converted
  next => cases read

/-- Documents that are read have no repeated names, in either syntax. -/
theorem distinct_of_parseText {format : Syntax} {origin text : String} {document : Json}
    (read : parseText format origin text = .ok document) : document.Distinct := by
  unfold parseText at read
  split at read
  · cases read
  · split at read
    · split at read
      next parsed =>
        cases read
        exact Json.distinct_of_parse? parsed
      next => cases read
    · split at read
      next converted =>
        cases read
        exact distinct_of_yaml converted
      next => cases read
      next => cases read

end SchemaCheck
