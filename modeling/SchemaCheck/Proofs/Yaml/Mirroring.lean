import Mathlib
import SchemaCheck.Proofs.Failure
import SchemaCheck.Proofs.Json.Distinct
import SchemaCheck.Proofs.Matching
import SchemaCheck.Proofs.Yaml.Tree

/-! What the conversion keeps of a YAML value. Keys that differ may become one name, and then the
later entry takes the place of the earlier one. -/
namespace SchemaCheck

namespace Yaml.Node

/-- The value has the shape of the node with its tags erased: numbers, texts and flags are the
same, sequences have their items in their order, and each entry of a mapping has a member of its
own, in its order and under the text of its key. -/
inductive Mirrors : Node → Json → Prop where
  | null : Mirrors .null .null
  | bool (flag : Bool) : Mirrors (.bool flag) (.bool flag)
  | number (kept : Json.Number) : Mirrors (.number (.finite kept)) (.number kept)
  | string (text : String) : Mirrors (.string text) (.string text)
  | sequence {items values} (each : List.Forall₂ Mirrors items values) :
      Mirrors (.sequence items) (.array values)
  | mapping {entries members}
      (names : List.Forall₂ (fun entry member => entry.1.memberName = .ok member.1) entries members)
      (values : List.Forall₂ Mirrors (entries.map Prod.snd) (members.map Prod.snd)) :
      Mirrors (.mapping entries) (.object members)
  | tagged {tag node value} (inner : Mirrors node value) : Mirrors (.tagged tag node) value

/-- No two keys of one mapping become one name. -/
def NamesApart (node : Node) : Prop :=
  ∀ entries, (mapping entries).ValueWithin node →
    (entries.map fun entry => entry.1.memberName).Nodup

theorem NamesApart.of_valueWithin {part node : Node} (apart : node.NamesApart)
    (upward : ∀ {inner : Node}, inner.ValueWithin part → inner.ValueWithin node) :
    part.NamesApart := fun entries held => apart entries (upward held)

theorem nodup_memberName_iff {entries : List (Node × Node)} {members : List (String × Json)}
    (names : List.Forall₂ (fun entry member => entry.1.memberName = .ok member.1)
      entries members) :
    (entries.map fun entry => entry.1.memberName).Nodup ↔ (members.map Prod.fst).Nodup := by
  have same : entries.map (fun entry => entry.1.memberName) = (members.map Prod.fst).map .ok := by
    rw [List.map_map]
    exact map_eq_of_forall₂ names fun entry member named => named
  rw [same, List.nodup_map_iff fun a b equal => Except.ok.inj equal]

private theorem itemsToJson_eq_ok {items : List Node} {values : List Json}
    (converted : itemsToJson items = .ok values) :
    List.Forall₂ (fun item value => item.toJson = .ok value) items values := by
  induction items generalizing values with
  | nil =>
    cases converted
    exact .nil
  | cons item rest ih =>
    obtain ⟨first, single, onward⟩ := bind_eq_ok.mp converted
    obtain ⟨others, each, result⟩ := bind_eq_ok.mp onward
    cases result
    exact .cons single (ih each)

private theorem entriesToJson_eq_ok {entries : List (Node × Node)}
    {known members : List (String × Json)}
    (converted : entriesToJson known entries = .ok members) : ∃ added,
      List.Forall₂ (fun entry member => entry.1.memberName = .ok member.1) entries added ∧
      List.Forall₂ (fun node value => node.toJson = .ok value) (entries.map Prod.snd)
        (added.map Prod.snd) ∧
      Json.putAll known added = members := by
  induction entries generalizing known with
  | nil =>
    cases converted
    exact ⟨[], .nil, .nil, rfl⟩
  | cons entry rest ih =>
    obtain ⟨name, named, onward⟩ := bind_eq_ok.mp converted
    obtain ⟨value, single, others⟩ := bind_eq_ok.mp onward
    obtain ⟨added, names, values, merged⟩ := ih others
    exact ⟨(name, value) :: added, .cons named names, .cons single values, merged⟩

private theorem mirrors_of_namesApart (node : Node) :
    ∀ value, node.toJson = .ok value → node.NamesApart → node.Mirrors value := by
  induction node using induction with
  | null => rintro _ ⟨⟩ -; exact .null
  | bool flag => rintro _ ⟨⟩ -; exact .bool flag
  | string text => rintro _ ⟨⟩ -; exact .string text
  | number amount =>
    intro value converted _
    cases amount <;> cases converted
    exact .number _
  | sequence items ih =>
    intro value converted apart
    obtain ⟨values, each, rfl⟩ := map_eq_ok.mp converted
    exact .sequence <| forall₂_of_mem (itemsToJson_eq_ok each) fun item listed value single =>
      ih item listed value single (apart.of_valueWithin (.item listed))
  | mapping entries ih =>
    intro value converted apart
    obtain ⟨members, each, rfl⟩ := map_eq_ok.mp converted
    obtain ⟨added, names, values, rfl⟩ := entriesToJson_eq_ok each
    have distinct := (nodup_memberName_iff names).mp (apart entries .self)
    rw [Json.putAll_eq_append added (by simpa using distinct), List.nil_append]
    refine .mapping names (forall₂_of_mem values fun node listed value single => ?_)
    obtain ⟨entry, kept, rfl⟩ := List.mem_map.mp listed
    exact (ih entry kept).2 value single (apart.of_valueWithin (.value kept))
  | tagged tag node ih =>
    intro value converted apart
    exact .tagged (ih value converted (apart.of_valueWithin .tagged))

private theorem namesApart_of_mirrors (node : Node) :
    ∀ value, node.Mirrors value → value.Distinct → node.NamesApart := by
  induction node using induction with
  | null | bool | number | string => rintro _ _ _ entries ⟨⟩
  | sequence items ih =>
    intro value mirrored distinct entries held
    cases mirrored with
    | sequence each =>
      cases held with
      | item listed below =>
        obtain ⟨part, found, same⟩ := exists_of_mem_forall₂ each listed
        exact ih _ listed part same (Json.distinctItems_iff.mp distinct part found) entries below
  | mapping entries ih =>
    intro value mirrored distinct inner held
    cases mirrored with
    | mapping names values =>
      cases held with
      | self => exact (nodup_memberName_iff names).mpr distinct.1
      | value listed below =>
        obtain ⟨part, found, same⟩ :=
          exists_of_mem_forall₂ values (List.mem_map_of_mem listed)
        obtain ⟨member, kept, rfl⟩ := List.mem_map.mp found
        have below' := Json.distinctMembers_iff.mp distinct.2 member kept
        exact (ih _ listed).2 member.2 same below' inner below
  | tagged tag node ih =>
    intro value mirrored distinct entries held
    cases mirrored with
    | tagged same =>
      cases held with
      | tagged below => exact ih value same distinct entries below

/-- Keys of mappings are texts, and no two of one mapping are alike. -/
def TextKeyed (node : Node) : Prop :=
  ∀ entries, (mapping entries).ValueWithin node →
    (∀ entry ∈ entries, ∃ text, entry.1 = .string text) ∧
      entries.Pairwise fun a b => a.1.same b.1 = false

theorem TextKeyed.namesApart {node : Node} (keyed : node.TextKeyed) : node.NamesApart := by
  intro entries held
  obtain ⟨texts, apart⟩ := keyed entries held
  refine List.pairwise_map.mpr (apart.imp_of_mem fun {a b} first second differ => ?_)
  obtain ⟨s, isText⟩ := texts a first
  obtain ⟨t, alsoText⟩ := texts b second
  rw [isText, alsoText] at differ ⊢
  simpa [same, memberName] using differ

/-- Whenever a node is converted, the value mirrors it exactly if no two keys of one mapping in it
become one name; in particular if all its keys are texts. -/
theorem conversion_mirrors_iff {node : Node} {value : Json} (converted : node.toJson = .ok value) :
    (node.Mirrors value ↔ node.NamesApart) ∧ (node.TextKeyed → node.Mirrors value) := by
  have mirrors := mirrors_of_namesApart node value converted
  have distinct := node.distinct_of_toJson converted
  exact ⟨⟨fun same => namesApart_of_mirrors node value same distinct, mirrors⟩,
    fun keyed => mirrors keyed.namesApart⟩

theorem conversion_mirrors_iff_number_key :
    (mapping [(.string "zip", .tagged "postcode" (.string "12345")),
      (.number (.finite (.integer 1 (by decide))), .sequence [.null])]).Mirrors
        (.object [("zip", .string "12345"), ("1", .array [.null])]) := by
  refine (conversion_mirrors_iff rfl).1.mpr fun entries held => ?_
  cases held with
  | self =>
    have apart : ("zip" : String) ≠ toString (1 : Int) := by decide
    simpa [memberName, Number.render, Json.Number.render] using apart
  | value listed below =>
    simp only [List.mem_cons, List.not_mem_nil, or_false] at listed
    rcases listed with rfl | rfl
    · cases below with
      | tagged inner => cases inner
    · cases below with
      | item listed inner =>
        obtain rfl := List.mem_singleton.mp listed
        cases inner

/-- The number and the text are keys that differ, and the entry of the number is lost. -/
theorem number_and_text_become_one_name :
    let entries : List (Node × Node) :=
      [(.number (.finite (.integer 1 (by decide))), .string "a"), (.string "1", .string "b")]
    entries.Pairwise (fun a b => a.1.same b.1 = false) ∧
      (mapping entries).toJson = .ok (.object [("1", .string "b")]) ∧
      ¬(mapping entries).Mirrors (.object [("1", .string "b")]) := by
  refine ⟨by simp [same], rfl, fun mirrored => ?_⟩
  cases mirrored with
  | mapping names values => cases values.length_eq

end Yaml.Node
end SchemaCheck
