import Mathlib
import SchemaCheck.Yaml.Conversion
import SchemaCheck.Proofs.Failure
import SchemaCheck.Proofs.Yaml.Tree

/-! What keeps YAML values from being JSON values. The conversion reports the first of it, in the
order of the document. -/
namespace SchemaCheck

namespace Yaml.Node

/-- Keys that can name a member of an object: texts, numbers of any kind and booleans, untagged. -/
def isName : Node → Bool
  | .string _ | .number _ | .bool _ => true
  | .null | .sequence _ | .mapping _ | .tagged _ _ => false

/-- Numbers in the place of a value are integers that are kept or finite doubles, and all keys
are names. -/
structure Expressible (node : Node) : Prop where
  numbers : ∀ amount, (number amount).ValueWithin node → ∃ kept, amount = .finite kept
  names : ∀ entries, (mapping entries).Within node → ∀ entry ∈ entries, entry.1.isName

def keyOffenders (key : Node) : List Inexpressible := if key.isName then [] else [.key key]

mutual

/-- All that has no JSON equivalent, in the order of the document. A key comes before its value,
and a key that is no name is not looked into. -/
def offenders : Node → List Inexpressible
  | .number (.finite _) => []
  | .number amount => [.number amount]
  | .sequence items => itemOffenders items
  | .mapping entries => entryOffenders entries
  | .tagged _ node => offenders node
  | .null | .bool _ | .string _ => []

def itemOffenders : List Node → List Inexpressible
  | [] => []
  | item :: rest => offenders item ++ itemOffenders rest

def entryOffenders : List (Node × Node) → List Inexpressible
  | [] => []
  | (key, value) :: rest => keyOffenders key ++ offenders value ++ entryOffenders rest

end

theorem itemOffenders_eq (items : List Node) : itemOffenders items = items.flatMap offenders := by
  induction items with
  | nil => rfl
  | cons item rest ih => rw [itemOffenders, ih, List.flatMap_cons]

theorem entryOffenders_eq (entries : List (Node × Node)) :
    entryOffenders entries =
      entries.flatMap fun entry => keyOffenders entry.1 ++ offenders entry.2 := by
  induction entries with
  | nil => rfl
  | cons entry rest ih => rw [entryOffenders, ih, List.flatMap_cons]

theorem mem_keyOffenders {key : Node} {what : Inexpressible} :
    what ∈ key.keyOffenders ↔ key.isName = false ∧ what = .key key := by
  unfold keyOffenders
  split <;> simp_all

theorem offenders_subset {part node : Node} (held : part.ValueWithin node) :
    part.offenders ⊆ node.offenders := by
  induction held with
  | self => exact List.Subset.refl _
  | item listed _ ih =>
    rw [offenders, itemOffenders_eq]
    exact fun what found => List.mem_flatMap.mpr ⟨_, listed, ih found⟩
  | value listed _ ih =>
    rw [offenders, entryOffenders_eq]
    exact fun what found => List.mem_flatMap.mpr ⟨_, listed, List.mem_append_right _ (ih found)⟩
  | tagged _ ih =>
    rw [offenders]
    exact ih

/-- What offends: a number that is not kept in the place of a value, or a key that is no name of
a mapping there. -/
inductive Offends (node : Node) : Inexpressible → Prop where
  | number {amount} (held : (Node.number amount).ValueWithin node)
      (unkept : ∀ kept, amount ≠ .finite kept) : Offends node (.number amount)
  | key {entries entry} (held : (mapping entries).ValueWithin node) (listed : entry ∈ entries)
      (unnamed : entry.1.isName = false) : Offends node (.key entry.1)

/-- What offends within a part offends within the whole. -/
theorem Offends.mono {part node : Node} {what : Inexpressible} (offends : part.Offends what)
    (upward : ∀ {inner : Node}, inner.ValueWithin part → inner.ValueWithin node) :
    node.Offends what := by
  cases offends with
  | number held unkept => exact .number (upward held) unkept
  | key held listed unnamed => exact .key (upward held) listed unnamed

private theorem offends_of_mem (node : Node) :
    ∀ what ∈ node.offenders, node.Offends what := by
  induction node using induction with
  | null | bool | string => simp [offenders]
  | number amount =>
    intro what found
    cases amount with
    | finite kept => simp [offenders] at found
    | infinite | notANumber =>
      obtain rfl := List.mem_singleton.mp found
      exact .number .self (by simp)
  | sequence items ih =>
    intro what found
    rw [offenders, itemOffenders_eq] at found
    obtain ⟨item, listed, offending⟩ := List.mem_flatMap.mp found
    exact (ih item listed what offending).mono (.item listed)
  | mapping entries ih =>
    intro what found
    rw [offenders, entryOffenders_eq] at found
    obtain ⟨entry, listed, offending⟩ := List.mem_flatMap.mp found
    rcases List.mem_append.mp offending with ofKey | ofValue
    · obtain ⟨unnamed, rfl⟩ := mem_keyOffenders.mp ofKey
      exact .key .self listed unnamed
    · exact ((ih entry listed).2 what ofValue).mono (.value listed)
  | tagged tag node ih =>
    intro what found
    rw [offenders] at found
    exact (ih what found).mono .tagged

private theorem mem_offenders {node : Node} {what : Inexpressible} :
    what ∈ node.offenders ↔ node.Offends what := by
  refine ⟨offends_of_mem node what, fun offends => ?_⟩
  cases offends with
  | @number amount held unkept =>
    refine offenders_subset held ?_
    cases amount with
    | finite kept => exact absurd rfl (unkept kept)
    | infinite | notANumber => exact List.mem_singleton_self _
  | @key entries entry held listed unnamed =>
    refine offenders_subset held ?_
    rw [offenders, entryOffenders_eq]
    exact List.mem_flatMap.mpr
      ⟨entry, listed, List.mem_append_left _ (mem_keyOffenders.mpr ⟨unnamed, rfl⟩)⟩

private theorem Within.eq_of_isName {part key : Node} (inside : part.Within key)
    (named : key.isName) :
    part = key := by
  cases inside with
  | self => rfl
  | item | key | value | tagged => exact absurd named (by simp [isName])

/-- Mappings in keys need no attention: their key is no name already. -/
theorem Expressible.of_values {node : Node}
    (numbers : ∀ amount, (number amount).ValueWithin node → ∃ kept, amount = .finite kept)
    (names : ∀ entries, (mapping entries).ValueWithin node → ∀ entry ∈ entries, entry.1.isName) :
    node.Expressible := by
  refine ⟨numbers, fun entries inside => ?_⟩
  rcases inside.value_or_key with held | ⟨outer, held, entry, listed, inKey⟩
  · exact names entries held
  · have named := names outer held entry listed
    rw [← inKey.eq_of_isName named] at named
    cases named

theorem offenders_eq_nil {node : Node} : node.offenders = [] ↔ node.Expressible := by
  rw [List.eq_nil_iff_forall_not_mem]
  simp only [mem_offenders]
  constructor
  · intro free
    refine .of_values (fun amount held => ?_) fun entries held entry listed => ?_
    · by_contra unkept
      exact free _ (.number held fun kept same => unkept ⟨kept, same⟩)
    · by_contra unnamed
      exact free _ (.key held listed (Bool.eq_false_iff.mpr unnamed))
  · rintro expressible what (⟨held, unkept⟩ | ⟨held, listed, unnamed⟩)
    · obtain ⟨kept, same⟩ := expressible.numbers _ held
      exact unkept kept same
    · have named := expressible.names _ held.within _ listed
      rw [unnamed] at named
      cases named

theorem failure?_memberName (key : Node) : failure? key.memberName = key.keyOffenders.head? := by
  cases key <;> rfl

mutual

theorem failure?_toJson : ∀ node : Node, failure? node.toJson = node.offenders.head?
  | .null | .bool _ | .string _ => rfl
  | .number amount => by cases amount <;> rfl
  | .sequence items => by rw [toJson, failure?_map, failure?_itemsToJson, offenders]
  | .mapping entries => by rw [toJson, failure?_map, failure?_entriesToJson, offenders]
  | .tagged _ node => by rw [toJson, failure?_toJson node, offenders]

theorem failure?_itemsToJson :
    ∀ items : List Node, failure? (itemsToJson items) = (itemOffenders items).head?
  | [] => rfl
  | item :: rest => by
    have others (first : Json) : failure? (do .ok (first :: (← itemsToJson rest))) =
        (itemOffenders rest).head? := by
      have onward (values : List Json) :
          failure? (.ok (first :: values) : Except Inexpressible (List Json)) = none := rfl
      rw [failure?_bind onward, Option.or_none, failure?_itemsToJson rest]
    rw [itemsToJson, failure?_bind others, failure?_toJson item, itemOffenders, List.head?_append]

theorem failure?_entriesToJson (members : List (String × Json)) :
    ∀ entries : List (Node × Node),
      failure? (entriesToJson members entries) = (entryOffenders entries).head?
  | [] => rfl
  | (key, value) :: rest => by
    have others (name : String) : failure? (do
          let value ← toJson value
          entriesToJson (Json.put members name value) rest) =
        (offenders value ++ entryOffenders rest).head? := by
      rw [failure?_bind fun _ => failure?_entriesToJson _ rest, failure?_toJson value,
        List.head?_append]
    rw [entriesToJson, failure?_bind others, failure?_memberName, ← List.head?_append,
      entryOffenders, List.append_assoc]

end

/-- Conversion of any node succeeds exactly if every number in the place of a value is an integer
that is kept or finite and every key of every mapping is an untagged text, number or boolean.
Else it fails for the first offender in the order of the document, and with its message. -/
theorem conversion_fails_at_first_offender (node : Node) :
    ((∃ value, node.toJson = .ok value) ↔ node.Expressible) ∧
    (∀ what, node.toJson = .error what ↔ node.offenders.head? = some what) ∧
    (∀ reason, node.toJson.mapError Inexpressible.message = .error reason ↔
      node.offenders.head?.map Inexpressible.message = some reason) := by
  refine ⟨?_, fun what => ?_, fun reason => ?_⟩
  · rw [← failure?_eq_none, failure?_toJson, List.head?_eq_none_iff, offenders_eq_nil]
  · rw [← failure?_eq_some, failure?_toJson]
  · rw [← failure?_eq_some, failure?_mapError, failure?_toJson]

/-- What is no number can be a key, though not a value. -/
example : (mapping [(.number .notANumber, .string "a")]).toJson =
    .ok (.object [(".nan", .string "a")]) := rfl

end Yaml.Node
end SchemaCheck
