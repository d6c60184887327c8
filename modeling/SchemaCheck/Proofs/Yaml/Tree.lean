import Mathlib
import SchemaCheck.Yaml.Node

/-! The tree of a YAML value: which nodes are part of which, and induction through it. -/
namespace SchemaCheck.Yaml.Node

/-- Whatever passes from the parts of a node to the node holds of every node. -/
@[elab_as_elim]
theorem induction {motive : Node → Prop} (null : motive .null) (bool : ∀ flag, motive (.bool flag))
    (number : ∀ amount, motive (.number amount)) (string : ∀ text, motive (.string text))
    (sequence : ∀ items, (∀ item ∈ items, motive item) → motive (.sequence items))
    (mapping : ∀ entries, (∀ entry ∈ entries, motive entry.1 ∧ motive entry.2) →
      motive (.mapping entries))
    (tagged : ∀ tag node, motive node → motive (.tagged tag node)) :
    ∀ node, motive node := by
  refine Node.rec (motive_2 := fun items => ∀ item ∈ items, motive item)
    (motive_3 := fun entries => ∀ entry ∈ entries, motive entry.1 ∧ motive entry.2)
    (motive_4 := fun entry => motive entry.1 ∧ motive entry.2)
    null bool number string sequence mapping tagged ?_ ?_ ?_ ?_ ?_
  · simp
  · exact fun item rest first others => List.forall_mem_cons.mpr ⟨first, others⟩
  · simp
  · exact fun entry rest first others => List.forall_mem_cons.mpr ⟨first, others⟩
  · exact fun key value ofKey ofValue => ⟨ofKey, ofValue⟩

/-- Some node is a node or any part of it: an item, a key, a value or what a tag marks, at any
depth. -/
inductive Within (part : Node) : Node → Prop where
  | self : Within part part
  | item {items item} (listed : item ∈ items) (below : Within part item) :
      Within part (.sequence items)
  | key {entries entry} (listed : entry ∈ entries) (below : Within part entry.1) :
      Within part (.mapping entries)
  | value {entries entry} (listed : entry ∈ entries) (below : Within part entry.2) :
      Within part (.mapping entries)
  | tagged {tag node} (below : Within part node) : Within part (.tagged tag node)

/-- Some node stands in the place of a value: it is part of no key. -/
inductive ValueWithin (part : Node) : Node → Prop where
  | self : ValueWithin part part
  | item {items item} (listed : item ∈ items) (below : ValueWithin part item) :
      ValueWithin part (.sequence items)
  | value {entries entry} (listed : entry ∈ entries) (below : ValueWithin part entry.2) :
      ValueWithin part (.mapping entries)
  | tagged {tag node} (below : ValueWithin part node) : ValueWithin part (.tagged tag node)

theorem ValueWithin.within {part node : Node} (held : part.ValueWithin node) :
    part.Within node := by
  induction held with
  | self => exact .self
  | item listed _ ih => exact .item listed ih
  | value listed _ ih => exact .value listed ih
  | tagged _ ih => exact .tagged ih

/-- What is part of a node is in the place of a value, or part of a key of a mapping there. -/
theorem Within.value_or_key {part node : Node} (inside : part.Within node) :
    part.ValueWithin node ∨ ∃ entries, (mapping entries).ValueWithin node ∧
      ∃ entry ∈ entries, part.Within entry.1 := by
  induction inside with
  | self => exact .inl .self
  | item listed _ ih =>
    exact ih.imp (.item listed) fun ⟨entries, held, inKey⟩ => ⟨entries, .item listed held, inKey⟩
  | key listed below => exact .inr ⟨_, .self, _, listed, below⟩
  | value listed _ ih =>
    exact ih.imp (.value listed) fun ⟨entries, held, inKey⟩ => ⟨entries, .value listed held, inKey⟩
  | tagged _ ih => exact ih.imp .tagged fun ⟨entries, held, inKey⟩ => ⟨entries, .tagged held, inKey⟩

end SchemaCheck.Yaml.Node
