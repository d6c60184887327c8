import SchemaCheck.Yaml.Grammar
import SchemaCheck.Yaml.Lexer

/-! What a document says once every alias is replaced by the part that it refers to. -/
namespace SchemaCheck.Yaml

inductive Content where
  | scalar (tag : Option String) (style : Style) (text : String)
  | sequence (tag : Option String) (items : List Content)
  | mapping (tag : Option String) (entries : List (Content × Content))

/-- The slots of anchors by name. -/
abbrev AnchorSlots := List (String × Nat)

namespace AnchorSlots

/-- Gives a name the slot whose number is the count of names so far. -/
def define : AnchorSlots → String → Nat → AnchorSlots
  | [], name, slot => [(name, slot)]
  | (known, old) :: rest, name, slot =>
    if known == name then (known, slot) :: rest else (known, old) :: define rest name slot

def enter (slots : AnchorSlots) (properties : Properties String) :
    Properties Nat × AnchorSlots :=
  match properties.anchor with
  | none => (⟨none, properties.tag⟩, slots)
  | some name => (⟨some slots.length, properties.tag⟩, slots.define name slots.length)

end AnchorSlots

namespace Tree

mutual

/-- Gives anchors their slots, in the order of the text; `none` if an alias has no anchor
before it. -/
def settle? : AnchorSlots → Tree String → Option (Tree Nat × AnchorSlots)
  | slots, .alias name => (slots.lookup name).map fun slot => (.alias slot, slots)
  | slots, .scalar properties style text =>
    let (properties, slots) := slots.enter properties
    some (.scalar properties style text, slots)
  | slots, .sequence properties items => do
    let (properties, slots) := slots.enter properties
    let (items, slots) ← settleItems? slots items
    some (.sequence properties items, slots)
  | slots, .mapping properties entries => do
    let (properties, slots) := slots.enter properties
    let (entries, slots) ← settleEntries? slots entries
    some (.mapping properties entries, slots)

def settleItems? : AnchorSlots → List (Tree String) → Option (List (Tree Nat) × AnchorSlots)
  | slots, [] => some ([], slots)
  | slots, item :: rest => do
    let (item, slots) ← settle? slots item
    let (rest, slots) ← settleItems? slots rest
    some (item :: rest, slots)

def settleEntries? : AnchorSlots → List (Tree String × Tree String) →
    Option (List (Tree Nat × Tree Nat) × AnchorSlots)
  | slots, [] => some ([], slots)
  | slots, (key, value) :: rest => do
    let (key, slots) ← settle? slots key
    let (value, slots) ← settle? slots value
    let (rest, slots) ← settleEntries? slots rest
    some ((key, value) :: rest, slots)

end

end Tree

/-- A tag of the document's own, which starts with an exclamation mark. -/
def isLocalTag (tag : String) : Bool := tag.toList.head? == some '!'

/-- How deep collections may nest, those behind aliases included. -/
def nestingLimit : Nat := 128

/-- An alias may be followed so often for each event of the document. -/
def followingsPerEvent : Nat := 100

/-- Work with a number of aliases that may yet be followed. -/
abbrev Following := StateT Nat Option

/-- What an alias refers to; of anchors that share a slot, the last one holds it. -/
def follow? (anchored : List (Nat × Tree Nat)) (slot : Nat) : Following (Tree Nat) := do
  let left ← get
  if left = 0 then failure
  else
    set (left - 1)
    match anchored.findRev? fun entry => entry.1 == slot with
    | some (_, tree) => pure tree
    | none => failure

namespace Content

/-- Replaces aliases; collections may open `depth` deep. The keys of a mapping with a local tag
lose their tags, as do the keys of such keys. -/
def expand? (anchored : List (Nat × Tree Nat)) :
    Nat → Bool → Tree Nat → Following Content
  | depth, untagged, tree => do
    let (untagged, tree) ← match tree with
      | .alias slot => do pure (false, ← follow? anchored slot)
      | tree => pure (untagged, tree)
    let tag := if untagged then none else tree.properties.tag
    let untagged := untagged || tag.any isLocalTag
    match depth, tree with
    | _, .alias _ => failure
    | _, .scalar _ style text => pure (.scalar tag style text)
    | 0, _ => failure
    | depth + 1, .sequence _ items => do
      pure (.sequence tag (← items.mapM (expand? anchored depth false)))
    | depth + 1, .mapping _ entries => do
      pure (.mapping tag (← entries.mapM fun (key, value) => do
        let key ← expand? anchored depth untagged key
        pure (key, ← expand? anchored depth false value)))

/-- The content of a text; `none` if it is not one well-formed document. -/
def ofText? (text : String) : Option Content := do
  let tree ← Tree.ofTokens? (← Token.ofText? text)
  let (tree, _) ← tree.settle? []
  let (content, _) ←
    expand? tree.anchored nestingLimit false tree (followingsPerEvent * tree.events)
  some content

end Content
end SchemaCheck.Yaml
