import SchemaCheck.Yaml.Token

/-! The tree of a document, with its anchors and aliases. -/
namespace SchemaCheck.Yaml

/-- What stands before a node. -/
structure Properties (Anchor : Type) where
  anchor : Option Anchor := none
  tag : Option String := none

/-- A document or a part of it; aliases refer to anchors. -/
inductive Tree (Anchor : Type) where
  | alias (anchor : Anchor)
  | scalar (properties : Properties Anchor) (style : Style) (text : String)
  | sequence (properties : Properties Anchor) (items : List (Tree Anchor))
  | mapping (properties : Properties Anchor) (entries : List (Tree Anchor × Tree Anchor))

namespace Tree

variable {Anchor : Type}

instance : Inhabited (Tree Anchor) := ⟨.scalar {} .plain ""⟩

/-- What stands where nothing is written. -/
def empty : Tree Anchor := .scalar {} .plain ""

mutual

/-- The events of reading the tree: one for each leaf, two for each collection. -/
def events : Tree Anchor → Nat
  | .sequence _ items => 2 + itemEvents items
  | .mapping _ entries => 2 + entryEvents entries
  | _ => 1

def itemEvents : List (Tree Anchor) → Nat
  | [] => 0
  | item :: rest => events item + itemEvents rest

def entryEvents : List (Tree Anchor × Tree Anchor) → Nat
  | [] => 0
  | (key, value) :: rest => events key + events value + entryEvents rest

end

def properties : Tree Anchor → Properties Anchor
  | .alias _ => {}
  | .scalar properties _ _ => properties
  | .sequence properties _ => properties
  | .mapping properties _ => properties

mutual

/-- Every anchored part, in the order of the text. -/
def anchored (tree : Tree Anchor) : List (Anchor × Tree Anchor) :=
  let inner := match tree with
    | .sequence _ items => anchoredItems items
    | .mapping _ entries => anchoredEntries entries
    | _ => []
  match tree.properties.anchor with
  | some anchor => (anchor, tree) :: inner
  | none => inner

def anchoredItems : List (Tree Anchor) → List (Anchor × Tree Anchor)
  | [] => []
  | item :: rest => anchored item ++ anchoredItems rest

def anchoredEntries : List (Tree Anchor × Tree Anchor) → List (Anchor × Tree Anchor)
  | [] => []
  | (key, value) :: rest => anchored key ++ anchored value ++ anchoredEntries rest

end

end Tree
end SchemaCheck.Yaml
