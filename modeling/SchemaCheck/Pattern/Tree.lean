/-! Patterns as trees. Characters are code points; one in the surrogate range matches nothing. -/
namespace SchemaCheck.Pattern

/-- The classes `\d`, `\s` and `\w`. -/
inductive Shorthand where
  | digit
  | space
  | word
deriving DecidableEq, Repr

inductive ClassItem where
  | range (first last : Nat)
  | shorthand (kind : Shorthand) (negated : Bool)
deriving DecidableEq, Repr

/-- A bracketed class. -/
structure CharClass where
  items : List ClassItem
  negated : Bool
deriving DecidableEq, Repr

/-- How often a term repeats: so many times, and then up to `extra` times more, without end if
there is none. -/
structure Quantifier where
  least : Nat
  extra : Option Nat
  greedy : Bool
deriving DecidableEq, Repr

inductive Node where
  | empty
  | char (point : Nat) (ignoreCase : Bool)
  /-- Any character, line terminators only if asked for. -/
  | any (dotAll : Bool)
  | set (members : CharClass) (ignoreCase : Bool)
  | start (multiline : Bool)
  | finish (multiline : Bool)
  | wordBoundary (negated : Bool)
  | sequence (first second : Node)
  | either (first second : Node)
  | group (index : Nat) (body : Node)
  | backreference (index : Nat) (ignoreCase : Bool)
  | look (behind negated : Bool) (body : Node)
  /-- Every round forgets what the groups from `firstGroup` up to `endGroup` captured. -/
  | loop (body : Node) (least : Nat) (extra : Option Nat) (greedy : Bool)
      (firstGroup endGroup : Nat)
deriving Repr

namespace Node

def sequenceOf : List Node → Node
  | [] => empty
  | [node] => node
  | node :: rest => sequence node (sequenceOf rest)

def eitherOf : List Node → Node
  | [] => empty
  | [node] => node
  | node :: rest => either node (eitherOf rest)

end Node
end SchemaCheck.Pattern
