import SchemaCheck.Pattern.Parser
import SchemaCheck.Pattern.Matcher

/-! Regular expressions: compiling a pattern and looking for it in a text. -/
namespace SchemaCheck

structure Pattern where
  node : Pattern.Node
  groups : Nat

namespace Pattern

/-- The pattern that a source text describes, unless it is malformed. -/
def compile? (source : String) : Option Pattern := do
  let cs := source.toList
  let groups ← countGroups? (cs.length + 1) ⟨0, []⟩ cs
  match ← disjunction? groups (4 * cs.length + 4) {} 1 cs with
  | (node, _, []) => some ⟨node, groups.count⟩
  | _ => none

/-- Some part of the text matches. -/
def foundIn (pattern : Pattern) (text : String) : Bool :=
  let cs := text.toList.toArray
  matchesFrom cs pattern.node (Array.replicate (pattern.groups + 1) none)
    (List.range (cs.size + 1))

end Pattern
end SchemaCheck
