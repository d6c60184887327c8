/-! The tokens of a YAML text. -/
namespace SchemaCheck.Yaml

/-- How a scalar is written. -/
inductive Style where
  | plain
  | quoted
  | folded
  | literal
deriving DecidableEq, Repr

inductive Token where
  | version (major minor : Nat)
  | handle (name expansion : String)
  | documentStart
  | documentEnd
  | blockSequence
  | blockMapping
  | blockEnd
  | flowSequence
  | flowSequenceEnd
  | flowMapping
  | flowMappingEnd
  | entry
  | separator
  | key
  | value
  | alias (name : String)
  | anchor (name : String)
  | tag (handle name : String)
  | scalar (style : Style) (text : String)
deriving DecidableEq, Repr

end SchemaCheck.Yaml
