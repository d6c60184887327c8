import Mathlib
import SchemaCheck.Path

/-! The text of a place, step by step. -/
namespace SchemaCheck.Path

@[simp] theorem suffix_nil : suffix [] = "" := rfl

theorem suffix_append (path rest : Path) :
    suffix (path ++ rest) = path.suffix ++ rest.suffix := by
  induction path with
  | nil => simp [suffix]
  | cons step path ih => simp only [List.cons_append, suffix, ih, String.append_assoc]

theorem suffix_child (path : Path) (step : Step) :
    (path.child step).suffix = path.suffix ++ step.render := by
  simp [child, suffix_append, suffix]

theorem append_child (base path : Path) (step : Step) :
    base ++ path.child step = child (base ++ path) step :=
  (List.append_assoc ..).symm

theorem child_key_injective {path : Path} {name other : String}
    (same : (path.child (.key name)).render = (path.child (.key other)).render) :
    name = other := by
  simpa [render, child, suffix_append, suffix, Step.render] using same

end SchemaCheck.Path
