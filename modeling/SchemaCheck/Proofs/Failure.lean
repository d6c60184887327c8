import Mathlib

/-! Steps that can fail: when a chain of them gives a result, and which failure it reports. -/
namespace SchemaCheck

variable {ε δ α β : Type} {first : Except ε α} {next : α → Except ε β} {change : α → β}

theorem bind_eq_ok {result : β} :
    first >>= next = .ok result ↔ ∃ value, first = .ok value ∧ next value = .ok result := by
  cases first <;> simp [bind, Except.bind]

theorem map_eq_ok {result : β} :
    first.map change = .ok result ↔ ∃ value, first = .ok value ∧ change value = result := by
  cases first <;> simp [Except.map]

/-- The failure of a step, if it is one. -/
def failure? : Except ε α → Option ε
  | .ok _ => none
  | .error fault => some fault

@[simp] theorem failure?_ok (value : α) : failure? (.ok value : Except ε α) = none := rfl

@[simp] theorem failure?_error (fault : ε) : failure? (.error fault : Except ε α) = some fault := rfl

theorem failure?_eq_some {fault : ε} : failure? first = some fault ↔ first = .error fault := by
  cases first <;> simp

theorem failure?_eq_none : failure? first = none ↔ ∃ value, first = .ok value := by
  cases first <;> simp

@[simp] theorem failure?_map : failure? (first.map change) = failure? first := by
  cases first <;> rfl

@[simp] theorem failure?_mapError (rename : ε → δ) :
    failure? (first.mapError rename) = (failure? first).map rename := by
  cases first <;> rfl

/-- If what comes next fails alike after every result, its failure stands behind the first one. -/
theorem failure?_bind {later : Option ε} (onward : ∀ value, failure? (next value) = later) :
    failure? (first >>= next) = (failure? first).or later := by
  cases first with
  | ok value => exact onward value
  | error fault => rfl

end SchemaCheck
