import Mathlib
import SchemaCheck.Proofs.Json.Distinct
import SchemaCheck.Proofs.Json.Members
import SchemaCheck.Proofs.Validation.Reach

/-! The value at a place in a document. An evaluation holds a schema against the value at its
place. -/
namespace SchemaCheck

namespace Json

/-- The member or the item that a step leads to. -/
def step? : Step → Json → Option Json
  | .key name, .object members => members.lookup name
  | .index position, .array items => items[position]?
  | _, _ => none

/-- The value at a place. -/
def get? (document : Json) (path : Path) : Option Json :=
  path.foldlM (fun value step => value.step? step) document

private theorem get?_nil (document : Json) : document.get? [] = some document := rfl

theorem get?_child (document : Json) (path : Path) (step : Step) :
    document.get? (path.child step) = (document.get? path).bind (step? step) := by
  simp [get?, Path.child, List.foldlM_append]

private theorem distinct_of_step? {value below : Json} {step : Step} (distinct : value.Distinct)
    (led : value.step? step = some below) : below.Distinct := by
  cases value with
  | object members =>
    cases step with
    | index position => cases led
    | key name =>
      obtain ⟨before, after, rfl, _⟩ := List.lookup_eq_some_iff.mp led
      exact distinctMembers_iff.mp distinct.2 (name, below) (by simp)
  | array items =>
    cases step with
    | key name => cases led
    | index position => exact distinctItems_iff.mp distinct _ (List.mem_of_getElem? led)
  | _ => cases step <;> cases led

end Json

/-- A turn stays at its place or takes one step down in the document. -/
theorem Descends.step {visit below : Visit} {turn : Turn} (next : Descends visit turn below)
    (distinct : visit.value.Distinct) :
    below.path = visit.path ∧ below.value = visit.value ∨
      ∃ step, below.path = visit.path.child step ∧ visit.value.step? step = some below.value := by
  cases next with
  | branch listed => exact .inl ⟨rfl, rfl⟩
  | property typed declared present => exact .inr ⟨_, rfl, present⟩
  | extra typed applies listed undeclared =>
    exact .inr ⟨_, rfl, Json.lookup_eq_some distinct.1 (List.mem_of_getElem? listed)⟩
  | item typed applies listed => exact .inr ⟨_, rfl, listed⟩

/-- The value of every node reached is the one at its place. -/
theorem Reaches.get? {limit : Nat} {document : Json} {schema : Schema} {route : List Turn}
    {visit : Visit} {level : Nat} (distinct : document.Distinct)
    (reached : Reaches limit ⟨[], document, schema⟩ route visit level) :
    document.get? visit.path = some visit.value ∧ visit.value.Distinct := by
  induction reached with
  | origin => exact ⟨document.get?_nil, distinct⟩
  | descend earlier within next ih =>
    obtain ⟨found, inside⟩ := ih
    rcases next.step inside with ⟨path, value⟩ | ⟨step, path, led⟩
    · rw [path, value]
      exact ⟨found, inside⟩
    · rw [path, Json.get?_child, found]
      exact ⟨led, Json.distinct_of_step? inside led⟩

end SchemaCheck
