import Mathlib
import SchemaCheck.Json.Value

/-! The tree of a JSON value: what is directly in a value, and induction through it. -/
namespace SchemaCheck

namespace Json

/-- The items or the values of the members. -/
def parts : Json → List Json
  | .array items => items
  | .object members => members.map Prod.snd
  | _ => []

/-- Whatever passes from the items and members of a value to the value holds of every value. -/
@[elab_as_elim]
theorem induction {motive : Json → Prop} (null : motive .null) (bool : ∀ flag, motive (.bool flag))
    (number : ∀ value, motive (.number value)) (string : ∀ text, motive (.string text))
    (array : ∀ items, (∀ item ∈ items, motive item) → motive (.array items))
    (object : ∀ members, (∀ member ∈ members, motive member.2) → motive (.object members)) :
    ∀ value, motive value := by
  refine Json.rec (motive_2 := fun items => ∀ item ∈ items, motive item)
    (motive_3 := fun members => ∀ member ∈ members, motive member.2)
    (motive_4 := fun member => motive member.2) null bool number string array object ?_ ?_ ?_ ?_ ?_
  · simp
  · exact fun item rest first others => List.forall_mem_cons.mpr ⟨first, others⟩
  · simp
  · exact fun member rest first others => List.forall_mem_cons.mpr ⟨first, others⟩
  · exact fun name value holds => holds

/-- What holds of all that is no object passes to an object from what its members hold, and from
what stands directly in there. -/
@[elab_as_elim]
theorem object_induction {motive : Json → Prop}
    (other : ∀ value, (∀ members, value ≠ .object members) → motive value)
    (object : ∀ members,
      (∀ member ∈ members, motive member.2 ∧ ∀ part ∈ member.2.parts, motive part) →
        motive (.object members)) (value : Json) : motive value := by
  have both : motive value ∧ ∀ part ∈ value.parts, motive part := by
    induction value using induction with
    | null | bool | number | string => exact ⟨other _ nofun, nofun⟩
    | array items ih => exact ⟨other _ nofun, fun item listed => (ih item listed).1⟩
    | object members ih =>
      refine ⟨object members ih, ?_⟩
      exact List.forall_mem_map.mpr fun member listed => (ih member listed).1
  exact both.1

end Json
end SchemaCheck
