import Mathlib
import SchemaCheck.Proofs.Json.Distinct
import SchemaCheck.Proofs.Json.Equality
import SchemaCheck.Proofs.Json.Tree

/-! Values whose objects have their members in another order. -/
namespace SchemaCheck

namespace Json

/-- The same value up to the order of members, at any depth. -/
inductive Reordered : Json → Json → Prop where
  | null : Reordered .null .null
  | bool (flag : Bool) : Reordered (.bool flag) (.bool flag)
  | number (value : Number) : Reordered (.number value) (.number value)
  | string (text : String) : Reordered (.string text) (.string text)
  | array {items others : List Json} (each : List.Forall₂ Reordered items others) :
      Reordered (.array items) (.array others)
  | object {members moved others : List (String × Json)}
      (each : List.Forall₂ (Named Reordered) members moved) (order : moved.Perm others) :
      Reordered (.object members) (.object others)

namespace Reordered

variable {value other : Json} (alike : value.Reordered other)

include alike

theorem asString?_eq : value.asString? = other.asString? := by
  cases alike <;> rfl

theorem asNumber?_eq : value.asNumber? = other.asNumber? := by
  cases alike <;> rfl

theorem asArray? : Option.Rel (List.Forall₂ Reordered) value.asArray? other.asArray? := by
  cases alike with
  | array each => exact .some each
  | _ => exact .none

end Reordered

/-- The same up to the order of members, and no name is repeated. -/
structure Rearranged (value other : Json) : Prop where
  reordered : value.Reordered other
  distinct : value.Distinct

/-- Members of one object, as they stand in the other. -/
theorem Rearranged.exists_members {members others : List (String × Json)}
    (alike : (object members).Rearranged (object others)) :
    ∃ moved, List.Forall₂ (Named Rearranged) members moved ∧ moved.Perm others ∧
      (moved.map Prod.fst).Nodup := by
  obtain ⟨reordered, names, values⟩ := alike
  cases reordered with
  | @object _ moved _ each order =>
    refine ⟨moved, forall₂_of_mem each ?_, order, Named.map_fst each ▸ names⟩
    rintro _ listed _ ⟨alike⟩
    exact ⟨⟨alike, distinctMembers_iff.mp values _ listed⟩⟩

theorem Rearranged.forall₂_items {items others : List Json}
    (alike : (array items).Rearranged (array others)) : List.Forall₂ Rearranged items others := by
  obtain ⟨reordered, values⟩ := alike
  cases reordered with
  | array each =>
    exact forall₂_of_mem each fun item listed twin alike =>
      ⟨alike, distinctItems_iff.mp values item listed⟩

theorem Rearranged.lookup {members others : List (String × Json)}
    (alike : (object members).Rearranged (object others)) (key : String) :
    Option.Rel Rearranged (members.lookup key) (others.lookup key) := by
  obtain ⟨moved, each, order, names⟩ := alike.exists_members
  rw [← lookup_perm names order]
  exact Named.lookup each key

/-- Equality does not look at the order of members. -/
theorem Rearranged.same {value other : Json} (alike : value.Rearranged other) :
    value.Same other := by
  induction value using Json.induction generalizing other with
  | null =>
    cases alike.reordered
    rfl
  | bool flag =>
    cases alike.reordered
    exact beq_self_eq_true flag
  | number value =>
    cases alike.reordered
    exact value.same_self
  | string text =>
    cases alike.reordered
    exact beq_self_eq_true text
  | array items ih =>
    cases alike.reordered with
    | array =>
      exact sameItems_iff.mpr <| forall₂_of_mem alike.forall₂_items fun item listed _ =>
        ih item listed
  | object members ih =>
    cases alike.reordered with
    | @object _ moved others each order =>
      have within : membersWithin members others = true := by
        refine membersWithin_iff.mpr fun member listed => ?_
        have found := alike.lookup member.1
        rw [lookup_eq_some alike.distinct.1 listed] at found
        cases looked : others.lookup member.1 with
        | none => rw [looked] at found; cases found
        | some twin =>
          rw [looked, Option.rel_some_some] at found
          exact ⟨twin, rfl, ih member listed found⟩
      rw [Same, Json.same, within, each.length_eq, order.length_eq, beq_self_eq_true, Bool.true_and]

end Json
end SchemaCheck
