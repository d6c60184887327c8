import Mathlib
import SchemaCheck.Schema.Equality
import SchemaCheck.Proofs.Json.Equality
import SchemaCheck.Proofs.Matching
import SchemaCheck.Proofs.Schema.Reading

/-! Equal schemas, field by field. -/
namespace SchemaCheck

theorem sameOption_iff {α : Type} {same : α → α → Bool} {found other : Option α} :
    sameOption same found other = true ↔
      Option.Rel (fun item twin => same item twin = true) found other := by
  cases found <;> cases other <;> simp [sameOption]

/-- What equal assertions have in common. -/
structure Assertions.Alike (assertions other : Assertions) : Prop where
  types : assertions.types = other.types
  required : assertions.required = other.required
  enumeration : Option.Rel (List.Forall₂ Json.Same) assertions.enumeration other.enumeration
  constant : Option.Rel Json.Same assertions.constant other.constant
  pattern : assertions.pattern = other.pattern
  format : assertions.format = other.format
  bound (bound : Bound) :
    Option.Rel (fun limit twin => limit.sameValue twin = true) (assertions.bound bound)
      (other.bound bound)

theorem Assertions.same_iff {assertions other : Assertions} :
    assertions.same other = true ↔ assertions.Alike other := by
  simp only [same, Bool.and_eq_true, beq_iff_eq, sameOption_iff, Json.sameItems_iff,
    List.all_eq_true, Keyword.mem_all, true_implies]
  constructor
  · rintro ⟨⟨⟨⟨⟨⟨types, required⟩, enumeration⟩, constant⟩, pattern⟩, format⟩, bounds⟩
    exact ⟨types, required, enumeration, constant, pattern, format,
      fun bound => sameOption_iff.mp (bounds (.bound bound))⟩
  · intro alike
    refine ⟨⟨⟨⟨⟨⟨alike.types, alike.required⟩, alike.enumeration⟩, alike.constant⟩,
      alike.pattern⟩, alike.format⟩, fun keyword => ?_⟩
    cases keyword with
    | bound bound => exact sameOption_iff.mpr (alike.bound bound)
    | _ => rfl

private theorem sameMembers_iff {members others : List (String × Json)} :
    sameMembers members others = true ↔ List.Forall₂ (Named Json.Same) members others := by
  induction members generalizing others with
  | nil => cases others <;> simp [sameMembers]
  | cons member rest ih =>
    cases others with
    | nil => simp [sameMembers]
    | cons other others =>
      obtain ⟨name, value⟩ := member
      obtain ⟨key, twin⟩ := other
      simp only [sameMembers, Bool.and_eq_true, beq_iff_eq, ih, List.forall₂_cons]
      refine and_congr_left fun _ => ⟨?_, fun ⟨alike⟩ => ⟨rfl, alike⟩⟩
      rintro ⟨rfl, alike⟩
      exact .intro alike

namespace Schema

/-- Equal as schemas: declared properties in any order, literals by value. -/
abbrev Same (schema other : Schema) : Prop := schema.same other = true

/-- As many properties, and each is found by its name on the other side. -/
def SameDeclared (declared others : List (String × Schema)) : Prop :=
  declared.length = others.length ∧
    ∀ entry ∈ declared, ∃ twin, others.lookup entry.1 = some twin ∧ entry.2.Same twin

private theorem propertiesWithin_iff {declared others : List (String × Schema)} :
    propertiesWithin declared others = true ↔
      ∀ entry ∈ declared, ∃ twin, others.lookup entry.1 = some twin ∧ entry.2.Same twin := by
  induction declared with
  | nil => simp [propertiesWithin]
  | cons entry rest ih =>
    obtain ⟨key, child⟩ := entry
    rw [propertiesWithin, Bool.and_eq_true, ih, List.forall_mem_cons]
    refine and_congr_left fun _ => ?_
    cases others.lookup key <;> simp

private theorem sameProperties_iff {properties others : Option (List (String × Schema))} :
    sameProperties properties others = true ↔ Option.Rel SameDeclared properties others := by
  cases properties <;> cases others <;> simp [sameProperties, SameDeclared, propertiesWithin_iff]

private theorem sameAdditional_iff {additional other : Option (Additional Schema)} :
    sameAdditional additional other = true ↔
      Option.Rel (Additional.Rel Same) additional other := by
  cases additional with
  | none => cases other <;> simp [sameAdditional]
  | some extra =>
    cases other with
    | none => simp [sameAdditional]
    | some twin =>
      rw [sameAdditional, Option.rel_some_some]
      cases extra <;> cases twin <;> simp only [sameExtra, Bool.false_eq_true, beq_iff_eq]
      case allowed.allowed flag other =>
        constructor
        · rintro rfl
          exact .allowed flag
        · intro alike
          cases alike
          rfl
      case schema.schema =>
        constructor
        · intro alike
          exact .schema alike
        · intro alike
          cases alike
          assumption
      all_goals
        refine iff_of_false not_false fun alike => ?_
        cases alike

theorem sameItems_iff {items others : Option Schema} :
    sameItems items others = true ↔ Option.Rel Same items others := by
  cases items <;> cases others <;> simp [sameItems]

private theorem sameBranches_iff {branches others : List Schema} :
    sameBranches branches others = true ↔ List.Forall₂ Same branches others := by
  induction branches generalizing others with
  | nil => cases others <;> simp [sameBranches]
  | cons branch rest ih => cases others <;> simp [sameBranches, ih]

private theorem sameKeyword_iff {branches others : Option (List Schema)} :
    sameKeyword branches others = true ↔ Option.Rel (List.Forall₂ Same) branches others := by
  cases branches <;> cases others <;> simp [sameKeyword, sameBranches_iff]

/-- What equal schemas have in common. -/
structure Alike (schema other : Schema) : Prop where
  assertions : schema.assertions.Alike other.assertions
  properties : Option.Rel SameDeclared schema.properties other.properties
  additional : Option.Rel (Additional.Rel Same) schema.additional other.additional
  items : Option.Rel Same schema.items other.items
  allOf : Option.Rel (List.Forall₂ Same) schema.allOf other.allOf
  anyOf : Option.Rel (List.Forall₂ Same) schema.anyOf other.anyOf
  oneOf : Option.Rel (List.Forall₂ Same) schema.oneOf other.oneOf
  unrecognized : List.Forall₂ (Named Json.Same) schema.unrecognized other.unrecognized

theorem same_iff {schema other : Schema} : schema.Same other ↔ schema.Alike other := by
  obtain ⟨assertions, properties, additional, items, allOf, anyOf, oneOf, unrecognized⟩ := schema
  simp only [Same, same, Bool.and_eq_true, Assertions.same_iff, sameProperties_iff,
    sameAdditional_iff, sameItems_iff, sameKeyword_iff, sameMembers_iff]
  constructor
  · rintro ⟨⟨⟨⟨⟨⟨⟨same, declared⟩, extra⟩, item⟩, all⟩, any⟩, one⟩, aside⟩
    exact ⟨same, declared, extra, item, all, any, one, aside⟩
  · rintro ⟨same, declared, extra, item, all, any, one, aside⟩
    exact ⟨⟨⟨⟨⟨⟨⟨same, declared⟩, extra⟩, item⟩, all⟩, any⟩, one⟩, aside⟩

/-- With no name declared twice, equal properties are the same ones in some order. -/
theorem SameDeclared.matched {declared others : List (String × Schema)}
    (same : SameDeclared declared others) (keys : (declared.map Prod.fst).Nodup) :
    Matched (Named Same) declared others := by
  obtain ⟨count, found⟩ := same
  have chosen : ∃ moved, List.Forall₂ (Named Same) declared moved ∧ moved ⊆ others := by
    clear count keys
    induction declared with
    | nil => exact ⟨[], .nil, List.nil_subset _⟩
    | cons entry rest ih =>
      obtain ⟨⟨twin, looked, alike⟩, later⟩ := List.forall_mem_cons.mp found
      obtain ⟨moved, each, within⟩ := ih later
      exact ⟨(entry.1, twin) :: moved, .cons (.intro alike) each,
        List.cons_subset.mpr ⟨Json.mem_of_lookup looked, within⟩⟩
  obtain ⟨moved, each, within⟩ := chosen
  -- Names tell the chosen properties apart, so as many as there are leave none out.
  have distinct : moved.Nodup := List.Nodup.of_map Prod.fst (Named.map_fst each ▸ keys)
  refine ⟨moved, each, (List.subperm_of_subset distinct within).perm_of_length_le ?_⟩
  rw [← count, each.length_eq]

end Schema
end SchemaCheck
