import Mathlib
import SchemaCheck.Schema.Kind
import SchemaCheck.Validation.Literal
import SchemaCheck.Proofs.Decimal.Value
import SchemaCheck.Proofs.Json.Members

/-! Equal values. As literals they match the same values, and only arrays and objects can have
another text. -/
namespace SchemaCheck

namespace Json

/-- Equal as values: numbers of one kind, members in any order. -/
abbrev Same (value other : Json) : Prop := value.same other = true

theorem sameItems_iff {items others : List Json} :
    sameItems items others = true ↔ List.Forall₂ Same items others := by
  induction items generalizing others with
  | nil => cases others <;> simp [sameItems]
  | cons item rest ih => cases others <;> simp [sameItems, ih]

/-- Every member on the left is found by its name on the right, with an equal value. -/
theorem membersWithin_iff {members others : List (String × Json)} :
    membersWithin members others = true ↔
      ∀ member ∈ members, ∃ value, others.lookup member.1 = some value ∧ member.2.Same value := by
  induction members with
  | nil => simp [membersWithin]
  | cons member rest ih =>
    obtain ⟨name, value⟩ := member
    rw [membersWithin, Bool.and_eq_true, ih, List.forall_mem_cons]
    refine and_congr_left fun _ => ?_
    cases others.lookup name <;> simp

theorem Number.same_self (number : Number) : number.same number = true := by
  cases number with
  | integer value => exact beq_self_eq_true value
  | double value => exact beq_self_eq_true value.units

theorem Number.equal_eq_of_same {number other : Number} (alike : number.same other = true)
    (value : Number) : value.equal number = value.equal other := by
  cases number with
  | integer a _ =>
    cases other with
    | integer b _ =>
      obtain rfl : a = b := by simpa [same] using alike
      rfl
    | double => cases alike
  | double a =>
    cases other with
    | integer => cases alike
    | double b =>
      have units : a.units = b.units := Binary64.sameValue_iff.mp alike
      cases value <;> simp only [equal, toBinary64, Binary64.sameValue, units]

theorem Number.render_message_eq_of_same {number other : Number}
    (alike : number.same other = true) : number.render .message = other.render .message := by
  cases number with
  | integer a _ =>
    cases other with
    | integer b _ =>
      obtain rfl : a = b := by simpa [same] using alike
      rfl
    | double => cases alike
  | double a =>
    cases other with
    | integer => cases alike
    | double b => exact NumberLayout.render_message_eq alike

/-- Equal literals match the same values. -/
theorem identical_eq_of_same {literal other : Json} (alike : literal.Same other) (value : Json) :
    value.identical literal = value.identical other := by
  cases literal <;> cases other <;> simp only [Same, same, Bool.false_eq_true] at alike
  case null.null => rfl
  case bool.bool => rw [beq_iff_eq.mp alike]
  case number.number => cases value <;> simp only [identical, Number.equal_eq_of_same alike]
  case string.string => rw [beq_iff_eq.mp alike]
  case array.array => cases value <;> rfl
  case object.object => cases value <;> rfl

/-- Equal literals that are no arrays and no objects have one text. -/
theorem literal_eq_of_same {literal other : Json} (alike : literal.Same other)
    (noArray : literal.kind ≠ .array) (noObject : literal.kind ≠ .object) :
    literal.literal = other.literal := by
  cases literal <;> cases other <;> simp only [Same, same, Bool.false_eq_true] at alike
  case null.null => rfl
  case bool.bool => rw [beq_iff_eq.mp alike]
  case number.number => exact Number.render_message_eq_of_same alike
  case string.string => rw [beq_iff_eq.mp alike]
  case array.array => exact absurd rfl noArray
  case object.object => exact absurd rfl noObject

end Json
end SchemaCheck
