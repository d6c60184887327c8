import Mathlib
import SchemaCheck.Validation.Violation

/-! How messages are worded. A message tells the keyword that it comes from and the kinds of values
that it can be about. -/
namespace SchemaCheck

def Kind.all : List Kind := [.null, .boolean, .object, .array, .string, .number, .integer]

/-- How a message starts and ends, the kinds of values that it can be about, and the keyword that
it comes from; what is said of the limit comes from none. -/
structure Wording where
  opening : String
  closing : String
  kinds : List Kind
  keyword : Option Keyword
deriving DecidableEq

namespace Violation

def wording : Violation → Wording
  | tooDeep => ⟨"maximum nesting depth exceeded", "", Kind.all, none⟩
  | matchesNoBranch =>
    ⟨"Value does not match any of the allowed schemas", "", Kind.all, some .anyOf⟩
  | matchesNotOneBranch =>
    ⟨"Value must match exactly one schema option", "", Kind.all, some .oneOf⟩
  | differsFrom _ => ⟨"Value must equal ", "", Kind.all, some .constant⟩
  | notAmong _ => ⟨"Value must be one of: ", "", Kind.all, some .enumeration⟩
  | wrongType _ found => ⟨"Expected type ", ", got " ++ found.name, [found], some .types⟩
  | missing => ⟨"Property is required", "", Kind.all, some .required⟩
  | notAllowed =>
    ⟨"Additional properties are not allowed", "", Kind.all, some .additionalProperties⟩
  | tooFewProperties _ =>
    ⟨"Expected at least ", " properties", [.object], some (.bound .minProperties)⟩
  | tooManyProperties _ =>
    ⟨"Expected at most ", " properties", [.object], some (.bound .maxProperties)⟩
  | tooFewItems _ => ⟨"Expected at least ", " items", [.array], some (.bound .minItems)⟩
  | tooManyItems _ => ⟨"Expected at most ", " items", [.array], some (.bound .maxItems)⟩
  | tooShort _ => ⟨"Expected at least ", " characters", [.string], some (.bound .minLength)⟩
  | tooLong _ => ⟨"Expected at most ", " characters", [.string], some (.bound .maxLength)⟩
  | badPattern _ => ⟨"Invalid pattern: ", "", [.string], some .pattern⟩
  | noMatch _ => ⟨"Value does not match pattern ", "", [.string], some .pattern⟩
  | badFormat _ => ⟨"Value must be a valid ", "", [.string], some .format⟩
  | notInteger => ⟨"Value must be an integer", "", [.number, .integer], none⟩
  | below _ => ⟨"Value must be >= ", "", [.number, .integer], some (.bound .minimum)⟩
  | above _ => ⟨"Value must be <= ", "", [.number, .integer], some (.bound .maximum)⟩
  | notAbove _ => ⟨"Value must be > ", "", [.number, .integer], some (.bound .exclusiveMinimum)⟩
  | notBelow _ => ⟨"Value must be < ", "", [.number, .integer], some (.bound .exclusiveMaximum)⟩
  | notMultipleOf _ =>
    ⟨"Value must be a multiple of ", "", [.number, .integer], some (.bound .multipleOf)⟩

theorem message_eq (violation : Violation) :
    ∃ middle, violation.message =
      violation.wording.opening ++ middle ++ violation.wording.closing := by
  cases violation with
  | tooDeep | matchesNoBranch | matchesNotOneBranch | missing | notAllowed | notInteger =>
    exact ⟨"", (String.append_empty.trans String.append_empty).symm⟩
  | wrongType expected found =>
    exact ⟨expected.display, String.append_assoc ..⟩
  | tooFewProperties limit | tooManyProperties limit | tooFewItems limit | tooManyItems limit
  | tooShort limit | tooLong limit =>
    exact ⟨number limit, rfl⟩
  | badFormat format =>
    cases format with
    | email => exact ⟨"email", by decide⟩
    | uri => exact ⟨"URI", by decide⟩
    | dateTime => exact ⟨"date-time string", by decide⟩
  | _ => exact ⟨_, String.append_empty.symm⟩

/-- The wordings, each from one violation that has it. -/
def wordings : List Wording :=
  ([tooDeep, .matchesNoBranch, .matchesNotOneBranch, .differsFrom .null, .notAmong [], .missing,
    .notAllowed, .tooFewProperties .zero, .tooManyProperties .zero, .tooFewItems .zero,
    .tooManyItems .zero, .tooShort .zero, .tooLong .zero, .badPattern "", .noMatch "",
    .badFormat .email, .notInteger, .below .zero, .above .zero, .notAbove .zero, .notBelow .zero,
    .notMultipleOf .zero] ++ Kind.all.map (wrongType (.single ""))).map wording

theorem wording_mem_wordings (violation : Violation) : violation.wording ∈ wordings := by
  cases violation with
  | wrongType expected found => cases found <;> simp [wordings, wording, Kind.all]
  | _ => simp [wordings, wording]

/-- No two wordings fit one text. -/
private theorem wordings_apart :
    ∀ a ∈ wordings, ∀ b ∈ wordings,
      (a.opening.toList <+: b.opening.toList ∨ b.opening.toList <+: a.opening.toList) →
      (a.closing.toList <:+ b.closing.toList ∨ b.closing.toList <:+ a.closing.toList) →
      a = b := by
  decide +kernel

/-- A text is a message of one wording at most. -/
theorem wording_eq_of_message {violation other : Violation}
    (same : violation.message = other.message) : violation.wording = other.wording := by
  obtain ⟨middle, spelled⟩ := violation.message_eq
  obtain ⟨inner, alike⟩ := other.message_eq
  have text : violation.message.toList =
      violation.wording.opening.toList ++ middle.toList ++ violation.wording.closing.toList := by
    rw [spelled, String.toList_append, String.toList_append]
  have again : violation.message.toList =
      other.wording.opening.toList ++ inner.toList ++ other.wording.closing.toList := by
    rw [same, alike, String.toList_append, String.toList_append]
  refine wordings_apart _ violation.wording_mem_wordings _ other.wording_mem_wordings ?start ?finish
  case start =>
    rw [List.append_assoc] at text again
    exact List.prefix_or_prefix_of_prefix ⟨_, text.symm⟩ ⟨_, again.symm⟩
  case finish =>
    exact List.suffix_or_suffix_of_suffix ⟨_, text.symm⟩ ⟨_, again.symm⟩

theorem eq_tooDeep_of_message {violation : Violation}
    (same : violation.message = "maximum nesting depth exceeded") : violation = .tooDeep := by
  have worded : violation.wording = Violation.tooDeep.wording := wording_eq_of_message same
  cases violation <;> simp [wording] at worded ⊢

theorem eq_missing_of_message {violation : Violation}
    (same : violation.message = "Property is required") : violation = .missing := by
  have worded : violation.wording = Violation.missing.wording := wording_eq_of_message same
  cases violation <;> simp [wording] at worded ⊢

theorem eq_notAllowed_of_message {violation : Violation}
    (same : violation.message = "Additional properties are not allowed") :
    violation = .notAllowed := by
  have worded : violation.wording = Violation.notAllowed.wording := wording_eq_of_message same
  cases violation <;> simp [wording] at worded ⊢

end Violation
end SchemaCheck
