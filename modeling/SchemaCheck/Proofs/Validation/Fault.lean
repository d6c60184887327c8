import Mathlib
import SchemaCheck.Proofs.Validation.Reach

/-! What a value breaks at one node, keyword by keyword. -/
namespace SchemaCheck

namespace Bound

/-- The number that a bound looks at: a count, a length, or the value itself. -/
def measure? : Bound → Json → Option Binary64
  | minProperties, .object members => some (.ofInt members.length)
  | maxProperties, .object members => some (.ofInt members.length)
  | minItems, .array items => some (.ofInt items.length)
  | maxItems, .array items => some (.ofInt items.length)
  | minLength, .string text => some (.ofInt (utf16Length text))
  | maxLength, .string text => some (.ofInt (utf16Length text))
  | minimum, .number number => some number.toBinary64
  | maximum, .number number => some number.toBinary64
  | exclusiveMinimum, .number number => some number.toBinary64
  | exclusiveMaximum, .number number => some number.toBinary64
  | multipleOf, .number number => some number.toBinary64
  | _, _ => none

/-- The measured number is on the wrong side of the limit, or no multiple of it. -/
def brokenBy (measured limit : Binary64) : Bound → Bool
  | minProperties => decide (measured < limit)
  | minItems => decide (measured < limit)
  | minLength => decide (measured < limit)
  | minimum => decide (measured < limit)
  | maxProperties => decide (limit < measured)
  | maxItems => decide (limit < measured)
  | maxLength => decide (limit < measured)
  | maximum => decide (limit < measured)
  | exclusiveMinimum => decide (measured ≤ limit)
  | exclusiveMaximum => decide (limit ≤ measured)
  | multipleOf => !measured.isMultipleOf limit

def violation : Bound → Binary64 → Violation
  | minProperties => .tooFewProperties
  | maxProperties => .tooManyProperties
  | minItems => .tooFewItems
  | maxItems => .tooManyItems
  | minLength => .tooShort
  | maxLength => .tooLong
  | minimum => .below
  | maximum => .above
  | exclusiveMinimum => .notAbove
  | exclusiveMaximum => .notBelow
  | multipleOf => .notMultipleOf

end Bound

/-- The keyword is violated at the node; `entry` tells apart the names under `required` and the
members that are not allowed. `judge` says which branches pass. -/
inductive Breaks (judge : Schema → Bool) (visit : Visit) : Keyword → Nat → Finding → Prop where
  | anyOf (given : visit.schema.anyOf.getD [] ≠ [])
      (failed : ∀ branch ∈ visit.schema.anyOf.getD [], judge branch = false) :
      Breaks judge visit .anyOf 0 ⟨visit.path, .matchesNoBranch⟩
  | oneOf (given : visit.schema.oneOf.getD [] ≠ [])
      (count : (visit.schema.oneOf.getD []).countP judge ≠ 1) :
      Breaks judge visit .oneOf 0 ⟨visit.path, .matchesNotOneBranch⟩
  | constant {literal : Json} (given : visit.schema.assertions.constant = some literal)
      (differs : visit.value.identical literal = false) :
      Breaks judge visit .constant 0 ⟨visit.path, .differsFrom literal⟩
  | enumeration {literals : List Json}
      (given : visit.schema.assertions.enumeration = some literals)
      (differs : ∀ literal ∈ literals, visit.value.identical literal = false) :
      Breaks judge visit .enumeration 0 ⟨visit.path, .notAmong literals⟩
  | types {types : TypeSpec} (given : visit.schema.assertions.types = some types)
      (refused : ¬ visit.schema.assertions.TypeHolds visit.value) :
      Breaks judge visit .types 0 ⟨visit.path, .wrongType types visit.value.kind⟩
  | required {members : List (String × Json)} {names : List String} {entry : Nat} {name : String}
      (typed : visit.schema.assertions.TypeHolds visit.value)
      (object : visit.value = .object members)
      (given : visit.schema.assertions.required = some names)
      (listed : names[entry]? = some name) (absent : name ∉ members.map Prod.fst) :
      Breaks judge visit .required entry ⟨visit.path.child (.key name), .missing⟩
  | bound {bound : Bound} {limit measured : Binary64}
      (typed : visit.schema.assertions.TypeHolds visit.value)
      (given : visit.schema.assertions.bound bound = some limit)
      (applies : bound.measure? visit.value = some measured)
      (broken : bound.brokenBy measured limit = true) :
      Breaks judge visit (.bound bound) 0 ⟨visit.path, bound.violation limit⟩
  | badPattern {text source : String}
      (typed : visit.schema.assertions.TypeHolds visit.value)
      (string : visit.value = .string text)
      (given : visit.schema.assertions.pattern = some source) (nonempty : source ≠ "")
      (refused : Pattern.compile? source = none) :
      Breaks judge visit .pattern 0 ⟨visit.path, .badPattern source⟩
  | noMatch {text source : String} {pattern : Pattern}
      (typed : visit.schema.assertions.TypeHolds visit.value)
      (string : visit.value = .string text)
      (given : visit.schema.assertions.pattern = some source) (nonempty : source ≠ "")
      (compiled : Pattern.compile? source = some pattern)
      (missed : pattern.foundIn text = false) :
      Breaks judge visit .pattern 0 ⟨visit.path, .noMatch source⟩
  | format {text name : String} {format : Format}
      (typed : visit.schema.assertions.TypeHolds visit.value)
      (string : visit.value = .string text)
      (given : visit.schema.assertions.format = some name)
      (known : Format.ofName? name = some format) (refused : format.accepts text = false) :
      Breaks judge visit .format 0 ⟨visit.path, .badFormat format⟩
  | additional {members : List (String × Json)} {entry : Nat} {key : String} {item : Json}
      (typed : visit.schema.assertions.TypeHolds visit.value)
      (object : visit.value = .object members)
      (forbidden : visit.schema.additional = some (.allowed false))
      (listed : members[entry]? = some (key, item))
      (undeclared : key ∉ visit.schema.declared.map Prod.fst) :
      Breaks judge visit .additionalProperties entry
        ⟨visit.path.child (.key key), .notAllowed⟩

theorem Breaks.entry_eq_zero {judge : Schema → Bool} {visit : Visit} {keyword : Keyword}
    {entry : Nat} {finding : Finding} (broken : Breaks judge visit keyword entry finding)
    (required : keyword ≠ .required) (additional : keyword ≠ .additionalProperties) :
    entry = 0 := by
  cases broken <;> first | rfl | contradiction

namespace Visit

variable (judge : Schema → Bool) (visit : Visit)

def typed : Bool := (visit.schema.assertions.mismatch? visit.value).isNone

/-- What a keyword that is checked once finds; a kind's own keywords need the right type. -/
def violation? : Keyword → Option Violation
  | .anyOf =>
    if visit.schema.anyOf.getD [] = [] ∨ (visit.schema.anyOf.getD []).any judge then none
    else some .matchesNoBranch
  | .oneOf =>
    if visit.schema.oneOf.getD [] = [] ∨ (visit.schema.oneOf.getD []).countP judge = 1 then none
    else some .matchesNotOneBranch
  | .constant => do
    let literal ← visit.schema.assertions.constant
    if visit.value.identical literal then none else some (.differsFrom literal)
  | .enumeration => do
    let literals ← visit.schema.assertions.enumeration
    if literals.any visit.value.identical then none else some (.notAmong literals)
  | .types => visit.schema.assertions.mismatch? visit.value
  | .bound bound => do
    guard visit.typed
    let limit ← visit.schema.assertions.bound bound
    let measured ← bound.measure? visit.value
    if bound.brokenBy measured limit then some (bound.violation limit) else none
  | .pattern => do
    guard visit.typed
    let text ← visit.value.asString?
    let source ← visit.schema.assertions.pattern
    if source = "" then none
    else match Pattern.compile? source with
      | none => some (.badPattern source)
      | some pattern => if pattern.foundIn text then none else some (.noMatch source)
  | .format => do
    guard visit.typed
    let text ← visit.value.asString?
    let format ← visit.schema.assertions.format.bind Format.ofName?
    if format.accepts text then none else some (.badFormat format)
  | _ => none

/-- What a keyword finds name by name. -/
def keyFaults (keyword : Keyword) : List (Nat × Finding) :=
  match keyword, visit.value, visit.typed with
  | .required, .object members, true =>
    positioned (fun _ name =>
        if (members.lookup name).isNone then some ⟨visit.path.child (.key name), .missing⟩
        else none)
      (visit.schema.assertions.required.getD [])
  | .additionalProperties, .object members, true =>
    match visit.schema.additional with
    | some (.allowed false) =>
      positioned (fun _ (key, _) =>
          if !visit.schema.declares key then some ⟨visit.path.child (.key key), .notAllowed⟩
          else none)
        members
    | _ => []
  | _, _, _ => []

def faults (keyword : Keyword) : List (Nat × Finding) :=
  ((visit.violation? judge keyword).map fun violation => (0, ⟨visit.path, violation⟩)).toList ++
    visit.keyFaults keyword

theorem typed_iff : visit.typed = true ↔ visit.schema.assertions.TypeHolds visit.value := by
  rw [typed, Option.isNone_iff_eq_none, Assertions.mismatch_eq_none_iff]

private theorem eq_string_of_asString? {value : Json} {text : String}
    (found : value.asString? = some text) : value = .string text := by
  cases value <;> cases found
  rfl

theorem mismatch_eq_some_iff (violation : Violation) :
    visit.schema.assertions.mismatch? visit.value = some violation ↔
      ¬ visit.schema.assertions.TypeHolds visit.value ∧
        ∃ types, visit.schema.assertions.types = some types ∧
          violation = .wrongType types visit.value.kind := by
  rw [← Assertions.mismatch_eq_none_iff]
  cases given : visit.schema.assertions.types with
  | none => simp [Assertions.mismatch?, given]
  | some types =>
    cases admitted : types.admits visit.value <;>
      simp [Assertions.mismatch?, given, admitted, eq_comm]

private theorem breaks_of_violation? {keyword : Keyword} {violation : Violation}
    (found : visit.violation? judge keyword = some violation) :
    Breaks judge visit keyword 0 ⟨visit.path, violation⟩ := by
  cases keyword with
  | anyOf =>
    simp only [violation?, Option.ite_none_left_eq_some, not_or, List.any_eq_true, not_exists,
      not_and, Bool.not_eq_true, Option.some.injEq] at found
    obtain ⟨⟨given, failed⟩, rfl⟩ := found
    exact .anyOf given failed
  | oneOf =>
    simp only [violation?, Option.ite_none_left_eq_some, not_or, Option.some.injEq] at found
    obtain ⟨⟨given, count⟩, rfl⟩ := found
    exact .oneOf given count
  | constant =>
    simp only [violation?, Option.bind_eq_bind, Option.bind_eq_some_iff,
      Option.ite_none_left_eq_some, Bool.not_eq_true, Option.some.injEq] at found
    obtain ⟨literal, given, differs, rfl⟩ := found
    exact .constant given differs
  | enumeration =>
    simp only [violation?, Option.bind_eq_bind, Option.bind_eq_some_iff,
      Option.ite_none_left_eq_some, List.any_eq_true, not_exists, not_and, Bool.not_eq_true,
      Option.some.injEq] at found
    obtain ⟨literals, given, differs, rfl⟩ := found
    exact .enumeration given differs
  | types =>
    obtain ⟨refused, types, given, rfl⟩ := (visit.mismatch_eq_some_iff violation).mp found
    exact .types given refused
  | bound bound =>
    simp only [violation?, Option.bind_eq_bind, Option.bind_eq_some_iff, Option.guard_eq_some',
      typed_iff, Option.ite_none_right_eq_some, Option.some.injEq] at found
    obtain ⟨_, typed, limit, given, measured, applies, broken, rfl⟩ := found
    exact .bound typed given applies broken
  | pattern =>
    simp only [violation?, Option.bind_eq_bind, Option.bind_eq_some_iff, Option.guard_eq_some',
      typed_iff, Option.ite_none_left_eq_some] at found
    obtain ⟨_, typed, text, string, source, given, nonempty, outcome⟩ := found
    split at outcome
    next refused =>
      obtain rfl := Option.some.inj outcome
      exact .badPattern typed (eq_string_of_asString? string) given nonempty refused
    next pattern compiled =>
      simp only [Option.ite_none_left_eq_some, Bool.not_eq_true, Option.some.injEq] at outcome
      obtain ⟨missed, rfl⟩ := outcome
      exact .noMatch typed (eq_string_of_asString? string) given nonempty compiled missed
  | format =>
    simp only [violation?, Option.bind_eq_bind, Option.bind_eq_some_iff, Option.guard_eq_some',
      typed_iff, Option.ite_none_left_eq_some, Bool.not_eq_true, Option.some.injEq] at found
    obtain ⟨_, typed, text, string, format, ⟨name, given, known⟩, refused, rfl⟩ := found
    exact .format typed (eq_string_of_asString? string) given known refused
  | _ => cases found

private theorem violation?_of_breaks {keyword : Keyword} {finding : Finding}
    (broken : Breaks judge visit keyword 0 finding) (required : keyword ≠ .required)
    (additional : keyword ≠ .additionalProperties) :
    ∃ violation, visit.violation? judge keyword = some violation ∧
      finding = ⟨visit.path, violation⟩ := by
  cases broken with
  | anyOf given failed => exact ⟨_, by simpa [violation?, given] using failed, rfl⟩
  | oneOf given count => exact ⟨_, by simp [violation?, given, count], rfl⟩
  | constant given differs => exact ⟨_, by simp [violation?, given, differs], rfl⟩
  | enumeration given differs =>
    exact ⟨_, by simpa [violation?, given] using differs, rfl⟩
  | types given refused =>
    exact ⟨_, (visit.mismatch_eq_some_iff _).mpr ⟨refused, _, given, rfl⟩, rfl⟩
  | bound typed given applies broken =>
    have passed := visit.typed_iff.mpr typed
    exact ⟨_, by simp [violation?, passed, given, applies, broken], rfl⟩
  | badPattern typed string given nonempty refused =>
    have passed := visit.typed_iff.mpr typed
    exact ⟨_, by simp [violation?, passed, string, Json.asString?, given, nonempty, refused], rfl⟩
  | noMatch typed string given nonempty compiled missed =>
    have passed := visit.typed_iff.mpr typed
    exact ⟨_, by
      simp [violation?, passed, string, Json.asString?, given, nonempty, compiled, missed], rfl⟩
  | format typed string given known refused =>
    have passed := visit.typed_iff.mpr typed
    exact ⟨_, by simp [violation?, passed, string, Json.asString?, given, known, refused], rfl⟩
  | required => exact absurd rfl required
  | additional => exact absurd rfl additional

theorem breaks_of_mem_keyFaults {keyword : Keyword} {entry : Nat} {finding : Finding}
    (member : (entry, finding) ∈ visit.keyFaults keyword) :
    Breaks judge visit keyword entry finding := by
  unfold keyFaults at member
  split at member
  next members object typed =>
    obtain ⟨name, listed, chosen⟩ := mem_positioned.mp member
    simp only [Option.ite_none_right_eq_some, Option.isNone_iff_eq_none,
      lookup_eq_none_iff_not_mem, Option.some.injEq] at chosen
    obtain ⟨absent, rfl⟩ := chosen
    cases given : visit.schema.assertions.required with
    | none => simp [given] at listed
    | some names =>
      exact .required (visit.typed_iff.mp typed) object given (by simpa [given] using listed) absent
  next members object typed =>
    split at member
    next forbidden =>
      obtain ⟨⟨key, item⟩, listed, chosen⟩ := mem_positioned.mp member
      simp only [Option.ite_none_right_eq_some, Bool.not_eq_true', Schema.declares_eq_false_iff,
        Option.some.injEq] at chosen
      obtain ⟨undeclared, rfl⟩ := chosen
      exact .additional (visit.typed_iff.mp typed) object forbidden listed undeclared
    next => cases member
  next => cases member

theorem mem_keyFaults_of_breaks {keyword : Keyword} {entry : Nat} {finding : Finding}
    (broken : Breaks judge visit keyword entry finding)
    (named : keyword = .required ∨ keyword = .additionalProperties) :
    (entry, finding) ∈ visit.keyFaults keyword := by
  cases broken with
  | required typed object given listed absent =>
    have passed := visit.typed_iff.mpr typed
    simp only [keyFaults, object, passed, given, Option.getD_some]
    refine mem_positioned.mpr ⟨_, listed, ?_⟩
    rw [if_pos (Option.isNone_iff_eq_none.mpr (lookup_eq_none_iff_not_mem.mpr absent))]
  | additional typed object forbidden listed undeclared =>
    have passed := visit.typed_iff.mpr typed
    simp only [keyFaults, object, passed, forbidden]
    refine mem_positioned.mpr ⟨_, listed, ?_⟩
    simp [(Schema.declares_eq_false_iff _ _).mpr undeclared]
  | _ => simp at named

/-- The lists hold exactly what is broken. -/
theorem mem_faults {keyword : Keyword} {entry : Nat} {finding : Finding} :
    (entry, finding) ∈ visit.faults judge keyword ↔ Breaks judge visit keyword entry finding := by
  rw [faults, List.mem_append]
  constructor
  · rintro (once | named)
    · simp only [Option.mem_toList, Option.map_eq_some_iff, Prod.mk.injEq] at once
      obtain ⟨violation, found, rfl, rfl⟩ := once
      exact visit.breaks_of_violation? judge found
    · exact visit.breaks_of_mem_keyFaults judge named
  · intro broken
    by_cases named : keyword = .required ∨ keyword = .additionalProperties
    · exact .inr (visit.mem_keyFaults_of_breaks judge broken named)
    · obtain ⟨required, additional⟩ := not_or.mp named
      obtain rfl := broken.entry_eq_zero required additional
      obtain ⟨violation, found, rfl⟩ := visit.violation?_of_breaks judge broken required additional
      simp [found]

private theorem keyFaults_eq_nil {keyword : Keyword} (required : keyword ≠ .required)
    (additional : keyword ≠ .additionalProperties) : visit.keyFaults keyword = [] := by
  cases keyword <;> first | rfl | contradiction

private theorem nodup_keyFaults (keyword : Keyword) :
    ((visit.keyFaults keyword).map Prod.fst).Nodup := by
  unfold keyFaults
  split
  · exact nodup_positioned ..
  · split
    · exact nodup_positioned ..
    · exact List.nodup_nil
  · exact List.nodup_nil

/-- An entry of a keyword is reported once. -/
theorem nodup_faults (keyword : Keyword) : ((visit.faults judge keyword).map Prod.fst).Nodup := by
  cases found : visit.violation? judge keyword with
  | none => simpa [faults, found] using visit.nodup_keyFaults keyword
  | some violation =>
    have named : visit.keyFaults keyword = [] := by
      apply visit.keyFaults_eq_nil
      · rintro rfl
        cases found
      · rintro rfl
        cases found
    simp [faults, found, named]

end Visit
end SchemaCheck
