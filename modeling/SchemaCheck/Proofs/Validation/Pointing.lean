import Mathlib
import SchemaCheck.Proofs.Json.Address
import SchemaCheck.Proofs.Validation.Exhaustive
import SchemaCheck.Proofs.Validation.Wording

/-! Paths of issues lead to places in the document, and to values that the messages can be about. -/
namespace SchemaCheck

namespace Json

theorem kind_number (value : Number) : (number value).kind ∈ [Kind.number, Kind.integer] := by
  cases integral : value.isIntegral <;> simp [kind, integral]

theorem kind_mem_all (value : Json) : value.kind ∈ Kind.all := by
  cases value.kind <;> decide

end Json

/-- A bound looks at values of its own kind only. -/
theorem Bound.kind_mem_of_measure? {bound : Bound} {value : Json} {measured : Binary64}
    (applies : bound.measure? value = some measured) (limit : Binary64) :
    value.kind ∈ (bound.violation limit).wording.kinds := by
  cases value with
  | number amount =>
    cases bound with
    | minimum | maximum | exclusiveMinimum | exclusiveMaximum | multipleOf =>
      exact Json.kind_number amount
    | _ => cases applies
  | object members =>
    cases bound with
    | minProperties | maxProperties => exact List.mem_singleton_self _
    | _ => cases applies
  | array items =>
    cases bound with
    | minItems | maxItems => exact List.mem_singleton_self _
    | _ => cases applies
  | string text =>
    cases bound with
    | minLength | maxLength => exact List.mem_singleton_self _
    | _ => cases applies
  | _ => cases bound <;> cases applies

/-- Where a violation is placed: a missing name and a member that is not allowed at their key,
every other violation at the value itself, which is of a kind that the message can be about. -/
theorem Breaks.place {judge : Schema → Bool} {visit : Visit} {keyword : Keyword} {entry : Nat}
    {finding : Finding} (broken : Breaks judge visit keyword entry finding) :
    (∃ members name, visit.value = .object members ∧ name ∉ members.map Prod.fst ∧
      finding = ⟨visit.path.child (.key name), .missing⟩) ∨
    (∃ members name item, visit.value = .object members ∧ (name, item) ∈ members ∧
      finding = ⟨visit.path.child (.key name), .notAllowed⟩) ∨
    finding.path = visit.path ∧ visit.value.kind ∈ finding.violation.wording.kinds ∧
      finding.violation ≠ .missing ∧ finding.violation ≠ .notAllowed := by
  cases broken with
  | required typed object given listed absent => exact .inl ⟨_, _, object, absent, rfl⟩
  | additional typed object forbidden listed undeclared =>
    exact .inr (.inl ⟨_, _, _, object, List.mem_of_getElem? listed, rfl⟩)
  | types given refused => exact .inr (.inr ⟨rfl, List.mem_singleton_self _, nofun, nofun⟩)
  | bound typed given applies broken =>
    refine .inr (.inr ⟨rfl, Bound.kind_mem_of_measure? applies _, ?_, ?_⟩)
    · rename_i bound _ _; cases bound <;> nofun
    · rename_i bound _ _; cases bound <;> nofun
  | badPattern typed string | noMatch typed string | format typed string =>
    rw [string]
    exact .inr (.inr ⟨rfl, List.mem_singleton_self _, nofun, nofun⟩)
  | _ => exact .inr (.inr ⟨rfl, Json.kind_mem_all _, nofun, nofun⟩)

/-- The message is one that a violation has, the place is in the document, and its value is one the
message can be about: the place of a missing property is a key that the object above does not have;
the place of a member that is not allowed is a key that the object above has. -/
structure PointsInto (document : Json) (path : Path) (message : String) : Prop where
  said : ∃ violation : Violation, violation.message = message
  absent : message = "Property is required" →
    ∃ parent name members, path = Path.child parent (.key name) ∧
      document.get? parent = some (.object members) ∧ name ∉ members.map Prod.fst
  present : message ≠ "Property is required" →
    ∃ value, document.get? path = some value ∧
      (∀ violation : Violation, violation.message = message →
        value.kind ∈ violation.wording.kinds) ∧
      (message = "Additional properties are not allowed" →
        ∃ parent name members, path = Path.child parent (.key name) ∧
          document.get? parent = some (.object members) ∧ (name, value) ∈ members)

private theorem pointsInto_of_value {document value : Json} {path : Path} {violation : Violation}
    (found : document.get? path = some value) (kind : value.kind ∈ violation.wording.kinds)
    (missing : violation ≠ .missing) (notAllowed : violation ≠ .notAllowed) :
    PointsInto document path violation.message where
  said := ⟨violation, rfl⟩
  absent same := absurd (Violation.eq_missing_of_message same) missing
  present _ := by
    refine ⟨value, found, fun other same => ?_, fun same => ?_⟩
    · rwa [Violation.wording_eq_of_message same]
    · exact absurd (Violation.eq_notAllowed_of_message same) notAllowed

theorem pointsInto_of_breaks {document : Json} {judge : Schema → Bool} {visit : Visit}
    {keyword : Keyword} {entry : Nat} {finding : Finding}
    (found : document.get? visit.path = some visit.value) (distinct : visit.value.Distinct)
    (broken : Breaks judge visit keyword entry finding) :
    PointsInto document finding.path finding.violation.message := by
  rcases broken.place with ⟨members, name, object, absent, rfl⟩ |
    ⟨members, name, item, object, listed, rfl⟩ | ⟨place, kind, missing, notAllowed⟩
  · rw [object] at found
    refine ⟨⟨_, rfl⟩, fun _ => ⟨_, name, members, rfl, found, absent⟩, fun other => ?_⟩
    exact absurd rfl other
  · rw [object] at found distinct
    have inside : document.get? (visit.path.child (.key name)) = some item := by
      rw [Json.get?_child, found]
      exact Json.lookup_eq_some distinct.1 listed
    refine ⟨⟨_, rfl⟩, fun same => ?_, fun _ => ⟨item, inside, fun violation same => ?_, fun _ =>
      ⟨_, name, members, rfl, found, listed⟩⟩⟩
    · cases Violation.eq_missing_of_message same
    · rw [Violation.eq_notAllowed_of_message same]
      exact item.kind_mem_all
  · rw [← place] at found
    exact pointsInto_of_value found kind missing notAllowed

/-- The path of every issue is the text of steps that lead into the document, to a value that the
message can be about or, for a missing property, to an object without it. -/
theorem issue_points_into_document (options : ValidationOptions) (document : Json)
    (schema : Schema) (distinct : document.Distinct) (issue : Issue)
    (member : issue ∈ report options document schema) :
    ∃ path : Path, path.render = issue.path ∧ PointsInto document path issue.message := by
  rw [(report_perm_trace options document schema).mem_iff, List.mem_map] at member
  obtain ⟨⟨source, finding⟩, traced, rfl⟩ := member
  refine ⟨finding.path, rfl, ?_⟩
  cases reported_iff_mem_trace.mpr traced with
  | @tooDeep route visit reached =>
    obtain ⟨found, _⟩ := reached.get? distinct
    have kind : visit.value.kind ∈ Violation.tooDeep.wording.kinds := visit.value.kind_mem_all
    exact pointsInto_of_value found kind nofun nofun
  | breaks reached within broken =>
    obtain ⟨found, inside⟩ := reached.get? distinct
    exact pointsInto_of_breaks found inside broken

theorem issue_points_into_document_item :
    let text : Schema :=
      ⟨{ types := some (.single "string") }, none, none, none, none, none, none, []⟩
    let texts : Schema := ⟨{}, none, none, some text, none, none, none, []⟩
    let schema : Schema :=
      ⟨{ required := some ["c"] }, some [("a", texts)], some (.allowed false), none, none, none,
        none, []⟩
    let document : Json := .object [("a", .array [.string "x", .null]), ("b", .null)]
    document.Distinct ∧
      report ⟨2⟩ document schema =
        [⟨"$.c", "Property is required"⟩, ⟨"$.a[1]", "Expected type string, got null"⟩,
          ⟨"$.b", "Additional properties are not allowed"⟩] ∧
      ∃ path : Path, path.render = "$.a[1]" ∧
        PointsInto document path "Expected type string, got null" := by
  intro text texts schema document
  have distinct : document.Distinct := by
    simp [document, Json.Distinct, Json.DistinctMembers, Json.DistinctItems]
  have found : report ⟨2⟩ document schema =
      [⟨"$.c", "Property is required"⟩, ⟨"$.a[1]", "Expected type string, got null"⟩,
        ⟨"$.b", "Additional properties are not allowed"⟩] := by
    decide
  exact ⟨distinct, found, issue_points_into_document ⟨2⟩ document schema distinct
    ⟨"$.a[1]", "Expected type string, got null"⟩ (by simp [found])⟩

end SchemaCheck
