import Mathlib
import SchemaCheck.Proofs.Validation.Exhaustive
import SchemaCheck.Proofs.Validation.Quiet

/-! Truncation at the limit is never silent. -/
namespace SchemaCheck

theorem Breaks.violation_ne_tooDeep {judge : Schema → Bool} {visit : Visit} {keyword : Keyword}
    {entry : Nat} {finding : Finding} (broken : Breaks judge visit keyword entry finding) :
    finding.violation ≠ .tooDeep := by
  cases broken with
  | bound typed given applies broken => rename_i bound _ _; cases bound <;> nofun
  | _ => nofun

/-- The limit is only reported where a route goes beyond it; no route is longer than the height. -/
theorem message_ne_tooDeep {options : ValidationOptions} {document : Json} {schema : Schema}
    (shallow : schema.height ≤ options.maxDepth) {issue : Issue}
    (member : issue ∈ report options document schema) :
    issue.message ≠ "maximum nesting depth exceeded" := by
  rw [(report_perm_trace options document schema).mem_iff, List.mem_map] at member
  obtain ⟨⟨source, finding⟩, traced, rfl⟩ := member
  intro same
  have tooDeep : finding.violation = .tooDeep := Violation.eq_tooDeep_of_message same
  cases reported_iff_mem_trace.mpr traced with
  | tooDeep reached =>
    obtain ⟨leads, spent, _⟩ := reaches_iff_leads.mp reached
    have deep := leads.height
    simp only at deep
    omega
  | breaks _ _ broken => exact broken.violation_ne_tooDeep tooDeep

/-- Without a warning no larger limit gives another result, and a limit no less than the schema's
height brings up neither a warning nor an issue of depth, however deep the document. -/
theorem truncation_is_noted (options : ValidationOptions) (document : Json) (schema : Schema) :
    ((∀ event ∈ (validate options document schema).events, event.level ≠ .warn) →
      ∀ larger : ValidationOptions, options.maxDepth ≤ larger.maxDepth →
        validate larger document schema = validate options document schema ∧
        report larger document schema = report options document schema) ∧
    (schema.height ≤ options.maxDepth →
      (∀ event ∈ (validate options document schema).events, event.level ≠ .warn) ∧
      ∀ issue ∈ report options document schema,
        issue.message ≠ "maximum nesting depth exceeded") := by
  constructor
  · intro quiet larger further
    have same := evaluate_eq_of_quiet larger.maxDepth
      (quiet_append.mp quiet).1 (Nat.succ_le_succ further)
    have results : validate larger document schema = validate options document schema := by
      simp only [validate, Nat.succ_eq_add_one] at same ⊢
      rw [same]
    exact ⟨results, by rw [report, report, results]⟩
  · intro shallow
    refine ⟨?_, fun issue => message_ne_tooDeep shallow⟩
    exact quiet_append.mpr ⟨quiet_evaluate (by omega), by simp [Quiet, Event.level]⟩

theorem truncation_is_noted_for_items :
    let schema : Schema := ⟨{}, none, none, some .unconstrained, none, none, none, []⟩
    let document : Json := .array [.array [.null]]
    validate ⟨5⟩ document schema = validate ⟨1⟩ document schema ∧
      ∀ issue ∈ report ⟨1⟩ document schema, issue.message ≠ "maximum nesting depth exceeded" := by
  intro schema document
  have shallow : schema.height ≤ 1 := by
    simp [schema, Schema.height_le_iff, Schema.height_eq_zero_iff, Schema.unconstrained,
      Schema.subschemas, Schema.declared, Schema.extraSchema?]
  obtain ⟨noted, sufficient⟩ := truncation_is_noted ⟨1⟩ document schema
  exact ⟨(noted (by decide) ⟨5⟩ (by decide)).1, (sufficient shallow).2⟩

end SchemaCheck
