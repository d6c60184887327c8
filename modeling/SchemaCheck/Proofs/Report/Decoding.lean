import Mathlib
import SchemaCheck.Report.Decoder
import SchemaCheck.Report.Rendering
import SchemaCheck.Proofs.Json.RoundTrip

/-! Reports as JSON are read back as the reports they are written for. -/
namespace SchemaCheck.Report

theorem ofJson_toJson (report : Report) : ofJson report.toJson = .ok report := by
  rw [toJson, ofJson]
  induction report with
  | nil => rfl
  | cons issue rest ih =>
    rw [List.map_cons, List.mapM_cons, ih]
    rfl

private theorem distinct_issue (issue : Issue) : issue.toJson.Distinct :=
  ⟨by simp, trivial, trivial, trivial⟩

theorem distinct_toJson (report : Report) : report.toJson.Distinct := by
  refine Json.distinctItems_iff.mpr fun item member => ?_
  obtain ⟨issue, _, rfl⟩ := List.mem_map.mp member
  exact distinct_issue issue

theorem height_toJson_le (report : Report) : report.toJson.height ≤ 2 := by
  refine Nat.succ_le_succ (Json.itemsHeight_le_iff.mpr fun item member => ?_)
  obtain ⟨issue, _, rfl⟩ := List.mem_map.mp member
  exact le_rfl

/-- A report holds texts only, so any reader keeps it. -/
theorem keptBy_toJson (report : Report) (double? : Json.DoubleReader) :
    report.toJson.KeptBy double? := by
  refine Json.keptBy_array_iff.mpr fun item member => ?_
  obtain ⟨issue, _, rfl⟩ := List.mem_map.mp member
  exact Json.keptBy_of_doubles_eq_nil rfl double?

theorem distinct_verdictJson (report : Report) : report.verdictJson.Distinct :=
  ⟨by simp, trivial, distinct_toJson report, trivial⟩

private theorem height_verdictJson_le (report : Report) : report.verdictJson.height ≤ 3 := by
  refine Nat.succ_le_succ (Json.membersHeight_le_iff.mpr ?_)
  simp [Json.height, height_toJson_le report]

private theorem keptBy_verdictJson (report : Report) (double? : Json.DoubleReader) :
    report.verdictJson.KeptBy double? := by
  refine Json.keptBy_object_iff.mpr (List.forall_mem_cons.mpr ⟨?_, ?_⟩)
  · exact Json.keptBy_of_doubles_eq_nil rfl double?
  · exact List.forall_mem_singleton.mpr (keptBy_toJson report double?)

/-- The text for programs is one value and a line feed. Its members are the verdict and the issues,
and the issues are read back as the report, as they are from either text of their own. -/
theorem report_reads_back (report : Report) :
    (∃ body, report.render .json = body ++ "\n" ∧
      ∀ text ∈ [body, body ++ "\n"], ∃ valid issues,
        Json.parse? text = some (.object [("valid", .bool valid), ("issues", issues)]) ∧
        (valid = true ↔ report = []) ∧ ofJson issues = .ok report) ∧
    ∀ text ∈ [report.toJson.compact, report.toJson.pretty], ∃ issues,
      Json.parse? text = some issues ∧ ofJson issues = .ok report := by
  have decoded := ofJson_toJson report
  have shallow : report.toJson.height ≤ Json.nestingLimit :=
    (height_toJson_le report).trans (by decide)
  have within : report.verdictJson.height ≤ Json.nestingLimit :=
    (height_verdictJson_le report).trans (by decide)
  have kept := keptBy_toJson report Json.scaledDouble?
  have verdict := keptBy_verdictJson report Json.scaledDouble?
  refine ⟨⟨report.verdictJson.pretty, rfl, ?_⟩, ?_⟩
  · intro text listed
    refine ⟨report.isEmpty, report.toJson, ?_, List.isEmpty_iff, decoded⟩
    rcases List.mem_pair.mp listed with rfl | rfl
    · exact Json.parse?_pretty (distinct_verdictJson report) verdict within
    · exact Json.parse?_pretty_line (distinct_verdictJson report) verdict within
  · intro text listed
    refine ⟨report.toJson, ?_, decoded⟩
    rcases List.mem_pair.mp listed with rfl | rfl
    · exact Json.parse?_compact (distinct_toJson report) kept shallow
    · exact Json.parse?_pretty (distinct_toJson report) kept shallow

end SchemaCheck.Report
