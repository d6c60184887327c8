import Mathlib
import SchemaCheck.Report.Rendering
import SchemaCheck.Validation.Validator
import SchemaCheck.Proofs.Validation.Quoting

/-! The lines of a report for readers. Each issue keeps to its own lines exactly if no text that
an issue quotes has a line feed. -/
namespace SchemaCheck

/-- The texts between line feeds. -/
def linesOf (text : String) : List String := (text.toList.splitOn '\n').map String.ofList

private theorem not_mem_of_mem_splitOn {separator : Char} {text piece : List Char}
    (listed : piece ∈ text.splitOn separator) : separator ∉ piece := by
  induction text generalizing piece with
  | nil => simp_all
  | cons first rest ih =>
    obtain ⟨next, others, split⟩ := List.exists_cons_of_ne_nil (List.splitOn_ne_nil separator rest)
    rw [List.splitOn_cons_eq_if_modifyHead] at listed
    by_cases same : first = separator
    · rw [if_pos (beq_iff_eq.mpr same), List.mem_cons] at listed
      exact listed.elim (fun empty => empty ▸ List.not_mem_nil) ih
    · rw [if_neg (by simpa using same), split, List.modifyHead_cons, List.mem_cons] at listed
      rw [split] at ih
      rcases listed with rfl | later
      · rw [List.mem_cons, not_or]
        exact ⟨Ne.symm same, ih List.mem_cons_self⟩
      · exact ih (List.mem_cons_of_mem _ later)

private theorem oneLine_of_mem_linesOf {text line : String} (listed : line ∈ linesOf text) :
    OneLine line := by
  obtain ⟨piece, split, rfl⟩ := List.mem_map.mp listed
  rw [OneLine, String.toList_ofList]
  exact not_mem_of_mem_splitOn split

/-- Joined lines are read back exactly if none of them has a line feed. -/
theorem linesOf_intercalate_iff {lines : List String} (nonempty : lines ≠ []) :
    linesOf (String.intercalate "\n" lines) = lines ↔ ∀ line ∈ lines, OneLine line := by
  constructor
  · intro same line listed
    exact oneLine_of_mem_linesOf (same ▸ listed)
  · intro single
    have pieces : ∀ piece ∈ lines.map String.toList, '\n' ∉ piece :=
      List.forall_mem_map.mpr single
    have split := List.splitOn_intercalate '\n' pieces (by simpa using nonempty)
    rw [linesOf, String.toList_intercalate, show "\n".toList = ['\n'] from rfl, split]
    simp [Function.comp_def]

/-- Lines that each end in a line feed leave an empty one at the end. -/
private theorem join_lines (lines : List String) :
    String.join (lines.map (· ++ "\n")) = String.intercalate "\n" (lines ++ [""]) := by
  induction lines with
  | nil => rfl
  | cons line rest ih =>
    rw [List.cons_append, String.intercalate_cons_of_ne_nil (by simp), ← ih, List.map_cons,
      String.join_cons]

namespace Report

/-- An indented line for each issue. -/
def displayLines (report : Report) : List String :=
  report.map fun issue => "  " ++ issue.path ++ ": " ++ issue.message

/-- A heading, a line for the place and a line for the message of each issue, and nothing more. -/
def renderedLines (report : Report) : List String :=
  report.heading :: report.flatMap (fun issue => ["  " ++ issue.path, "    " ++ issue.message]) ++
    [""]

/-- No place and no message has a line feed. -/
def OneLined (report : Report) : Prop :=
  ∀ issue ∈ report, OneLine issue.path ∧ OneLine issue.message

theorem linesOf_display_iff {report : Report} (issues : report ≠ []) :
    linesOf report.display = report.displayLines ↔ report.OneLined := by
  have joined : report.display = String.intercalate "\n" report.displayLines := by
    simp [display, displayLines, Issue.display, String.append_assoc]
  rw [joined, linesOf_intercalate_iff (by simpa [displayLines] using issues), displayLines,
    List.forall_mem_map]
  have indent : OneLine "  " := by decide
  have colon : OneLine ": " := by decide
  simp [OneLined, oneLine_append, indent, colon]

private theorem oneLine_heading (report : Report) : OneLine report.heading := by
  have digits : OneLine (toString report.length) := Json.oneLine_toString report.length
  refine oneLine_append.mpr ⟨oneLine_append.mpr ⟨by decide, digits⟩, ?_⟩
  split <;> decide

private theorem oneLine_renderedLines_iff (report : Report) :
    (∀ line ∈ report.renderedLines, OneLine line) ↔ report.OneLined := by
  have indent : OneLine "  " := by decide
  have deeper : OneLine "    " := by decide
  have last : ∀ line ∈ [""], OneLine line := by decide
  have each (issue : Issue) :
      (∀ line ∈ ["  " ++ issue.path, "    " ++ issue.message], OneLine line) ↔
        OneLine issue.path ∧ OneLine issue.message := by
    simp [oneLine_append, indent, deeper]
  rw [renderedLines, List.forall_mem_append, and_iff_left last, List.forall_mem_cons,
    and_iff_right report.oneLine_heading]
  simp only [List.mem_flatMap, forall_exists_index, and_imp, OneLined, ← each]
  exact ⟨fun all issue member line => all line issue member,
    fun all line issue member => all issue member line⟩

theorem linesOf_renderText_iff {report : Report} (issues : report ≠ []) :
    linesOf report.renderText = report.renderedLines ↔ report.OneLined := by
  have nonempty : report.isEmpty = false := List.isEmpty_eq_false_iff.mpr issues
  have joined : report.renderText = String.intercalate "\n" report.renderedLines := by
    rw [renderedLines, ← join_lines, renderText, nonempty]
    simp [String.join_cons, List.map_flatMap, ← String.toList_inj, List.flatMap_assoc,
      List.flatMap_map]
  rw [joined, linesOf_intercalate_iff (by simp [renderedLines]), oneLine_renderedLines_iff]

end Report

/-- No issue quotes a text with a line feed. -/
def QuotesOneLiners (options : ValidationOptions) (document : Json) (schema : Schema) : Prop :=
  ∀ finding ∈ (validate options document schema).findings, ∀ text ∈ finding.texts, OneLine text

theorem oneLined_report_iff (options : ValidationOptions) (document : Json) (schema : Schema) :
    (report options document schema).OneLined ↔ QuotesOneLiners options document schema := by
  simp only [Report.OneLined, report, List.forall_mem_map, Finding.oneLine_issue_iff,
    QuotesOneLiners]

/-- Both forms for readers keep the issues apart exactly if no issue quotes a line feed, as when
neither the keys of the document nor the texts of the schema have one. -/
theorem issues_keep_apart_iff (options : ValidationOptions) (document : Json) (schema : Schema)
    (issues : report options document schema ≠ []) :
    (linesOf (report options document schema).display =
        (report options document schema).displayLines ↔
      QuotesOneLiners options document schema) ∧
      (linesOf (report options document schema).renderText =
          (report options document schema).renderedLines ↔
        QuotesOneLiners options document schema) ∧
      ((∀ key ∈ document.keys, OneLine key) →
        (∀ node, schema.Contains node → ∀ text ∈ node.assertions.texts, OneLine text) →
        QuotesOneLiners options document schema) := by
  have oneLined := oneLined_report_iff options document schema
  refine ⟨(Report.linesOf_display_iff issues).trans oneLined,
    (Report.linesOf_renderText_iff issues).trans oneLined, fun keys texts finding found => ?_⟩
  exact texts_of_findings options keys texts found

theorem issues_keep_apart_iff_two :
    let schema : Schema :=
      ⟨{ required := some ["b"] }, none, some (.allowed false), none, none, none, none, []⟩
    let document : Json := .object [("a: \"\t", .null)]
    let issues : Report :=
      [⟨"$.b", "Property is required"⟩, ⟨"$.a: \"\t", "Additional properties are not allowed"⟩]
    report {} document schema = issues ∧
      linesOf issues.display =
        ["  $.b: Property is required", "  $.a: \"\t: Additional properties are not allowed"] := by
  intro schema document issues
  have found : report {} document schema = issues := by decide +kernel
  obtain ⟨display, -, quoted⟩ :=
    issues_keep_apart_iff {} document schema (by rw [found]; exact List.cons_ne_nil _ _)
  have quotes : QuotesOneLiners {} document schema :=
    quoted (by decide) (Schema.forall_contains_of_leaf rfl (by decide))
  rw [found] at display
  exact ⟨found, display.mpr quotes⟩

/-- One issue reads as two: a required name may hold a line feed. -/
theorem issue_reads_as_two :
    let requires (names : List String) : Schema :=
      ⟨{ required := some names }, none, none, none, none, none, none, []⟩
    let forged := report {} (.object []) (requires ["a: Property is required\n  $.b"])
    forged.length = 1 ∧ linesOf forged.display ≠ forged.displayLines ∧
      linesOf forged.renderText ≠ forged.renderedLines ∧
      forged.display = (report {} (.object []) (requires ["a", "b"])).display := by
  decide +kernel

end SchemaCheck
