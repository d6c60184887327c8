import Mathlib
import SchemaCheck.Proofs.Validation.Children
import SchemaCheck.Proofs.Validation.Placement

/-! What more levels change in a report: blocks stand where the limit was reached, and `anyOf` may
find a branch. Without `oneOf` there is no other change. -/
namespace SchemaCheck

/-- What becomes of an issue with more levels: it stays, it gives way to issues from its place
downwards if it marks the limit, or it is gone if it says that no branch matches. -/
inductive Issue.Becomes (issue : Issue) : List Issue → Prop where
  | kept : issue.Becomes [issue]
  | walked {block : List Issue} (cut : issue.message = "maximum nesting depth exceeded")
      (below : ∀ found ∈ block, ∃ rest : Path, found.path = issue.path ++ rest.suffix) :
      issue.Becomes block
  | matched (unmatched : issue.message = "Value does not match any of the allowed schemas") :
      issue.Becomes []

namespace Report

/-- The second report has a block for every issue of the first, in order, and nothing else. -/
def Expands (coarse fine : Report) : Prop :=
  ∃ blocks, List.Forall₂ Issue.Becomes coarse blocks ∧ fine = blocks.flatten

namespace Expands

theorem refl (report : Report) : Expands report report := by
  refine ⟨report.map fun issue => [issue], ?_, (List.flatMap_singleton' report).symm⟩
  rw [List.forall₂_map_right_iff]
  exact List.forall₂_same.mpr fun issue _ => .kept

theorem nil {fine : Report} (expands : Expands [] fine) : fine = [] := by
  obtain ⟨blocks, becomes, rfl⟩ := expands
  obtain rfl := List.forall₂_nil_left_iff.mp becomes
  rfl

theorem append {first second fine finer : Report} (left : Expands first fine)
    (right : Expands second finer) : Expands (first ++ second) (fine ++ finer) := by
  obtain ⟨blocks, becomes, rfl⟩ := left
  obtain ⟨others, turns, rfl⟩ := right
  exact ⟨blocks ++ others, List.rel_append becomes turns, List.flatten_append.symm⟩

theorem flatMap {α : Type} {items : List α} {coarse fine : α → Report}
    (each : ∀ item ∈ items, Expands (coarse item) (fine item)) :
    Expands (items.flatMap coarse) (items.flatMap fine) := by
  induction items with
  | nil => exact refl []
  | cons item rest ih =>
    obtain ⟨first, others⟩ := List.forall_mem_cons.mp each
    exact append first (ih others)

/-- Issues that neither mark the limit nor say that no branch matches stay, in order. -/
theorem sublist {coarse fine : Report} (expands : Expands coarse fine) :
    (coarse.filter fun issue => issue.message ≠ "maximum nesting depth exceeded" ∧
      issue.message ≠ "Value does not match any of the allowed schemas").Sublist fine := by
  obtain ⟨blocks, becomes, rfl⟩ := expands
  induction becomes with
  | nil => exact .slnil
  | @cons issue block coarse blocks first _ ih =>
    rw [List.flatten_cons, List.filter_cons]
    cases first with
    | kept =>
      split
      · exact ih.cons_cons issue
      · exact ih.cons issue
    | walked cut below =>
      rw [if_neg (by simp [cut])]
      exact ih.trans (List.sublist_append_right ..)
    | matched unmatched =>
      rw [if_neg (by simp [unmatched])]
      exact ih

end Expands
end Report

namespace Outcome

/-- With more levels the first outcome becomes the second. -/
def Expands (coarse fine : Outcome) : Prop :=
  Report.Expands (coarse.issuesAt "$") (fine.issuesAt "$")

theorem Expands.refl (outcome : Outcome) : outcome.Expands outcome := Report.Expands.refl _

theorem Expands.append {first second fine finer : Outcome} (left : first.Expands fine)
    (right : second.Expands finer) : (first ++ second).Expands (fine ++ finer) := by
  unfold Expands
  rw [issuesAt_append, issuesAt_append]
  exact Report.Expands.append left right

theorem Expands.concat {α : Type} {items : List α} {coarse fine : α → Outcome}
    (each : ∀ item ∈ items, (coarse item).Expands (fine item)) :
    (Outcome.concat (items.map coarse)).Expands (Outcome.concat (items.map fine)) := by
  unfold Expands
  rw [issuesAt_concat, issuesAt_concat, List.flatMap_map, List.flatMap_map]
  exact Report.Expands.flatMap each

theorem Expands.passes {coarse fine : Outcome} (expands : coarse.Expands fine)
    (passed : coarse.passes = true) : fine.passes = true := by
  rw [← isEmpty_issuesAt "$", List.isEmpty_iff] at passed ⊢
  unfold Expands at expands
  rw [passed] at expands
  exact expands.nil

end Outcome

/-- A branch that passes keeps doing so, hence `anyOf` can only gain a branch. -/
private theorem expands_anyOutcome {run other : Schema → Outcome} (path : Path)
    {branches : List Schema}
    (expands : ∀ branch ∈ branches, (run branch).Expands (other branch)) :
    (anyOutcome run path branches).Expands (anyOutcome other path branches) := by
  unfold Outcome.Expands
  simp only [Outcome.issuesAt, findings_anyOutcome]
  by_cases before : branches = [] ∨ branches.any (fun branch => (run branch).passes) = true
  · have after : branches = [] ∨ branches.any (fun branch => (other branch).passes) = true := by
      refine before.imp_right fun found => ?_
      obtain ⟨branch, member, passed⟩ := List.any_eq_true.mp found
      exact List.any_eq_true.mpr ⟨branch, member, (expands branch member).passes passed⟩
    rw [if_pos before, if_pos after]
    exact .refl _
  · rw [if_neg before]
    split
    · exact ⟨[[]], .cons (.matched rfl) .nil, rfl⟩
    · exact .refl _

namespace Schema

private theorem expands_branchOutcome {schema : Schema} {run other : Schema → Outcome} (path : Path)
    (single : schema.oneOf.getD [] = [])
    (expands : ∀ branch ∈ schema.subschemas, (run branch).Expands (other branch)) :
    (schema.branchOutcome run path).Expands (schema.branchOutcome other path) := by
  simp only [mem_subschemas] at expands
  unfold branchOutcome
  rw [single]
  refine .append (.append (.concat fun branch member => ?all)
    (expands_anyOutcome path fun branch member => ?any)) (.refl .empty)
  case all => exact expands branch (by simp [member])
  case any => exact expands branch (by simp [member])

private theorem expands_nodeOutcome {schema : Schema} {run other : Evaluation} (value : Json)
    (path : Path)
    (single : schema.oneOf.getD [] = [])
    (expands : ∀ child ∈ schema.subschemas, ∀ value path,
      (run value child path).Expands (other value child path)) :
    (schema.nodeOutcome run value path).Expands (schema.nodeOutcome other value path) := by
  have branches := schema.expands_branchOutcome path single
    fun branch member => expands branch member value path
  have general := branches.append
    (.refl (.located path (schema.assertions.literalViolations value)))
  cases mismatch : schema.assertions.mismatch? value with
  | some violation =>
    simp only [nodeOutcome, mismatch]
    exact general.append (.refl _)
  | none =>
    simp only [nodeOutcome, mismatch]
    refine ((general.append (.refl _)).append (.concat fun child member => ?below)).append (.refl _)
    exact expands _ (mem_subschemas_of_mem_children member) _ _

end Schema

/-- Issues of an evaluation lie at its place or below. -/
private theorem below_of_mem_issuesAt {limit budget : Nat} {value : Json} {schema : Schema}
    {path : Path}
    {issue : Issue} (member : issue ∈ (evaluate limit budget value schema path).issuesAt "$") :
    ∃ rest : Path, issue.path = path.render ++ rest.suffix := by
  rw [Outcome.issuesAt_evaluate limit limit] at member
  obtain ⟨finding, _, rfl⟩ := List.mem_map.mp member
  exact ⟨finding.path, rfl⟩

theorem expands_evaluate (limit larger : Nat) {fewer more : Nat} (value : Json) (schema : Schema)
    (path : Path) (single : ∀ node, schema.Contains node → node.oneOf.getD [] = [])
    (further : fewer ≤ more) :
    (evaluate limit fewer value schema path).Expands (evaluate larger more value schema path) := by
  induction fewer generalizing more value schema path with
  | zero =>
    refine ⟨[_], .cons (.walked rfl fun issue member => ?_) .nil, (List.append_nil _).symm⟩
    exact below_of_mem_issuesAt member
  | succ fewer ih =>
    cases more with
    | zero => cases further
    | succ more =>
      refine schema.expands_nodeOutcome value path (single schema .self)
        fun child member value path => ?_
      exact ih value child path (fun node inside => single node (.child member inside))
        (Nat.le_of_succ_le_succ further)

/-- Without `oneOf`, a larger limit replaces every issue of depth in its place by issues from there
downwards and removes issues of `anyOf`; all others stay as they are and in order. -/
theorem larger_limit_replaces_in_place (options larger : ValidationOptions) (document : Json)
    (schema : Schema) (single : ∀ node, schema.Contains node → node.oneOf.getD [] = [])
    (further : options.maxDepth ≤ larger.maxDepth) :
    Report.Expands (report options document schema) (report larger document schema) ∧
    ((report options document schema).filter fun issue =>
        issue.message ≠ "maximum nesting depth exceeded" ∧
          issue.message ≠ "Value does not match any of the allowed schemas").Sublist
      (report larger document schema) := by
  have expands := expands_evaluate options.maxDepth larger.maxDepth document schema [] single
    (Nat.succ_le_succ further)
  exact ⟨expands, expands.sublist⟩

theorem larger_limit_replaces_in_place_for_property :
    let text : Schema :=
      ⟨{ types := some (.single "string") }, none, none, none, none, none, none, []⟩
    let inner : Schema := ⟨{}, some [("c", text)], none, none, none, none, none, []⟩
    let deep : Schema := ⟨{}, none, none, none, some [.unconstrained], none, none, []⟩
    let schema : Schema :=
      ⟨{}, some [("a", inner), ("b", text)], none, none, none, some [deep], none, []⟩
    let document : Json := .object [("a", .object [("c", .null)]), ("b", .null)]
    (∀ node, schema.Contains node → node.oneOf.getD [] = []) ∧
      report ⟨1⟩ document schema =
        [⟨"$", "Value does not match any of the allowed schemas"⟩,
          ⟨"$.a.c", "maximum nesting depth exceeded"⟩, ⟨"$.b", "Expected type string, got null"⟩] ∧
      Report.Expands (report ⟨1⟩ document schema) [⟨"$.a.c", "Expected type string, got null"⟩,
        ⟨"$.b", "Expected type string, got null"⟩] := by
  intro text inner deep schema document
  have single : ∀ node, schema.Contains node → node.oneOf.getD [] = [] := by
    refine Schema.forall_contains rfl fun child member => ?_
    have children : child = inner ∨ child = text ∨ child = deep := by
      simpa [schema, Schema.subschemas, Schema.declared, Schema.extraSchema?] using member
    rcases children with rfl | rfl | rfl
    · refine Schema.forall_contains rfl fun child member => ?_
      obtain rfl : child = text := by
        simpa [inner, Schema.subschemas, Schema.declared, Schema.extraSchema?] using member
      exact Schema.forall_contains_of_leaf rfl rfl
    · exact Schema.forall_contains_of_leaf rfl rfl
    · refine Schema.forall_contains rfl fun child member => ?_
      obtain rfl : child = .unconstrained := by
        simpa [deep, Schema.subschemas, Schema.declared, Schema.extraSchema?] using member
      exact Schema.forall_contains_of_leaf rfl rfl
  have expands := (larger_limit_replaces_in_place ⟨1⟩ ⟨2⟩ document schema single (by decide)).1
  have larger : report ⟨2⟩ document schema =
      [⟨"$.a.c", "Expected type string, got null"⟩, ⟨"$.b", "Expected type string, got null"⟩] := by
    decide
  exact ⟨single, by decide, larger ▸ expands⟩

end SchemaCheck
