import Mathlib
import SchemaCheck.Proofs.Validation.Children
import SchemaCheck.Proofs.Validation.Node

/-! Evaluations that never reach the limit. Further levels do not change them. -/
namespace SchemaCheck

/-- Nothing is noted at the level of a warning, which reaching the limit is. -/
def Quiet (events : List Event) : Prop := ∀ event ∈ events, event.level ≠ .warn

theorem quiet_append {before after : List Event} :
    Quiet (before ++ after) ↔ Quiet before ∧ Quiet after :=
  List.forall_mem_append

theorem quiet_flatMap {α : Type} {items : List α} {events : α → List Event} :
    Quiet (items.flatMap events) ↔ ∀ item ∈ items, Quiet (events item) := by
  simp only [Quiet, List.mem_flatMap]
  grind

section Congruence

variable {run other : Schema → Outcome}

private theorem firstPassing_congr (branches : List Schema)
    (agree : ∀ branch, Quiet (run branch).events → other branch = run branch)
    (quiet : Quiet (firstPassing run branches).2) :
    firstPassing other branches = firstPassing run branches := by
  induction branches with
  | nil => rfl
  | cons branch rest ih =>
    simp only [firstPassing] at quiet ⊢
    by_cases passed : (run branch).passes = true
    · rw [if_pos passed] at quiet
      rw [agree branch quiet]
      simp [passed]
    · rw [if_neg passed] at quiet
      obtain ⟨first, onward⟩ := quiet_append.mp quiet
      rw [agree branch first, ih onward]

private theorem anyOutcome_congr {path : Path} {branches : List Schema}
    (agree : ∀ branch, Quiet (run branch).events → other branch = run branch)
    (quiet : Quiet (anyOutcome run path branches).events) :
    anyOutcome other path branches = anyOutcome run path branches := by
  cases branches with
  | nil => rfl
  | cons branch rest =>
    have same := firstPassing_congr (branch :: rest) agree quiet
    simp only [anyOutcome, same]

theorem map_congr_of_quiet {branches : List Schema}
    (agree : ∀ branch, Quiet (run branch).events → other branch = run branch)
    (quiet : Quiet ((branches.map run).flatMap Outcome.events)) :
    branches.map other = branches.map run := by
  rw [List.flatMap_map, quiet_flatMap] at quiet
  exact List.map_congr_left fun branch member => agree branch (quiet branch member)

private theorem oneOutcome_congr {path : Path} {branches : List Schema}
    (agree : ∀ branch, Quiet (run branch).events → other branch = run branch)
    (quiet : Quiet (oneOutcome run path branches).events) :
    oneOutcome other path branches = oneOutcome run path branches := by
  cases branches with
  | nil => rfl
  | cons branch rest =>
    have same := map_congr_of_quiet agree quiet
    simp only [oneOutcome, same]

theorem Schema.branchOutcome_congr (schema : Schema) (run other : Schema → Outcome) (path : Path)
    (agree : ∀ branch, Quiet (run branch).events → other branch = run branch)
    (quiet : Quiet (schema.branchOutcome run path).events) :
    schema.branchOutcome other path = schema.branchOutcome run path := by
  simp only [branchOutcome, Outcome.events_append, Outcome.events_concat, quiet_append] at quiet ⊢
  obtain ⟨⟨all, any⟩, one⟩ := quiet
  rw [map_congr_of_quiet agree all, anyOutcome_congr agree any, oneOutcome_congr agree one]

end Congruence

/-- A quiet node is the same for every evaluation below it that repeats the quiet ones. -/
theorem Schema.nodeOutcome_congr {schema : Schema} {run other : Evaluation} {value : Json}
    {path : Path}
    (agree : ∀ value schema path, Quiet (run value schema path).events →
      other value schema path = run value schema path)
    (quiet : Quiet (schema.nodeOutcome run value path).events) :
    schema.nodeOutcome other value path = schema.nodeOutcome run value path := by
  have branches := schema.branchOutcome_congr (run value · path) (other value · path) path
    fun branch => agree value branch path
  cases mismatch : schema.assertions.mismatch? value with
  | some violation =>
    simp only [nodeOutcome, mismatch, Outcome.events_append, Outcome.events_located,
      List.append_nil] at quiet ⊢
    rw [branches quiet]
  | none =>
    simp only [nodeOutcome, mismatch, Outcome.events_append, Outcome.events_located,
      Outcome.events_concat, List.append_nil, quiet_append, List.flatMap_map, quiet_flatMap]
      at quiet ⊢
    obtain ⟨⟨⟨general, own⟩, below⟩, closing⟩ := quiet
    rw [branches general]
    congr 3
    exact List.map_congr_left fun child member => agree _ _ _ (below child member)

/-- A quiet evaluation is the same with any number of further levels. -/
theorem evaluate_eq_of_quiet (larger : Nat) {limit budget more : Nat} {value : Json}
    {schema : Schema} {path : Path} (quiet : Quiet (evaluate limit budget value schema path).events)
    (further : budget ≤ more) :
    evaluate larger more value schema path = evaluate limit budget value schema path := by
  induction budget generalizing more value schema path with
  | zero => simp [evaluate, Quiet, Event.level] at quiet
  | succ budget ih =>
    cases more with
    | zero => cases further
    | succ more =>
      have fewer := Nat.le_of_succ_le_succ further
      exact schema.nodeOutcome_congr (fun _ _ _ quiet => ih quiet fewer) quiet

private theorem quiet_firstPassing {run : Schema → Outcome} {branches : List Schema}
    (quiet : ∀ branch ∈ branches, Quiet (run branch).events) :
    Quiet (firstPassing run branches).2 := by
  induction branches with
  | nil => simp [firstPassing, Quiet]
  | cons branch rest ih =>
    obtain ⟨first, others⟩ := List.forall_mem_cons.mp quiet
    simp only [firstPassing]
    split
    · exact first
    · exact quiet_append.mpr ⟨first, ih others⟩

theorem Schema.quiet_branchOutcome (schema : Schema) (run : Schema → Outcome) (path : Path)
    (quiet : ∀ branch ∈ schema.subschemas, Quiet (run branch).events) :
    Quiet (schema.branchOutcome run path).events := by
  simp only [mem_subschemas] at quiet
  simp only [branchOutcome, Outcome.events_append, Outcome.events_concat, quiet_append,
    List.flatMap_map, quiet_flatMap]
  refine ⟨⟨fun branch member => quiet branch (by simp [member]), ?any⟩, ?one⟩
  case any =>
    unfold anyOutcome
    split
    · simp [Quiet]
    · exact quiet_firstPassing fun branch member => quiet branch (by simp [member])
  case one =>
    unfold oneOutcome
    split
    · simp [Quiet]
    · simp only [List.flatMap_map, quiet_flatMap]
      exact fun branch member => quiet branch (by simp [member])

theorem Assertions.quiet_patternOutcome (assertions : Assertions) (text : String) (path : Path) :
    Quiet (assertions.patternOutcome text path).events := by
  unfold patternOutcome
  split
  · simp [Quiet]
  · simp [Quiet]
  · split <;> simp [Quiet, Event.level]

theorem Schema.quiet_ownOutcome (schema : Schema) (value : Json) (path : Path) :
    Quiet (schema.ownOutcome value path).events := by
  cases value with
  | string text =>
    have pattern := schema.assertions.quiet_patternOutcome text path
    simpa [ownOutcome, Assertions.stringOutcome] using pattern
  | _ => simp [ownOutcome, keyFindings, Quiet]

theorem Schema.quiet_nodeOutcome {schema : Schema} {run : Evaluation} {value : Json} {path : Path}
    (quiet : ∀ child ∈ schema.subschemas, ∀ value path, Quiet (run value child path).events) :
    Quiet (schema.nodeOutcome run value path).events := by
  have branches := schema.quiet_branchOutcome (run value · path) path
    fun branch member => quiet branch member _ _
  cases mismatch : schema.assertions.mismatch? value with
  | some violation => simpa [nodeOutcome, mismatch] using branches
  | none =>
    simp only [nodeOutcome, mismatch, Outcome.events_append, Outcome.events_located,
      Outcome.events_concat, List.append_nil, quiet_append, List.flatMap_map, quiet_flatMap]
    refine ⟨⟨⟨branches, schema.quiet_ownOutcome value path⟩, fun child member => ?below⟩, ?closing⟩
    case below => exact quiet _ (mem_subschemas_of_mem_children member) _ _
    case closing => cases value <;> simp [closingOutcome, keyFindings, Quiet]

/-- A schema is never too deep for a budget beyond its height. -/
theorem quiet_evaluate {limit budget : Nat} {value : Json} {schema : Schema} {path : Path}
    (enough : schema.height < budget) :
    Quiet (evaluate limit budget value schema path).events := by
  induction budget generalizing value schema path with
  | zero => cases enough
  | succ budget ih =>
    refine schema.quiet_nodeOutcome fun child member value path => ih ?_
    have lower := Schema.height_lt_of_mem member
    omega

end SchemaCheck
