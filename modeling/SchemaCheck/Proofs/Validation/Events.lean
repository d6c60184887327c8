import Mathlib
import SchemaCheck.Proofs.Validation.Quiet
import SchemaCheck.Proofs.Validation.Wording

/-! What the events of a validation tell about its issues. Reaching the limit and refusing a pattern
are noted as they happen, so the events are those of the issues, in order, and between them those of
branches whose issues are dropped. -/
namespace SchemaCheck

/-- The finding has an event of its own. -/
def Violation.isNoted : Violation → Bool
  | tooDeep | badPattern _ => true
  | _ => false

namespace Finding

/-- The event that goes with a finding at this limit. -/
def event? (limit : Nat) (finding : Finding) : Option Event :=
  match finding.violation with
  | .tooDeep => some (.depthReached finding.path limit)
  | .badPattern pattern => some (.patternRefused pattern)
  | _ => none

private theorem event?_eq_none {limit : Nat} {finding : Finding}
    (silent : finding.violation.isNoted = false) : finding.event? limit = none := by
  obtain ⟨path, violation⟩ := finding
  cases violation with
  | tooDeep | badPattern => cases silent
  | _ => rfl

end Finding

/-- What is noted while a document is walked at this limit. -/
inductive Event.OfWalk (limit : Nat) : Event → Prop where
  | depthReached (path : Path) : OfWalk limit (.depthReached path limit)
  | patternRefused (pattern : String) : OfWalk limit (.patternRefused pattern)

/-- A way to hold the events of findings against events that are noted, which passes from the parts
of an evaluation to what they are put together to. -/
structure Accounting (limit : Nat) (accounts : List Event → List Event → Prop) : Prop where
  nil : accounts [] []
  one {event : Event} (walked : event.OfWalk limit) : accounts [event] [event]
  append {called noted others more : List Event} (first : accounts called noted)
    (second : accounts others more) : accounts (called ++ others) (noted ++ more)

/-- Every event of a finding is noted, in order, and whatever is noted is noted on the walk. -/
def AccountedFor (limit : Nat) (called noted : List Event) : Prop :=
  called.Sublist noted ∧ ∀ event ∈ noted, event.OfWalk limit

theorem accounting_accountedFor (limit : Nat) : Accounting limit (AccountedFor limit) where
  nil := ⟨.slnil, nofun⟩
  one walked := ⟨.refl _, List.forall_mem_singleton.mpr walked⟩
  append first second :=
    ⟨first.1.append second.1, List.forall_mem_append.mpr ⟨first.2, second.2⟩⟩

theorem accounting_eq (limit : Nat) : Accounting limit Eq where
  nil := rfl
  one _ := rfl
  append first second := by rw [first, second]

namespace Outcome

/-- The events of the findings, in order. -/
def called (limit : Nat) (outcome : Outcome) : List Event :=
  outcome.findings.filterMap (Finding.event? limit)

variable {limit : Nat} {accounts : List Event → List Event → Prop}

private theorem called_append (limit : Nat) (first second : Outcome) :
    (first ++ second).called limit = first.called limit ++ second.called limit :=
  List.filterMap_append

private theorem called_eq_nil {outcome : Outcome}
    (silent : ∀ finding ∈ outcome.findings, finding.violation.isNoted = false) :
    outcome.called limit = [] :=
  List.filterMap_eq_nil_iff.mpr fun finding member => Finding.event?_eq_none (silent finding member)

/-- The events of an outcome's findings, against those that it notes. -/
def Accounts (accounts : List Event → List Event → Prop) (limit : Nat) (outcome : Outcome) : Prop :=
  accounts (outcome.called limit) outcome.events

theorem accounts_of_dropped {outcome : Outcome} (noted : accounts [] outcome.events)
    (silent : ∀ finding ∈ outcome.findings, finding.violation.isNoted = false) :
    outcome.Accounts accounts limit := by
  rw [Accounts, called_eq_nil silent]
  exact noted

section Parts

variable (accounting : Accounting limit accounts)

include accounting

theorem accounts_of_silent {outcome : Outcome} (nothing : outcome.events = [])
    (silent : ∀ finding ∈ outcome.findings, finding.violation.isNoted = false) :
    outcome.Accounts accounts limit :=
  accounts_of_dropped (nothing ▸ accounting.nil) silent

theorem accounts_located {path : Path} {violations : List Violation}
    (silent : ∀ violation ∈ violations, violation.isNoted = false) :
    (located path violations).Accounts accounts limit :=
  accounts_of_silent accounting rfl (by simpa [located] using silent)

theorem Accounts.append {first second : Outcome} (before : first.Accounts accounts limit)
    (after : second.Accounts accounts limit) : (first ++ second).Accounts accounts limit := by
  rw [Accounts, called_append]
  exact accounting.append before after

theorem Accounts.concat {α : Type} {items : List α} {run : α → Outcome}
    (each : ∀ item ∈ items, (run item).Accounts accounts limit) :
    (Outcome.concat (items.map run)).Accounts accounts limit := by
  induction items with
  | nil => exact accounting.nil
  | cons item rest ih =>
    obtain ⟨first, others⟩ := List.forall_mem_cons.mp each
    exact Accounts.append accounting first (ih others)

end Parts
end Outcome

namespace Assertions

theorem isNoted_breach {assertions : Assertions} {bound : Bound} {broken : Binary64 → Bool}
    {violation : Binary64 → Violation} (silent : ∀ limit, (violation limit).isNoted = false) :
    ∀ found ∈ assertions.breach bound broken violation, found.isNoted = false := by
  intro found member
  unfold breach at member
  split at member
  · split at member
    · rw [List.mem_singleton.mp member]
      exact silent _
    · cases member
  · cases member

theorem isNoted_countViolations {assertions : Assertions} {count : Nat} {least most : Bound}
    {tooFew tooMany : Binary64 → Violation} (few : ∀ limit, (tooFew limit).isNoted = false)
    (many : ∀ limit, (tooMany limit).isNoted = false) :
    ∀ found ∈ assertions.countViolations count least most tooFew tooMany,
      found.isNoted = false :=
  List.forall_mem_append.mpr ⟨isNoted_breach few, isNoted_breach many⟩

private theorem isNoted_numberViolations (assertions : Assertions) (number : Json.Number) :
    ∀ found ∈ assertions.numberViolations number, found.isNoted = false := by
  simp only [numberViolations]
  split
  · exact List.forall_mem_singleton.mpr rfl
  · simp only [doubleViolations, List.forall_mem_append]
    exact ⟨⟨⟨⟨isNoted_breach fun _ => rfl, isNoted_breach fun _ => rfl⟩,
      isNoted_breach fun _ => rfl⟩, isNoted_breach fun _ => rfl⟩, isNoted_breach fun _ => rfl⟩

private theorem isNoted_formatViolations (assertions : Assertions) (text : String) :
    ∀ found ∈ assertions.formatViolations text, found.isNoted = false := by
  unfold formatViolations
  split
  · split
    · nofun
    · exact List.forall_mem_singleton.mpr rfl
  · nofun

private theorem isNoted_literalViolations (assertions : Assertions) (value : Json) :
    ∀ found ∈ assertions.literalViolations value, found.isNoted = false := by
  unfold literalViolations
  refine List.forall_mem_append.mpr ⟨?_, ?_⟩ <;>
  · split
    · split
      · nofun
      · exact List.forall_mem_singleton.mpr rfl
    · nofun

private theorem isNoted_mismatch {assertions : Assertions} {value : Json} {violation : Violation}
    (mismatch : assertions.mismatch? value = some violation) : violation.isNoted = false := by
  unfold mismatch? at mismatch
  split at mismatch
  · split at mismatch
    · cases mismatch
    · cases mismatch
      rfl
  · cases mismatch

end Assertions

theorem isNoted_verdict {passed : Prop} [Decidable passed] {finding : Finding}
    (silent : finding.violation.isNoted = false) :
    ∀ found ∈ if passed then [] else [finding], found.violation.isNoted = false := by
  split
  · nofun
  · exact List.forall_mem_singleton.mpr silent

namespace Schema

variable {limit : Nat} {accounts : List Event → List Event → Prop}

section Node

variable (accounting : Accounting limit accounts) {schema : Schema} {path : Path}

include accounting

theorem accounts_patternOutcome (assertions : Assertions) (text : String) :
    (assertions.patternOutcome text path).Accounts accounts limit := by
  unfold Assertions.patternOutcome
  split
  · exact accounting.nil
  · exact accounting.nil
  · next source _ _ =>
    split
    · exact accounting.one (.patternRefused source)
    · refine Outcome.accounts_located accounting ?_
      split
      · nofun
      · exact List.forall_mem_singleton.mpr rfl

theorem accounts_ownOutcome (value : Json) :
    (schema.ownOutcome value path).Accounts accounts limit := by
  cases value with
  | object members =>
    refine .append accounting (Outcome.accounts_of_silent accounting rfl ?_) ?_
    · simp [keyFindings, Violation.isNoted]
    · exact Outcome.accounts_located accounting
        (Assertions.isNoted_countViolations (fun _ => rfl) fun _ => rfl)
  | array items =>
    exact Outcome.accounts_located accounting
      (Assertions.isNoted_countViolations (fun _ => rfl) fun _ => rfl)
  | string text =>
    refine .append accounting (.append accounting ?_ ?_) ?_
    · exact Outcome.accounts_located accounting
        (Assertions.isNoted_countViolations (fun _ => rfl) fun _ => rfl)
    · exact accounts_patternOutcome accounting schema.assertions text
    · exact Outcome.accounts_located accounting
        (schema.assertions.isNoted_formatViolations text)
  | number number =>
    exact Outcome.accounts_located accounting (schema.assertions.isNoted_numberViolations number)
  | null | bool => exact accounting.nil

theorem accounts_closingOutcome (value : Json) :
    (schema.closingOutcome value path).Accounts accounts limit := by
  cases value with
  | object members =>
    refine Outcome.accounts_of_silent accounting rfl ?_
    simp [closingOutcome, keyFindings, Violation.isNoted]
  | _ => exact accounting.nil

section Branches

variable {run : Schema → Outcome} {branches : List Schema}
  (drop : ∀ {called noted : List Event}, accounts called noted → accounts [] noted)
  (each : ∀ branch ∈ branches, (run branch).Accounts accounts limit)

include drop each

/-- What failed branches find is dropped, what they note is not. -/
theorem accounts_firstPassing : accounts [] (firstPassing run branches).2 := by
  induction branches with
  | nil => exact accounting.nil
  | cons branch rest ih =>
    obtain ⟨first, others⟩ := List.forall_mem_cons.mp each
    simp only [firstPassing]
    split
    · exact drop first
    · exact accounting.append (drop first) (ih others)

theorem accounts_anyOutcome : (anyOutcome run path branches).Accounts accounts limit := by
  unfold anyOutcome
  split
  · exact accounting.nil
  · refine Outcome.accounts_of_dropped (accounts_firstPassing accounting drop each) ?_
    exact isNoted_verdict rfl

theorem accounts_oneOutcome : (oneOutcome run path branches).Accounts accounts limit := by
  unfold oneOutcome
  split
  · exact accounting.nil
  · refine Outcome.accounts_of_dropped (drop (Outcome.Accounts.concat accounting each)) ?_
    exact isNoted_verdict rfl

end Branches

/-- Findings may be dropped, or there are no branches whose findings are. -/
def Droppable (accounts : List Event → List Event → Prop) (schema : Schema) : Prop :=
  (∀ {called noted : List Event}, accounts called noted → accounts [] noted) ∨
    schema.anyOf.getD [] = [] ∧ schema.oneOf.getD [] = []

theorem accounts_branchOutcome {run : Schema → Outcome} (droppable : schema.Droppable accounts)
    (each : ∀ branch ∈ schema.subschemas, (run branch).Accounts accounts limit) :
    (schema.branchOutcome run path).Accounts accounts limit := by
  simp only [mem_subschemas] at each
  unfold branchOutcome
  refine .append accounting (.append accounting (.concat accounting fun branch member => ?all) ?any)
    ?one
  case all => exact each branch (by simp [member])
  case any =>
    rcases droppable with drop | ⟨none, _⟩
    · exact accounts_anyOutcome accounting drop fun branch member => each branch (by simp [member])
    · rw [none]
      exact accounting.nil
  case one =>
    rcases droppable with drop | ⟨_, none⟩
    · exact accounts_oneOutcome accounting drop fun branch member => each branch (by simp [member])
    · rw [none]
      exact accounting.nil

theorem accounts_nodeOutcome {run : Evaluation} {value : Json}
    (droppable : schema.Droppable accounts)
    (each : ∀ child ∈ schema.subschemas, ∀ value path,
      (run value child path).Accounts accounts limit) :
    (schema.nodeOutcome run value path).Accounts accounts limit := by
  have branches : (schema.branchOutcome (run value · path) path).Accounts accounts limit :=
    accounts_branchOutcome accounting droppable fun branch member => each branch member value path
  have literals : (Outcome.located path (schema.assertions.literalViolations value)).Accounts
      accounts limit :=
    Outcome.accounts_located accounting (schema.assertions.isNoted_literalViolations value)
  have general := branches.append accounting literals
  cases mismatch : schema.assertions.mismatch? value with
  | some violation =>
    simp only [nodeOutcome, mismatch]
    refine general.append accounting (Outcome.accounts_located accounting ?_)
    exact List.forall_mem_singleton.mpr (Assertions.isNoted_mismatch mismatch)
  | none =>
    simp only [nodeOutcome, mismatch]
    refine ((general.append accounting (accounts_ownOutcome accounting value)).append accounting
      (.concat accounting fun child member => ?_)).append accounting
        (accounts_closingOutcome accounting value)
    exact each _ (mem_subschemas_of_mem_children member) _ _

end Node
end Schema

theorem accounts_evaluate {limit : Nat} {accounts : List Event → List Event → Prop}
    (accounting : Accounting limit accounts) (budget : Nat) (value : Json) (schema : Schema)
    (path : Path) (droppable : ∀ node, schema.Contains node → node.Droppable accounts) :
    (evaluate limit budget value schema path).Accounts accounts limit := by
  induction budget generalizing value schema path with
  | zero => exact accounting.one (.depthReached path)
  | succ budget ih =>
    refine Schema.accounts_nodeOutcome accounting (droppable schema .self)
      fun child member value path => ih value child path fun node inside => ?_
    exact droppable node (.child member inside)

namespace Event

/-- Where the limit was reached. -/
def cutPath? : Event → Option String
  | depthReached path _ => some path.render
  | _ => none

def refusedPattern? : Event → Option String
  | patternRefused pattern => some pattern
  | _ => none

end Event

namespace Issue

/-- The place of an issue of depth. -/
def cutPath? (issue : Issue) : Option String :=
  if issue.message = "maximum nesting depth exceeded" then some issue.path else none

/-- The pattern that an issue calls invalid. -/
def refusedPattern? (issue : Issue) : Option String :=
  (issue.message.toList.dropPrefix? "Invalid pattern: ".toList).map String.ofList

private theorem refusedPattern?_eq_some_iff {issue : Issue} {pattern : String} :
    issue.refusedPattern? = some pattern ↔ issue.message = "Invalid pattern: " ++ pattern := by
  rw [refusedPattern?, Option.map_eq_some_iff, ← String.toList_inj, String.toList_append]
  constructor
  · rintro ⟨rest, dropped, rfl⟩
    obtain ⟨opening, text, same⟩ := List.dropPrefix?_eq_some_iff.mp dropped
    simp [text, eq_of_beq same]
  · intro text
    exact ⟨pattern.toList, List.dropPrefix?_eq_some_iff.mpr ⟨_, text, beq_self_eq_true _⟩,
      String.ofList_toList⟩

end Issue

theorem Violation.eq_badPattern_of_message {violation : Violation} {pattern : String}
    (same : violation.message = "Invalid pattern: " ++ pattern) :
    violation = .badPattern pattern := by
  have worded : violation.wording = (Violation.badPattern pattern).wording :=
    wording_eq_of_message same
  cases violation with
  | badPattern source => rw [(String.append_right_inj _).mp same]
  | _ => simp [wording] at worded

namespace Finding

private theorem cutPath?_issue (limit : Nat) (finding : Finding) :
    finding.issue.cutPath? = (finding.event? limit).bind Event.cutPath? := by
  obtain ⟨path, violation⟩ := finding
  by_cases cut : violation = .tooDeep
  · subst cut
    rfl
  · have worded : violation.message ≠ "maximum nesting depth exceeded" := fun same =>
      cut (Violation.eq_tooDeep_of_message same)
    rw [Issue.cutPath?, issue, if_neg worded]
    cases violation with
    | tooDeep => exact absurd rfl cut
    | _ => rfl

private theorem refusedPattern?_issue (limit : Nat) (finding : Finding) :
    finding.issue.refusedPattern? = (finding.event? limit).bind Event.refusedPattern? := by
  obtain ⟨path, violation⟩ := finding
  ext pattern
  rw [Issue.refusedPattern?_eq_some_iff]
  constructor
  · intro message
    obtain rfl : violation = .badPattern pattern := Violation.eq_badPattern_of_message message
    rfl
  · intro refused
    cases violation with
    | badPattern source =>
      obtain rfl := Option.some.inj refused
      rfl
    | _ => cases refused

end Finding

theorem filterMap_issue (limit : Nat) {α : Type} {shown : Issue → Option α}
    {told : Event → Option α}
    (same : ∀ finding : Finding, shown finding.issue = (finding.event? limit).bind told)
    (outcome : Outcome) :
    (outcome.findings.map Finding.issue).filterMap shown =
      (outcome.called limit).filterMap told := by
  rw [Outcome.called, List.filterMap_map, List.filterMap_filterMap]
  exact congrArg (List.filterMap · outcome.findings) (funext same)

/-- The events of a validation are those of its walk and a closing one that counts the issues. The
issues of depth and those of invalid patterns have their events, in order, and without `anyOf` and
`oneOf` there are no others. -/
theorem events_account_for_issues (options : ValidationOptions) (document : Json)
    (schema : Schema) :
    ∃ walked : List Event,
      (validate options document schema).events =
        walked ++ [.validated (report options document schema).length] ∧
      (∀ event ∈ walked, event.OfWalk options.maxDepth) ∧
      ((report options document schema).filterMap Issue.cutPath?).Sublist
        (walked.filterMap Event.cutPath?) ∧
      ((report options document schema).filterMap Issue.refusedPattern?).Sublist
        (walked.filterMap Event.refusedPattern?) ∧
      ((∀ node, schema.Contains node → node.anyOf.getD [] = [] ∧ node.oneOf.getD [] = []) →
        (report options document schema).filterMap Issue.cutPath? =
            walked.filterMap Event.cutPath? ∧
          (report options document schema).filterMap Issue.refusedPattern? =
            walked.filterMap Event.refusedPattern?) := by
  let limit := options.maxDepth
  let outcome := evaluate limit (limit + 1) document schema []
  have cuts := filterMap_issue limit (Finding.cutPath?_issue limit) outcome
  have refused := filterMap_issue limit (Finding.refusedPattern?_issue limit) outcome
  obtain ⟨inOrder, walked⟩ : outcome.Accounts (AccountedFor limit) limit :=
    accounts_evaluate (accounting_accountedFor limit) (limit + 1) document schema []
      fun node _ => .inl fun accounted => ⟨List.nil_sublist _, accounted.2⟩
  refine ⟨outcome.events, ?closing, walked, ?_, ?_, fun plain => ?_⟩
  case closing => simp [validate, report, outcome, limit]
  · exact cuts ▸ inOrder.filterMap Event.cutPath?
  · exact refused ▸ inOrder.filterMap Event.refusedPattern?
  · have all : outcome.Accounts Eq limit :=
      accounts_evaluate (accounting_eq limit) (limit + 1) document schema []
        fun node inside => .inr (plain node inside)
    rw [Outcome.Accounts] at all
    exact ⟨cuts.trans (by rw [all]), refused.trans (by rw [all])⟩

theorem events_account_for_issues_two_kinds :
    let refusing : Schema := ⟨{ pattern := some "(" }, none, none, none, none, none, none, []⟩
    let texts : Schema := ⟨{}, none, none, some refusing, none, none, none, []⟩
    let schema : Schema :=
      ⟨{}, some [("a", refusing), ("b", texts)], none, none, none, none, none, []⟩
    let document : Json := .object [("a", .string "x"), ("b", .array [.string "y"])]
    (∀ node, schema.Contains node → node.anyOf.getD [] = [] ∧ node.oneOf.getD [] = []) ∧
      report ⟨1⟩ document schema =
        [⟨"$.a", "Invalid pattern: ("⟩, ⟨"$.b[0]", "maximum nesting depth exceeded"⟩] ∧
      ∃ walked : List Event, walked.filterMap Event.cutPath? = ["$.b[0]"] ∧
        walked.filterMap Event.refusedPattern? = ["("] := by
  intro refusing texts schema document
  have plain : ∀ node, schema.Contains node →
      node.anyOf.getD [] = [] ∧ node.oneOf.getD [] = [] := by
    refine Schema.forall_contains ⟨rfl, rfl⟩ fun child member => ?_
    have children : child = refusing ∨ child = texts := by
      simpa [schema, Schema.subschemas, Schema.declared, Schema.extraSchema?] using member
    rcases children with rfl | rfl
    · exact Schema.forall_contains_of_leaf rfl ⟨rfl, rfl⟩
    · refine Schema.forall_contains ⟨rfl, rfl⟩ fun child member => ?_
      obtain rfl : child = refusing := by
        simpa [texts, Schema.subschemas, Schema.declared, Schema.extraSchema?] using member
      exact Schema.forall_contains_of_leaf rfl ⟨rfl, rfl⟩
  have found : report ⟨1⟩ document schema =
      [⟨"$.a", "Invalid pattern: ("⟩, ⟨"$.b[0]", "maximum nesting depth exceeded"⟩] := by
    decide +kernel
  obtain ⟨walked, _, _, _, _, all⟩ := events_account_for_issues ⟨1⟩ document schema
  obtain ⟨cuts, refused⟩ := all plain
  rw [found] at cuts refused
  exact ⟨plain, found, walked, cuts.symm.trans (by decide +kernel),
    refused.symm.trans (by decide +kernel)⟩

end SchemaCheck
