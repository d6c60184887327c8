import Mathlib
import SchemaCheck.Proofs.Validation.Trace

/-! More levels and the verdict: when a document that passes at one limit fails at a larger one. -/
namespace SchemaCheck

/-- Only the verdicts of `anyOf` and `oneOf` depend on the branches. -/
theorem Breaks.any_or_one_or_fixed {judge : Schema → Bool} {visit : Visit} {keyword : Keyword}
    {entry : Nat} {finding : Finding} (broken : Breaks judge visit keyword entry finding) :
    (visit.schema.anyOf.getD [] ≠ [] ∧
      ∀ branch ∈ visit.schema.anyOf.getD [], judge branch = false) ∨
    (visit.schema.oneOf.getD [] ≠ [] ∧ (visit.schema.oneOf.getD []).countP judge ≠ 1) ∨
    ∀ other, Breaks other visit keyword entry finding := by
  cases broken with
  | anyOf given failed => exact .inl ⟨given, failed⟩
  | oneOf given count => exact .inr (.inl ⟨given, count⟩)
  | constant given differs => exact .inr (.inr fun _ => .constant given differs)
  | enumeration given differs => exact .inr (.inr fun _ => .enumeration given differs)
  | types given refused => exact .inr (.inr fun _ => .types given refused)
  | required typed object given listed absent =>
    exact .inr (.inr fun _ => .required typed object given listed absent)
  | bound typed given applies broken => exact .inr (.inr fun _ => .bound typed given applies broken)
  | badPattern typed string given nonempty refused =>
    exact .inr (.inr fun _ => .badPattern typed string given nonempty refused)
  | noMatch typed string given nonempty compiled missed =>
    exact .inr (.inr fun _ => .noMatch typed string given nonempty compiled missed)
  | format typed string given known refused =>
    exact .inr (.inr fun _ => .format typed string given known refused)
  | additional typed object forbidden listed undeclared =>
    exact .inr (.inr fun _ => .additional typed object forbidden listed undeclared)

namespace Visit

/-- The visit passes with so many levels left. -/
def passes (limit budget : Nat) (visit : Visit) : Bool := visit.judge limit budget visit.schema

/-- A node passes if it breaks no keyword and everything directly below it passes. -/
theorem passes_succ_iff (limit budget : Nat) (visit : Visit) :
    visit.passes limit (budget + 1) = true ↔
      (∀ keyword entry finding, ¬ Breaks (visit.judge limit budget) visit keyword entry finding) ∧
      ∀ turn below, Descends visit turn below → below.passes limit budget = true := by
  have found := visit.findings_nodeOutcome_perm (evaluate limit budget)
  have own : evaluationOrder.flatMap (visit.found (visit.judge limit budget)) = [] ↔
      ∀ keyword entry finding, ¬ Breaks (visit.judge limit budget) visit keyword entry finding := by
    simp only [Visit.found, List.flatMap_eq_nil_iff, List.map_eq_nil_iff, ← mem_faults]
    constructor
    · intro none keyword entry finding member
      have listed := ((visit.mem_faults _).mp member).mem_evaluationOrder
      simp [none keyword listed] at member
    · intro none keyword _
      refine List.eq_nil_iff_forall_not_mem.mpr ?_
      rintro ⟨entry, finding⟩
      exact none keyword entry finding
  rw [passes, judge, evaluate, Outcome.passes_iff, ← List.length_eq_zero_iff, found.length_eq,
    List.length_eq_zero_iff, List.append_eq_nil_iff]
  refine and_congr own ?_
  simp only [List.flatMap_eq_nil_iff, Prod.forall, mem_turns, passes, judge, Outcome.passes_iff]

theorem fails_succ_iff (limit budget : Nat) (visit : Visit) :
    visit.passes limit (budget + 1) = false ↔
      (∃ keyword entry finding, Breaks (visit.judge limit budget) visit keyword entry finding) ∨
      ∃ turn below, Descends visit turn below ∧ below.passes limit budget = false := by
  rw [← Bool.not_eq_true, passes_succ_iff, not_and_or]
  push Not
  simp only [Bool.not_eq_true]

/-- A node that passes with fewer levels but not with more: its `oneOf` counts one branch only with
fewer, or every branch that lets its `anyOf` pass is overturned and no other one passes instead, or
something that has to pass with it is overturned. -/
inductive Overturned (limit larger : Nat) : Nat → Nat → Visit → Prop where
  | one {fewer more : Nat} {visit : Visit}
      (counted : (visit.schema.oneOf.getD []).countP (visit.judge limit fewer) = 1)
      (recounted : (visit.schema.oneOf.getD []).countP (visit.judge larger more) ≠ 1) :
      Overturned limit larger (fewer + 1) (more + 1) visit
  | any {fewer more : Nat} {visit : Visit} (given : visit.schema.anyOf.getD [] ≠ [])
      (turned : ∀ branch ∈ visit.schema.anyOf.getD [], visit.judge limit fewer branch = true →
        Overturned limit larger fewer more { visit with schema := branch })
      (failed : ∀ branch ∈ visit.schema.anyOf.getD [], visit.judge limit fewer branch = false →
        visit.judge larger more branch = false) :
      Overturned limit larger (fewer + 1) (more + 1) visit
  | onward {fewer more : Nat} {visit below : Visit} {turn : Turn}
      (next : Descends visit turn below) (turned : Overturned limit larger fewer more below) :
      Overturned limit larger (fewer + 1) (more + 1) visit

theorem overturned_iff (limit larger : Nat) {fewer more : Nat} (visit : Visit)
    (further : fewer ≤ more) (passed : visit.passes limit fewer = true) :
    Overturned limit larger fewer more visit ↔ visit.passes larger more = false := by
  induction fewer generalizing more visit with
  | zero => cases passed
  | succ fewer ih =>
    cases more with
    | zero => cases further
    | succ more =>
      have further := Nat.le_of_succ_le_succ further
      obtain ⟨sound, children⟩ := (visit.passes_succ_iff limit fewer).mp passed
      have branches (branch : Schema) (judged : visit.judge limit fewer branch = true) :
          Overturned limit larger fewer more { visit with schema := branch } ↔
            visit.judge larger more branch = false := ih _ further judged
      rw [fails_succ_iff]
      constructor
      · intro overturned
        cases overturned with
        | one counted recounted =>
          have given : visit.schema.oneOf.getD [] ≠ [] := by
            intro empty
            simp [empty] at counted
          exact .inl ⟨_, _, _, .oneOf given recounted⟩
        | any given turned failed =>
          refine .inl ⟨_, _, _, .anyOf given fun branch member => ?_⟩
          cases judged : visit.judge limit fewer branch with
          | true => exact (branches branch judged).mp (turned branch member judged)
          | false => exact failed branch member judged
        | onward next turned =>
          exact .inr ⟨_, _, next, (ih _ further (children _ _ next)).mp turned⟩
      · rintro (⟨keyword, entry, finding, broken⟩ | ⟨turn, below, next, failed⟩)
        · rcases broken.any_or_one_or_fixed with ⟨given, failed⟩ | ⟨given, recounted⟩ | fixed
          · exact .any given
              (fun branch member judged => (branches branch judged).mpr (failed branch member))
              fun branch member _ => failed branch member
          · refine .one ?_ recounted
            by_contra counted
            exact sound _ _ _ (.oneOf given counted)
          · exact absurd (fixed _) (sound keyword entry finding)
        · exact .onward next ((ih below further (children turn below next)).mpr failed)

/-- Without two branches under one `oneOf` more levels overturn nothing. -/
private theorem passes_of_passes (limit larger : Nat) {fewer more : Nat} (visit : Visit)
    (single : ∀ node, visit.schema.Contains node → (node.oneOf.getD []).length ≤ 1)
    (further : fewer ≤ more) (passed : visit.passes limit fewer = true) :
    visit.passes larger more = true := by
  induction fewer generalizing more visit with
  | zero => cases passed
  | succ fewer ih =>
    cases more with
    | zero => cases further
    | succ more =>
      have further := Nat.le_of_succ_le_succ further
      obtain ⟨sound, children⟩ := (visit.passes_succ_iff limit fewer).mp passed
      have branches (branch : Schema) (member : branch ∈ visit.schema.subschemas)
          (judged : visit.judge limit fewer branch = true) :
          visit.judge larger more branch = true :=
        ih { visit with schema := branch }
          (fun node inside => single node (.child member inside)) further judged
      simp only [Schema.mem_subschemas] at branches
      rw [passes_succ_iff]
      refine ⟨fun keyword entry finding broken => ?own, fun turn below next => ?below⟩
      case below =>
        exact ih below (fun node inside => single node (.child next.mem_subschemas inside)) further
          (children turn below next)
      case own =>
        rcases broken.any_or_one_or_fixed with ⟨given, failed⟩ | ⟨given, recounted⟩ | fixed
        · refine sound _ _ _ (.anyOf given fun branch member => ?_)
          by_contra judged
          have kept := branches branch (by simp [member]) (by simpa using judged)
          simp [failed branch member] at kept
        · refine sound _ _ _ (.oneOf given fun counted => recounted ?_)
          have length := List.length_pos_iff.mpr given
          obtain ⟨branch, only⟩ := List.length_eq_one_iff.mp
            (Nat.le_antisymm (single visit.schema .self) length)
          have kept := branches branch (by simp [only])
          rw [only] at counted ⊢
          simp only [List.countP_singleton, ite_eq_left_iff, Nat.zero_ne_one, imp_false,
            not_not] at counted ⊢
          exact kept counted
        · exact sound keyword entry finding (fixed _)

end Visit

/-- Lowering the limit accepts a document that is rejected exactly where it passes and its verdict
is overturned, which takes two branches under one `oneOf`. -/
theorem accepted_stays_accepted_iff (options larger : ValidationOptions) (document : Json)
    (schema : Schema) (further : options.maxDepth ≤ larger.maxDepth) :
    ((isValid options document schema = true → isValid larger document schema = true) ↔
      ¬ (isValid options document schema = true ∧
        Visit.Overturned options.maxDepth larger.maxDepth (options.maxDepth + 1)
          (larger.maxDepth + 1) ⟨[], document, schema⟩)) ∧
    ((∀ node, schema.Contains node → (node.oneOf.getD []).length ≤ 1) →
      isValid options document schema = true → isValid larger document schema = true) := by
  let root : Visit := ⟨[], document, schema⟩
  have levels := Nat.succ_le_succ further
  constructor
  · rw [not_and]
    refine forall_congr' fun accepted => ?_
    have verdict := root.overturned_iff options.maxDepth larger.maxDepth levels accepted
    rw [verdict, Bool.not_eq_false]
    rfl
  · exact fun single accepted => root.passes_of_passes _ _ single levels accepted

/-- A branch that fails for its depth alone lets the other one be the only one that passes. -/
theorem accepted_at_lower_limit_only :
    let schema : Schema :=
      ⟨{}, none, none, none, none, none,
        some [⟨{}, none, none, none, some [.unconstrained], none, none, []⟩, .unconstrained], []⟩
    isValid ⟨1⟩ .null schema = true ∧ isValid ⟨2⟩ .null schema = false := by
  decide

theorem accepted_stays_accepted_iff_one_branch :
    let single : Schema := ⟨{}, none, none, none, none, none, some [.unconstrained], []⟩
    let double : Schema :=
      ⟨{}, none, none, none, none, none,
        some [⟨{}, none, none, none, some [.unconstrained], none, none, []⟩, .unconstrained], []⟩
    isValid ⟨2⟩ .null single = true ∧ Visit.Overturned 1 2 2 3 ⟨[], .null, double⟩ := by
  intro single double
  constructor
  · have branches (node : Schema) (inside : single.Contains node) :
        (node.oneOf.getD []).length ≤ 1 := by
      cases inside with
      | self => decide
      | child member inside =>
        obtain rfl : _ = Schema.unconstrained := by
          simpa [single, Schema.subschemas, Schema.declared, Schema.extraSchema?] using member
        cases inside with
        | self => decide
        | child member _ => cases member
    exact (accepted_stays_accepted_iff ⟨1⟩ ⟨2⟩ .null single (by decide)).2 branches (by decide)
  · obtain ⟨stays, _⟩ := accepted_stays_accepted_iff ⟨1⟩ ⟨2⟩ .null double (by decide)
    by_contra kept
    exact absurd (stays.mpr (fun both => kept both.2) (by decide)) (by decide)

end SchemaCheck
