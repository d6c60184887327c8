import Mathlib
import SchemaCheck.Proofs.Validation.Keywords

/-! The findings of an evaluation, each with the route to its node and the keyword it comes from. -/
namespace SchemaCheck

/-- A route, and the entry of the keyword that is broken there; no entry beyond the limit. -/
abbrev Source := List Turn × Option (Keyword × Nat)

namespace Visit

/-- The branch passes with so many levels left. -/
def judge (limit budget : Nat) (visit : Visit) (branch : Schema) : Bool :=
  (evaluate limit budget visit.value branch visit.path).passes

/-- Evaluation with every finding at its source, up to order. -/
def trace (limit : Nat) : Nat → Visit → List (Source × Finding)
  | 0, visit => [(([], none), ⟨visit.path, .tooDeep⟩)]
  | budget + 1, visit =>
    (evaluationOrder.flatMap fun keyword =>
        (visit.faults (visit.judge limit budget) keyword).map fun (entry, finding) =>
          (([], some (keyword, entry)), finding)) ++
      visit.turns.flatMap fun (turn, below) =>
        (trace limit budget below).map fun ((route, broken), finding) =>
          ((turn :: route, broken), finding)

theorem map_snd_trace_perm (limit budget : Nat) (visit : Visit) :
    ((visit.trace limit budget).map Prod.snd).Perm
      (evaluate limit budget visit.value visit.schema visit.path).findings := by
  induction budget generalizing visit with
  | zero => exact .refl _
  | succ budget ih =>
    refine List.Perm.trans ?_ (visit.findings_nodeOutcome_perm (evaluate limit budget)).symm
    simp only [trace, List.map_append, List.map_flatMap, List.map_map]
    refine .append (.of_eq ?_) (List.Perm.flatMap_left _ fun turn _ => ih turn.2)
    rfl

/-- What a node adds itself with so many levels left. -/
inductive Adds (limit : Nat) (visit : Visit) : Nat → Option (Keyword × Nat) → Finding → Prop where
  | tooDeep : Adds limit visit 0 none ⟨visit.path, .tooDeep⟩
  | breaks {budget entry : Nat} {keyword : Keyword} {finding : Finding}
      (broken : Breaks (visit.judge limit budget) visit keyword entry finding) :
      Adds limit visit (budget + 1) (some (keyword, entry)) finding

theorem mem_trace {limit budget : Nat} {start : Visit} {source : Source} {finding : Finding} :
    (source, finding) ∈ start.trace limit budget ↔
      ∃ visit remaining, Leads start source.1 visit ∧ budget = remaining + source.1.length ∧
        visit.Adds limit remaining source.2 finding := by
  obtain ⟨route, broken⟩ := source
  induction budget generalizing start route with
  | zero =>
    simp only [trace, List.mem_singleton, Prod.mk.injEq]
    constructor
    · rintro ⟨⟨rfl, rfl⟩, rfl⟩
      exact ⟨start, 0, rfl, rfl, .tooDeep⟩
    · rintro ⟨visit, remaining, leads, spent, adds⟩
      obtain ⟨rfl, empty⟩ := Nat.add_eq_zero_iff.mp spent.symm
      obtain rfl := List.length_eq_zero_iff.mp empty
      obtain rfl : start = visit := leads
      cases adds
      exact ⟨⟨rfl, rfl⟩, rfl⟩
  | succ budget ih =>
    simp only [trace, List.mem_append, List.mem_flatMap, List.mem_map, Prod.exists, Prod.mk.injEq]
    constructor
    · rintro (⟨keyword, _, entry, _, faulty, ⟨rfl, rfl⟩, rfl⟩ |
        ⟨turn, below, turned, rest, _, _, inside, ⟨rfl, rfl⟩, rfl⟩)
      · exact ⟨start, budget + 1, rfl, rfl, .breaks ((start.mem_faults _).mp faulty)⟩
      · obtain ⟨visit, remaining, leads, rfl, adds⟩ := (ih rest).mp inside
        exact ⟨visit, remaining, ⟨below, mem_turns.mp turned, leads⟩, rfl, adds⟩
    · rintro ⟨visit, remaining, leads, spent, adds⟩
      cases route with
      | nil =>
        obtain rfl : start = visit := leads
        obtain rfl : budget + 1 = remaining := spent
        cases adds with
        | breaks broken =>
          exact .inl ⟨_, broken.mem_evaluationOrder, _, _, (start.mem_faults _).mpr broken,
            ⟨rfl, rfl⟩, rfl⟩
      | cons turn rest =>
        obtain ⟨below, next, leads⟩ := leads
        have inside :=
          (ih rest).mpr ⟨visit, remaining, leads, Nat.succ.inj spent, adds⟩
        exact .inr ⟨turn, below, mem_turns.mpr next, rest, _, _, inside, ⟨rfl, rfl⟩, rfl⟩

private theorem nodup_flatMap_labelled {α κ β γ : Type} (items : List α) (key : α → κ)
    (body : α → List β) (label : κ → β → γ) (keys : (items.map key).Nodup)
    (bodies : ∀ item ∈ items, (body item).Nodup) (distinct : Function.Injective2 label) :
    (items.flatMap fun item => (body item).map (label (key item))).Nodup := by
  rw [List.nodup_flatMap]
  refine ⟨fun item member => (bodies item member).map (distinct.right _), ?_⟩
  refine (List.pairwise_map.mp keys).imp fun {a b} different => ?_
  simp only [Function.onFun, List.disjoint_left, List.mem_map, not_exists, not_and]
  rintro _ ⟨_, _, rfl⟩ _ _ same
  exact different (distinct same).1.symm

/-- Every source adds one finding. -/
theorem nodup_trace (limit budget : Nat) (start : Visit) :
    ((start.trace limit budget).map Prod.fst).Nodup := by
  induction budget generalizing start with
  | zero => exact List.nodup_singleton _
  | succ budget ih =>
    have own := nodup_flatMap_labelled evaluationOrder id
      (fun keyword => (start.faults (start.judge limit budget) keyword).map Prod.fst)
      (fun keyword entry => (([], some (keyword, entry)) : Source))
      (by decide) (fun keyword _ => start.nodup_faults _ keyword)
      (fun _ _ _ _ same => by simpa using same)
    have below := nodup_flatMap_labelled start.turns Prod.fst
      (fun turn => (turn.2.trace limit budget).map Prod.fst)
      (fun turn source => ((turn :: source.1, source.2) : Source))
      start.nodup_turns (fun turn _ => ih turn.2)
      (fun _ _ _ _ same => by simpa [Prod.ext_iff, and_assoc] using same)
    simp only [trace, List.map_append, List.map_flatMap, List.map_map] at own below ⊢
    refine List.nodup_append'.mpr ⟨own, below, ?_⟩
    simp only [List.disjoint_left, List.mem_flatMap, List.mem_map, not_exists, not_and]
    rintro _ ⟨_, _, _, _, rfl⟩ _ _ _ _ same
    cases same

end Visit
end SchemaCheck
