import Mathlib

/-! Lists whose elements are related one to one, in any order. -/
namespace SchemaCheck

theorem map_eq_of_forall₂ {α β γ : Type} {related : α → β → Prop} {items : List α}
    {others : List β} (each : List.Forall₂ related items others) {first : α → γ} {second : β → γ}
    (same : ∀ item other, related item other → first item = second other) :
    items.map first = others.map second := by
  rw [← List.forall₂_eq_eq_eq]
  exact List.rel_map same each

theorem forall₂_of_mem {α β : Type} {related wider : α → β → Prop} {items : List α}
    {others : List β} (each : List.Forall₂ related items others)
    (widen : ∀ item ∈ items, ∀ other, related item other → wider item other) :
    List.Forall₂ wider items others :=
  ((List.forall₂_and_left _ _).mpr ⟨widen, each⟩).imp fun _ other both => both.1 other both.2

theorem exists_of_mem_forall₂ {α β : Type} {related : α → β → Prop} {items : List α}
    {others : List β} (each : List.Forall₂ related items others) {item : α}
    (listed : item ∈ items) : ∃ other ∈ others, related item other := by
  induction each with
  | nil => cases listed
  | @cons _ other _ _ first _ ih =>
    rcases List.mem_cons.mp listed with rfl | later
    · exact ⟨other, List.mem_cons_self .., first⟩
    · obtain ⟨partner, found, pair⟩ := ih later
      exact ⟨partner, List.mem_cons_of_mem _ found, pair⟩

/-- Related one to one, in any order. -/
def Matched {α β : Type} (related : α → β → Prop) (items : List α) (others : List β) : Prop :=
  ∃ moved, List.Forall₂ related items moved ∧ moved.Perm others

namespace Matched

theorem of_forall₂ {α β : Type} {related : α → β → Prop} {items : List α} {others : List β}
    (each : List.Forall₂ related items others) : Matched related items others :=
  ⟨others, each, .refl others⟩

variable {α β : Type} {related : α → β → Prop} {items : List α} {others : List β}
  (matched : Matched related items others)

include matched

theorem map_perm {γ : Type} {first : α → γ} {second : β → γ}
    (same : ∀ item other, related item other → first item = second other) :
    (items.map first).Perm (others.map second) := by
  obtain ⟨moved, each, order⟩ := matched
  rw [map_eq_of_forall₂ each same]
  exact order.map second

theorem imp {wider : α → β → Prop} (widen : ∀ item other, related item other → wider item other) :
    Matched wider items others := by
  obtain ⟨moved, each, order⟩ := matched
  exact ⟨moved, each.imp widen, order⟩

theorem perm {first : List α} {second : List β} (before : first.Perm items)
    (after : others.Perm second) : Matched related first second := by
  obtain ⟨moved, each, order⟩ := matched
  obtain ⟨shifted, every, rearranged⟩ := List.perm_comp_forall₂ before each
  exact ⟨shifted, every, (rearranged.trans order).trans after⟩

theorem with_mem : Matched (fun item other => item ∈ items ∧ related item other) items others := by
  obtain ⟨moved, each, order⟩ := matched
  exact ⟨moved, forall₂_of_mem each fun _ listed _ pair => ⟨listed, pair⟩, order⟩

theorem eq_nil_iff : items = [] ↔ others = [] := by
  obtain ⟨moved, each, order⟩ := matched
  rw [← List.length_eq_zero_iff, ← List.length_eq_zero_iff, each.length_eq, order.length_eq]

theorem append {rest : List α} {more : List β} (later : Matched related rest more) :
    Matched related (items ++ rest) (others ++ more) := by
  obtain ⟨moved, each, order⟩ := matched
  obtain ⟨shifted, every, rearranged⟩ := later
  exact ⟨moved ++ shifted, List.rel_append each every, order.append rearranged⟩

variable {γ δ : Type} {holds : γ → δ → Prop}

theorem filterMap {choose : α → Option γ} {pick : β → Option δ}
    (same : ∀ item other, related item other → Option.Rel holds (choose item) (pick other)) :
    Matched holds (items.filterMap choose) (others.filterMap pick) := by
  obtain ⟨moved, each, order⟩ := matched
  exact ⟨moved.filterMap pick, List.rel_filterMap same each, order.filterMap pick⟩

theorem map {change : α → γ} {turn : β → δ}
    (same : ∀ item other, related item other → holds (change item) (turn other)) :
    Matched holds (items.map change) (others.map turn) := by
  obtain ⟨moved, each, order⟩ := matched
  exact ⟨moved.map turn, List.rel_map same each, order.map turn⟩

theorem flatMap {found : α → List γ} {met : β → List δ}
    (same : ∀ item other, related item other → Matched holds (found item) (met other)) :
    Matched holds (items.flatMap found) (others.flatMap met) := by
  obtain ⟨moved, each, order⟩ := matched
  have inPlace : Matched holds (items.flatMap found) (moved.flatMap met) := by
    clear order
    induction each with
    | nil => exact .of_forall₂ .nil
    | cons one _ ih => exact (same _ _ one).append ih
  exact inPlace.perm (.refl _) (order.flatMap_right met)

end Matched

theorem matched_self {α : Type} {related : α → α → Prop} {items : List α}
    (each : ∀ item ∈ items, related item item) : Matched related items items :=
  .of_forall₂ (List.forall₂_same.mpr each)

section Optional

variable {α β γ δ : Type} {related : α → β → Prop} {found : Option α} {met : Option β}

theorem eq_of_rel {found met : Option α} (alike : Option.Rel Eq found met) : found = met := by
  cases alike with
  | none => rfl
  | some same => rw [same]

variable (alike : Option.Rel related found met)

include alike

theorem isSome_eq_of_rel : found.isSome = met.isSome := by
  cases alike <;> rfl

theorem rel_imp {wider : α → β → Prop}
    (widen : ∀ item other, related item other → wider item other) : Option.Rel wider found met := by
  cases alike with
  | none => exact .none
  | some one => exact .some (widen _ _ one)

theorem rel_with_eq :
    Option.Rel (fun item other => found = some item ∧ related item other) found met := by
  cases alike with
  | none => exact .none
  | some one => exact .some ⟨rfl, one⟩

variable {holds : γ → δ → Prop}

theorem rel_bind {choose : α → Option γ} {pick : β → Option δ}
    (same : ∀ item other, related item other → Option.Rel holds (choose item) (pick other)) :
    Option.Rel holds (found.bind choose) (met.bind pick) := by
  cases alike with
  | none => exact .none
  | some one => exact same _ _ one

theorem rel_map {change : α → γ} {turn : β → δ}
    (same : ∀ item other, related item other → holds (change item) (turn other)) :
    Option.Rel holds (found.map change) (met.map turn) := by
  cases alike with
  | none => exact .none
  | some one => exact .some (same _ _ one)

end Optional

theorem forall₂_getD {α β : Type} {related : α → β → Prop} {items : Option (List α)}
    {others : Option (List β)} (each : Option.Rel (List.Forall₂ related) items others) :
    List.Forall₂ related (items.getD []) (others.getD []) := by
  cases each with
  | none => exact .nil
  | some each => exact each

theorem matched_getD {α β : Type} {related : α → β → Prop} {items : Option (List α)}
    {moved others : Option (List β)} (each : Option.Rel (List.Forall₂ related) items moved)
    (order : Option.Rel List.Perm moved others) :
    Matched related (items.getD []) (others.getD []) := by
  refine ⟨moved.getD [], forall₂_getD each, ?_⟩
  cases order with
  | none => exact .nil
  | some order => exact order

end SchemaCheck
