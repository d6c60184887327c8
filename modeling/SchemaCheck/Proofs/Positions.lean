import Mathlib

/-! The chosen elements of a list, each with the position it was chosen at. -/
namespace SchemaCheck

def positioned {α β : Type} (choose : Nat → α → Option β) (items : List α) : List (Nat × β) :=
  items.zipIdx.filterMap fun (item, position) => (choose position item).map (position, ·)

variable {α β : Type}

theorem mem_positioned {choose : Nat → α → Option β} {items : List α} {position : Nat}
    {chosen : β} :
    (position, chosen) ∈ positioned choose items ↔
      ∃ item, items[position]? = some item ∧ choose position item = some chosen := by
  simp only [positioned, List.mem_filterMap, Prod.exists, List.mk_mem_zipIdx_iff_getElem?,
    Option.map_eq_some_iff, Prod.mk.injEq]
  grind

theorem map_snd_positioned (choose : Nat → α → Option β) (items : List α) :
    (positioned choose items).map Prod.snd =
      items.zipIdx.filterMap fun (item, position) => choose position item := by
  simp [positioned, List.map_filterMap, Function.comp_def]

/-- Without a look at the position, choosing is filtering. -/
theorem map_snd_positioned_const (choose : α → Option β) (items : List α) :
    (positioned (fun _ => choose) items).map Prod.snd = items.filterMap choose := by
  rw [map_snd_positioned]
  conv_rhs => rw [← List.zipIdx_map_fst 0 items, List.filterMap_map]
  rfl

theorem map_snd_positioned_guarded (keep : α → Bool) (choose : α → Option β) (items : List α) :
    (positioned (fun _ item => if keep item then choose item else none) items).map Prod.snd =
      (items.filter keep).filterMap choose := by
  rw [map_snd_positioned_const, List.filterMap_filter]

theorem nodup_positioned (choose : Nat → α → Option β) (items : List α) :
    ((positioned choose items).map Prod.fst).Nodup := by
  rw [List.Nodup, List.pairwise_map, positioned, List.pairwise_filterMap]
  have positions : items.zipIdx.Pairwise fun a b => a.2 ≠ b.2 := by
    rw [← List.pairwise_map, List.zipIdx_map_snd]
    exact List.nodup_range'
  refine positions.imp fun {a b} different first chosen second other same => different ?_
  obtain ⟨_, _, rfl⟩ := Option.map_eq_some_iff.mp chosen
  obtain ⟨_, _, rfl⟩ := Option.map_eq_some_iff.mp other
  exact same

end SchemaCheck
