import Mathlib
import SchemaCheck.Json.Value
import SchemaCheck.Proofs.Matching

/-! Members of objects: what is found under a name, and lists that are related member by member. -/
namespace SchemaCheck

theorem lookup_eq_none_iff_not_mem {α : Type} {entries : List (String × α)} {key : String} :
    entries.lookup key = none ↔ key ∉ entries.map Prod.fst := by
  simp only [List.lookup_eq_none_iff, List.mem_map]
  grind

namespace Json

/-- Without repeated names every entry is found. -/
theorem lookup_eq_some {α : Type} {entries : List (String × α)} {name : String} {value : α}
    (names : (entries.map Prod.fst).Nodup) (listed : (name, value) ∈ entries) :
    entries.lookup name = some value := by
  obtain ⟨before, after, rfl⟩ := List.append_of_mem listed
  refine List.lookup_eq_some_iff.mpr ⟨before, after, rfl, fun entry earlier => ?_⟩
  rw [List.map_append, List.nodup_append] at names
  have different := names.2.2 entry.1 (List.mem_map_of_mem earlier) name (by simp)
  simpa using Ne.symm different

/-- Without repeated names a name has one value. -/
theorem value_eq_of_mem {α : Type} {entries : List (String × α)} {name : String} {value other : α}
    (names : (entries.map Prod.fst).Nodup) (listed : (name, value) ∈ entries)
    (given : (name, other) ∈ entries) : value = other :=
  Option.some.inj ((lookup_eq_some names listed).symm.trans (lookup_eq_some names given))

theorem mem_of_lookup {α : Type} {entries : List (String × α)} {name : String} {value : α}
    (found : entries.lookup name = some value) : (name, value) ∈ entries := by
  obtain ⟨before, after, rfl, _⟩ := List.lookup_eq_some_iff.mp found
  simp

theorem lookup_map {α β : Type} (change : α → β) (entries : List (String × α)) (name : String) :
    (entries.map fun (key, value) => (key, change value)).lookup name =
      (entries.lookup name).map change := by
  induction entries with
  | nil => rfl
  | cons entry rest ih =>
    obtain ⟨key, value⟩ := entry
    rw [List.map_cons, List.lookup_cons, List.lookup_cons, ih]
    split <;> rfl

/-- A choice made for each entry is found under its name. -/
theorem lookup_filterMap {α β : Type} (choose : String → α → Option β) {entries : List (String × α)}
    (names : (entries.map Prod.fst).Nodup) (name : String) :
    (entries.filterMap fun (key, value) => (choose key value).map (key, ·)).lookup name =
      (entries.lookup name).bind (choose name) := by
  induction entries with
  | nil => rfl
  | cons entry rest ih =>
    obtain ⟨key, value⟩ := entry
    obtain ⟨fresh, others⟩ := List.nodup_cons.mp names
    by_cases same : name = key
    · subst same
      have later := ih others
      rw [lookup_eq_none_iff_not_mem.mpr fresh] at later
      cases chosen : choose name value with
      | none => simpa [chosen] using later
      | some clean => simp [chosen]
    · have different : (name == key) = false := by simpa using same
      cases chosen : choose key value <;> simp [chosen, List.lookup_cons, different, ih others]

/-- The order of entries does not matter to looking up. -/
theorem lookup_perm {α : Type} {entries others : List (String × α)}
    (names : (entries.map Prod.fst).Nodup) (order : entries.Perm others) (name : String) :
    entries.lookup name = others.lookup name := by
  cases found : others.lookup name with
  | none =>
    rw [lookup_eq_none_iff_not_mem] at found ⊢
    exact fun listed => found ((order.map Prod.fst).mem_iff.mp listed)
  | some value => exact lookup_eq_some names (order.mem_iff.mpr (mem_of_lookup found))

end Json

/-- The same name, and related values. -/
inductive Named {α β : Type} (related : α → β → Prop) : String × α → String × β → Prop where
  | intro {name : String} {value : α} {other : β} (alike : related value other) :
      Named related (name, value) (name, other)

theorem named_self {α : Type} (entries : List (String × α)) :
    List.Forall₂ (Named Eq) entries entries :=
  List.forall₂_same.mpr fun (_, _) _ => .intro rfl

namespace Named

variable {α β : Type} {related : α → β → Prop} {entries : List (String × α)}
  {others : List (String × β)}

theorem map_fst (each : List.Forall₂ (Named related) entries others) :
    entries.map Prod.fst = others.map Prod.fst := by
  induction each with
  | nil => rfl
  | cons first _ ih =>
    cases first with
    | intro alike => rw [List.map_cons, List.map_cons, ih]

theorem lookup (each : List.Forall₂ (Named related) entries others) (name : String) :
    Option.Rel related (entries.lookup name) (others.lookup name) := by
  induction each with
  | nil => exact .none
  | cons first _ ih =>
    cases first with
    | intro alike =>
      rw [List.lookup_cons, List.lookup_cons]
      split
      · exact .some alike
      · exact ih

/-- Entries chosen by their names. -/
theorem filter (each : List.Forall₂ (Named related) entries others) (chosen : String → Bool) :
    List.Forall₂ (Named related) (entries.filter fun entry => chosen entry.1)
      (others.filter fun entry => chosen entry.1) := by
  refine List.rel_filter (fun entry other same => ?_) each
  cases same
  rfl

/-- With the names sorted and none repeated, matched entries stand in the same places. -/
theorem forall₂_of_sorted (matched : Matched (Named related) entries others)
    (sorted : entries.Pairwise fun a b => a.1 ≤ b.1) (names : (entries.map Prod.fst).Nodup)
    (ordered : others.Pairwise fun a b => a.1 ≤ b.1) :
    List.Forall₂ (Named related) entries others := by
  obtain ⟨moved, each, order⟩ := matched
  have kept := map_fst each
  rw [kept] at names
  have placed : moved.Pairwise fun a b => a.1 ≤ b.1 := by
    rw [← List.pairwise_map (f := Prod.fst) (R := (· ≤ ·))] at sorted ⊢
    exact kept ▸ sorted
  have same : moved = others := by
    refine order.eq_of_pairwise (fun a b first second before after => ?_) placed ordered
    exact List.inj_on_of_nodup_map names first (order.mem_iff.mpr second) (le_antisymm before after)
  exact same ▸ each

end Named
end SchemaCheck
