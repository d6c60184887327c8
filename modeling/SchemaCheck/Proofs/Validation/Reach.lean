import Mathlib
import SchemaCheck.Proofs.Positions
import SchemaCheck.Proofs.Validation.Children
import SchemaCheck.Proofs.Validation.Node

/-! The nodes that an evaluation comes to, and the turns that lead there. -/
namespace SchemaCheck

/-- A value at its place, to be held against a schema. -/
structure Visit where
  path : Path
  value : Json
  schema : Schema

/-- One descent, by the position of what it goes into: a branch of `allOf`, an entry of
`properties`, a member that is not declared, an item. -/
inductive Turn where
  | branch (position : Nat)
  | property (position : Nat)
  | extra (position : Nat)
  | item (position : Nat)

inductive Descends : Visit → Turn → Visit → Prop where
  | branch {path : Path} {value : Json} {schema branch : Schema} {position : Nat}
      (listed : (schema.allOf.getD [])[position]? = some branch) :
      Descends ⟨path, value, schema⟩ (.branch position) ⟨path, value, branch⟩
  | property {path : Path} {members : List (String × Json)} {schema child : Schema}
      {position : Nat} {key : String} {item : Json}
      (typed : schema.assertions.TypeHolds (.object members))
      (declared : schema.declared[position]? = some (key, child))
      (present : members.lookup key = some item) :
      Descends ⟨path, .object members, schema⟩ (.property position)
        ⟨path.child (.key key), item, child⟩
  | extra {path : Path} {members : List (String × Json)} {schema child : Schema}
      {position : Nat} {key : String} {item : Json}
      (typed : schema.assertions.TypeHolds (.object members))
      (applies : schema.additional = some (.schema child))
      (listed : members[position]? = some (key, item))
      (undeclared : key ∉ schema.declared.map Prod.fst) :
      Descends ⟨path, .object members, schema⟩ (.extra position)
        ⟨path.child (.key key), item, child⟩
  | item {path : Path} {items : List Json} {schema child : Schema} {position : Nat} {item : Json}
      (typed : schema.assertions.TypeHolds (.array items))
      (applies : schema.items = some child)
      (listed : items[position]? = some item) :
      Descends ⟨path, .array items, schema⟩ (.item position)
        ⟨path.child (.index position), item, child⟩

/-- Nodes beyond the limit are still reached, but nothing below them is. -/
inductive Reaches (limit : Nat) (origin : Visit) : List Turn → Visit → Nat → Prop where
  | origin : Reaches limit origin [] origin 0
  | descend {route : List Turn} {visit below : Visit} {level : Nat} {turn : Turn}
      (earlier : Reaches limit origin route visit level) (within : level ≤ limit)
      (next : Descends visit turn below) :
      Reaches limit origin (route ++ [turn]) below (level + 1)

/-- The route leads from one visit to the other. -/
def Leads : Visit → List Turn → Visit → Prop
  | start, [], visit => start = visit
  | start, turn :: route, visit => ∃ below, Descends start turn below ∧ Leads below route visit

theorem leads_concat {start visit : Visit} {route : List Turn} {turn : Turn} :
    Leads start (route ++ [turn]) visit ↔
      ∃ last, Leads start route last ∧ Descends last turn visit := by
  induction route generalizing start with
  | nil => simp [Leads]
  | cons first rest ih =>
    simp only [List.cons_append, Leads, ih]
    grind

theorem reaches_iff_leads {limit : Nat} {origin visit : Visit} {route : List Turn} {level : Nat} :
    Reaches limit origin route visit level ↔
      Leads origin route visit ∧ level = route.length ∧ level ≤ limit + 1 := by
  constructor
  · intro reached
    induction reached with
    | origin => simp [Leads]
    | descend earlier within next ih =>
      obtain ⟨leads, rfl, _⟩ := ih
      exact ⟨leads_concat.mpr ⟨_, leads, next⟩, by simp, by omega⟩
  · rintro ⟨leads, rfl, bounded⟩
    induction route using List.reverseRecOn generalizing visit with
    | nil =>
      obtain rfl : origin = visit := leads
      exact .origin
    | append_singleton route turn ih =>
      obtain ⟨last, earlier, next⟩ := leads_concat.mp leads
      simp only [List.length_append, List.length_singleton] at bounded ⊢
      exact .descend (ih earlier (by omega)) (by omega) next

theorem Descends.mem_subschemas {visit below : Visit} {turn : Turn}
    (next : Descends visit turn below) : below.schema ∈ visit.schema.subschemas := by
  rw [Schema.mem_subschemas]
  cases next with
  | branch listed => simp [List.mem_of_getElem? listed]
  | property _ declared _ => exact .inl ⟨_, List.mem_of_getElem? declared⟩
  | extra _ applies _ _ => exact .inr (.inl applies)
  | item _ applies _ => exact .inr (.inr (.inl applies))

/-- Every turn goes down at least one level of the schema. -/
theorem Leads.height {start visit : Visit} {route : List Turn} (leads : Leads start route visit) :
    visit.schema.height + route.length ≤ start.schema.height := by
  induction route generalizing start with
  | nil =>
    obtain rfl : start = visit := leads
    simp
  | cons turn rest ih =>
    obtain ⟨below, next, onward⟩ := leads
    have lower := Schema.height_lt_of_mem next.mem_subschemas
    have deeper := ih onward
    simp only [List.length_cons]
    omega

namespace Visit

def branchTurns (visit : Visit) : List (Turn × Visit) :=
  (positioned (fun _ branch => some { visit with schema := branch })
    (visit.schema.allOf.getD [])).map (Prod.map .branch id)

def propertyTurns (visit : Visit) (members : List (String × Json)) : List (Turn × Visit) :=
  (positioned (fun _ (key, child) =>
      (members.lookup key).map fun item => ⟨visit.path.child (.key key), item, child⟩)
    visit.schema.declared).map (Prod.map .property id)

def extraTurns (visit : Visit) (members : List (String × Json)) : List (Turn × Visit) :=
  (positioned (fun _ (key, item) =>
      if !visit.schema.declares key then
        visit.schema.extraSchema?.map fun child => ⟨visit.path.child (.key key), item, child⟩
      else none)
    members).map (Prod.map .extra id)

def itemTurns (visit : Visit) (items : List Json) : List (Turn × Visit) :=
  (positioned (fun position item =>
      visit.schema.items.map fun child => ⟨visit.path.child (.index position), item, child⟩)
    items).map (Prod.map .item id)

def childTurns (visit : Visit) : List (Turn × Visit) :=
  match visit.value with
  | .object members => visit.propertyTurns members ++ visit.extraTurns members
  | .array items => visit.itemTurns items
  | _ => []

/-- Branches first, then children unless the type is wrong. -/
def turns (visit : Visit) : List (Turn × Visit) :=
  visit.branchTurns ++
    match visit.schema.assertions.mismatch? visit.value with
    | some _ => []
    | none => visit.childTurns

private theorem mem_labelled {label : Nat → Turn} {places : List (Nat × Visit)} {turn : Turn}
    {below : Visit} :
    (turn, below) ∈ places.map (Prod.map label id) ↔
      ∃ position, (position, below) ∈ places ∧ turn = label position := by
  simp only [List.mem_map, Prod.exists, Prod.map_apply, id_eq, Prod.mk.injEq]
  grind

private theorem mem_branchTurns_or_childTurns {visit below : Visit} {turn : Turn}
    (next : Descends visit turn below) :
    (turn, below) ∈ visit.branchTurns ∨
      visit.schema.assertions.TypeHolds visit.value ∧ (turn, below) ∈ visit.childTurns := by
  cases next with
  | branch listed => exact .inl (mem_labelled.mpr ⟨_, mem_positioned.mpr ⟨_, listed, rfl⟩, rfl⟩)
  | property typed declared present =>
    refine .inr ⟨typed, List.mem_append_left _ (mem_labelled.mpr ⟨_, ?_, rfl⟩)⟩
    exact mem_positioned.mpr ⟨_, declared, by simp [present]⟩
  | extra typed applies listed undeclared =>
    refine .inr ⟨typed, List.mem_append_right _ (mem_labelled.mpr ⟨_, ?_, rfl⟩)⟩
    refine mem_positioned.mpr ⟨_, listed, ?_⟩
    simp [(Schema.declares_eq_false_iff _ _).mpr undeclared,
      (Schema.extraSchema?_eq_some_iff _).mpr applies]
  | item typed applies listed =>
    exact .inr ⟨typed, mem_labelled.mpr ⟨_, mem_positioned.mpr ⟨_, listed, by simp [applies]⟩, rfl⟩⟩

private theorem descends_of_mem_childTurns {visit below : Visit} {turn : Turn}
    (typed : visit.schema.assertions.TypeHolds visit.value)
    (member : (turn, below) ∈ visit.childTurns) : Descends visit turn below := by
  obtain ⟨path, value, schema⟩ := visit
  cases value with
  | object members =>
    rcases List.mem_append.mp member with property | extra
    · obtain ⟨position, placed, rfl⟩ := mem_labelled.mp property
      obtain ⟨⟨key, child⟩, declared, chosen⟩ := mem_positioned.mp placed
      obtain ⟨item, present, rfl⟩ := Option.map_eq_some_iff.mp chosen
      exact .property typed declared present
    · obtain ⟨position, placed, rfl⟩ := mem_labelled.mp extra
      obtain ⟨⟨key, item⟩, listed, chosen⟩ := mem_positioned.mp placed
      simp only [Option.ite_none_right_eq_some, Bool.not_eq_true', Schema.declares_eq_false_iff,
        Option.map_eq_some_iff] at chosen
      obtain ⟨undeclared, child, applies, rfl⟩ := chosen
      exact .extra typed ((Schema.extraSchema?_eq_some_iff schema).mp applies) listed undeclared
  | array items =>
    obtain ⟨position, placed, rfl⟩ := mem_labelled.mp member
    obtain ⟨item, listed, chosen⟩ := mem_positioned.mp placed
    obtain ⟨child, applies, rfl⟩ := Option.map_eq_some_iff.mp chosen
    exact .item typed applies listed
  | _ => cases member

/-- The list holds exactly the possible descents. -/
theorem mem_turns {visit below : Visit} {turn : Turn} :
    (turn, below) ∈ visit.turns ↔ Descends visit turn below := by
  rw [turns, List.mem_append]
  constructor
  · rintro (branch | child)
    · obtain ⟨position, placed, rfl⟩ := mem_labelled.mp branch
      obtain ⟨branch, listed, chosen⟩ := mem_positioned.mp placed
      obtain rfl := Option.some.inj chosen
      exact .branch listed
    · split at child
      next => cases child
      next typed =>
        exact descends_of_mem_childTurns ((Assertions.mismatch_eq_none_iff ..).mp typed) child
  · intro next
    rcases mem_branchTurns_or_childTurns next with branch | ⟨typed, child⟩
    · exact .inl branch
    · right
      simpa only [(Assertions.mismatch_eq_none_iff ..).mpr typed] using child

private theorem nodup_labelled {label : Nat → Turn} (distinct : Function.Injective label)
    {places : List (Nat × Visit)} (positions : (places.map Prod.fst).Nodup) :
    ((places.map (Prod.map label id)).map Prod.fst).Nodup := by
  have labels :
      (places.map (Prod.map label id)).map Prod.fst = (places.map Prod.fst).map label := by
    simp
  rw [labels]
  exact positions.map distinct

private theorem label_of_mem {label : Nat → Turn} {places : List (Nat × Visit)} {turn : Turn}
    (member : turn ∈ (places.map (Prod.map label id)).map Prod.fst) :
    ∃ position, turn = label position := by
  obtain ⟨⟨_, below⟩, labelled, rfl⟩ := List.mem_map.mp member
  obtain ⟨position, _, same⟩ := mem_labelled.mp labelled
  exact ⟨position, same⟩

private theorem branch_not_mem_childTurns (visit : Visit) (position : Nat) :
    Turn.branch position ∉ visit.childTurns.map Prod.fst := by
  intro member
  unfold childTurns at member
  split at member
  · rw [List.map_append] at member
    rcases List.mem_append.mp member with property | extra
    · obtain ⟨_, different⟩ := label_of_mem property
      cases different
    · obtain ⟨_, different⟩ := label_of_mem extra
      cases different
  · obtain ⟨_, different⟩ := label_of_mem member
    cases different
  · cases member

private theorem nodup_childTurns (visit : Visit) : (visit.childTurns.map Prod.fst).Nodup := by
  unfold childTurns
  split
  · rw [List.map_append, List.nodup_append']
    refine ⟨nodup_labelled (fun _ _ => Turn.property.inj) (nodup_positioned ..),
      nodup_labelled (fun _ _ => Turn.extra.inj) (nodup_positioned ..), ?_⟩
    intro turn property extra
    obtain ⟨_, rfl⟩ := label_of_mem property
    obtain ⟨_, different⟩ := label_of_mem extra
    cases different
  · exact nodup_labelled (fun _ _ => Turn.item.inj) (nodup_positioned ..)
  · exact List.nodup_nil

/-- A turn leads to one visit only. -/
theorem nodup_turns (visit : Visit) : (visit.turns.map Prod.fst).Nodup := by
  rw [turns, List.map_append, List.nodup_append']
  refine ⟨nodup_labelled (fun _ _ => Turn.branch.inj) (nodup_positioned ..), ?_, ?_⟩
  · split
    · exact List.nodup_nil
    · exact visit.nodup_childTurns
  · intro turn branch child
    obtain ⟨position, rfl⟩ := label_of_mem branch
    split at child
    · cases child
    · exact visit.branch_not_mem_childTurns position child

theorem unique_of_descends {visit below other : Visit} {turn : Turn}
    (next : Descends visit turn below) (alike : Descends visit turn other) : below = other :=
  congrArg Prod.snd
    (List.inj_on_of_nodup_map visit.nodup_turns (mem_turns.mpr next) (mem_turns.mpr alike) rfl)

private theorem map_snd_labelled (label : Nat → Turn) (places : List (Nat × Visit)) :
    (places.map (Prod.map label id)).map Prod.snd = places.map Prod.snd := by
  simp

theorem map_snd_branchTurns (visit : Visit) :
    visit.branchTurns.map Prod.snd =
      (visit.schema.allOf.getD []).map fun branch => { visit with schema := branch } := by
  rw [branchTurns, map_snd_labelled, map_snd_positioned_const]
  exact congrFun List.filterMap_eq_map _

private theorem map_snd_propertyTurns (visit : Visit) (members : List (String × Json)) :
    (visit.propertyTurns members).map Prod.snd =
      (visit.schema.declaredChildren members).map fun (step, item, child) =>
        ⟨visit.path.child step, item, child⟩ := by
  rw [propertyTurns, map_snd_labelled, map_snd_positioned_const, Schema.declaredChildren,
    List.map_filterMap]
  simp [Function.comp_def]

private theorem map_snd_extraTurns (visit : Visit) (members : List (String × Json)) :
    (visit.extraTurns members).map Prod.snd =
      (visit.schema.extraChildren members).map fun (step, item, child) =>
        ⟨visit.path.child step, item, child⟩ := by
  have undeclared := map_snd_positioned_guarded
    (fun member : String × Json => !visit.schema.declares member.1)
    (fun member => visit.schema.extraSchema?.map fun child =>
      (⟨visit.path.child (.key member.1), member.2, child⟩ : Visit)) members
  rw [extraTurns, map_snd_labelled, undeclared]
  rcases given : visit.schema.additional with _ | _ | child
  · simp [Schema.extraChildren, Schema.extraSchema?, given]
  · simp [Schema.extraChildren, Schema.extraSchema?, given, Additional.schema?]
  · simp [Schema.extraChildren, Schema.extraSchema?, given, Additional.schema?, Schema.extras,
      Function.comp_def]

private theorem map_snd_itemTurns (visit : Visit) (items : List Json) :
    (visit.itemTurns items).map Prod.snd =
      (visit.schema.itemChildren items).map fun (step, item, child) =>
        ⟨visit.path.child step, item, child⟩ := by
  rw [itemTurns, map_snd_labelled, map_snd_positioned]
  cases given : visit.schema.items <;>
    simp [Schema.itemChildren, given, List.mapIdx_eq_zipIdx_map]

theorem map_snd_childTurns (visit : Visit) :
    visit.childTurns.map Prod.snd =
      (visit.schema.children visit.value).map fun (step, item, child) =>
        ⟨visit.path.child step, item, child⟩ := by
  obtain ⟨path, value, schema⟩ := visit
  cases value with
  | object members =>
    simp only [childTurns, Schema.children, List.map_append, map_snd_propertyTurns,
      map_snd_extraTurns]
  | array items => exact map_snd_itemTurns ⟨path, .array items, schema⟩ items
  | _ => rfl

end Visit

/-- A route leads to one visit only. -/
theorem Leads.unique {start visit other : Visit} {route : List Turn}
    (leads : Leads start route visit) (alike : Leads start route other) : visit = other := by
  induction route generalizing start with
  | nil => exact Eq.trans (Eq.symm leads) alike
  | cons turn rest ih =>
    obtain ⟨below, next, onward⟩ := leads
    obtain ⟨beside, parallel, further⟩ := alike
    obtain rfl := Visit.unique_of_descends next parallel
    exact ih onward further

end SchemaCheck
