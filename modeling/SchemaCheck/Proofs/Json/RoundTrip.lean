import Mathlib
import SchemaCheck.Proofs.Json.Distinct
import SchemaCheck.Proofs.Json.Texts

/-! Either way of writing a value is read back as the value, if it nests no deeper than is read and
the reader takes each double in it for itself. -/
namespace SchemaCheck.Json

mutual

/-- How many containers are around the innermost place. -/
def height : Json → Nat
  | .array items => itemsHeight items + 1
  | .object members => membersHeight members + 1
  | _ => 0

def itemsHeight : List Json → Nat
  | [] => 0
  | item :: rest => max (height item) (itemsHeight rest)

def membersHeight : List (String × Json) → Nat
  | [] => 0
  | (_, value) :: rest => max (height value) (membersHeight rest)

end

theorem itemsHeight_le_iff {items : List Json} {bound : Nat} :
    itemsHeight items ≤ bound ↔ ∀ item ∈ items, item.height ≤ bound := by
  induction items with
  | nil => simp [itemsHeight]
  | cons item rest ih => simp [itemsHeight, ih]

theorem membersHeight_le_iff {members : List (String × Json)} {bound : Nat} :
    membersHeight members ≤ bound ↔ ∀ member ∈ members, member.2.height ≤ bound := by
  induction members with
  | nil => simp [membersHeight]
  | cons member rest ih => simp [membersHeight, ih]

mutual

/-- The doubles in a value. -/
def doubles : Json → List Binary64
  | .number (.double x) => [x]
  | .array items => itemsDoubles items
  | .object members => membersDoubles members
  | _ => []

def itemsDoubles : List Json → List Binary64
  | [] => []
  | item :: rest => doubles item ++ itemsDoubles rest

def membersDoubles : List (String × Json) → List Binary64
  | [] => []
  | (_, value) :: rest => doubles value ++ membersDoubles rest

end

/-- What is written for each double in the value is read as the double. -/
def KeptBy (double? : DoubleReader) (value : Json) : Prop :=
  ∀ x ∈ value.doubles, ReadsAsNumber double? (NumberLayout.json.render x).toList (.double x)

theorem keptBy_of_doubles_eq_nil {value : Json} (none : value.doubles = [])
    (double? : DoubleReader) : value.KeptBy double? := by
  rw [KeptBy, none]
  exact List.forall_mem_nil _

section Lists

variable {double? : DoubleReader} {depth : Nat}

theorem keptBy_array_iff {items : List Json} :
    (array items).KeptBy double? ↔ ∀ item ∈ items, item.KeptBy double? := by
  simp only [KeptBy, doubles]
  induction items with
  | nil => simp [itemsDoubles]
  | cons item rest ih => simp only [itemsDoubles, List.forall_mem_append, List.forall_mem_cons, ih]

theorem keptBy_object_iff {members : List (String × Json)} :
    (object members).KeptBy double? ↔ ∀ member ∈ members, member.2.KeptBy double? := by
  simp only [KeptBy, doubles]
  induction members with
  | nil => simp [membersDoubles]
  | cons member rest ih =>
    simp only [membersDoubles, List.forall_mem_append, List.forall_mem_cons, ih]

theorem readsAs_number_render {number : Number} (kept : (Json.number number).KeptBy double?) :
    ReadsAs double? depth (number.render .json).toList (.number number) := by
  cases number with
  | integer value fits => exact readsAs_number depth (readsAsNumber_integer double? value fits)
  | double value => exact readsAs_number depth (kept value (List.mem_singleton_self value))

private theorem compactItems_read {items : List Json} (some : items ≠ [])
    (each : ∀ item ∈ items, ReadsAs double? depth item.compactChars item) :
    ItemsReadAs double? depth (compactItems items) items := by
  induction items with
  | nil => exact absurd rfl some
  | cons item rest ih =>
    obtain ⟨first, others⟩ := List.forall_mem_cons.mp each
    cases rest with
    | nil => exact first.last (List.forall_mem_nil _)
    | cons next rest => exact first.cons (ih (List.cons_ne_nil _ _) others)

private theorem compactMembers_read {members : List (String × Json)} (some : members ≠ [])
    (each : ∀ member ∈ members, ReadsAs double? depth member.2.compactChars member.2) :
    MembersReadAs double? depth (compactMembers members) members := by
  have none : Blanks [] := List.forall_mem_nil _
  induction members with
  | nil => exact absurd rfl some
  | cons member rest ih =>
    obtain ⟨first, others⟩ := List.forall_mem_cons.mp each
    cases rest with
    | nil =>
      simpa only [compactMembers, List.nil_append] using first.lastMember member.1 none none
    | cons next rest =>
      have more := ih (List.cons_ne_nil _ _) others
      simpa only [compactMembers, List.nil_append] using first.consMember member.1 none more

theorem blanks_lineBreak (level : Nat) : Blanks (lineBreak level) := by
  intro c member
  rcases List.mem_cons.mp member with rfl | space
  · exact .inr rfl
  · exact .inl (List.eq_of_mem_replicate space)

private theorem prettyItems_read {level : Nat} {text : List Char} {item : Json} {rest : List Json}
    (first : ReadsAs double? depth text item)
    (others : ∀ item ∈ rest, ReadsAs double? depth (item.prettyChars (level + 1)) item) :
    ItemsReadAs double? depth (text ++ prettyItems level rest) (item :: rest) := by
  induction rest generalizing text item with
  | nil => exact first.last (blanks_lineBreak level)
  | cons next rest ih =>
    obtain ⟨second, others⟩ := List.forall_mem_cons.mp others
    rw [prettyItems, List.append_assoc]
    exact first.cons ((ih second others).blanks_append (blanks_lineBreak (level + 1)))

private theorem prettyMembers_read {level : Nat} (name : String) {text : List Char} {value : Json}
    {rest : List (String × Json)} (first : ReadsAs double? depth text value)
    (others : ∀ member ∈ rest, ReadsAs double? depth (member.2.prettyChars (level + 1)) member.2) :
    MembersReadAs double? depth (quoted name ++ ':' :: ' ' :: (text ++ prettyMembers level rest))
      ((name, value) :: rest) := by
  have space : Blanks [' '] := List.forall_mem_singleton.mpr (.inl rfl)
  induction rest generalizing name text value with
  | nil =>
    simpa only [prettyMembers, List.singleton_append] using
      first.lastMember name space (blanks_lineBreak level)
  | cons next rest ih =>
    obtain ⟨second, others⟩ := List.forall_mem_cons.mp others
    have more := (ih next.1 second others).blanks_append (blanks_lineBreak (level + 1))
    rw [prettyMembers, List.append_assoc]
    simpa only [List.cons_append, List.nil_append] using first.consMember name space more

theorem readsAs_compactChars {value : Json} (kept : value.KeptBy double?)
    (shallow : value.height ≤ depth) : ReadsAs double? depth value.compactChars value := by
  induction value using Json.induction generalizing depth with
  | null => exact readsAs_null depth
  | bool flag => exact readsAs_bool depth flag
  | number number => exact readsAs_number_render kept
  | string text => exact readsAs_string depth text
  | array items ih =>
    obtain ⟨depth, rfl⟩ := Nat.exists_eq_succ_of_ne_zero (Nat.ne_zero_of_lt shallow)
    have within := itemsHeight_le_iff.mp (Nat.le_of_succ_le_succ shallow)
    have each := keptBy_array_iff.mp kept
    rcases eq_or_ne items [] with rfl | some
    · exact readsAs_array_nil depth
    · exact (compactItems_read some fun item listed =>
        ih item listed (each item listed) (within item listed)).array
  | object members ih =>
    obtain ⟨depth, rfl⟩ := Nat.exists_eq_succ_of_ne_zero (Nat.ne_zero_of_lt shallow)
    have within := membersHeight_le_iff.mp (Nat.le_of_succ_le_succ shallow)
    have each := keptBy_object_iff.mp kept
    rcases eq_or_ne members [] with rfl | some
    · exact readsAs_object_nil depth
    · exact (compactMembers_read some fun member listed =>
        ih member listed (each member listed) (within member listed)).object

theorem readsAs_prettyChars {value : Json} (kept : value.KeptBy double?)
    (shallow : value.height ≤ depth) (level : Nat) :
    ReadsAs double? depth (value.prettyChars level) value := by
  induction value using Json.induction generalizing depth level with
  | null => exact readsAs_null depth
  | bool flag => exact readsAs_bool depth flag
  | number number => exact readsAs_number_render kept
  | string text => exact readsAs_string depth text
  | array items ih =>
    obtain ⟨depth, rfl⟩ := Nat.exists_eq_succ_of_ne_zero (Nat.ne_zero_of_lt shallow)
    have within := itemsHeight_le_iff.mp (Nat.le_of_succ_le_succ shallow)
    have each := keptBy_array_iff.mp kept
    cases items with
    | nil => exact readsAs_array_nil depth
    | cons item rest =>
      obtain ⟨first, others⟩ := List.forall_mem_cons.mp fun item listed =>
        ih item listed (each item listed) (within item listed) (level + 1)
      rw [prettyChars, List.append_assoc]
      exact ((prettyItems_read first others).blanks_append (blanks_lineBreak (level + 1))).array
  | object members ih =>
    obtain ⟨depth, rfl⟩ := Nat.exists_eq_succ_of_ne_zero (Nat.ne_zero_of_lt shallow)
    have within := membersHeight_le_iff.mp (Nat.le_of_succ_le_succ shallow)
    have each := keptBy_object_iff.mp kept
    cases members with
    | nil => exact readsAs_object_nil depth
    | cons member rest =>
      obtain ⟨first, others⟩ := List.forall_mem_cons.mp fun member listed =>
        ih member listed (each member listed) (within member listed) (level + 1)
      rw [prettyChars, List.append_assoc]
      exact ((prettyMembers_read member.1 first others).blanks_append
        (blanks_lineBreak (level + 1))).object

end Lists

private theorem mergedMembers_eq (known members : List (String × Json)) :
    mergedMembers known members =
      putAll known (members.map fun member => (member.1, member.2.merged)) := by
  induction members generalizing known with
  | nil => rfl
  | cons member rest ih => exact ih _

private theorem mergedItems_eq (items : List Json) : mergedItems items = items.map merged := by
  induction items with
  | nil => rfl
  | cons item rest ih => rw [mergedItems, ih, List.map_cons]

/-- Nothing is merged where no name is repeated. -/
theorem merged_of_distinct {value : Json} (distinct : value.Distinct) : value.merged = value := by
  induction value using Json.induction with
  | null | bool flag | number number | string text => rfl
  | array items ih =>
    have each := distinctItems_iff.mp distinct
    rw [merged, mergedItems_eq]
    have kept : items.map merged = items :=
      (List.map_congr_left fun item member => ih item member (each item member)).trans
        (List.map_id items)
    rw [kept]
  | object members ih =>
    obtain ⟨names, values⟩ := distinct
    have each := distinctMembers_iff.mp values
    have kept : members.map (fun member => (member.1, member.2.merged)) = members := by
      refine (List.map_congr_left (g := id) fun member listed => ?_).trans (List.map_id members)
      rw [ih member listed (each member listed), id]
    rw [merged, mergedMembers_eq, kept, putAll_eq_append _ (by simpa using names), List.nil_append]

/-- The one value that the text holds, where doubles are read in this way and containers nest up to
this depth. -/
def parseWithin? (double? : DoubleReader) (depth : Nat) (text : String) : Option Json := do
  let (value, rest) ← value? double? (2 * text.toList.length + 2) depth text.toList
  if (skipBlank rest).isEmpty then some value.merged else none

theorem parse?_eq (text : String) :
    parse? text = parseWithin? scaledDouble? nestingLimit text := by
  simp only [parse?, verbatim?, parseWithin?]
  cases value? scaledDouble? (2 * text.toList.length + 2) nestingLimit text.toList with
  | none => rfl
  | some read =>
    simp only [Option.bind_eq_bind, Option.bind_some]
    split <;> rfl

theorem ReadsAs.parseWithin? {double? : DoubleReader} {depth : Nat} {text blanks : List Char}
    {value : Json} (reads : ReadsAs double? depth text value) (distinct : value.Distinct)
    (all : Blanks blanks) :
    parseWithin? double? depth (String.ofList (text ++ blanks)) = some value := by
  have enough : 2 * text.length ≤ 2 * (text ++ blanks).length + 2 := by
    rw [List.length_append]
    omega
  have nothing : skipBlank blanks = [] := by
    simpa [skipBlank] using skipBlank_append all []
  simp only [Json.parseWithin?, String.toList_ofList, reads _ enough blanks (endsNumber_blanks all),
    Option.bind_eq_bind, Option.bind_some, nothing]
  simp [merged_of_distinct distinct]

section Parsing

variable {value : Json}

theorem parse?_compact (distinct : value.Distinct) (kept : value.KeptBy scaledDouble?)
    (shallow : value.height ≤ nestingLimit) : parse? value.compact = some value := by
  have parsed := (readsAs_compactChars kept shallow).parseWithin? distinct (List.forall_mem_nil _)
  rwa [List.append_nil, ← parse?_eq] at parsed

theorem parse?_pretty (distinct : value.Distinct) (kept : value.KeptBy scaledDouble?)
    (shallow : value.height ≤ nestingLimit) : parse? value.pretty = some value := by
  have parsed := (readsAs_prettyChars kept shallow 0).parseWithin? distinct (List.forall_mem_nil _)
  rwa [List.append_nil, ← parse?_eq] at parsed

/-- A line feed at the end is no part of the value. -/
theorem parse?_pretty_line (distinct : value.Distinct) (kept : value.KeptBy scaledDouble?)
    (shallow : value.height ≤ nestingLimit) : parse? (value.pretty ++ "\n") = some value := by
  have blank : Blanks ['\n'] := List.forall_mem_singleton.mpr (.inr rfl)
  have parsed := (readsAs_prettyChars kept shallow 0).parseWithin? distinct blank
  rwa [String.ofList_append, ← parse?_eq] at parsed

end Parsing

end SchemaCheck.Json
