import Mathlib
import SchemaCheck.Proofs.Schema.Malformed

/-! In which order a reader meets the keywords of the wrong shape: as their routes are ordered. That
is the order of the document, with what a member holds behind the member. -/
namespace SchemaCheck

section Places

variable {α : Type}

/-- The places in the items, each route behind the position of its item. -/
def placesIn (items : List α) (places : α → List (List Nat × Keyword)) :
    List (List Nat × Keyword) :=
  items.zipIdx.flatMap fun pair =>
    (places pair.1).map fun place => (pair.2 :: place.1, place.2)

variable {items : List α} {places : α → List (List Nat × Keyword)}

private theorem map_snd_placesIn :
    (placesIn items places).map (fun place => place.2.name) =
      items.flatMap fun item => (places item).map fun place => place.2.name := by
  rw [placesIn, List.map_flatMap]
  conv_rhs => rw [← List.zipIdx_map_fst 0 items, List.flatMap_map]
  refine List.flatMap_congr fun pair _ => ?_
  rw [List.map_map]
  rfl

private theorem mem_placesIn_iff {route : List Nat} {keyword : Keyword} :
    (route, keyword) ∈ placesIn items places ↔
      ∃ position item rest, items[position]? = some item ∧ route = position :: rest ∧
        (rest, keyword) ∈ places item := by
  simp only [placesIn, List.mem_flatMap, List.mem_map, Prod.exists, List.mem_zipIdx_iff_getElem?,
    Prod.mk.injEq]
  constructor
  · rintro ⟨item, position, given, rest, _, inside, rfl, rfl⟩
    exact ⟨position, item, rest, given, rfl, inside⟩
  · rintro ⟨position, item, rest, given, rfl, inside⟩
    exact ⟨item, position, given, rest, keyword, inside, rfl, rfl⟩

private theorem pairwise_placesIn
    (sorted : ∀ item ∈ items, ((places item).map Prod.fst).Pairwise (· < ·)) :
    ((placesIn items places).map Prod.fst).Pairwise (· < ·) := by
  rw [placesIn, List.map_flatMap, List.pairwise_flatMap]
  constructor
  · intro pair numbered
    have below := sorted pair.1 (List.mem_of_getElem? (List.mem_zipIdx_iff_getElem?.mp numbered))
    rw [List.pairwise_map] at below
    rw [List.map_map, List.pairwise_map]
    exact below.imp fun less => List.cons_lt_cons_iff.mpr (.inr ⟨rfl, less⟩)
  · have positions : items.zipIdx.Pairwise fun first second => first.2 < second.2 := by
      rw [← List.pairwise_map, List.zipIdx_map_snd]
      exact List.pairwise_lt_range'
    refine positions.imp fun {first second} earlier route inFirst other inSecond => ?_
    rw [List.map_map] at inFirst inSecond
    obtain ⟨place, _, rfl⟩ := List.mem_map.mp inFirst
    obtain ⟨later, _, rfl⟩ := List.mem_map.mp inSecond
    exact List.cons_lt_cons_iff.mpr (.inl earlier)

end Places

/-- The names are those of the keywords at the places, one for each place, in document order. -/
def InDocumentOrder (names : List String) (found : List Nat → Keyword → Prop) : Prop :=
  ∃ places : List (List Nat × Keyword),
    names = places.map (fun place => place.2.name) ∧
    (places.map Prod.fst).Pairwise (· < ·) ∧
    ∀ route keyword, (route, keyword) ∈ places ↔ found route keyword

namespace InDocumentOrder

theorem congr {names : List String} {found met : List Nat → Keyword → Prop}
    (ordered : InDocumentOrder names found)
    (same : ∀ route keyword, found route keyword ↔ met route keyword) :
    InDocumentOrder names met := by
  obtain ⟨places, named, sorted, listed⟩ := ordered
  exact ⟨places, named, sorted, fun route keyword => (listed route keyword).trans (same _ _)⟩

theorem nil {found : List Nat → Keyword → Prop} (nothing : ∀ route keyword, ¬ found route keyword) :
    InDocumentOrder [] found := by
  refine ⟨[], rfl, .nil, fun route keyword => ?_⟩
  simp [nothing route keyword]

theorem single (keyword : Keyword) :
    InDocumentOrder [keyword.name] fun route found => route = [] ∧ found = keyword := by
  refine ⟨[([], keyword)], rfl, List.pairwise_singleton _ _, fun route found => ?_⟩
  rw [List.mem_singleton, Prod.mk.injEq]

/-- Item by item: routes that start at an earlier position come first. -/
theorem flatMap {α : Type} {items : List α} {names : α → List String}
    {found : α → List Nat → Keyword → Prop}
    (each : ∀ item ∈ items, InDocumentOrder (names item) (found item)) :
    InDocumentOrder (items.flatMap names) fun route keyword =>
      ∃ position item rest, items[position]? = some item ∧ route = position :: rest ∧
        found item rest keyword := by
  choose! places named sorted listed using each
  refine ⟨placesIn items places, ?_, pairwise_placesIn sorted, fun route keyword => ?_⟩
  · rw [map_snd_placesIn]
    exact List.flatMap_congr fun item member => named item member
  · rw [mem_placesIn_iff]
    constructor
    · rintro ⟨position, item, rest, given, rfl, inside⟩
      exact ⟨position, item, rest, given, rfl,
        (listed item (List.mem_of_getElem? given) _ _).mp inside⟩
    · rintro ⟨position, item, rest, given, rfl, inside⟩
      exact ⟨position, item, rest, given, rfl,
        (listed item (List.mem_of_getElem? given) _ _).mpr inside⟩

end InDocumentOrder

namespace Reading

/-- What is noted while a value is read as a schema is what is malformed in it. -/
def NotedInOrder (value : Json) : Prop := InDocumentOrder (read value).schemaNotes value.MalformedAt

theorem schemaNotes_eq_nil {value : Json} (other : ∀ members, value ≠ .object members) :
    (read value).schemaNotes = [] := by
  cases value with
  | object members => exact absurd rfl (other members)
  | _ => rfl

private theorem notedInOrder_of_no_object {value : Json}
    (other : ∀ members, value ≠ .object members) :
    NotedInOrder value := by
  rw [NotedInOrder, schemaNotes_eq_nil other]
  apply InDocumentOrder.nil
  intro route found malformed
  obtain ⟨members, same⟩ := Json.isObject_of_malformedAt malformed
  exact other members same

theorem notesUnder_properties (entries : List (String × Json)) :
    (read (.object entries)).notesUnder .properties =
      entries.flatMap fun entry => (read entry.2).schemaNotes := by
  simp [notesUnder, read, ofProperties, readMembers_eq_map, List.flatMap_map]

theorem notesUnder_branches {keyword : Keyword} (values : List Json)
    (combines : keyword = .allOf ∨ keyword = .anyOf ∨ keyword = .oneOf) :
    (read (.array values)).notesUnder keyword =
      values.flatMap fun value => (read value).schemaNotes := by
  rcases combines with rfl | rfl | rfl <;>
    simp [notesUnder, read, ofItems, readItems_eq_map, List.flatMap_map]

theorem schemaNotes_object (members : List (String × Json)) :
    (read (.object members)).schemaNotes =
      members.flatMap fun member => memberNotes member.1 (read member.2) := by
  simp [schemaNotes, read, ofMembers, readMembers_eq_map, List.flatMap_map]

private theorem properties_inOrder {entries : List (String × Json)}
    (parts : ∀ entry ∈ entries, NotedInOrder entry.2) :
    InDocumentOrder ((read (.object entries)).notesUnder .properties)
      (Json.MalformedUnder .properties (.object entries)) := by
  rw [notesUnder_properties]
  apply (InDocumentOrder.flatMap parts).congr
  intro route found
  exact Json.malformedUnder_properties_iff.symm

theorem branches_inOrder {keyword : Keyword} {values : List Json}
    (combines : keyword = .allOf ∨ keyword = .anyOf ∨ keyword = .oneOf)
    (parts : ∀ value ∈ values, NotedInOrder value) :
    InDocumentOrder ((read (.array values)).notesUnder keyword)
      (Json.MalformedUnder keyword (.array values)) := by
  rw [notesUnder_branches values combines]
  apply (InDocumentOrder.flatMap parts).congr
  intro route found
  exact (Json.malformedUnder_branches_iff combines).symm

private theorem notesUnder_inOrder {value : Json} (own : NotedInOrder value)
    (parts : ∀ part ∈ value.parts, NotedInOrder part) {keyword : Keyword}
    (fits : keyword.Fits value) :
    InDocumentOrder ((read value).notesUnder keyword) (Json.MalformedUnder keyword value) := by
  cases keyword with
  | additionalProperties =>
    apply InDocumentOrder.congr own
    intro route found
    exact (Json.malformedUnder_value_iff (.inl rfl)).symm
  | items =>
    apply InDocumentOrder.congr own
    intro route found
    exact (Json.malformedUnder_value_iff (.inr rfl)).symm
  | properties =>
    obtain ⟨entries, rfl⟩ := fits
    exact properties_inOrder (List.forall_mem_map.mp parts)
  | allOf =>
    obtain ⟨values, rfl⟩ := fits
    exact branches_inOrder (.inl rfl) parts
  | anyOf =>
    obtain ⟨values, rfl⟩ := fits
    exact branches_inOrder (.inr (.inl rfl)) parts
  | oneOf =>
    obtain ⟨values, rfl⟩ := fits
    exact branches_inOrder (.inr (.inr rfl)) parts
  | _ =>
    apply InDocumentOrder.nil
    rintro route found ⟨inner, child, rest, gives, -⟩
    cases gives with
    | branch combines => simp at combines

private theorem memberNotes_inOrder {member : String × Json} (own : NotedInOrder member.2)
    (parts : ∀ part ∈ member.2.parts, NotedInOrder part) :
    InDocumentOrder (memberNotes member.1 (read member.2)) (Json.MalformedIn member) := by
  obtain ⟨name, held⟩ := member
  rw [memberNotes]
  cases named : Keyword.ofName? name with
  | none =>
    apply InDocumentOrder.nil
    rintro route found ⟨keyword, rfl, -⟩
    rw [Keyword.ofName?_name] at named
    cases named
  | some keyword =>
    obtain rfl : keyword.name = name := by simpa using List.find?_some named
    by_cases fits : keyword.Fits held
    · have shaped : (read held).wellShaped keyword = true :=
        (keyword.fits_iff_wellShaped held).mp fits
      simp only [shaped, if_true]
      apply (notesUnder_inOrder own parts fits).congr
      intro route found
      rw [Json.malformedIn_iff]
      simp [fits]
    · have shapeless : (read held).wellShaped keyword = false := by
        rwa [← Bool.not_eq_true, ← keyword.fits_iff_wellShaped]
      simp only [shapeless, Bool.false_eq_true, if_false]
      apply (InDocumentOrder.single keyword).congr
      intro route found
      rw [Json.malformedIn_iff]
      simp [fits, Json.not_malformedUnder fits]

private theorem object_inOrder {members : List (String × Json)}
    (each : ∀ member ∈ members,
      NotedInOrder member.2 ∧ ∀ part ∈ member.2.parts, NotedInOrder part) :
    NotedInOrder (.object members) := by
  rw [NotedInOrder, schemaNotes_object]
  have inside member (listed : member ∈ members) :=
    memberNotes_inOrder (each member listed).1 (each member listed).2
  apply (InDocumentOrder.flatMap inside).congr
  intro route found
  exact Json.malformedAt_object_iff.symm

theorem notedInOrder (value : Json) : NotedInOrder value := by
  induction value using Json.object_induction with
  | other value plain => exact notedInOrder_of_no_object plain
  | object members ih => exact object_inOrder ih

end Reading

end SchemaCheck
