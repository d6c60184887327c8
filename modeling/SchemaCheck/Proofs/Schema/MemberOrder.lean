import Mathlib
import SchemaCheck.Schema.Shape
import SchemaCheck.Proofs.Json.Reordering
import SchemaCheck.Proofs.Schema.Equality

/-! Values whose objects have their members in another order, read as schemas. A keyword is found by
its name, and what is set aside is sorted, so the schemas are equal. -/
namespace SchemaCheck

/-- What two readings have in common that say the same at every place of a schema. -/
structure Reading.Alike (reading other : Reading) : Prop where
  value : reading.value.Rearranged other.value
  schema : Option.Rel Schema.Same (reading.schema.map Noted.content)
    (other.schema.map Noted.content)
  properties : Option.Rel Schema.SameDeclared (reading.properties.map Noted.content)
    (other.properties.map Noted.content)
  branches : Option.Rel (List.Forall₂ Schema.Same) (reading.branches.map Noted.content)
    (other.branches.map Noted.content)

theorem Schema.same_unconstrained : unconstrained.Same unconstrained := by decide +kernel

namespace Reading.Alike

variable {reading other : Reading} (alike : reading.Alike other)

include alike

theorem schemaOrFree : reading.schemaOrFree.Same other.schemaOrFree := by
  have described := alike.schema
  rw [Reading.schemaOrFree, Reading.schemaOrFree]
  generalize reading.schema.map Noted.content = given,
    other.schema.map Noted.content = regiven at described
  cases described with
  | none => exact Schema.same_unconstrained
  | some same => exact same

theorem enumeration :
    Option.Rel (List.Forall₂ Json.Same) reading.value.asArray? other.value.asArray? := by
  have value := alike.value
  generalize reading.value = given, other.value = regiven at value
  cases value.reordered with
  | array => exact .some (value.forall₂_items.imp fun _ _ => Json.Rearranged.same)
  | _ => exact .none

theorem strings_eq : reading.strings = other.strings := by
  rw [Reading.strings, Reading.strings]
  refine eq_of_rel (rel_map alike.value.reordered.asArray? fun items others each => ?_)
  rw [← List.forall₂_eq_eq_eq]
  refine List.rel_filterMap (fun item twin same => ?_) each
  rw [same.asString?_eq]
  cases twin.asString? with
  | none => exact .none
  | some text => exact .some rfl

theorem double_eq : reading.double = other.double := by
  rw [double, double, alike.value.reordered.asNumber?_eq]

theorem types_eq : reading.types = other.types := by
  have strings := alike.strings_eq
  have value := alike.value.reordered
  rw [Reading.types, Reading.types, strings]
  generalize reading.value = given, other.value = regiven at value
  cases value <;> rfl

theorem additional :
    Option.Rel (Additional.Rel Schema.Same) reading.additional other.additional := by
  have described := alike.schema
  have value := alike.value.reordered
  rw [Reading.additional, Reading.additional]
  generalize reading.value = given, other.value = regiven at value
  cases value with
  | bool flag => exact .some (.allowed flag)
  | _ =>
    have schema := rel_map described fun _ _ same => Additional.Rel.schema same
    simpa only [Option.map_map, Function.comp_def] using schema

/-- One has the shape that a keyword asks for if the other has. -/
private theorem wellShaped_eq (keyword : Keyword) :
    reading.wellShaped keyword = other.wellShaped keyword := by
  have text := congrArg Option.isSome alike.value.reordered.asString?_eq
  have schema := isSome_eq_of_rel alike.schema
  have properties := isSome_eq_of_rel alike.properties
  have branches := isSome_eq_of_rel alike.branches
  rw [Option.isSome_map, Option.isSome_map] at schema properties branches
  cases keyword with
  | types => exact congrArg Option.isSome alike.types_eq
  | required => exact congrArg Option.isSome alike.strings_eq
  | properties => exact properties
  | additionalProperties => exact isSome_eq_of_rel alike.additional
  | items => exact schema
  | enumeration => exact isSome_eq_of_rel alike.enumeration
  | constant => rfl
  | pattern | format => exact text
  | allOf | anyOf | oneOf => exact branches
  | bound => exact congrArg Option.isSome alike.double_eq

private theorem recognized_eq (name : String) :
    recognized name reading = recognized name other := by
  rw [recognized, recognized]
  cases Keyword.ofName? name with
  | none => rfl
  | some keyword => exact alike.wellShaped_eq keyword

end Reading.Alike

/-- What a lookup of a keyword finds on the two sides. -/
def ReadAlike (readings others : List (String × Reading)) : Prop :=
  ∀ name, Option.Rel Reading.Alike (readings.lookup name) (others.lookup name)

namespace ReadAlike

variable {readings others : List (String × Reading)} (alike : ReadAlike readings others)

include alike

theorem bind_eq {α : Type} (keyword : Keyword) {part : Reading → Option α}
    (same : ∀ {reading other : Reading}, reading.Alike other → part reading = part other) :
    (readings.lookup keyword.name).bind part = (others.lookup keyword.name).bind part := by
  have found := alike keyword.name
  generalize readings.lookup keyword.name = given,
    others.lookup keyword.name = regiven at found
  cases found with
  | none => rfl
  | some one => exact same one

theorem assertions :
    (Schema.ofReadings readings).assertions.Alike (Schema.ofReadings others).assertions where
  types := alike.bind_eq .types Reading.Alike.types_eq
  required := alike.bind_eq .required Reading.Alike.strings_eq
  enumeration := rel_bind (alike _) fun _ _ => Reading.Alike.enumeration
  constant := rel_map (alike _) fun _ _ same => same.value.same
  pattern := alike.bind_eq .pattern fun same => same.value.reordered.asString?_eq
  format := alike.bind_eq .format fun same => same.value.reordered.asString?_eq
  bound bound := by
    have limits := alike.bind_eq (.bound bound) Reading.Alike.double_eq
    simp only [Schema.ofReadings, limits]
    cases (others.lookup (Keyword.bound bound).name).bind Reading.double with
    | none => exact .none
    | some limit => exact .some (beq_self_eq_true limit.units)

theorem branches (keyword : Keyword) :
    Option.Rel (List.Forall₂ Schema.Same)
      (((readings.lookup keyword.name).bind Reading.branches).map Noted.content)
      (((others.lookup keyword.name).bind Reading.branches).map Noted.content) := by
  rw [Option.map_bind, Option.map_bind]
  exact rel_bind (alike _) fun _ _ same => same.branches

/-- The schemas of two objects are equal if they set aside equal members. -/
private theorem same_ofReadings
    (aside : List.Forall₂ (Named Json.Same) (setAside readings) (setAside others)) :
    (Schema.ofReadings readings).Same (Schema.ofReadings others) := by
  refine Schema.same_iff.mpr ⟨alike.assertions, ?_, ?_, ?_, alike.branches _, alike.branches _,
    alike.branches _, aside⟩
  · simp only [Schema.ofReadings, Option.map_bind]
    exact rel_bind (alike _) fun _ _ same => same.properties
  · exact rel_bind (alike _) fun _ _ => Reading.Alike.additional
  · simp only [Schema.ofReadings, Option.map_bind]
    exact rel_bind (alike _) fun _ _ same => same.schema

private theorem sameDeclared (names : (readings.map Prod.fst).Nodup)
    (count : readings.length = others.length) :
    Schema.SameDeclared (Reading.ofProperties readings).content
      (Reading.ofProperties others).content := by
  simp only [Reading.ofProperties]
  refine ⟨by simpa using count, fun entry listed => ?_⟩
  obtain ⟨⟨key, reading⟩, given, rfl⟩ := List.mem_map.mp listed
  have found := alike key
  rw [Json.lookup_eq_some names given] at found
  rw [Json.lookup_map]
  cases looked : others.lookup key with
  | none =>
    rw [looked] at found
    cases found
  | some other =>
    rw [looked, Option.rel_some_some] at found
    exact ⟨other.schemaOrFree, rfl, found.schemaOrFree⟩

end ReadAlike

/-- The same members are set aside, and sorting puts them in the same order. -/
private theorem forall₂_setAside {members others : List (String × Json)}
    (alike : (Json.object members).Rearranged (.object others))
    (below : ∀ member ∈ members, ∀ twin, member.2.Rearranged twin →
      (Reading.read member.2).Alike (.read twin)) :
    List.Forall₂ (Named Json.Same) (setAside (Reading.readMembers members))
      (setAside (Reading.readMembers others)) := by
  obtain ⟨moved, each, order, _⟩ := alike.exists_members
  let keep (member : String × Json) : Bool := !recognized member.1 (.read member.2)
  have kept : List.Forall₂ (Named Json.Same) (members.filter keep) (moved.filter keep) := by
    have within := (List.forall₂_and_left _ _).mpr ⟨below, each⟩
    refine List.Forall₂.imp (fun member twin inside => ?_) (List.rel_filter ?_ within)
    · obtain ⟨_, ⟨same⟩⟩ := inside
      exact .intro same.same
    · rintro ⟨name, value⟩ _ ⟨described, ⟨same⟩⟩
      simp only [keep, (described _ same).recognized_eq name]
  have sorted (entries : List (String × Json)) :
      (setAside (Reading.readMembers entries)).Perm (entries.filter keep) := by
    rw [setAside_readMembers]
    exact List.mergeSort_perm ..
  have matched : Matched (Named Json.Same) (setAside (Reading.readMembers members))
      (setAside (Reading.readMembers others)) :=
    (Matched.of_forall₂ kept).perm (sorted members)
      ((order.filter keep).trans (sorted others).symm)
  exact Named.forall₂_of_sorted matched (sorted_setAside _) (nodup_setAside alike.distinct.1)
    (sorted_setAside _)

/-- Member order makes no difference at any place of a schema where the value may stand. -/
theorem Json.Rearranged.read_alike {value other : Json} (alike : value.Rearranged other) :
    (Reading.read value).Alike (.read other) := by
  induction value using Json.induction generalizing other with
  | null | number | string =>
    cases alike.reordered
    exact ⟨alike, .none, .none, .none⟩
  | bool flag =>
    cases alike.reordered
    exact ⟨alike, .some Schema.same_unconstrained, .none, .none⟩
  | array items ih =>
    cases alike.reordered with
    | @array _ others =>
      have each := forall₂_of_mem alike.forall₂_items fun item listed _ => ih item listed
      have branches : List.Forall₂ Schema.Same
          ((Reading.readItems items).map Reading.schemaOrFree)
          ((Reading.readItems others).map Reading.schemaOrFree) := by
        rw [Reading.readItems_eq_map, Reading.readItems_eq_map, List.map_map, List.map_map]
        exact List.rel_map (fun item twin inside => inside.schemaOrFree) each
      exact ⟨alike, .none, .none, .some branches⟩
  | object members ih =>
    cases alike.reordered with
    | @object _ moved others each order =>
      have found : ReadAlike (Reading.readMembers members) (Reading.readMembers others) := by
        intro name
        rw [Reading.lookup_readMembers, Reading.lookup_readMembers]
        refine rel_map (rel_with_eq (alike.lookup name)) ?_
        rintro value twin ⟨looked, same⟩
        exact ih (name, value) (mem_of_lookup looked) same
      have schema := found.same_ofReadings
        (forall₂_setAside alike fun member listed twin same => ih member listed same)
      have names : ((Reading.readMembers members).map Prod.fst).Nodup := by
        simpa [Reading.readMembers_eq_map, Function.comp_def] using alike.distinct.1
      have count : (Reading.readMembers members).length = (Reading.readMembers others).length := by
        simpa [Reading.readMembers_eq_map] using each.length_eq.trans order.length_eq
      have properties := found.sameDeclared names count
      exact ⟨alike, .some schema, .some properties, .none⟩

/-- One member order for the other, at any depth: both values read as schemas or neither does, and
the schemas are equal and set aside the same names in the same order. -/
theorem reading_ignores_member_order {value other : Json} (distinct : value.Distinct)
    (reordered : value.Reordered other) :
    ((∃ noted, Schema.ofJson value = .ok noted) ↔ ∃ again, Schema.ofJson other = .ok again) ∧
    ∀ noted again, Schema.ofJson value = .ok noted → Schema.ofJson other = .ok again →
      noted.content.same again.content = true ∧
      noted.content.unrecognizedNames = again.content.unrecognizedNames := by
  have alike := (⟨reordered, distinct⟩ : value.Rearranged other).read_alike.schema
  simp only [Schema.ofJson_eq_ok_iff]
  constructor
  · have both := isSome_eq_of_rel alike
    rw [Option.isSome_map, Option.isSome_map] at both
    rw [← Option.isSome_iff_exists, ← Option.isSome_iff_exists, both]
  · intro noted again read reread
    rw [read, reread] at alike
    have same : noted.content.Same again.content := Option.rel_some_some.mp alike
    exact ⟨same, Named.map_fst (Schema.same_iff.mp same).unrecognized⟩

/-- The members of the object, of `properties`, of a literal and of an unknown keyword stand in
another order, and two members are set aside. -/
theorem reading_ignores_member_order_four_objects :
    let inner : List (String × Json) := [("a", .null), ("b", .bool true)]
    let members (order : List (String × Json)) : List (String × Json) :=
      [("title", .object order), ("const", .object order), ("items", .null),
        ("properties", .object order)]
    let value : Json := .object (members inner)
    let other : Json := .object (members inner.reverse).reverse
    value.Distinct ∧ value.Reordered other ∧
      ∃ noted again, Schema.ofJson value = .ok noted ∧ Schema.ofJson other = .ok again ∧
        noted.content.declared.map Prod.fst = ["a", "b"] ∧
        again.content.declared.map Prod.fst = ["b", "a"] ∧
        again.content.unrecognizedNames = ["items", "title"] ∧
        noted.content.same again.content = true ∧
        noted.content.unrecognizedNames = again.content.unrecognizedNames := by
  intro inner members value other
  have distinct : value.Distinct := by
    simp [value, members, inner, Json.Distinct, Json.DistinctMembers]
  have swapped : (Json.object inner).Reordered (.object inner.reverse) :=
    .object (.cons (.intro .null) (.cons (.intro (.bool true)) .nil)) inner.reverse_perm.symm
  have each : List.Forall₂ (Named Json.Reordered) (members inner) (members inner.reverse) :=
    .cons (.intro swapped) (.cons (.intro swapped) (.cons (.intro .null)
      (.cons (.intro swapped) .nil)))
  have reordered : value.Reordered other := .object each (List.reverse_perm _).symm
  obtain ⟨noted, read⟩ : ∃ noted, Schema.ofJson value = .ok noted := ⟨_, rfl⟩
  obtain ⟨again, reread⟩ : ∃ again, Schema.ofJson other = .ok again := ⟨_, rfl⟩
  have found : noted = ⟨_, _⟩ := (Except.ok.inj read).symm
  have met : again = ⟨_, _⟩ := (Except.ok.inj reread).symm
  refine ⟨distinct, reordered, noted, again, read, reread, ?_, ?_, ?_,
    (reading_ignores_member_order distinct reordered).2 noted again read reread⟩
  · rw [found]
    rfl
  · rw [met]
    rfl
  · have kept : (members inner.reverse).reverse.filter
        (fun member => !recognized member.1 (.read member.2)) =
          [("items", .null), ("title", .object inner.reverse)] := rfl
    have aside := setAside_readMembers (members inner.reverse).reverse
    rw [kept, List.mergeSort_of_pairwise (by decide)] at aside
    rw [met]
    exact congrArg (List.map Prod.fst) aside

end SchemaCheck
