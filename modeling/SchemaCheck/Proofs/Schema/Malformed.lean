import Mathlib
import SchemaCheck.Proofs.Schema.Partition

/-! Which keywords of a value have the wrong shape, at any place where a schema is read. A place is
told by a route, the positions of the members and items on the way to it. -/
namespace SchemaCheck

/-- The keyword whose value this is has a schema read at the route, in its value or as its value. -/
inductive Keyword.Gives : Keyword → Json → List Nat → Json → Prop where
  | additional {value : Json} : Gives .additionalProperties value [] value
  | items {value : Json} : Gives .items value [] value
  | property {entries : List (String × Json)} {position : Nat} {key : String} {value : Json}
      (entry : entries[position]? = some (key, value)) :
      Gives .properties (.object entries) [position] value
  | branch {keyword : Keyword} {values : List Json} {position : Nat} {value : Json}
      (combines : keyword = .allOf ∨ keyword = .anyOf ∨ keyword = .oneOf)
      (item : values[position]? = some value) : Gives keyword (.array values) [position] value

/-- The keywords that hold schemas. -/
def Keyword.holders : List Keyword :=
  [.properties, .additionalProperties, .items, .allOf, .anyOf, .oneOf]

private theorem Keyword.Gives.mem_holders {keyword : Keyword} {held child : Json} {inner : List Nat}
    (gives : keyword.Gives held inner child) : keyword ∈ holders := by
  cases gives with
  | additional | items | property => simp [holders]
  | branch combines => rcases combines with rfl | rfl | rfl <;> simp [holders]

namespace Json

/-- The route leads from the root to a value that is read as a schema. It names the positions of the
members and items on the way. -/
inductive SchemaAt : Json → List Nat → Json → Prop where
  | root {value : Json} : SchemaAt value [] value
  | inside {members : List (String × Json)} {position : Nat} {keyword : Keyword}
      {held child value : Json} {inner route : List Nat}
      (member : members[position]? = some (keyword.name, held))
      (gives : keyword.Gives held inner child) (onward : SchemaAt child route value) :
      SchemaAt (.object members) (position :: (inner ++ route)) value

/-- The route leads to a member of a schema that is this keyword with a value of the wrong shape. -/
inductive MalformedAt (root : Json) : List Nat → Keyword → Prop where
  | member {above : List Nat} {members : List (String × Json)} {position : Nat} {keyword : Keyword}
      {value : Json} (schema : SchemaAt root above (.object members))
      (member : members[position]? = some (keyword.name, value)) (unfit : ¬ keyword.Fits value) :
      MalformedAt root (above ++ [position]) keyword

/-- The keyword has a schema read in which the route leads to the malformed one. -/
def MalformedUnder (keyword : Keyword) (held : Json) (route : List Nat) (found : Keyword) : Prop :=
  ∃ inner child rest, keyword.Gives held inner child ∧ route = inner ++ rest ∧
    child.MalformedAt rest found

/-- The member is malformed itself, or holds what is. -/
def MalformedIn (member : String × Json) (route : List Nat) (found : Keyword) : Prop :=
  ∃ keyword : Keyword, keyword.name = member.1 ∧
    (¬ keyword.Fits member.2 ∧ route = [] ∧ found = keyword ∨
      MalformedUnder keyword member.2 route found)

theorem malformedAt_object_iff {members : List (String × Json)} {route : List Nat}
    {found : Keyword} :
    (object members).MalformedAt route found ↔
      ∃ position member rest, members[position]? = some member ∧ route = position :: rest ∧
        MalformedIn member rest found := by
  constructor
  · rintro ⟨schema, member, unfit⟩
    cases schema with
    | root => exact ⟨_, _, [], member, rfl, found, rfl, .inl ⟨unfit, rfl, rfl⟩⟩
    | @inside _ position keyword held child _ inner route outer gives onward =>
      exact ⟨position, _, _, outer, rfl, keyword, rfl,
        .inr ⟨inner, child, _, gives, List.append_assoc .., .member onward member unfit⟩⟩
  · rintro ⟨position, ⟨_, held⟩, rest, outer, rfl, keyword, rfl, own | under⟩
    · obtain ⟨unfit, rfl, rfl⟩ := own
      exact .member .root outer unfit
    · obtain ⟨inner, child, rest, gives, rfl, ⟨schema, member, unfit⟩⟩ := under
      have placed := MalformedAt.member (SchemaAt.inside outer gives schema) member unfit
      rwa [List.cons_append, List.append_assoc] at placed

theorem MalformedAt.ne_nil {root : Json} {route : List Nat} {found : Keyword}
    (malformed : root.MalformedAt route found) : route ≠ [] := by
  cases malformed with
  | member => simp

theorem malformedAt_cons_iff {members : List (String × Json)} {position : Nat}
    {member : String × Json} (listed : members[position]? = some member) {rest : List Nat}
    {found : Keyword} :
    (object members).MalformedAt (position :: rest) found ↔ MalformedIn member rest found := by
  rw [malformedAt_object_iff]
  constructor
  · rintro ⟨_, _, _, outer, same, inside⟩
    obtain ⟨rfl, rfl⟩ := List.cons.inj same
    cases listed.symm.trans outer
    exact inside
  · intro inside
    exact ⟨position, member, rest, listed, rfl, inside⟩

theorem isObject_of_malformedAt {value : Json} {route : List Nat} {found : Keyword}
    (malformed : value.MalformedAt route found) : ∃ members, value = .object members := by
  obtain ⟨schema, _, _⟩ := malformed
  cases schema with
  | root => exact ⟨_, rfl⟩
  | inside => exact ⟨_, rfl⟩

/-- A malformed keyword is looked at no further. -/
theorem not_malformedUnder {keyword : Keyword} {held : Json} (unfit : ¬ keyword.Fits held)
    (route : List Nat) (found : Keyword) : ¬ MalformedUnder keyword held route found := by
  rintro ⟨inner, child, rest, gives, -, malformed⟩
  apply unfit
  cases gives with
  | additional | items => exact .inl (isObject_of_malformedAt malformed)
  | property => exact ⟨_, rfl⟩
  | branch combines => rcases combines with rfl | rfl | rfl <;> exact ⟨_, rfl⟩

theorem malformedIn_iff {keyword : Keyword} {held : Json} {route : List Nat} {found : Keyword} :
    MalformedIn (keyword.name, held) route found ↔
      ¬ keyword.Fits held ∧ route = [] ∧ found = keyword ∨
        MalformedUnder keyword held route found := by
  constructor
  · rintro ⟨other, same, malformed⟩
    obtain rfl := Keyword.name_injective same
    exact malformed
  · intro malformed
    exact ⟨keyword, rfl, malformed⟩

theorem malformedUnder_value_iff {keyword : Keyword} {held : Json} {route : List Nat}
    {found : Keyword} (single : keyword = .additionalProperties ∨ keyword = .items) :
    MalformedUnder keyword held route found ↔ held.MalformedAt route found := by
  constructor
  · rintro ⟨inner, child, rest, gives, rfl, malformed⟩
    cases gives with
    | additional | items => exact malformed
    | property => rcases single with same | same <;> cases same
    | branch combines => rcases single with rfl | rfl <;> simp at combines
  · intro malformed
    rcases single with rfl | rfl
    · exact ⟨[], held, route, .additional, rfl, malformed⟩
    · exact ⟨[], held, route, .items, rfl, malformed⟩

theorem malformedUnder_properties_iff {entries : List (String × Json)} {route : List Nat}
    {found : Keyword} :
    MalformedUnder .properties (object entries) route found ↔
      ∃ position entry rest, entries[position]? = some entry ∧ route = position :: rest ∧
        entry.2.MalformedAt rest found := by
  constructor
  · rintro ⟨inner, child, rest, gives, rfl, malformed⟩
    cases gives with
    | property entry => exact ⟨_, _, rest, entry, rfl, malformed⟩
  · rintro ⟨position, entry, rest, listed, rfl, malformed⟩
    exact ⟨[position], entry.2, rest, .property listed, rfl, malformed⟩

theorem malformedUnder_branches_iff {keyword : Keyword} {values : List Json} {route : List Nat}
    {found : Keyword} (combines : keyword = .allOf ∨ keyword = .anyOf ∨ keyword = .oneOf) :
    MalformedUnder keyword (array values) route found ↔
      ∃ position value rest, values[position]? = some value ∧ route = position :: rest ∧
        value.MalformedAt rest found := by
  constructor
  · rintro ⟨inner, child, rest, gives, rfl, malformed⟩
    cases gives with
    | additional | items => rcases combines with same | same | same <;> cases same
    | branch _ item => exact ⟨_, _, rest, item, rfl, malformed⟩
  · rintro ⟨position, value, rest, item, rfl, malformed⟩
    exact ⟨[position], value, rest, .branch combines item, rfl, malformed⟩

end Json

theorem Keyword.Gives.unique {keyword : Keyword} {held child other : Json}
    {inner route rest more : List Nat} (first : keyword.Gives held inner child)
    (second : keyword.Gives held route other) (same : inner ++ rest = route ++ more) :
    child = other ∧ rest = more := by
  cases first with
  | additional =>
    cases second with
    | additional => exact ⟨rfl, same⟩
    | branch combines => simp at combines
  | items =>
    cases second with
    | items => exact ⟨rfl, same⟩
    | branch combines => simp at combines
  | property entry =>
    cases second with
    | property given =>
      obtain ⟨rfl, rfl⟩ := List.cons.inj same
      cases entry.symm.trans given
      exact ⟨rfl, rfl⟩
  | branch combines item =>
    cases second with
    | additional | items => simp at combines
    | branch _ given =>
      obtain ⟨rfl, rfl⟩ := List.cons.inj same
      cases item.symm.trans given
      exact ⟨rfl, rfl⟩

namespace Json

/-- Below a place where a schema is read, what is malformed is malformed in that schema. -/
private theorem SchemaAt.malformedAt_of_append {root value : Json} {above route : List Nat}
    {found : Keyword} (schema : root.SchemaAt above value) (deeper : route ≠ [])
    (malformed : root.MalformedAt (above ++ route) found) : value.MalformedAt route found := by
  induction schema with
  | root => exact malformed
  | inside member gives onward ih =>
    apply ih
    rw [List.cons_append, List.append_assoc, malformedAt_cons_iff member, malformedIn_iff]
      at malformed
    rcases malformed with ⟨_, empty, _⟩ | ⟨_, child, rest, given, split, below⟩
    · rw [List.append_eq_nil_iff, List.append_eq_nil_iff] at empty
      exact absurd empty.2.2 deeper
    · obtain ⟨rfl, rfl⟩ := gives.unique given split
      exact below

section Member

variable {root value : Json} {above : List Nat} {members : List (String × Json)} {position : Nat}
  {name : String} (schema : root.SchemaAt above (.object members))
  (member : members[position]? = some (name, value))

include schema member

theorem malformedIn_of_append {route : List Nat} {found : Keyword}
    (malformed : root.MalformedAt (above ++ position :: route) found) :
    MalformedIn (name, value) route found :=
  (malformedAt_cons_iff member).mp (schema.malformedAt_of_append (List.cons_ne_nil _ _) malformed)

/-- Neither at an unknown member nor in its value. -/
private theorem not_malformedAt_unknown (unknown : name ∉ Keyword.all.map Keyword.name)
    (route : List Nat)
    (found : Keyword) : ¬ root.MalformedAt (above ++ position :: route) found := by
  intro malformed
  obtain ⟨keyword, rfl, -⟩ := malformedIn_of_append schema member malformed
  exact unknown (List.mem_map_of_mem keyword.mem_all)

/-- Not in the value of a keyword that holds no schemas. -/
private theorem not_malformedAt_within (holdsNone : name ∉ Keyword.holders.map Keyword.name)
    (step : Nat)
    (route : List Nat) (found : Keyword) :
    ¬ root.MalformedAt (above ++ position :: step :: route) found := by
  intro malformed
  obtain ⟨keyword, rfl, own | under⟩ := malformedIn_of_append schema member malformed
  · exact absurd own.2.1 (List.cons_ne_nil _ _)
  · obtain ⟨inner, child, rest, gives, -⟩ := under
    exact holdsNone (List.mem_map_of_mem gives.mem_holders)

/-- Not at a declared property, whatever its name. -/
private theorem not_malformedAt_property (declares : name = Keyword.properties.name) (entry : Nat)
    (found : Keyword) : ¬ root.MalformedAt (above ++ [position, entry]) found := by
  intro malformed
  subst declares
  rcases malformedIn_iff.mp (malformedIn_of_append schema member malformed) with own | under
  · exact absurd own.2.1 (List.cons_ne_nil _ _)
  · obtain ⟨inner, child, rest, gives, split, below⟩ := under
    cases gives with
    | property => exact below.ne_nil (List.cons.inj split).2.symm
    | branch combines => simp at combines

end Member

/-- No keyword is found malformed at an unknown member of the schema or in its value, in the value
of a keyword that holds no schemas, or at a declared property. -/
structure QuietElsewhere (root : Json) (above : List Nat) (members : List (String × Json)) :
    Prop where
  unknown {position : Nat} {name : String} {value : Json}
    (member : members[position]? = some (name, value))
    (unknown : name ∉ Keyword.all.map Keyword.name) (route : List Nat) (found : Keyword) :
    ¬ root.MalformedAt (above ++ position :: route) found
  within {position : Nat} {name : String} {value : Json}
    (member : members[position]? = some (name, value))
    (holdsNone : name ∉ Keyword.holders.map Keyword.name) (step : Nat) (route : List Nat)
    (found : Keyword) : ¬ root.MalformedAt (above ++ position :: step :: route) found
  property {position : Nat} {value : Json}
    (member : members[position]? = some (Keyword.properties.name, value)) (entry : Nat)
    (found : Keyword) : ¬ root.MalformedAt (above ++ [position, entry]) found

theorem SchemaAt.quietElsewhere {root : Json} {above : List Nat} {members : List (String × Json)}
    (schema : root.SchemaAt above (.object members)) : root.QuietElsewhere above members where
  unknown member unknown := not_malformedAt_unknown schema member unknown
  within member holdsNone := not_malformedAt_within schema member holdsNone
  property member := not_malformedAt_property schema member rfl

end Json
end SchemaCheck
