import Mathlib
import SchemaCheck.Command.Validate
import SchemaCheck.Proofs.Schema.SetAside
import SchemaCheck.Proofs.Validation.Events

/-! How malformed keywords are announced: each once, in document order, while the schema is read,
and none while a document is validated. -/
namespace SchemaCheck

namespace Event

/-- The keyword that an event says has the wrong shape. -/
def misshapen? (event : Event) : Option String :=
  if event.message = "keyword value has the wrong shape; ignoring it"
    then event.fields.lookup "keyword"
    else none

theorem misshapen?_keywordSetAside (keyword : String) :
    (keywordSetAside keyword).misshapen? = some keyword := by
  simp [misshapen?, message, fields]

private theorem misshapen?_eq_none {event : Event}
    (other : ∀ keyword, event ≠ keywordSetAside keyword) :
    event.misshapen? = none := by
  cases event with
  | keywordSetAside keyword => exact absurd rfl (other keyword)
  | _ => exact if_neg (by simp [message])

private theorem filterMap_misshapen?_keywordSetAside (names : List String) :
    (names.map keywordSetAside).filterMap misshapen? = names := by
  induction names with
  | nil => rfl
  | cons name rest ih =>
    rw [List.map_cons, List.filterMap_cons_some (misshapen?_keywordSetAside name), ih]

theorem filterMap_misshapen?_eq_nil {events : List Event}
    (other : ∀ event ∈ events, ∀ keyword, event ≠ keywordSetAside keyword) :
    events.filterMap misshapen? = [] := by
  rw [List.filterMap_eq_nil_iff]
  intro event noted
  exact misshapen?_eq_none (other event noted)

end Event

/-- No keyword is announced while a document is validated. -/
private theorem filterMap_misshapen?_validate (options : ValidationOptions) (document : Json)
    (schema : Schema) :
    (validate options document schema).events.filterMap Event.misshapen? = [] := by
  let limit := options.maxDepth
  let outcome := evaluate limit (limit + 1) document schema []
  have walked : outcome.Accounts (AccountedFor limit) limit :=
    accounts_evaluate (accounting_accountedFor limit) (limit + 1) document schema []
      fun node _ => .inl fun accounted => ⟨List.nil_sublist _, accounted.2⟩
  apply Event.filterMap_misshapen?_eq_nil
  intro event noted keyword
  simp only [validate, List.mem_append, List.mem_singleton] at noted
  rcases noted with inWalk | rfl
  · rintro rfl
    cases walked.2 _ inWalk
  · exact Event.noConfusion

theorem filterMap_misshapen?_complete (request : ValidateRequest) (configuration : Configuration)
    (noted : Noted Schema) (document : Json) :
    (request.complete configuration noted document).events.filterMap Event.misshapen? =
      noted.malformed := by
  have named : (if noted.content.unrecognizedNames.isEmpty then []
      else [Event.keywordsIgnored noted.content.unrecognizedNames]).filterMap Event.misshapen? =
        [] := by
    apply Event.filterMap_misshapen?_eq_nil
    intro event listed keyword
    split at listed
    · cases listed
    · rw [List.mem_singleton.mp listed]
      exact Event.noConfusion
  simp only [ValidateRequest.complete, List.filterMap_append, named,
    Event.filterMap_misshapen?_keywordSetAside, filterMap_misshapen?_validate]
  simp [Event.misshapen?, Event.message]

/-- Reading an object as a schema announces the malformed keywords at all places of schemas in it,
in document order, and nothing else; it announces as many as the nodes of the schema set aside.
These are the announcements of every validation with the schema. -/
theorem malformed_keywords_announced_once {members : List (String × Json)}
    (distinct : (Json.object members).Distinct) :
    ∃ noted, Schema.ofJson (.object members) = .ok noted ∧
      InDocumentOrder noted.malformed (Json.object members).MalformedAt ∧
      noted.malformed.Perm (noted.content.keywordsAside.map fun pair => pair.2.name) ∧
      noted.malformed.length = noted.content.keywordsAside.length ∧
      (∀ above inner, (Json.object members).SchemaAt above (.object inner) →
        (Json.object members).QuietElsewhere above inner) ∧
      ∀ (request : ValidateRequest) (configuration : Configuration) (document : Json),
        (request.complete configuration noted document).events.filterMap Event.misshapen? =
          noted.malformed := by
  let noted := Reading.ofMembers (Reading.readMembers members)
  have ordered : InDocumentOrder noted.malformed (Json.object members).MalformedAt :=
    Reading.notedInOrder (.object members)
  have aside : noted.malformed.Perm noted.content.namesAside :=
    Reading.notedAside (.object members) distinct
  refine ⟨noted, rfl, ordered, aside, ?count, ?quiet, ?events⟩
  case count =>
    rw [aside.length_eq, Schema.namesAside, List.length_map]
  case quiet =>
    intro above inner schema
    exact schema.quietElsewhere
  case events =>
    intro request configuration document
    exact filterMap_misshapen?_complete request configuration noted document

/-- A malformed bound in a malformed `items`, a `const` and an unknown member is not announced, and
neither is a property with the name of a keyword. -/
theorem malformed_keywords_announced_once_nested :
    let bad : Json := .object [("minLength", .string "x")]
    let branches : Json := .array [.object [("pattern", .bool true), ("title", bad)], bad]
    let members : List (String × Json) :=
      [("title", bad), ("items", .array [bad]), ("const", bad),
        ("properties", .object [("type", .object [("anyOf", branches)]), ("required", .null)]),
        ("format", .null)]
    (Json.object members).Distinct ∧ ∃ noted, Schema.ofJson (.object members) = .ok noted ∧
      noted.malformed = ["items", "pattern", "minLength", "format"] ∧
      InDocumentOrder noted.malformed (Json.object members).MalformedAt ∧
      noted.content.keywordsAside.length = 4 := by
  intro bad branches members
  have distinct : (Json.object members).Distinct := by
    simp [members, branches, bad, Json.Distinct, Json.DistinctMembers, Json.DistinctItems]
  obtain ⟨noted, read, ordered, -, counted, -⟩ := malformed_keywords_announced_once distinct
  have names : noted.malformed = ["items", "pattern", "minLength", "format"] := by
    obtain rfl := Except.ok.inj read
    rfl
  exact ⟨distinct, noted, read, names, ordered, counted.symm.trans (by rw [names]; rfl)⟩

end SchemaCheck
