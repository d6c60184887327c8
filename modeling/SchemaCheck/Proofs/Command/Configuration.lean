import Mathlib
import SchemaCheck.Command.Validate

/-! What a configuration file sets, and what stays as it is without it. -/
namespace SchemaCheck

namespace Yaml.Content

/-- The value under a name, if the content is a mapping that has it. -/
def value? (name : String) : Content → Option Content
  | .mapping _ entries => (namedEntries? entries).bind (·.lookup name)
  | _ => none

variable {content : Content} {known : List String} {fields : List (String × Content)}

/-- A record is a mapping whose names are known and not repeated, or nothing at all. -/
theorem fields?_eq_some (found : content.fields? known = some fields) :
    (∀ name, content.value? name = fields.lookup name) ∧ (fields.map Prod.fst).Nodup ∧
      ∀ name ∈ fields.map Prod.fst, name ∈ known := by
  cases content with
  | scalar tag style text =>
    obtain rfl : fields = [] := by
      by_cases void : style = .plain ∧ text = ""
      · obtain ⟨rfl, rfl⟩ := void
        exact (Option.some.inj found).symm
      · simp_all [fields?]
    exact ⟨fun _ => rfl, .nil, nofun⟩
  | sequence tag items => cases found
  | mapping tag entries =>
    cases listed : namedEntries? entries with
    | none => simp [fields?, listed] at found
    | some named =>
      simp only [fields?, listed, Option.ite_none_right_eq_some, Option.some.injEq] at found
      obtain ⟨⟨names, within⟩, rfl⟩ := found
      refine ⟨fun name => by rw [value?, listed, Option.bind_some], names, fun name member => ?_⟩
      simpa using List.all_eq_true.mp within name member

/-- A record with one field has that field or nothing. -/
private theorem eq_nil_or_singleton_of_fields? {name : String}
    (found : content.fields? [name] = some fields) :
    fields = [] ∨ ∃ value, fields = [(name, value)] := by
  obtain ⟨_, names, known⟩ := fields?_eq_some found
  rcases fields with _ | ⟨⟨key, value⟩, _ | ⟨⟨other, twin⟩, rest⟩⟩
  · exact .inl rfl
  · right
    obtain rfl : key = name := by simpa using known
    exact ⟨value, rfl⟩
  · have same : key = name ∧ other = name := by simp_all
    simp [same] at names

end Yaml.Content

/-- What the content sets is set, and everything else has its default. -/
structure Configuration.Follows (content : Yaml.Content) (configuration : Configuration) :
    Prop where
  limit {value : Yaml.Content}
      (given : (content.value? "validation").bind (·.value? "max_depth") = some value) :
    value.count? = some configuration.validation.maxDepth
  noLimit (silent : (content.value? "validation").bind (·.value? "max_depth") = none) :
    configuration.validation.maxDepth = 256
  format {value : Yaml.Content} (given : content.value? "output" = some value) :
    value.choice?.bind ReportFormat.ofName? = some configuration.output
  noFormat (silent : content.value? "output" = none) : configuration.output = .text

theorem ValidationOptions.limit_of_ofContent? {content : Yaml.Content} {options : ValidationOptions}
    (read : ofContent? content = some options) :
    (∀ value, content.value? "max_depth" = some value → value.count? = some options.maxDepth) ∧
      (content.value? "max_depth" = none → options.maxDepth = 256) := by
  obtain ⟨fields, found, read⟩ := Option.bind_eq_some_iff.mp read
  rw [(Yaml.Content.fields?_eq_some found).1]
  rcases Yaml.Content.eq_nil_or_singleton_of_fields? found with rfl | ⟨value, rfl⟩
  · cases read
    exact ⟨nofun, fun _ => rfl⟩
  · obtain ⟨limit, count, rfl⟩ := Option.map_eq_some_iff.mp read
    constructor
    · rintro _ ⟨⟩
      exact count
    · exact nofun

/-- Each of the two settings is read on its own. -/
theorem Configuration.settings_of_ofContent? {content : Yaml.Content}
    {configuration : Configuration} (read : ofContent? content = some configuration) :
    (match content.value? "validation" with
      | some value => ValidationOptions.ofContent? value
      | none => some {}) = some configuration.validation ∧
    (match content.value? "output" with
      | some value => value.choice?.bind ReportFormat.ofName?
      | none => some .text) = some configuration.output := by
  obtain ⟨fields, found, read⟩ := Option.bind_eq_some_iff.mp read
  rw [(Yaml.Content.fields?_eq_some found).1, (Yaml.Content.fields?_eq_some found).1]
  cases validation : fields.lookup "validation" <;> cases output : fields.lookup "output"
  all_goals
    simp only [validation, output] at read
    obtain ⟨options, limits, read⟩ := Option.bind_eq_some_iff.mp read
    obtain ⟨format, named, read⟩ := Option.bind_eq_some_iff.mp read
    cases read
    exact ⟨limits, named⟩

theorem Configuration.follows_of_ofContent? {content : Yaml.Content} {configuration : Configuration}
    (read : ofContent? content = some configuration) : configuration.Follows content := by
  obtain ⟨validation, output⟩ := settings_of_ofContent? read
  refine ⟨?limit, ?noLimit, ?format, ?noFormat⟩
  case limit =>
    intro value given
    obtain ⟨record, listed, given⟩ := Option.bind_eq_some_iff.mp given
    rw [listed] at validation
    exact (ValidationOptions.limit_of_ofContent? validation).1 value given
  case noLimit =>
    intro silent
    cases listed : content.value? "validation" with
    | none =>
      rw [listed] at validation
      rw [← Option.some.inj validation]
    | some record =>
      rw [listed] at validation silent
      exact (ValidationOptions.limit_of_ofContent? validation).2 silent
  case format =>
    intro value given
    rw [given] at output
    exact output
  case noFormat =>
    intro silent
    rw [silent] at output
    exact (Option.some.inj output).symm

/-- Where the settings of a run come from: nowhere, or a file that is a configuration. -/
inductive Configuration.Resolved (read : ReadFile) : Option String → Configuration → Prop where
  | default : Resolved read none ⟨⟨256⟩, .text⟩
  | file {name text : String} {content : Yaml.Content} {configuration : Configuration}
      (found : read name = some text) (parsed : Yaml.Content.ofText? text = some content)
      (follows : configuration.Follows content) : Resolved read (some name) configuration

theorem Configuration.resolved_of_resolve {read : ReadFile} {file : Option String}
    {configuration : Configuration} {events : List Event}
    (resolved : resolve read file = .ok (configuration, events)) :
    Resolved read file configuration := by
  cases file with
  | none =>
    cases resolved
    exact .default
  | some name =>
    cases found : read name with
    | none => simp [resolve, found] at resolved
    | some text =>
      cases parsed : ofText? text with
      | none => simp [resolve, found, parsed] at resolved
      | some loaded =>
        obtain rfl : loaded = configuration := by
          simp only [resolve, found, parsed, Except.ok.injEq, Prod.mk.injEq] at resolved
          exact resolved.1
        obtain ⟨content, parsed, read⟩ := Option.bind_eq_some_iff.mp parsed
        exact .file found parsed (follows_of_ofContent? read)

theorem Configuration.resolve_eq_error {read : ReadFile} {file : Option String}
    {fault : CommandError} (failed : resolve read file = .error fault) :
    ∃ name, file = some name ∧
      (read name = none ∧ fault = .configurationUnreadable name ∨
        ∃ text, read name = some text ∧ ofText? text = none ∧
          fault = .configurationMalformed name) := by
  cases file with
  | none => cases failed
  | some name =>
    refine ⟨name, rfl, ?_⟩
    cases found : read name with
    | none =>
      simp only [resolve, found, Except.error.injEq] at failed
      exact .inl ⟨rfl, failed.symm⟩
    | some text =>
      cases parsed : ofText? text with
      | none =>
        simp only [resolve, found, parsed, Except.error.injEq] at failed
        exact .inr ⟨text, rfl, parsed, failed.symm⟩
      | some configuration => simp [resolve, found, parsed] at failed

end SchemaCheck
