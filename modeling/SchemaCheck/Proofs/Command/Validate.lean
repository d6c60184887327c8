import Mathlib
import SchemaCheck.Command.Program
import SchemaCheck.Proofs.Command.Configuration

/-! How a validation at the command line ends: with the first step that fails and nothing printed,
or with the rendered report and an exit code that says whether it is empty. -/
namespace SchemaCheck

namespace Report

/-- The text says that there are no issues: it is the banner, or an object whose first member says
so. -/
def Announces : ReportFormat → String → Prop
  | .text, text => text = validBanner ++ "\n"
  | .json, text => "\x7b\n  \"valid\": true".toList <+: text.toList

/-- The first character of every announcement in the format. -/
def mark : ReportFormat → Char
  | .text => '✓'
  | .json => '\x7b'

private theorem Announces.head? {text : String} {format : ReportFormat}
    (announced : Announces format text) : text.toList.head? = some (mark format) := by
  cases format with
  | text =>
    rw [Announces] at announced
    rw [announced, String.toList_append, List.head?_append]
    decide
  | json =>
    obtain ⟨rest, spelled⟩ := announced
    have brace : "\x7b\n  \"valid\": true".toList.head? = some '\x7b' := by decide
    rw [← spelled, List.head?_append, brace]
    rfl

/-- The verdict comes first, so the issues do not matter to how the text starts. -/
theorem toList_renderJson (report : Report) :
    report.renderJson.toList = "\x7b\n  \"valid\": ".toList ++
      ((Json.bool report.isEmpty).scalar ++
        (Json.prettyMembers 0 [("issues", report.toJson)] ++ "\n".toList)) := by
  have opening : "\x7b\n  \"valid\": ".toList =
      '\x7b' :: (Json.lineBreak 1 ++ Json.quoted "valid" ++ [':', ' ']) := by decide
  rw [renderJson, String.toList_append, Json.pretty, String.toList_ofList, verdictJson, opening]
  simp only [Json.prettyChars, List.cons_append, List.append_assoc, List.nil_append]

private theorem head?_renderText {report : Report} (issues : report ≠ []) :
    report.renderText.toList.head? = some 'V' := by
  rw [renderText, if_neg (by simpa using issues)]
  -- The equation of `heading` is slow to derive, since it unfolds the count of issues.
  delta heading
  simp only [String.toList_append, List.head?_append]
  rfl

theorem announces_renderJson_iff (report : Report) :
    Announces .json report.renderJson ↔ report = [] := by
  have opening : "\x7b\n  \"valid\": true".toList =
      "\x7b\n  \"valid\": ".toList ++ "true".toList := by decide
  rw [Announces, toList_renderJson, opening, List.prefix_append_right_inj]
  cases report with
  | nil => exact iff_of_true (List.prefix_append ..) rfl
  | cons issue rest => exact iff_of_false (by simp [Json.scalar]) (List.cons_ne_nil _ _)

/-- With issues, a report announces itself in no format, whichever it is rendered in. -/
theorem eq_nil_of_announces_render {report : Report} {format other : ReportFormat}
    (announced : Announces other (report.render format)) : report = [] := by
  by_contra issues
  have first := announced.head?
  cases format with
  | text =>
    rw [render, head?_renderText issues] at first
    cases other <;> simp [mark] at first
  | json =>
    cases other with
    | text =>
      have brace : "\x7b\n  \"valid\": ".toList.head? = some '\x7b' := by decide
      rw [render, toList_renderJson, List.head?_append, brace] at first
      simp [mark] at first
    | json => exact issues (report.announces_renderJson_iff.mp announced)

theorem announces_render_iff (report : Report) (format : ReportFormat) :
    Announces format (report.render format) ↔ report = [] := by
  constructor
  · exact eq_nil_of_announces_render
  · rintro rfl
    cases format with
    | text => rw [Announces, render, renderText, List.isEmpty_nil, if_pos rfl]
    | json => exact (announces_renderJson_iff []).mpr rfl

private theorem not_announces_empty (format : ReportFormat) : ¬ Announces format "" := by
  intro announced
  have first := announced.head?
  simp at first

end Report

/-- How the command ends: with the first of its steps that fails, or with an exit code and the text
that it prints. -/
inductive ValidateRequest.Ends (read : ReadFile) (request : ValidateRequest)
    (configuration : Configuration) : Except CommandError (Nat × String) → Prop where
  | schemaFile {error : InputError} (fault : loadValue read request.schema = .error error) :
      Ends read request configuration (.error (.schemaNotLoaded request.schema error))
  | schemaRoot {value : Json} {error : NotASchema}
      (loaded : loadValue read request.schema = .ok value)
      (fault : Schema.ofJson value = .error error) :
      Ends read request configuration (.error (.schemaNotUnderstood request.schema error))
  | documentFile {value : Json} {schema : Noted Schema} {error : InputError}
      (loaded : loadValue read request.schema = .ok value)
      (understood : Schema.ofJson value = .ok schema)
      (fault : loadValue read request.document = .error error) :
      Ends read request configuration (.error (.documentNotLoaded request.document error))
  | reported {value document : Json} {schema : Noted Schema} {found : Report}
      (loaded : loadValue read request.schema = .ok value)
      (understood : Schema.ofJson value = .ok schema)
      (given : loadValue read request.document = .ok document)
      (judged : found = report ⟨request.maxDepth.getD configuration.validation.maxDepth⟩ document
        schema.content) :
      Ends read request configuration (.ok (if found = [] then 0 else 1,
        found.render (request.format.getD configuration.output)))

theorem ValidateRequest.ends_run (read : ReadFile) (request : ValidateRequest)
    (configuration : Configuration) :
    request.Ends read configuration
      ((request.run read configuration).map fun completion =>
        (completion.exitCode, completion.stdout)) := by
  -- One split for each step; a step that fails decides the run, whatever the later ones would do.
  cases loaded : loadValue read request.schema with
  | error fault =>
    have ran : request.run read configuration =
        .error (.schemaNotLoaded request.schema fault) := by
      simp only [run, load, loaded, Except.mapError, bind, Except.bind]
    rw [ran]
    exact .schemaFile loaded
  | ok value =>
    cases understood : Schema.ofJson value with
    | error fault =>
      have ran : request.run read configuration =
          .error (.schemaNotUnderstood request.schema fault) := by
        simp only [run, load, loaded, understood, Except.mapError, bind, Except.bind]
      rw [ran]
      exact .schemaRoot loaded understood
    | ok schema =>
      cases given : loadValue read request.document with
      | error fault =>
        have ran : request.run read configuration =
            .error (.documentNotLoaded request.document fault) := by
          simp only [run, load, loaded, understood, given, Except.mapError, bind, Except.bind]
        rw [ran]
        exact .documentFile loaded understood given
      | ok document =>
        have ran : request.run read configuration =
            .ok (request.complete configuration schema document) := by
          simp only [run, load, loaded, understood, given, Except.mapError, bind, Except.bind]
        have code : (request.complete configuration schema document).exitCode =
            if report (request.options configuration) document schema.content = [] then 0
            else 1 := by
          simp only [complete, List.isEmpty_iff]
          rfl
        rw [ran, Except.map, code]
        exact .reported loaded understood given rfl

/-- How a run of the program ends that is asked to validate: the error, if there is one, the exit
code, and what is printed. The configuration file comes before the steps of the command. -/
inductive Program.Ends (read : ReadFile) (request : ValidateRequest) :
    Option String → Option CommandError → Nat → String → Prop where
  | configurationUnreadable {file : String} (fault : read file = none) :
      Ends read request (some file) (some (.configurationUnreadable file)) 2 ""
  | configurationMalformed {file text : String} (found : read file = some text)
      (fault : Configuration.ofText? text = none) :
      Ends read request (some file) (some (.configurationMalformed file)) 2 ""
  | failed {file : Option String} {configuration : Configuration} {error : CommandError}
      (resolved : Configuration.Resolved read file configuration)
      (ending : request.Ends read configuration (.error error)) :
      Ends read request file (some error) 2 ""
  | reported {file : Option String} {configuration : Configuration} {code : Nat} {text : String}
      (resolved : Configuration.Resolved read file configuration)
      (ending : request.Ends read configuration (.ok (code, text))) :
      Ends read request file none code text

/-- A run announces that there are no issues if and only if it ends with code zero. -/
theorem Program.Ends.announces_iff {read : ReadFile} {request : ValidateRequest}
    {file : Option String} {error : Option CommandError} {code : Nat} {text : String}
    (ending : Ends read request file error code text) :
    code = 0 ↔ ∃ format, Report.Announces format text := by
  cases ending with
  | reported resolved ending =>
    cases ending with
    | @reported _ _ _ found =>
      constructor
      · intro valid
        have empty : found = [] := by simpa using valid
        exact ⟨_, (found.announces_render_iff _).mpr empty⟩
      · rintro ⟨other, announced⟩
        rw [if_pos (Report.eq_nil_of_announces_render announced)]
  | _ =>
    refine iff_of_false (by decide) ?_
    rintro ⟨format, announced⟩
    exact Report.not_announces_empty format announced

theorem Program.ends_run (tree : FileTree) {arguments : List String} {invocation : Invocation}
    {request : ValidateRequest} (parsed : Invocation.ofArguments arguments = .ok invocation)
    (asked : invocation.request = .validate request) :
    ∃ performed code, run tree arguments = (performed, code) ∧ performed.tree = tree ∧
      Ends tree.read? request invocation.configuration performed.error code performed.stdout := by
  have ended := request.ends_run tree.read?
  cases resolved : Configuration.resolve tree.read? invocation.configuration with
  | error fault =>
    have ran : run tree arguments = ({ tree, error := some fault }, 2) := by
      simp only [run, parsed, plan, resolved, bind, Except.bind]
      rfl
    obtain ⟨file, named, cause⟩ := Configuration.resolve_eq_error resolved
    refine ⟨_, _, ran, rfl, ?_⟩
    rw [named]
    rcases cause with ⟨missing, rfl⟩ | ⟨text, found, malformed, rfl⟩
    · exact .configurationUnreadable missing
    · exact .configurationMalformed found malformed
  | ok found =>
    obtain ⟨configuration, events⟩ := found
    have settings := Configuration.resolved_of_resolve resolved
    have ending := ended configuration
    cases finished : request.run tree.read? configuration with
    | error fault =>
      have ran : run tree arguments = ({ tree, error := some fault }, 2) := by
        simp only [run, parsed, plan, resolved, asked, finished, bind, Except.bind]
        rfl
      rw [finished] at ending
      exact ⟨_, _, ran, rfl, .failed settings ending⟩
    | ok completion =>
      have ran : run tree arguments =
          ({ tree, stdout := completion.stdout }, completion.exitCode) := by
        simp only [run, parsed, plan, resolved, asked, finished, bind, Except.bind]
        simp [Effect.performAll]
      rw [finished] at ending
      exact ⟨_, _, ran, rfl, .reported settings ending⟩

/-- With any files, request and configuration, validating loads the schema, reads it and loads the
document, and ends with the first of these that fails; otherwise it prints the rendered report, and
its code is zero for an empty one and one for others. A run of the program does the same with the
configuration of its file; when it fails, it prints nothing, changes no file and ends with code two.
Code zero, the banner and the verdict `valid` come together. -/
theorem validate_command_contract (tree : FileTree) {arguments : List String}
    {invocation : Invocation} {request : ValidateRequest}
    (parsed : Invocation.ofArguments arguments = .ok invocation)
    (asked : invocation.request = .validate request) :
    (∀ (read : ReadFile) (task : ValidateRequest) (configuration : Configuration),
      task.Ends read configuration ((task.run read configuration).map fun completion =>
        (completion.exitCode, completion.stdout))) ∧
    (∃ performed code, Program.run tree arguments = (performed, code) ∧ performed.tree = tree ∧
      Program.Ends tree.read? request invocation.configuration performed.error code
        performed.stdout ∧
      (code = 0 ↔ ∃ format, Report.Announces format performed.stdout)) ∧
    ∀ (found : Report) (format : ReportFormat),
      Report.Announces format (found.render format) ↔ found = [] := by
  obtain ⟨performed, code, ran, kept, ending⟩ := Program.ends_run tree parsed asked
  refine ⟨fun read task => task.ends_run read, ?_, fun found format =>
    found.announces_render_iff format⟩
  exact ⟨performed, code, ran, kept, ending, ending.announces_iff⟩

/-- The file of the configuration asks for JSON; without the document nothing is printed. -/
theorem validate_command_contract_two_trees :
    let arguments :=
      ["validate", "-s", "s.json", "d.json", "--config", "c.yaml", "--max-depth", "3"]
    let request : ValidateRequest := ⟨"d.json", "s.json", none, some 3⟩
    let files := [("s.json", "\x7b\"type\":\"null\"\x7d"), ("c.yaml", "output: json\n")]
    let poor := FileTree.ofFiles files
    let rich := FileTree.ofFiles (("d.json", "null") :: files)
    ((Program.run rich arguments).1.stdout, (Program.run rich arguments).2) =
        ("\x7b\n  \"valid\": true,\n  \"issues\": []\n\x7d\n", 0) ∧
      ((Program.run poor arguments).1.stdout, (Program.run poor arguments).2) = ("", 2) ∧
      (∃ performed code, Program.run rich arguments = (performed, code) ∧ performed.tree = rich ∧
        Program.Ends rich.read? request (some "c.yaml") performed.error code performed.stdout ∧
        (code = 0 ↔ ∃ format, Report.Announces format performed.stdout)) ∧
      ∃ performed code, Program.run poor arguments = (performed, code) ∧ performed.tree = poor ∧
        Program.Ends poor.read? request (some "c.yaml") performed.error code performed.stdout ∧
        (code = 0 ↔ ∃ format, Report.Announces format performed.stdout) := by
  intro arguments request files poor rich
  have parsed : Invocation.ofArguments arguments =
      .ok ⟨.validate request, some "c.yaml", none, 0⟩ := rfl
  exact ⟨by decide +kernel, by decide +kernel, (validate_command_contract rich parsed rfl).2.1,
    (validate_command_contract poor parsed rfl).2.1⟩

end SchemaCheck
