import SchemaCheck.Command.Arguments
import SchemaCheck.Command.Effect

/-! The whole program: from arguments to what is printed and written, and the exit code. -/
namespace SchemaCheck

/-- What a successful command does. -/
structure Plan where
  effects : List Effect
  exitCode : Nat
  events : List Event := []

namespace Program

def versionText : String := "devkit 0.1.0\n"

def helpText : String :=
  "Developer toolbox: structural JSON Schema validation.\n\n" ++
  "Usage: devkit [OPTIONS] <COMMAND>\n\n" ++
  "Commands:\n" ++
  "  validate  Validate a JSON or YAML document against a schema\n" ++
  "  sample    Print (or write) a sample schema and a conforming document\n" ++
  "  help      Print this message\n\n" ++
  "Options:\n" ++
  "  -v, --verbose...               Enable verbose output\n" ++
  "      --log-filter <LOG_FILTER>  Explicit tracing filter\n" ++
  "      --config <CONFIG>          Path to a YAML or JSON configuration file\n" ++
  "  -h, --help                     Print help\n" ++
  "  -V, --version                  Print version\n\n" ++
  "Usage: devkit validate [--format <FORMAT>] [--max-depth <MAX_DEPTH>] " ++
  "--schema <SCHEMA> <DOCUMENT>\n" ++
  "Usage: devkit sample [--out-dir <OUT_DIR>]\n"

/-- The configuration is read before any command. -/
def plan (read : ReadFile) (invocation : Invocation) : Except CommandError Plan := do
  let (configuration, noted) ← Configuration.resolve read invocation.configuration
  match invocation.request with
  | .validate request =>
    let completion ← request.run read configuration
    .ok ⟨[.print completion.stdout], completion.exitCode, noted ++ completion.events⟩
  | .sample directory => .ok ⟨Sample.effects directory, exitValid, noted⟩

/-- A command ends with its own code, or with that of errors if it fails. -/
def run (tree : FileTree) (arguments : List String) : Performed × Nat :=
  match Invocation.ofArguments arguments with
  | .error .help => ({ tree, stdout := helpText }, exitValid)
  | .error .version => ({ tree, stdout := versionText }, exitValid)
  | .error .misuse => ({ tree }, exitError)
  | .ok invocation =>
    match plan tree.read? invocation with
    | .error error => ({ tree, error := some error }, exitError)
    | .ok plan =>
      let performed := Effect.performAll plan.effects { tree }
      (performed, if performed.error.isSome then exitError else plan.exitCode)

end Program
end SchemaCheck
