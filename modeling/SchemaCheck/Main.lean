import SchemaCheck.Command.Program

/-! The program at the command line. -/
namespace SchemaCheck.Program

/-- The text of a file, unless it cannot be read. -/
def readText? (name : String) : IO (Option String) := do
  try
    return some (← IO.FS.readFile name)
  catch _ => return none

/-- The files that an invocation may read. -/
def namedFiles (invocation : Invocation) : List String :=
  invocation.configuration.toList ++ match invocation.request with
    | .validate request => [request.schema, request.document]
    | .sample _ => []

/-- The least level of events that are shown. -/
def shown (invocation : Invocation) (level : Level) : Bool :=
  let verbosity := match invocation.logFilter with
    | some "off" => none
    | some "error" => none
    | some "info" => some 1
    | some "debug" => some 2
    | some "trace" => some 2
    | some _ => some 0
    | none => some invocation.verbosity
  match verbosity, level with
  | none, _ => false
  | some _, .warn => true
  | some n, .info => 1 ≤ n
  | some n, .debug => 2 ≤ n

def showEvent (event : Event) : IO Unit :=
  IO.eprintln (event.level.name ++ " " ++ event.message ++
    String.join (event.fields.map fun (name, value) => " " ++ name ++ "=" ++ value))

def showError (error : CommandError) : IO Unit :=
  IO.eprintln ("ERROR " ++ ": ".intercalate (error.context :: error.causes))

/-- The error that remains if an action fails. -/
def attempt (action : IO Unit) (error : CommandError) : IO (Option CommandError) := do
  try
    action
    return none
  catch _ => return some error

def perform : List Effect → IO (Option CommandError)
  | [] => return none
  | effect :: rest => do
    let error ← match effect with
      | .print text => do
        (← IO.getStdout).putStr text
        pure none
      | .makeDirectory name =>
        if name.isEmpty then pure none
        else attempt (IO.FS.createDirAll name) (.directoryNotMade name)
      | .writeFile name content =>
        attempt (IO.FS.writeFile name content) (.fileNotWritten name)
    match error with
    | some error => return some error
    | none => perform rest

def work (invocation : Invocation) : IO Nat := do
  let mut texts : List (String × String) := []
  for name in namedFiles invocation do
    if let some text ← readText? name then texts := (name, text) :: texts
  match plan (fun name => texts.lookup name) invocation with
  | .error error =>
    showError error
    return exitError
  | .ok plan =>
    (plan.events.filter fun event => shown invocation event.level).forM showEvent
    match ← perform plan.effects with
    | some error =>
      showError error
      return exitError
    | none => return plan.exitCode

def start (arguments : List String) : IO Nat := do
  let stdout ← IO.getStdout
  match Invocation.ofArguments arguments with
  | .error .help => do
    stdout.putStr helpText
    return exitValid
  | .error .version => do
    stdout.putStr versionText
    return exitValid
  | .error .misuse => do
    IO.eprintln helpText
    return exitError
  | .ok invocation => work invocation

end SchemaCheck.Program

def main (arguments : List String) : IO UInt32 := do
  return (← SchemaCheck.Program.start arguments).toUInt32
