import SchemaCheck.Command.Validate

/-! The arguments of the command line. Options are given as `--name value`, `--name=value` or by a
letter; letters may share a dash, and what follows the letter of an option is its value. -/
namespace SchemaCheck

inductive Switch where
  | help
  | version
  | verbose
  | logFilter
  | configuration
  | schema
  | format
  | maxDepth
  | outDirectory
deriving DecidableEq, Repr

namespace Switch

/-- The switch is followed by a value. -/
def takesValue : Switch → Bool
  | help => false
  | version => false
  | verbose => false
  | _ => true

/-- The long name and the letter, if there is one. -/
def names : Switch → String × Option Char
  | help => ("help", some 'h')
  | version => ("version", some 'V')
  | verbose => ("verbose", some 'v')
  | logFilter => ("log-filter", none)
  | configuration => ("config", none)
  | schema => ("schema", some 's')
  | format => ("format", none)
  | maxDepth => ("max-depth", none)
  | outDirectory => ("out-dir", none)

end Switch

/-- A count in decimal digits, maybe after a plus, below `2 ^ 64`. -/
def decimalCount? (text : String) : Option Nat :=
  let digits := match text.toList with
    | '+' :: rest => rest
    | digits => digits
  let value := digits.foldl (fun n c => 10 * n + (c.toNat - '0'.toNat)) 0
  if !digits.isEmpty && digits.all Char.isDigit && value < 0x10000000000000000 then some value else none

/-- The value suits the switch. -/
def Switch.admits (value : String) : Switch → Bool
  | .format => (ReportFormat.ofName? value).isSome
  | .maxDepth => (decimalCount? value).isSome
  | .logFilter => true
  | _ => !value.isEmpty

/-- Why the arguments ask for no work. -/
inductive Stop where
  | help
  | version
  | misuse
deriving DecidableEq, Repr

/-- Values of switches, each given once, and the words that belong to no switch. -/
structure Given where
  values : List (Switch × String) := []
  verbosity : Nat := 0
  operands : List String := []
deriving Repr

namespace Given

def value? (given : Given) (switch : Switch) : Option String := given.values.lookup switch

def add (given : Given) (switch : Switch) (value : String) : Except Stop Given :=
  if (given.value? switch).isSome || !switch.admits value then .error .misuse
  else .ok { given with values := (switch, value) :: given.values }

/-- A switch without value. -/
def flag (given : Given) : Switch → Except Stop Given
  | .help => .error .help
  | .version => .error .version
  | _ => .ok { given with verbosity := given.verbosity + 1 }

def addOperands (given : Given) (limit : Nat) (operands : List String) : Except Stop Given :=
  if given.operands.length + operands.length ≤ limit then
    .ok { given with operands := given.operands ++ operands }
  else .error .misuse

end Given

/-- The switches known at a place of the command line, and how many operands may stand there;
without a limit, the first operand is not read. -/
structure Vocabulary where
  switches : List Switch
  operandLimit : Option Nat

namespace Vocabulary

def top : Vocabulary := ⟨[.help, .version, .verbose, .logFilter, .configuration], none⟩

def validate : Vocabulary :=
  ⟨[.help, .verbose, .logFilter, .configuration, .schema, .format, .maxDepth], some 1⟩

def sample : Vocabulary :=
  ⟨[.help, .verbose, .logFilter, .configuration, .outDirectory], some 0⟩

def long? (words : Vocabulary) (name : String) : Option Switch :=
  words.switches.find? fun switch => switch.names.1 == name

def letter? (words : Vocabulary) (letter : Char) : Option Switch :=
  words.switches.find? fun switch => switch.names.2 == some letter

/-- The argument can only be a switch or the mark that ends them. -/
def looksLikeSwitch (argument : String) : Bool :=
  match argument.toList with
  | '-' :: _ :: _ => true
  | _ => false

/-- Letters behind one dash: the switches so far, and an option whose value is still to come. -/
def letters (words : Vocabulary) : Given → List Char → Except Stop (Given × Option Switch)
  | given, [] => .ok (given, none)
  | given, letter :: rest =>
    match words.letter? letter with
    | none => .error .misuse
    | some switch =>
      if switch.takesValue then
        match rest with
        | [] => .ok (given, some switch)
        | '=' :: value => do .ok (← given.add switch (String.ofList value), none)
        | value => do .ok (← given.add switch (String.ofList value), none)
      else do
        letters words (← given.flag switch) rest

/-- A name behind two dashes, maybe with a value. -/
def long (words : Vocabulary) (given : Given) (word : List Char) :
    Except Stop (Given × Option Switch) :=
  let (name, attached) := word.span (· != '=')
  match words.long? (String.ofList name), attached with
  | none, _ => .error .misuse
  | some switch, [] =>
    if switch.takesValue then .ok (given, some switch)
    else do .ok (← given.flag switch, none)
  | some switch, _ :: value =>
    if switch.takesValue then do .ok (← given.add switch (String.ofList value), none)
    else .error .misuse

/-- Reads arguments, as far as operands may be read. -/
def read (words : Vocabulary) :
    Option Switch → Given → List String → Except Stop (Given × List String)
  | none, given, [] => .ok (given, [])
  | some _, _, [] => .error .misuse
  | some switch, given, argument :: rest =>
    if looksLikeSwitch argument then .error .misuse
    else do read words none (← given.add switch argument) rest
  | none, given, argument :: rest =>
    match argument.toList with
    | ['-', '-'] =>
      match words.operandLimit with
      | some limit => do .ok (← given.addOperands limit rest, [])
      | none => .error .misuse
    | '-' :: '-' :: word => do
      let (given, pending) ← words.long given word
      read words pending given rest
    | '-' :: letter :: more => do
      let (given, pending) ← words.letters given (letter :: more)
      read words pending given rest
    | _ =>
      match words.operandLimit with
      | some limit => do read words none (← given.addOperands limit [argument]) rest
      | none => .ok (given, argument :: rest)

end Vocabulary

/-- What the arguments ask for, apart from help and the version. -/
inductive Request where
  | validate (request : ValidateRequest)
  | sample (directory : Option String)
deriving DecidableEq, Repr

/-- A request and the settings that all commands share. -/
structure Invocation where
  request : Request
  configuration : Option String
  logFilter : Option String
  verbosity : Nat
deriving Repr

namespace Invocation

/-- The later of two places where a switch may be given wins. -/
def make (top inner : Given) (request : Request) : Invocation where
  request
  configuration := inner.value? .configuration <|> top.value? .configuration
  logFilter := inner.value? .logFilter <|> top.value? .logFilter
  verbosity := if inner.verbosity = 0 then top.verbosity else inner.verbosity

/-- One document and a schema. -/
def validate (top inner : Given) : Except Stop Invocation :=
  match inner.operands, inner.value? .schema with
  | [document], some schema =>
    .ok (make top inner (.validate {
      document, schema
      format := (inner.value? .format).bind ReportFormat.ofName?
      maxDepth := (inner.value? .maxDepth).bind decimalCount? }))
  | _, _ => .error .misuse

def sample (top inner : Given) : Invocation :=
  make top inner (.sample (inner.value? .outDirectory))

/-- Switches, a command, and the switches and operands of the command. -/
def ofArguments (arguments : List String) : Except Stop Invocation := do
  match ← Vocabulary.top.read none {} arguments with
  | (top, "validate" :: rest) => validate top (← Vocabulary.validate.read none {} rest).1
  | (top, "sample" :: rest) => .ok (sample top (← Vocabulary.sample.read none {} rest).1)
  | (_, "help" :: rest) =>
    if [[], ["validate"], ["sample"], ["help"]].contains rest then .error .help
    else .error .misuse
  | _ => .error .misuse

end Invocation
end SchemaCheck
