import SchemaCheck.Validation.Local

/-! Evaluating a document against a schema. Combinators and literals come first, then the type; a
value of the wrong type is looked at no further. Every descent spends one level of a budget, and
what lies beyond it is reported instead of being walked. -/
namespace SchemaCheck

/-- The members that `properties` does not declare. -/
def Schema.extras (schema : Schema) (members : List (String × Json)) : List (String × Json) :=
  members.filter fun (key, _) => !schema.declares key

/-- Declared properties that are present, in the order of declaration. -/
def Schema.declaredChildren (schema : Schema) (members : List (String × Json)) :
    List (Step × Json × Schema) :=
  schema.declared.filterMap fun (key, child) =>
    (members.lookup key).map fun value => (.key key, value, child)

def Schema.extraChildren (schema : Schema) (members : List (String × Json)) :
    List (Step × Json × Schema) :=
  match schema.additional with
  | some (.schema child) => (schema.extras members).map fun (key, value) => (.key key, value, child)
  | _ => []

def Schema.itemChildren (schema : Schema) (items : List Json) : List (Step × Json × Schema) :=
  match schema.items with
  | some child => items.mapIdx fun position item => (.index position, item, child)
  | none => []

/-- The values below a value, each with its place and the schema it has to meet. -/
def Schema.children (schema : Schema) : Json → List (Step × Json × Schema)
  | .object members => schema.declaredChildren members ++ schema.extraChildren members
  | .array items => schema.itemChildren items
  | _ => []

/-- Required names that are no keys. -/
def Schema.missingNames (schema : Schema) (members : List (String × Json)) : List String :=
  (schema.assertions.required.getD []).filter fun name => (members.lookup name).isNone

def Schema.forbiddenNames (schema : Schema) (members : List (String × Json)) : List String :=
  match schema.additional with
  | some (.allowed false) => (schema.extras members).map Prod.fst
  | _ => []

def keyFindings (path : Path) (violation : Violation) (names : List String) : Outcome :=
  ⟨names.map fun name => ⟨path.child (.key name), violation⟩, []⟩

/-- What a value's own kind brings up before its children are walked. -/
def Schema.ownOutcome (schema : Schema) (value : Json) (path : Path) : Outcome :=
  match value with
  | .object members =>
    keyFindings path .missing (schema.missingNames members) ++
      .located path (schema.assertions.countViolations members.length .minProperties
        .maxProperties .tooFewProperties .tooManyProperties)
  | .array items =>
    .located path (schema.assertions.countViolations items.length .minItems .maxItems
      .tooFewItems .tooManyItems)
  | .string text => schema.assertions.stringOutcome text path
  | .number number => .located path (schema.assertions.numberViolations number)
  | _ => .empty

/-- Extra members that are not allowed, after all children. -/
def Schema.closingOutcome (schema : Schema) (value : Json) (path : Path) : Outcome :=
  match value with
  | .object members => keyFindings path .notAllowed (schema.forbiddenNames members)
  | _ => .empty

/-- A way to evaluate one value against one schema at one place. -/
abbrev Evaluation := Json → Schema → Path → Outcome

/-- Tries the branches up to the first that passes. -/
def firstPassing (run : Schema → Outcome) : List Schema → Bool × List Event
  | [] => (false, [])
  | branch :: rest =>
    let outcome := run branch
    if outcome.passes then (true, outcome.events)
    else
      let (found, events) := firstPassing run rest
      (found, outcome.events ++ events)

/-- No branches, or one of them passes. What failed branches find is dropped. -/
def anyOutcome (run : Schema → Outcome) (path : Path) (branches : List Schema) : Outcome :=
  if branches.isEmpty then .empty
  else
    let (found, events) := firstPassing run branches
    ⟨if found then [] else [⟨path, .matchesNoBranch⟩], events⟩

/-- No branches, or exactly one of them passes; all are tried. -/
def oneOutcome (run : Schema → Outcome) (path : Path) (branches : List Schema) : Outcome :=
  if branches.isEmpty then .empty
  else
    let outcomes := branches.map run
    ⟨if outcomes.countP Outcome.passes = 1 then [] else [⟨path, .matchesNotOneBranch⟩],
      outcomes.flatMap Outcome.events⟩

def Schema.branchOutcome (schema : Schema) (run : Schema → Outcome) (path : Path) : Outcome :=
  .concat ((schema.allOf.getD []).map run)
    ++ anyOutcome run path (schema.anyOf.getD [])
    ++ oneOutcome run path (schema.oneOf.getD [])

/-- One node, with `run` for everything below it. -/
def Schema.nodeOutcome (schema : Schema) (run : Evaluation) (value : Json) (path : Path) :
    Outcome :=
  let general := schema.branchOutcome (fun branch => run value branch path) path
    ++ .located path (schema.assertions.literalViolations value)
  match schema.assertions.mismatch? value with
  | some violation => general ++ .located path [violation]
  | none =>
    general ++ schema.ownOutcome value path
      ++ .concat ((schema.children value).map fun (step, child, below) =>
        run child below (path.child step))
      ++ schema.closingOutcome value path

/-- Evaluation with so many levels left; `limit` is what the event reports. -/
def evaluate (limit : Nat) : Nat → Evaluation
  | 0, _, _, path => ⟨[⟨path, .tooDeep⟩], [.depthReached path limit]⟩
  | budget + 1, value, schema, path => schema.nodeOutcome (evaluate limit budget) value path

end SchemaCheck
