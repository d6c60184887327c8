import SchemaCheck.Pattern.Escape

/-! Reading patterns. Brackets, braces and escapes that mean nothing stand for themselves. -/
namespace SchemaCheck.Pattern

/-- The capture groups of a whole pattern. -/
structure Groups where
  count : Nat
  names : List (String × Nat)

/-- Drops a bracketed class, after its opening bracket. -/
def skipClass : List Char → List Char
  | '\\' :: _ :: rest => skipClass rest
  | ']' :: rest => rest
  | _ :: rest => skipClass rest
  | [] => []

/-- Counts groups and collects their names; a name may be given once. -/
def countGroups? : Nat → Groups → List Char → Option Groups
  | 0, groups, _ => some groups
  | fuel + 1, groups, cs =>
    match cs with
    | [] => some groups
    | '\\' :: rest => countGroups? fuel groups (rest.drop 1)
    | '[' :: rest => countGroups? fuel groups (skipClass rest)
    | '(' :: '?' :: rest =>
      match groupName? rest with
      | some (name, rest) =>
        if (groups.names.lookup name).isSome then none
        else countGroups? fuel ⟨groups.count + 1, (name, groups.count + 1) :: groups.names⟩ rest
      | none => countGroups? fuel groups rest
    | '(' :: rest => countGroups? fuel { groups with count := groups.count + 1 } rest
    | _ :: rest => countGroups? fuel groups rest

/-- Settings that a modifier group can change. -/
structure Modes where
  ignoreCase : Bool := false
  multiline : Bool := false
  dotAll : Bool := false

def Modes.set (modes : Modes) (flag : Bool) : Char → Modes
  | 'i' => { modes with ignoreCase := flag }
  | 'm' => { modes with multiline := flag }
  | _ => { modes with dotAll := flag }

def isModifier (c : Char) : Bool := c == 'i' || c == 'm' || c == 's'

/-- The letters before the colon of a modifier group: those to switch on, and after a dash those
to switch off. No letter comes twice, and a lone dash is nothing. -/
def modifiers? (modes : Modes) (cs : List Char) : Option (Modes × List Char) :=
  let (on, rest) := cs.span isModifier
  let (dash, off, rest) := match rest with
    | '-' :: rest => let (off, rest) := rest.span isModifier; (true, off, rest)
    | rest => (false, [], rest)
  match rest with
  | ':' :: rest =>
    if (on ++ off).eraseDups.length = (on ++ off).length ∧ ¬ (dash ∧ (on ++ off).isEmpty) then
      some (off.foldl (fun modes c => modes.set false c)
        (on.foldl (fun modes c => modes.set true c) modes), rest)
    else none
  | _ => none

/-- A decimal number, if there is one. -/
def decimal? (cs : List Char) : Option (Nat × List Char) :=
  let (digits, rest) := cs.span Char.isDigit
  (number? 10 digits).map fun n => (n, rest)

/-- Counts from this one on have no end. -/
def endlessCount : Nat := 0xffffffffffffffff

/-- Least and greatest count in braces, after the opening brace. -/
def braces? (cs : List Char) : Option (Nat × Option Nat × List Char) := do
  let (least, rest) ← decimal? cs
  let (most, rest) := match rest with
    | ',' :: rest =>
      match decimal? rest with
      | some (most, rest) => (if most < endlessCount then some most else none, rest)
      | none => (none, rest)
    | rest => (some least, rest)
  match rest with
  | '\x7d' :: rest => some (least, most, rest)
  | _ => none

/-- Counts before the question mark that makes them lazy. -/
def counts? : List Char → Option (Nat × Option Nat × List Char)
  | '*' :: rest => some (0, none, rest)
  | '+' :: rest => some (1, none, rest)
  | '?' :: rest => some (0, some 1, rest)
  | '\x7b' :: rest => braces? rest
  | _ => none

/-- A quantifier, if there is one; refused if its counts are in the wrong order. -/
def quantifier? (cs : List Char) : Option (Option Quantifier × List Char) :=
  match counts? cs with
  | none => some (none, cs)
  | some (least, most, rest) =>
    let (greedy, rest) := match rest with
      | '?' :: rest => (false, rest)
      | rest => (true, rest)
    match most with
    | none => some (some ⟨least, none, greedy⟩, rest)
    | some most =>
      if least ≤ most then some (some ⟨least, some (most - least), greedy⟩, rest) else none

/-- One element of a bracketed class. -/
inductive ClassAtom where
  | point (point : Nat)
  | shorthand (kind : Shorthand) (negated : Bool)

def ClassAtom.item : ClassAtom → ClassItem
  | point p => .range p p
  | shorthand kind negated => .shorthand kind negated

/-- The next element, none before the closing bracket. -/
def classAtom? (named : Bool) : List Char → Option (Option ClassAtom × List Char)
  | [] => some (none, [])
  | ']' :: rest => some (none, ']' :: rest)
  | '\\' :: 'b' :: rest => some (some (.point 0x08), rest)
  | '\\' :: 'c' :: rest =>
    match rest with
    | c :: tail =>
      if isLetter c || c.isDigit || c == '_' then some (some (.point (c.toNat % 32)), tail)
      else some (some (.point '\\'.toNat), 'c' :: rest)
    | [] => some (some (.point '\\'.toNat), 'c' :: rest)
  | '\\' :: rest =>
    match rest with
    | [] => none
    | c :: tail =>
      match shorthand? c with
      | some (kind, negated) => some (some (.shorthand kind negated), tail)
      | none => (characterEscape? named rest).map fun (point, rest) => (some (.point point), rest)
  | c :: rest => some (some (.point c.toNat), rest)

/-- The elements up to the closing bracket; `read` holds those before, last first. -/
def classTail? (named : Bool) : Nat → List ClassItem → List Char →
    Option (List ClassItem × List Char)
  | 0, _, _ => none
  | fuel + 1, read, cs => do
    match ← classAtom? named cs with
    | (none, ']' :: rest) => some (read.reverse, rest)
    | (none, _) => none
    | (some first, '-' :: rest) =>
      match ← classAtom? named rest with
      | (none, rest) => classTail? named fuel (.range 0x2D 0x2D :: first.item :: read) rest
      | (some last, rest) =>
        match first, last with
        | .point low, .point high =>
          if low ≤ high then classTail? named fuel (.range low high :: read) rest else none
        | first, last =>
          classTail? named fuel (last.item :: .range 0x2D 0x2D :: first.item :: read) rest
    | (some only, rest) => classTail? named fuel (only.item :: read) rest

/-- A bracketed class, after its opening bracket. -/
def class? (named : Bool) (cs : List Char) : Option (CharClass × List Char) :=
  let (negated, cs) := match cs with
    | '^' :: rest => (true, rest)
    | cs => (false, cs)
  (classTail? named (cs.length + 1) [] cs).map fun (items, rest) => (⟨items, negated⟩, rest)

/-- The atom after a backslash. -/
def atomEscape? (groups : Groups) (modes : Modes) (cs : List Char) : Option (Node × List Char) :=
  let named := !groups.names.isEmpty
  let character : Option (Node × List Char) :=
    (characterEscape? named cs).map fun (point, rest) => (.char point modes.ignoreCase, rest)
  match cs with
  | [] => none
  | c :: rest =>
    match shorthand? c with
    | some (kind, negated) =>
      some (.set ⟨[.shorthand kind negated], false⟩ modes.ignoreCase, rest)
    | none =>
      if '1' ≤ c ∧ c ≤ '9' then
        match decimal? cs with
        | some (index, rest) =>
          if index ≤ groups.count then some (.backreference index modes.ignoreCase, rest)
          else character
        | none => character
      else if c == 'k' && named then do
        let (name, rest) ← groupName? rest
        let index ← groups.names.lookup name
        some (.backreference index modes.ignoreCase, rest)
      else character

/-- A term read, whether it may be repeated, and the next free group. -/
structure Term where
  node : Node
  quantifiable : Bool
  nextGroup : Nat

def plainTerm (node : Node) (group : Nat) : Term := ⟨node, true, group⟩

mutual

/-- Alternatives up to a closing parenthesis or the end. -/
def disjunction? (groups : Groups) : Nat → Modes → Nat → List Char →
    Option (Node × Nat × List Char)
  | 0, _, _, _ => none
  | fuel + 1, modes, group, cs => do
    let (first, group, cs) ← terms? groups fuel modes group [] cs
    match cs with
    | '|' :: rest => do
      let (others, group, rest) ← disjunction? groups fuel modes group rest
      some (.either first others, group, rest)
    | cs => some (first, group, cs)

/-- Terms up to a bar, a closing parenthesis or the end. -/
def terms? (groups : Groups) : Nat → Modes → Nat → List Node → List Char →
    Option (Node × Nat × List Char)
  | 0, _, _, _, _ => none
  | fuel + 1, modes, group, read, cs =>
    match cs with
    | [] => some (.sequenceOf read.reverse, group, [])
    | ')' :: rest => some (.sequenceOf read.reverse, group, ')' :: rest)
    | '|' :: rest => some (.sequenceOf read.reverse, group, '|' :: rest)
    | cs => do
      let (term, rest) ← term? groups fuel modes group cs
      match ← quantifier? rest with
      | (none, rest) => terms? groups fuel modes term.nextGroup (term.node :: read) rest
      | (some q, rest) =>
        if term.quantifiable then
          let repeated := .loop term.node q.least q.extra q.greedy group term.nextGroup
          terms? groups fuel modes term.nextGroup (repeated :: read) rest
        else none

/-- The body of a parenthesis and its closing. -/
def enclosed? (groups : Groups) : Nat → Modes → Nat → List Char →
    Option (Node × Nat × List Char)
  | 0, _, _, _ => none
  | fuel + 1, modes, group, cs => do
    match ← disjunction? groups fuel modes group cs with
    | (body, group, ')' :: rest) => some (body, group, rest)
    | _ => none

def term? (groups : Groups) : Nat → Modes → Nat → List Char → Option (Term × List Char)
  | 0, _, _, _ => none
  | fuel + 1, modes, group, cs =>
    let named := !groups.names.isEmpty
    let looking (behind negated : Bool) (rest : List Char) : Option (Term × List Char) := do
      let (body, nextGroup, rest) ← enclosed? groups fuel modes group rest
      some (⟨.look behind negated body, !behind, nextGroup⟩, rest)
    let capturing (rest : List Char) : Option (Term × List Char) := do
      let (body, nextGroup, rest) ← enclosed? groups fuel modes (group + 1) rest
      some (plainTerm (.group group body) nextGroup, rest)
    match cs with
    | [] => none
    | '^' :: rest => some (⟨.start modes.multiline, false, group⟩, rest)
    | '$' :: rest => some (⟨.finish modes.multiline, false, group⟩, rest)
    | '.' :: rest => some (plainTerm (.any modes.dotAll) group, rest)
    | '*' :: _ => none
    | '+' :: _ => none
    | '?' :: _ => none
    | '\x7b' :: rest =>
      if (braces? rest).isSome then none
      else some (plainTerm (.char 0x7B modes.ignoreCase) group, rest)
    | '[' :: rest => do
      let (members, rest) ← class? named rest
      some (plainTerm (.set members modes.ignoreCase) group, rest)
    | '(' :: '?' :: '=' :: rest => looking false false rest
    | '(' :: '?' :: '!' :: rest => looking false true rest
    | '(' :: '?' :: '<' :: '=' :: rest => looking true false rest
    | '(' :: '?' :: '<' :: '!' :: rest => looking true true rest
    | '(' :: '?' :: '<' :: rest => do
      let (_, rest) ← groupName? ('<' :: rest)
      capturing rest
    | '(' :: '?' :: ':' :: rest => do
      let (body, nextGroup, rest) ← enclosed? groups fuel modes group rest
      some (plainTerm body nextGroup, rest)
    | '(' :: '?' :: rest => do
      let (modes, rest) ← modifiers? modes rest
      let (body, nextGroup, rest) ← enclosed? groups fuel modes group rest
      some (plainTerm body nextGroup, rest)
    | '(' :: rest => capturing rest
    | '\\' :: 'b' :: rest => some (⟨.wordBoundary false, false, group⟩, rest)
    | '\\' :: 'B' :: rest => some (⟨.wordBoundary true, false, group⟩, rest)
    | '\\' :: 'c' :: rest =>
      match rest with
      | c :: tail =>
        if isLetter c then some (plainTerm (.char (c.toNat % 32) modes.ignoreCase) group, tail)
        else some (plainTerm (.char 0x5C modes.ignoreCase) group, 'c' :: rest)
      | [] => some (plainTerm (.char 0x5C modes.ignoreCase) group, 'c' :: rest)
    | '\\' :: rest => do
      let (node, rest) ← atomEscape? groups modes rest
      some (plainTerm node group, rest)
    | c :: rest => some (plainTerm (.char c.toNat modes.ignoreCase) group, rest)

end

end SchemaCheck.Pattern
