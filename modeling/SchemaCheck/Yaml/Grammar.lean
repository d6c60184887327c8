import SchemaCheck.Yaml.Tree

/-! How tokens make up a document. -/
namespace SchemaCheck.Yaml

/-- What the handles of tags stand for. -/
abbrev Handles := List (String × String)

namespace Handles

/-- The handles that every document knows. -/
def standard : Handles := [("!", "!"), ("!!", "tag:yaml.org,2002:")]

end Handles

/-- A tag in full; a tag without handle is given in full. -/
def fullTag? (handles : Handles) (handle name : String) : Option String :=
  if handle.isEmpty then some name
  else (handles.lookup handle).map (· ++ name)

/-- An anchor and a tag in either order, each at most once. -/
def properties? (handles : Handles) (tokens : List Token) :
    Option (Properties String × List Token) := do
  match tokens with
  | .anchor anchor :: .tag handle name :: rest =>
    some ({ anchor := some anchor, tag := some (← fullTag? handles handle name) }, rest)
  | .tag handle name :: .anchor anchor :: rest =>
    some ({ anchor := some anchor, tag := some (← fullTag? handles handle name) }, rest)
  | .anchor anchor :: rest => some ({ anchor := some anchor }, rest)
  | .tag handle name :: rest => some ({ tag := some (← fullTag? handles handle name) }, rest)
  | tokens => some ({}, tokens)

/-- The tag of one exclamation mark leaves a scalar untagged. -/
def taggedScalar (properties : Properties String) (style : Style) (text : String) :
    Tree String :=
  if properties.tag == some "!" then .scalar { properties with tag := none } style text
  else .scalar properties style text

/-- An anchor or a tag may stand before nothing. -/
def taggedEmpty? (properties : Properties String) (tokens : List Token) :
    Option (Tree String × List Token) :=
  if properties.anchor.isSome || properties.tag.isSome then
    some (.scalar properties .plain "", tokens)
  else none

/-- Where a node stands. -/
inductive Place where
  | flow
  | block
  /-- The key or value of a block mapping, where a sequence needs no indentation. -/
  | member
deriving DecidableEq

/-- One of these tokens comes next. -/
def startsWith (tokens : List Token) (any : List Token) : Bool :=
  tokens.head?.any any.contains

mutual

/-- A node and the tokens after it. -/
def node? (handles : Handles) : Nat → Place → List Token → Option (Tree String × List Token)
  | 0, _, _ => none
  | fuel + 1, place, tokens =>
    match tokens with
    | .alias name :: rest => some (.alias name, rest)
    | tokens => do
      let (properties, tokens) ← properties? handles tokens
      match place, tokens with
      | .member, .entry :: _ => do
        let (items, rest) ← indentlessItems? handles fuel [] tokens
        some (.sequence properties items, rest)
      | _, .scalar style text :: rest => some (taggedScalar properties style text, rest)
      | _, .flowSequence :: rest => do
        let (items, rest) ← flowItems? handles fuel [] rest
        some (.sequence properties items, rest)
      | _, .flowMapping :: rest => do
        let (entries, rest) ← flowEntries? handles fuel [] rest
        some (.mapping properties entries, rest)
      | place, .blockSequence :: rest =>
        if place = .flow then taggedEmpty? properties tokens
        else do
          let (items, rest) ← blockItems? handles fuel [] rest
          some (.sequence properties items, rest)
      | place, .blockMapping :: rest =>
        if place = .flow then taggedEmpty? properties tokens
        else do
          let (entries, rest) ← blockEntries? handles fuel [] rest
          some (.mapping properties entries, rest)
      | _, tokens => taggedEmpty? properties tokens

/-- A node, or an empty one if one of the tokens `ends` comes next. -/
def nodeUnless? (handles : Handles) :
    Nat → Place → List Token → List Token → Option (Tree String × List Token)
  | 0, _, _, _ => none
  | fuel + 1, place, ends, tokens =>
    if startsWith tokens ends then some (.empty, tokens)
    else node? handles fuel place tokens

/-- What follows a key, if it is a value. -/
def valueUnless? (handles : Handles) :
    Nat → Place → List Token → List Token → Option (Tree String × List Token)
  | 0, _, _, _ => none
  | fuel + 1, place, ends, tokens =>
    match tokens with
    | .value :: rest => nodeUnless? handles fuel place ends rest
    | tokens => some (.empty, tokens)

/-- The items of an indented block sequence and its end; `read` is reversed. -/
def blockItems? (handles : Handles) :
    Nat → List (Tree String) → List Token → Option (List (Tree String) × List Token)
  | 0, _, _ => none
  | fuel + 1, read, tokens =>
    match tokens with
    | .entry :: rest => do
      let (item, rest) ← nodeUnless? handles fuel .block [.entry, .blockEnd] rest
      blockItems? handles fuel (item :: read) rest
    | .blockEnd :: rest => some (read.reverse, rest)
    | _ => none

/-- The items of a sequence that has no indentation of its own. -/
def indentlessItems? (handles : Handles) :
    Nat → List (Tree String) → List Token → Option (List (Tree String) × List Token)
  | 0, _, _ => none
  | fuel + 1, read, tokens =>
    match tokens with
    | .entry :: rest => do
      let (item, rest) ← nodeUnless? handles fuel .block [.entry, .key, .value, .blockEnd] rest
      indentlessItems? handles fuel (item :: read) rest
    | tokens => some (read.reverse, tokens)

/-- The entries of a block mapping and its end. -/
def blockEntries? (handles : Handles) :
    Nat → List (Tree String × Tree String) → List Token →
      Option (List (Tree String × Tree String) × List Token)
  | 0, _, _ => none
  | fuel + 1, read, tokens =>
    match tokens with
    | .key :: rest => do
      let (key, rest) ← nodeUnless? handles fuel .member [.key, .value, .blockEnd] rest
      let (value, rest) ← valueUnless? handles fuel .member [.key, .value, .blockEnd] rest
      blockEntries? handles fuel ((key, value) :: read) rest
    | .blockEnd :: rest => some (read.reverse, rest)
    | _ => none

/-- The items of a flow sequence and its end. An item with a key is a mapping of one entry; if
the key is empty, the token after its mark is passed over. -/
def flowItems? (handles : Handles) :
    Nat → List (Tree String) → List Token → Option (List (Tree String) × List Token)
  | 0, _, _ => none
  | fuel + 1, read, tokens =>
    match tokens with
    | .flowSequenceEnd :: rest => some (read.reverse, rest)
    | tokens => do
      let tokens ← match read, tokens with
        | [], tokens => some tokens
        | _, .separator :: rest => some rest
        | _, _ => none
      match tokens with
      | .flowSequenceEnd :: rest => some (read.reverse, rest)
      | .key :: rest => do
        let ends := [.separator, .flowSequenceEnd]
        let (key, rest) ←
          if startsWith rest (.value :: ends) then some (.empty, rest.drop 1)
          else node? handles fuel .flow rest
        let (value, rest) ← valueUnless? handles fuel .flow ends rest
        flowItems? handles fuel (.mapping {} [(key, value)] :: read) rest
      | tokens => do
        let (item, rest) ← node? handles fuel .flow tokens
        flowItems? handles fuel (item :: read) rest

/-- The entries of a flow mapping and its end; without a mark or a colon, a key has no value. -/
def flowEntries? (handles : Handles) :
    Nat → List (Tree String × Tree String) → List Token →
      Option (List (Tree String × Tree String) × List Token)
  | 0, _, _ => none
  | fuel + 1, read, tokens =>
    match tokens with
    | .flowMappingEnd :: rest => some (read.reverse, rest)
    | tokens => do
      let tokens ← match read, tokens with
        | [], tokens => some tokens
        | _, .separator :: rest => some rest
        | _, _ => none
      match tokens with
      | .flowMappingEnd :: rest => some (read.reverse, rest)
      | .key :: rest => do
        let ends := [.separator, .flowMappingEnd]
        let (key, rest) ← nodeUnless? handles fuel .flow (.value :: ends) rest
        let (value, rest) ← valueUnless? handles fuel .flow ends rest
        flowEntries? handles fuel ((key, value) :: read) rest
      | tokens => do
        let (key, rest) ← node? handles fuel .flow tokens
        flowEntries? handles fuel ((key, .empty) :: read) rest

end

/-- The directives before a document: at most one version, which is 1.1 or 1.2, and handles, each
given once. -/
def directives? : Bool → Handles → List Token → Option (Handles × List Token)
  | versioned, handles, .version major minor :: rest =>
    if versioned || major != 1 || (minor != 1 && minor != 2) then none
    else directives? true handles rest
  | versioned, handles, .handle name expansion :: rest =>
    if (handles.lookup name).isSome then none
    else directives? versioned ((name, expansion) :: handles) rest
  | _, handles, tokens => some (handles ++ Handles.standard, tokens)

def isDirective : Token → Bool
  | .version _ _ => true
  | .handle _ _ => true
  | _ => false

/-- A document with or without its mark, and the tokens after it. -/
def document? (tokens : List Token) : Option (Tree String × List Token) := do
  let fuel := 4 * tokens.length + 4
  if tokens.head?.any fun token => isDirective token || token == .documentStart then
    match ← directives? false [] tokens with
    | (handles, .documentStart :: rest) =>
      if rest.head?.all fun token => isDirective token || token == .documentStart ||
          token == .documentEnd then
        some (.empty, rest)
      else node? handles fuel .block rest
    | _ => none
  else node? Handles.standard fuel .block tokens

/-- The one document that the tokens make up; a text without tokens is an empty document. -/
def Tree.ofTokens? (tokens : List Token) : Option (Tree String) := do
  if tokens.isEmpty then some .empty
  else
    let (tree, rest) ← document? tokens
    if rest.all (· == .documentEnd) then some tree else none

end SchemaCheck.Yaml
