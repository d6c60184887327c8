import SchemaCheck.Uri.Host

/-! Absolute addresses, as browsers read them. Only scheme, host and port can be wrong; paths,
queries and fragments hold anything. -/
namespace SchemaCheck.Uri

inductive Scheme where
  /-- Schemes whose addresses always have a host. -/
  | web
  | file
  | other
deriving DecidableEq, Repr

def Scheme.ofName (name : String) : Scheme :=
  if ["http", "https", "ws", "wss", "ftp"].contains name then .web
  else if name == "file" then .file
  else .other

/-- Without control characters and blanks at the ends, and without tabs and line breaks. -/
def clean (text : String) : List Char :=
  let edge (c : Char) : Bool := c.toNat ≤ 0x20
  let trimmed := ((text.toList.dropWhile edge).reverse.dropWhile edge).reverse
  trimmed.filter fun c => c != '\t' && c != '\n' && c != '\r'

/-- The scheme before the first colon. -/
def scheme? (cs : List Char) : Option (Scheme × List Char) :=
  let (name, rest) := cs.span fun c => c.isAlphanum || c == '+' || c == '-' || c == '.'
  match name, rest with
  | first :: _, ':' :: rest =>
    if first.isAlpha then some (.ofName (String.ofList (name.map Char.toLower)), rest) else none
  | _, _ => none

/-- What ends the part with the host. -/
def endsAuthority (web : Bool) (c : Char) : Bool :=
  c == '/' || c == '?' || c == '#' || (web && c == '\\')

/-- What stands before the last `@`, and after it. -/
def splitLastAt : List Char → Option (List Char × List Char)
  | [] => none
  | c :: rest =>
    match splitLastAt rest with
    | some (before, after) => some (c :: before, after)
    | none => if c == '@' then some ([], rest) else none

/-- The host up to the port; a colon inside brackets belongs to it. -/
def splitHost : Bool → List Char → List Char × List Char
  | _, [] => ([], [])
  | inside, c :: rest =>
    if c == ':' && !inside then ([], c :: rest)
    else
      let inside := if c == '[' then true else if c == ']' then false else inside
      let (host, port) := splitHost inside rest
      (c :: host, port)

/-- A colon and a number up to 65535, which may be left out, or nothing; a backslash may end a
port. -/
def isPort : List Char → Bool
  | ':' :: rest =>
    let (digits, rest) := rest.span Char.isDigit
    (rest.isEmpty || rest.head? == some '\\') &&
      ((Ipv4.inRadix? 10 digits).map fun n => decide (n ≤ 65535)).getD false
  | rest => rest.isEmpty

/-- Host and port, with `credentials` before them. -/
def isHostAndPort (web credentials : Bool) (cs : List Char) : Bool :=
  let (host, port) := splitHost false cs
  isPort port &&
    (if web then Host.isHost host
      else Host.isOpaqueHost host && !(host.isEmpty && (credentials || !port.isEmpty)))

/-- User, host and port. -/
def isAuthority (web : Bool) (cs : List Char) : Bool :=
  let (part, rest) := cs.span fun c => !endsAuthority web c
  match splitLastAt part with
  | none => isHostAndPort web false part
  | some ([], after) => !(after.isEmpty && !rest.isEmpty) && isHostAndPort web false after
  | some (user, after) => isHostAndPort web (user != [':']) after

def isSlash (c : Char) : Bool := c == '/' || c == '\\'

def isDriveLetter : List Char → Bool
  | [letter, mark] => letter.isAlpha && (mark == ':' || mark == '|')
  | _ => false

/-- A file address names a host only after two slashes. -/
def isFileAddress : List Char → Bool
  | a :: b :: rest =>
    if isSlash a && isSlash b then
      let host := rest.takeWhile fun c => !endsAuthority true c
      host.isEmpty || isDriveLetter host || Host.isHost host
    else true
  | _ => true

def accepts (text : String) : Bool :=
  match scheme? (clean text) with
  | none => false
  | some (.web, rest) => isAuthority true (rest.dropWhile isSlash)
  | some (.file, rest) => isFileAddress rest
  | some (.other, '/' :: '/' :: rest) => isAuthority false rest
  | some (.other, _) => true

end SchemaCheck.Uri
