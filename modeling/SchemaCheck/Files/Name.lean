/-! Names of files: words between slashes. -/
namespace SchemaCheck.Files

/-- The pieces between slashes, some of which may be empty. -/
def pieces (name : String) : List String :=
  go [] name.toList
where
  /-- Reads on after a piece that is reversed. -/
  go : List Char → List Char → List String
    | piece, [] => [String.ofList piece.reverse]
    | piece, c :: rest =>
      if c == '/' then String.ofList piece.reverse :: go [] rest else go (c :: piece) rest

/-- What follows the last dot of a file's name, unless the name starts with that dot. -/
def extension? (name : String) : Option String := do
  let word := (← (pieces name).getLast?).toList
  let tail := word.reverse.takeWhile (· != '.')
  if tail.length + 1 < word.length then some (String.ofList tail.reverse) else none

/-- The name of an entry of a directory. -/
def join (directory entry : String) : String :=
  if directory.isEmpty || directory.toList.getLast? == some '/' then directory ++ entry
  else directory ++ "/" ++ entry

end SchemaCheck.Files
