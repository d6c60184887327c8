import SchemaCheck.Files.Name

/-! Texts in a tree of directories, and the places that names lead to. -/
namespace SchemaCheck

/-- The words on the way from the top of the tree. -/
abbrev Place := List String

structure FileTree where
  files : List (Place × String) := []
  /-- Directories that need not hold anything. -/
  directories : List Place := []

namespace FileTree

/-- A tree of files alone. -/
def ofFiles (files : List (String × String)) : FileTree where
  files := files.map fun (name, content) => (Files.pieces name, content)

def file? (tree : FileTree) (place : Place) : Option String := tree.files.lookup place

/-- The top, a known directory, or something that a file lies below. -/
def isDirectory (tree : FileTree) (place : Place) : Bool :=
  place.isEmpty || tree.directories.any (place.isPrefixOf ·) ||
    tree.files.any fun file => place.isPrefixOf file.1 && place.length < file.1.length

/-- Goes on from a place. Every step starts from a directory of the tree, also one back. -/
def walk? (tree : FileTree) : Place → List String → Option Place
  | here, [] => some here
  | here, word :: rest =>
    if !tree.isDirectory here then none
    else if word.isEmpty || word == "." then walk? tree here rest
    else if word == ".." then if here.isEmpty then none else walk? tree here.dropLast rest
    else walk? tree (here ++ [word]) rest

/-- Where a name leads from the top. -/
def place? (tree : FileTree) (name : String) : Option Place :=
  if name.isEmpty || name.toList.head? == some '/' then none
  else tree.walk? [] (Files.pieces name)

/-- The text of a file. -/
def read? (tree : FileTree) (name : String) : Option String :=
  (tree.place? name).bind tree.file?

/-- Goes on from a directory, making those that are missing. -/
def makeFrom? : FileTree → Place → List String → Option FileTree
  | tree, _, [] => some tree
  | tree, here, word :: rest =>
    if word.isEmpty || word == "." then makeFrom? tree here rest
    else if word == ".." then if here.isEmpty then none else makeFrom? tree here.dropLast rest
    else
      let place := here ++ [word]
      if (tree.file? place).isSome then none
      else makeFrom? { tree with directories := place :: tree.directories } place rest

/-- Makes a directory and those on the way to it. -/
def makeDirectory? (tree : FileTree) (name : String) : Option FileTree :=
  if name.toList.head? == some '/' then none else makeFrom? tree [] (Files.pieces name)

/-- Sets the content of a file. -/
def setFile : List (Place × String) → Place → String → List (Place × String)
  | [], place, content => [(place, content)]
  | (known, old) :: rest, place, content =>
    if known == place then (known, content) :: rest
    else (known, old) :: setFile rest place content

/-- Writes a file into a directory that is there. -/
def write? (tree : FileTree) (name content : String) : Option FileTree := do
  let place ← tree.place? name
  if tree.isDirectory place then none
  else some { tree with files := setFile tree.files place content }

/-- The files of a later tree that are new or have another text. -/
def changedIn (before after : FileTree) : List (String × String) :=
  (after.files.filter fun (place, content) => before.file? place != some content).map
    fun (place, content) => ("/".intercalate place, content)

end FileTree
end SchemaCheck
