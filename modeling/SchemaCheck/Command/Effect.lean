import SchemaCheck.Command.Error
import SchemaCheck.Command.Sample
import SchemaCheck.Files.Tree

/-! What commands do besides computing: printing, and changing files. -/
namespace SchemaCheck

inductive Effect where
  | print (text : String)
  | makeDirectory (name : String)
  | writeFile (name content : String)
deriving DecidableEq, Repr

/-- Files and printed text after some effects, and what stopped them. -/
structure Performed where
  tree : FileTree
  stdout : String := ""
  error : Option CommandError := none

namespace Effect

/-- Performs effects in order, up to the first that fails. -/
def performAll : List Effect → Performed → Performed
  | [], performed => performed
  | print text :: rest, performed =>
    performAll rest { performed with stdout := performed.stdout ++ text }
  | makeDirectory name :: rest, performed =>
    match performed.tree.makeDirectory? name with
    | some tree => performAll rest { performed with tree }
    | none => { performed with error := some (.directoryNotMade name) }
  | writeFile name content :: rest, performed =>
    match performed.tree.write? name content with
    | some tree => performAll rest { performed with tree }
    | none => { performed with error := some (.fileNotWritten name) }

end Effect

/-- Prints the sample, or writes its parts into a directory and names the files. -/
def Sample.effects : Option String → List Effect
  | none => [.print (bundle.pretty ++ "\n")]
  | some directory =>
    .makeDirectory directory :: files.flatMap fun (entry, value) =>
      let name := Files.join directory entry
      [.writeFile name (value.pretty ++ "\n"), .print ("wrote " ++ name ++ "\n")]

end SchemaCheck
