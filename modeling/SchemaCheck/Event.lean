import SchemaCheck.Path
import SchemaCheck.Text.Quoted

/-! What the program notes while it works. -/
namespace SchemaCheck

inductive Level where
  | debug
  | info
  | warn
deriving DecidableEq, Repr

def Level.name : Level → String
  | .debug => "DEBUG"
  | .info => "INFO"
  | .warn => "WARN"

inductive Event where
  | keywordSetAside (keyword : String)
  | depthReached (path : Path) (limit : Nat)
  | patternRefused (pattern : String)
  | validated (issues : Nat)
  | configurationLoaded (file : String)
  | keywordsIgnored (keywords : List String)
  | finished (document : String) (issues : Nat)
deriving DecidableEq, Repr

namespace Event

def level : Event → Level
  | depthReached _ _ => .warn
  | keywordsIgnored _ => .info
  | finished _ _ => .info
  | _ => .debug

def message : Event → String
  | keywordSetAside _ => "keyword value has the wrong shape; ignoring it"
  | depthReached _ _ => "nesting depth limit reached; subtree not evaluated"
  | patternRefused _ => "pattern failed to compile"
  | validated _ => "validation complete"
  | configurationLoaded _ => "loaded config"
  | keywordsIgnored _ => "ignoring unrecognized top-level schema keywords"
  | finished _ _ => "validation finished"

/-- Named texts that go with the message, by name. -/
def fields : Event → List (String × String)
  | keywordSetAside keyword => [("keyword", keyword)]
  | depthReached path limit => [("max_depth", toString limit), ("path", path.render)]
  | patternRefused pattern => [("pattern", pattern)]
  | validated issues => [("issues", toString issues)]
  | configurationLoaded file => [("path", file)]
  | keywordsIgnored keywords => [("keywords", Quoted.encodeList keywords)]
  | finished document issues => [("document", document), ("issues", toString issues)]

end Event
end SchemaCheck
