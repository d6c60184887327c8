import SchemaCheck.Yaml.Content
import SchemaCheck.Yaml.Number
import SchemaCheck.Text.Quoted

/-! Values of YAML documents. -/
namespace SchemaCheck.Yaml

inductive Node where
  | null
  | bool (flag : Bool)
  | number (value : Number)
  | string (text : String)
  | sequence (items : List Node)
  | mapping (entries : List (Node × Node))
  | tagged (tag : String) (node : Node)

namespace Node

mutual

/-- Equality of values; mappings have their entries in any order. -/
def same : Node → Node → Bool
  | .null, .null => true
  | .bool a, .bool b => a == b
  | .number a, .number b => a.same b
  | .string a, .string b => a == b
  | .sequence as, .sequence bs => sameItems as bs
  | .mapping as, .mapping bs => as.length == bs.length && entriesWithin as bs
  | .tagged s a, .tagged t b => s == t && same a b
  | _, _ => false

def sameItems : List Node → List Node → Bool
  | [], [] => true
  | a :: as, b :: bs => same a b && sameItems as bs
  | _, _ => false

/-- Every entry on the left has its like on the right. -/
def entriesWithin : List (Node × Node) → List (Node × Node) → Bool
  | [], _ => true
  | (key, value) :: as, bs => hasEntry key value bs && entriesWithin as bs

/-- The first entry with such a key has such a value. -/
def hasEntry (key value : Node) : List (Node × Node) → Bool
  | [] => false
  | (k, v) :: rest => if same key k then same value v else hasEntry key value rest

end

end Node
end SchemaCheck.Yaml
