import SchemaCheck.Schema.Basic

/-! Equality of schemas: declared properties in any order, everything else in its own. -/
namespace SchemaCheck

def sameMembers : List (String × Json) → List (String × Json) → Bool
  | [], [] => true
  | (a, v) :: as, (b, w) :: bs => a == b && v.same w && sameMembers as bs
  | _, _ => false

/-- Both absent, or both present and alike. -/
def sameOption {α : Type} (same : α → α → Bool) : Option α → Option α → Bool
  | none, none => true
  | some a, some b => same a b
  | _, _ => false

def Assertions.same (a b : Assertions) : Bool :=
  a.types == b.types && a.required == b.required &&
    sameOption Json.sameItems a.enumeration b.enumeration &&
    sameOption Json.same a.constant b.constant &&
    a.pattern == b.pattern && a.format == b.format &&
    Keyword.all.all fun
      | .bound bound => sameOption Binary64.sameValue (a.bound bound) (b.bound bound)
      | _ => true

namespace Schema

mutual

def same : Schema → Schema → Bool
  | ⟨assertions, properties, additional, items, allOf, anyOf, oneOf, unrecognized⟩, other =>
    assertions.same other.assertions && sameProperties properties other.properties &&
      sameAdditional additional other.additional && sameItems items other.items &&
      sameKeyword allOf other.allOf && sameKeyword anyOf other.anyOf &&
      sameKeyword oneOf other.oneOf && sameMembers unrecognized other.unrecognized

def sameProperties : Option (List (String × Schema)) → Option (List (String × Schema)) → Bool
  | none, none => true
  | some declared, some others =>
    declared.length == others.length && propertiesWithin declared others
  | _, _ => false

/-- Every declared property on the left has its like on the right. -/
def propertiesWithin : List (String × Schema) → List (String × Schema) → Bool
  | [], _ => true
  | (key, child) :: rest, others =>
    (match others.lookup key with
      | some other => same child other
      | none => false) && propertiesWithin rest others

def sameAdditional : Option (Additional Schema) → Option (Additional Schema) → Bool
  | none, none => true
  | some extra, some other => sameExtra extra other
  | _, _ => false

def sameExtra : Additional Schema → Additional Schema → Bool
  | .allowed flag, .allowed other => flag == other
  | .schema child, .schema other => same child other
  | _, _ => false

def sameItems : Option Schema → Option Schema → Bool
  | none, none => true
  | some child, some other => same child other
  | _, _ => false

def sameKeyword : Option (List Schema) → Option (List Schema) → Bool
  | none, none => true
  | some branches, some others => sameBranches branches others
  | _, _ => false

def sameBranches : List Schema → List Schema → Bool
  | [], [] => true
  | branch :: rest, other :: others => same branch other && sameBranches rest others
  | _, _ => false

end

end Schema
end SchemaCheck
