/-! Lengths in UTF-16 code units. -/
namespace SchemaCheck

/-- Code points beyond the basic plane take two units. -/
def codeUnits (c : Char) : Nat := if c.toNat < 0x10000 then 1 else 2

def utf16Length (text : String) : Nat :=
  text.toList.foldl (fun units c => units + codeUnits c) 0

end SchemaCheck
