import SchemaCheck.Uri.DomainName

/-! Hosts of addresses. -/
namespace SchemaCheck.Uri.Host

/-- Bytes with every `%` and two hexadecimal digits replaced by the byte they stand for. -/
def percentDecode : List UInt8 → List UInt8
  | [] => []
  | byte :: rest =>
    if byte = 0x25 then
      match rest with
      | high :: low :: tail =>
        match Ipv4.digitValue? (Char.ofNat high.toNat), Ipv4.digitValue? (Char.ofNat low.toNat) with
        | some h, some l => UInt8.ofNat (16 * h + l) :: percentDecode tail
        | _, _ => byte :: percentDecode (high :: low :: tail)
      | short => byte :: percentDecode short
    else byte :: percentDecode rest
termination_by bytes => bytes.length

/-- The decoded text, if it is text. -/
def decoded? (cs : List Char) : Option (List Char) :=
  (String.fromUTF8? ⟨(percentDecode (String.ofList cs).toUTF8.toList).toArray⟩).map String.toList

/-- An address in brackets. -/
def isBracketed (cs : List Char) : Bool :=
  cs.getLast? == some ']' && Ipv6.isAddress (cs.drop 1).dropLast

/-- A name or an address; a name that ends in a number has to be an address. -/
def isHost (cs : List Char) : Bool :=
  if cs.head? == some '[' then isBracketed cs
  else
    match (decoded? cs).bind DomainName.labels? with
    | none => false
    | some labels =>
      labels != [[]] && (!Ipv4.looksNumeric labels || Ipv4.isAddress labels)

def isForbiddenOpaque (c : Char) : Bool := "\x00\t\n\r #/:<>?@[\\]^|".toList.contains c

/-- A host whose scheme gives it no structure. -/
def isOpaqueHost (cs : List Char) : Bool :=
  if cs.head? == some '[' then isBracketed cs else !cs.any isForbiddenOpaque

end SchemaCheck.Uri.Host
