import SchemaCheck.Uri.Ipv4

/-! Internet addresses of version six: eight pieces, one run of zeros left out, and a dotted
address in place of the last two. -/
namespace SchemaCheck.Uri.Ipv6

def isHex (c : Char) : Bool := (Ipv4.digitValue? c).isSome

/-- A number up to 255 without a leading zero. -/
def isByte (digits : List Char) : Bool :=
  match digits with
  | [] => false
  | ['0'] => true
  | '0' :: _ => false
  | digits => digits.all Char.isDigit && digits.length ≤ 3 &&
    ((Ipv4.inRadix? 10 digits).map fun n => decide (n ≤ 255)).getD false

/-- Splits at every dot. -/
def dotted : List Char → List (List Char)
  | [] => [[]]
  | c :: rest =>
    match dotted rest with
    | part :: parts => if c == '.' then [] :: part :: parts else (c :: part) :: parts
    | [] => []

def isDotted (cs : List Char) : Bool :=
  let parts := dotted cs
  parts.length == 4 && parts.all isByte

/-- Reads pieces; `count` of them are done and `gap` tells whether a run was left out. A piece
follows here, or a colon that leaves out a run. -/
def pieces : Nat → Nat → Bool → List Char → Bool
  | 0, _, _, _ => false
  | fuel + 1, count, gap, cs =>
    match cs with
    | [] => gap || count == 8
    | ':' :: rest => count < 8 && !gap && pieces fuel (count + 1) true rest
    | cs =>
      let digits := (cs.takeWhile isHex).take 4
      let rest := cs.drop digits.length
      if 8 ≤ count then false
      else match rest with
        | [] => !digits.isEmpty && pieces fuel (count + 1) gap []
        | '.' :: _ =>
          !digits.isEmpty && count ≤ 6 && isDotted cs && (gap || count + 2 == 8)
        | ':' :: rest => !rest.isEmpty && pieces fuel (count + 1) gap rest
        | _ => false

/-- What stands between the brackets. -/
def isAddress (cs : List Char) : Bool :=
  match cs with
  | [] => false
  | [_] => false
  | ':' :: ':' :: rest => pieces (rest.length + 2) 1 true rest
  | ':' :: _ => false
  | cs => pieces (cs.length + 2) 0 false cs

end SchemaCheck.Uri.Ipv6
