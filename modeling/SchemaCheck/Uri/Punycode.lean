/-! Decoding of labels that spell other scripts in ASCII. The characters outside ASCII follow the
plain ones as numbers, each of which tells how far to go on from the last character and place. -/
namespace SchemaCheck.Uri.Punycode

def digitValue? (c : Char) : Option Nat :=
  if 'a' ≤ c ∧ c ≤ 'z' then some (c.toNat - 97)
  else if 'A' ≤ c ∧ c ≤ 'Z' then some (c.toNat - 65)
  else if c.isDigit then some (c.toNat - 48 + 26)
  else none

/-- The least digit that does not end a number. -/
def threshold (bias position : Nat) : Nat :=
  if position ≤ bias then 1 else if bias + 26 ≤ position then 26 else position - bias

def scaleDown (delta position : Nat) : Nat :=
  if 455 < delta then scaleDown (delta / 35) (position + 36)
  else position + 36 * delta / (delta + 38)
termination_by delta

/-- The bias after a number. -/
def adapt (delta count : Nat) (first : Bool) : Nat :=
  let delta := if first then delta / 700 else delta / 2
  scaleDown (delta + delta / count) 0

/-- Weights and sums stay below this limit. -/
def limit : Nat := 0x100000000

/-- One number of variable length, added to `sum`. -/
def number? (bias : Nat) : Nat → Nat → Nat → List Char → Option (Nat × List Char)
  | _, _, _, [] => none
  | position, weight, sum, c :: rest => do
    let digit ← digitValue? c
    let sum := sum + digit * weight
    let least := threshold bias position
    let next := weight * (36 - least)
    if limit ≤ sum then none
    else if digit < least then some (sum, rest)
    else if limit ≤ next then none
    else number? bias (position + 36) next sum rest

theorem number?_shorter {bias position weight sum value : Nat} {cs rest : List Char}
    (read : number? bias position weight sum cs = some (value, rest)) :
    rest.length < cs.length := by
  induction cs generalizing position weight sum with
  | nil => simp [number?] at read
  | cons c tail ih =>
    simp only [number?, Option.bind_eq_bind, Option.bind_eq_some_iff] at read
    obtain ⟨digit, _, read⟩ := read
    split at read
    · contradiction
    · split at read
      · simp only [Option.some.injEq, Prod.mk.injEq] at read
        simp [read.2]
      · split at read
        · contradiction
        · exact Nat.lt_succ_of_lt (ih read)

/-- Inserts one character for each number; `index` is the place behind the last one. -/
def insertAll? (point index bias : Nat) (decoded cs : List Char) : Option (List Char) :=
  if cs.isEmpty then some decoded
  else
    match _read : number? bias 36 1 index cs with
    | none => none
    | some (sum, rest) =>
      let count := decoded.length + 1
      let next := point + sum / count
      let place := sum % count
      if next.isValidChar then
        insertAll? next (place + 1) (adapt (sum - index) count (index == 0))
          (decoded.insertIdx place (Char.ofNat next)) rest
      else none
termination_by cs.length
decreasing_by exact number?_shorter _read

/-- The text that a label spells, after its `xn--`. What stands before the last dash is plain; a
dash at the start is no digit. -/
def decode? (label : List Char) : Option (List Char) :=
  let coded := (label.reverse.takeWhile (· != '-')).reverse
  let plain := (label.take (label.length - coded.length)).dropLast
  insertAll? 128 0 72 plain (if plain.isEmpty then label else coded)

end SchemaCheck.Uri.Punycode
