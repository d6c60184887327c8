import SchemaCheck.Calendar.Date
import SchemaCheck.Text.Blank

/-! Fields of a date and time and the scanners that read them. -/
namespace SchemaCheck.Calendar

/-- The fields as written. A second of 60 is a leap second. -/
structure Moment where
  year : Int := 1
  month : Nat := 1
  day : Nat := 1
  hour : Nat := 0
  minute : Nat := 0
  second : Nat := 0

def Moment.date (moment : Moment) : Date := ⟨moment.year, moment.month, moment.day⟩

def Moment.isValid (moment : Moment) : Bool :=
  moment.date.isValid && moment.hour ≤ 23 && moment.minute ≤ 59 && moment.second ≤ 60

def digitsNumber (digits : List Char) : Nat :=
  digits.foldl (fun n c => 10 * n + (c.toNat - 48)) 0

/-- A number of at least `least` digits, of which at most `most` are read. -/
def number? (least : Nat) (most : Option Nat) (cs : List Char) : Option (Nat × List Char) :=
  let all := cs.takeWhile Char.isDigit
  let digits := match most with
    | some most => all.take most
    | none => all
  if digits.length < least then none
  else some (digitsNumber digits, cs.drop digits.length)

/-- Exactly so many digits. -/
def fixed? (count : Nat) (cs : List Char) : Option (Nat × List Char) :=
  number? count (some count) cs

def char? (expected : Char) : List Char → Option (List Char)
  | c :: rest => if c == expected then some rest else none
  | [] => none

/-- A point and digits, if there is a point. -/
def fraction? : List Char → Option (List Char)
  | '.' :: rest => (number? 1 none rest).map Prod.snd
  | rest => some rest

/-- At least one blank. -/
def blanks? (cs : List Char) : Option (List Char) :=
  match cs with
  | c :: rest => if isBlank c then some (trimStart rest) else none
  | [] => none

/-- Hours and minutes of a zone, after its sign. -/
def zoneMinutes? (colon : Bool) (cs : List Char) : Option (Nat × List Char) := do
  let (hours, rest) ← fixed? 2 cs
  let rest ← if colon then char? ':' rest else some rest
  let (minutes, rest) ← fixed? 2 rest
  if minutes < 60 ∧ hours < 24 then some (60 * hours + minutes, rest) else none

end SchemaCheck.Calendar
