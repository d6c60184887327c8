import SchemaCheck.Calendar.Time

/-! Date-times as mail headers write them (RFC 2822): an optional day of the week, month names,
short years, obsolete zone names and trailing comments. -/
namespace SchemaCheck.Calendar.Mail

def lower (cs : List Char) : String := String.ofList (cs.map Char.toLower)

/-- The position of a three-letter name in a list, in any case. -/
def nameIndex? (names : List String) (cs : List Char) : Option (Nat × List Char) :=
  let name := lower (cs.take 3)
  match names.findIdx? (· == name) with
  | some index => some (index, cs.drop 3)
  | none => none

def weekdays : List String := ["mon", "tue", "wed", "thu", "fri", "sat", "sun"]

def months : List String :=
  ["jan", "feb", "mar", "apr", "may", "jun", "jul", "aug", "sep", "oct", "nov", "dec"]

/-- Two digits stand for 1950 to 2049, three count from 1900. -/
def fullYear (digits : Nat) (year : Nat) : Nat :=
  if digits = 2 then (if year < 50 then year + 2000 else year + 1900)
  else if digits = 3 then year + 1900
  else year

def zoneNames : List String :=
  ["gmt", "ut", "z", "edt", "est", "cdt", "cst", "mdt", "mst", "pdt", "pst"]

def isZoneName (name : List Char) : Bool :=
  zoneNames.contains (lower name) ||
    match name with
    | [c] => c.toLower != 'j'
    | _ => false

/-- A name, or a sign and an offset without a colon. -/
def zone? (cs : List Char) : Option (List Char) :=
  let (name, rest) := cs.span Char.isAlpha
  if name.isEmpty then
    match rest with
    | '+' :: rest => (zoneMinutes? false rest).map Prod.snd
    | '-' :: rest => (zoneMinutes? false rest).map Prod.snd
    | _ => none
  else if isZoneName name then some rest
  else none

/-- What follows a comment inside `depth` open parentheses. -/
def commentTail? : Nat → List Char → Option (List Char)
  | _, [] => none
  | _, ['\\'] => none
  | depth, '\\' :: _ :: rest => commentTail? depth rest
  | depth, '(' :: rest => commentTail? (depth + 1) rest
  | 0, ')' :: rest => some rest
  | depth + 1, ')' :: rest => commentTail? depth rest
  | depth, _ :: rest => commentTail? depth rest

/-- Drops comments, at most `fuel` of them. -/
def dropComments : Nat → List Char → List Char
  | 0, cs => cs
  | fuel + 1, cs =>
    match trimStart cs with
    | '(' :: rest =>
      match commentTail? 0 rest with
      | some rest => dropComments fuel rest
      | none => cs
    | _ => cs

/-- The day of the week and its comma, if the text starts with a name. -/
def weekday? (cs : List Char) : Option (Option Nat × List Char) :=
  match nameIndex? weekdays cs with
  | some (day, ',' :: rest) => some (some day, rest)
  | some _ => none
  | none => some (none, cs)

/-- A colon and two digits for the seconds, if there is a colon. -/
def seconds? (cs : List Char) : Option (Nat × List Char) :=
  match trimStart cs with
  | ':' :: rest => fixed? 2 rest
  | _ => some (0, cs)

/-- The moment and the day of the week that the text gives. -/
def read? (cs : List Char) : Option (Option Nat × Moment) := do
  let (weekday, cs) ← weekday? (trimStart cs)
  let (day, cs) ← number? 1 (some 2) (trimStart cs)
  let (month, cs) ← nameIndex? months (← blanks? cs)
  let years ← blanks? cs
  let (year, cs) ← number? 2 none years
  let year := fullYear (years.length - cs.length) year
  let (hour, cs) ← fixed? 2 (← blanks? cs)
  let cs ← char? ':' (trimStart cs)
  let (minute, cs) ← fixed? 2 (trimStart cs)
  let (second, cs) ← seconds? cs
  let cs ← zone? (← blanks? cs)
  if (dropComments cs.length cs).isEmpty then
    some (weekday, ⟨year, month + 1, day, hour, minute, second⟩)
  else none

/-- A day of the week that is given has to be the right one. -/
def accepts (cs : List Char) : Bool :=
  match read? cs with
  | some (weekday, moment) =>
    moment.isValid && (weekday.isNone || weekday == some moment.date.weekday)
  | none => false

end SchemaCheck.Calendar.Mail
