import SchemaCheck.Calendar.Time

/-! Date-times as RFC 3339 writes them; a blank may stand for the `T`. -/
namespace SchemaCheck.Calendar.Internet

/-- `Z`, or a sign and an offset with a colon. -/
def zone? : List Char → Option (List Char)
  | 'Z' :: rest => some rest
  | 'z' :: rest => some rest
  | '+' :: rest => (zoneMinutes? true rest).map Prod.snd
  | '-' :: rest => (zoneMinutes? true rest).map Prod.snd
  | '\u2212' :: rest => (zoneMinutes? true rest).map Prod.snd
  | _ => none

def separator? : List Char → Option (List Char)
  | 'T' :: rest => some rest
  | 't' :: rest => some rest
  | ' ' :: rest => some rest
  | _ => none

def read? (cs : List Char) : Option Moment := do
  let (year, cs) ← fixed? 4 cs
  let (month, cs) ← fixed? 2 (← char? '-' cs)
  let (day, cs) ← fixed? 2 (← char? '-' cs)
  let (hour, cs) ← fixed? 2 (← separator? cs)
  let (minute, cs) ← fixed? 2 (← char? ':' cs)
  let (second, cs) ← fixed? 2 (← char? ':' cs)
  let rest ← zone? (← fraction? cs)
  if rest.isEmpty then some ⟨year, month, day, hour, minute, second⟩ else none

def accepts (cs : List Char) : Bool := ((read? cs).map Moment.isValid).getD false

end SchemaCheck.Calendar.Internet
