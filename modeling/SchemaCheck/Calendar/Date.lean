/-! Days of the proleptic Gregorian calendar. -/
namespace SchemaCheck.Calendar

structure Date where
  year : Int
  month : Nat
  day : Nat
deriving DecidableEq, Repr

def isLeapYear (year : Int) : Bool :=
  year % 4 == 0 && (year % 100 != 0 || year % 400 == 0)

def daysInMonth (year : Int) (month : Nat) : Nat :=
  if month = 2 then (if isLeapYear year then 29 else 28)
  else if month = 4 ∨ month = 6 ∨ month = 9 ∨ month = 11 then 30
  else 31

namespace Date

/-- The years that can be represented. -/
def firstYear : Int := -262143
def lastYear : Int := 262142

def isValid (date : Date) : Bool :=
  firstYear ≤ date.year && date.year ≤ lastYear && 1 ≤ date.month && date.month ≤ 12 &&
    1 ≤ date.day && date.day ≤ daysInMonth date.year date.month

/-- Days before the first of the month in a common year. -/
def daysBeforeMonth (month : Nat) : Nat :=
  (List.range (month - 1)).foldl (fun days m => days + daysInMonth 1 (m + 1)) 0

/-- Days since the first of January of year one. -/
def ordinal (date : Date) : Int :=
  let before := date.year - 1
  365 * before + before / 4 - before / 100 + before / 400 + daysBeforeMonth date.month
    + (if 2 < date.month && isLeapYear date.year then 1 else 0) + date.day - 1

/-- The day of the week, Monday first. -/
def weekday (date : Date) : Nat := (date.ordinal % 7).toNat

end Date
end SchemaCheck.Calendar
