import SchemaCheck.Calendar.Time

/-! Local date-times in a fixed layout of fields. -/
namespace SchemaCheck.Calendar

inductive LayoutItem where
  | year
  | month
  | day
  | hour
  | minute
  | second
  /-- A point and digits, or nothing. -/
  | fraction
  | literal (expected : Char)
  /-- Any number of blanks. -/
  | blanks
deriving DecidableEq, Repr

namespace LayoutItem

/-- A year of four digits at most, or of any length after a sign. -/
def year? (cs : List Char) : Option (Int × List Char) :=
  match cs with
  | '-' :: rest => (number? 1 none rest).map fun (n, rest) => (-(n : Int), rest)
  | '+' :: rest => (number? 1 none rest).map fun (n, rest) => ((n : Int), rest)
  | cs => (number? 1 (some 4) cs).map fun (n, rest) => ((n : Int), rest)

/-- Reads one item; blanks may stand before every number. -/
def read? (moment : Moment) (cs : List Char) : LayoutItem → Option (Moment × List Char)
  | year => (year? (trimStart cs)).map fun (n, rest) => ({ moment with year := n }, rest)
  | month => twoDigits fun n => { moment with month := n }
  | day => twoDigits fun n => { moment with day := n }
  | hour => twoDigits fun n => { moment with hour := n }
  | minute => twoDigits fun n => { moment with minute := n }
  | second => twoDigits fun n => { moment with second := n }
  | fraction => (fraction? cs).map fun rest => (moment, rest)
  | literal expected => (char? expected cs).map fun rest => (moment, rest)
  | blanks => some (moment, trimStart cs)
where
  twoDigits (set : Nat → Moment) : Option (Moment × List Char) :=
    (number? 1 (some 2) (trimStart cs)).map fun (n, rest) => (set n, rest)

end LayoutItem

open LayoutItem

def dateItems : List LayoutItem := [year, literal '-', month, literal '-', day]

def clockItems : List LayoutItem := [hour, literal ':', minute]

def secondItems : List LayoutItem := [literal ':', second, fraction]

/-- With a `T` or a blank between date and time, with or without seconds; or a date alone. -/
def localLayouts : List (List LayoutItem) :=
  [dateItems ++ literal 'T' :: clockItems ++ secondItems,
    dateItems ++ literal 'T' :: clockItems,
    dateItems ++ blanks :: clockItems ++ secondItems,
    dateItems ++ blanks :: clockItems,
    dateItems]

def readLayout? (layout : List LayoutItem) (cs : List Char) : Option Moment :=
  match layout.foldlM (fun (moment, cs) item => item.read? moment cs) (({} : Moment), cs) with
  | some (moment, []) => some moment
  | _ => none

def layoutAccepts (cs : List Char) (layout : List LayoutItem) : Bool :=
  ((readLayout? layout cs).map Moment.isValid).getD false

end SchemaCheck.Calendar
