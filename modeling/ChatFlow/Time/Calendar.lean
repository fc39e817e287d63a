/-
The calendar from year 1 to year 9999 and the counting of its days.
-/

namespace ChatFlow.Calendar

def isLeapYear (year : Nat) : Bool := year % 4 == 0 && (year % 100 != 0 || year % 400 == 0)

def daysInMonth (year month : Nat) : Nat :=
  match month with
  | 2 => if isLeapYear year then 29 else 28
  | 4 | 6 | 9 | 11 => 30
  | _ => 31

structure Date where
  year : Nat
  month : Nat
  day : Nat
  deriving DecidableEq, Repr

/-- The date with the given numbers, when the calendar has it. -/
def date? (year month day : Nat) : Option Date :=
  if 1 ≤ year && year ≤ 9999 && 1 ≤ month && month ≤ 12 && 1 ≤ day && day ≤ daysInMonth year month
  then some ⟨year, month, day⟩
  else none

/-- Number of days before the first of January of a year. -/
def daysBeforeYear (year : Nat) : Nat :=
  let past := year - 1
  past * 365 + past / 4 - past / 100 + past / 400

/-- Number of days of a year before the first of a month. -/
def daysBeforeMonth (year month : Nat) : Nat :=
  (List.range (month - 1)).foldl (fun days index => days + daysInMonth year (index + 1)) 0

/-- The number of a date, the first of January of year 1 having number 1. -/
def Date.ordinal (date : Date) : Nat :=
  daysBeforeYear date.year + daysBeforeMonth date.year date.month + date.day

def lastOrdinal : Nat := 3652059

/-- The month and day of a day of the year, counted from zero, starting the search at a month. -/
def monthAndDay (year : Nat) : (months : Nat) → (month dayOfYear : Nat) → Nat × Nat
  | 0, month, dayOfYear => (month, dayOfYear + 1)
  | months + 1, month, dayOfYear =>
      if dayOfYear < daysInMonth year month then (month, dayOfYear + 1)
      else monthAndDay year months (month + 1) (dayOfYear - daysInMonth year month)

/-- The date with a number from 1 to `lastOrdinal`. Years are counted in cycles of four hundred,
one hundred and four years; the last day of a cycle belongs to its last year. -/
def Date.ofOrdinal (ordinal : Nat) : Date :=
  let days := ordinal - 1
  let inFourCenturies := days % 146097
  let century := inFourCenturies / 36524
  let inCentury := inFourCenturies % 36524
  let inFourYears := inCentury % 1461
  let single := inFourYears / 365
  let year := days / 146097 * 400 + century * 100 + inCentury / 1461 * 4 + single + 1
  if single == 4 || century == 4 then ⟨year - 1, 12, 31⟩
  else
    let (month, day) := monthAndDay year 11 1 (inFourYears % 365)
    ⟨year, month, day⟩

end ChatFlow.Calendar
