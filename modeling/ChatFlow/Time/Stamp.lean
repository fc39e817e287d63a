import ChatFlow.Time.Calendar
import ChatFlow.Text.Digit
import ChatFlow.Number.Binary64
/-
Points in time with microseconds. A stamp is read off a clock and a calendar; it may carry the
distance of that clock from universal time. Two stamps compare only if both carry it or neither.
-/

namespace ChatFlow

/-- Microseconds shown by a calendar clock since the start of year 1, and the clock's distance from
universal time in seconds when it is known. -/
structure Stamp where
  micros : Int
  offset : Option Int
  deriving DecidableEq, Repr, Inhabited

namespace Stamp

open Text

def microsPerSecond : Int := 1000000
def microsPerDay : Int := 86400 * microsPerSecond

/-- First microsecond after the calendar's last day. -/
def endOfCalendar : Int := (Calendar.lastOrdinal : Int) * microsPerDay

/-- A stamp of a clock of no known distance from universal time. -/
def ofParts (date : Calendar.Date) (hour minute second micros : Nat) : Stamp :=
  { micros := (date.ordinal - 1 : Int) * microsPerDay +
      ((hour * 3600 + minute * 60 + second : Nat) : Int) * microsPerSecond + micros
    offset := none }

/-- Later by a number of microseconds; `none` outside of the calendar. -/
def addMicros? (stamp : Stamp) (micros : Int) : Option Stamp :=
  let later := stamp.micros + micros
  if 0 ≤ later && later < endOfCalendar then some { stamp with micros := later } else none

/-- Later by a number of seconds; `none` outside of the calendar. -/
def addSeconds? (stamp : Stamp) (seconds : Int) : Option Stamp :=
  stamp.addMicros? (seconds * microsPerSecond)

/-- Later by a real number of seconds, to the nearest microsecond; `none` outside of the
calendar. -/
def addReal? (stamp : Stamp) (seconds : Binary64) : Option Stamp :=
  match seconds with
  | .finite negative units =>
      let micros := Binary64.divideToEven (units * 1000000) Binary64.unitsPerOne
      stamp.addMicros? (Binary64.signedUnits negative micros)
  | _ => none

/-- The microseconds of a stamp on the clock of universal time, when it carries its distance. -/
def universal? (stamp : Stamp) : Option Int :=
  stamp.offset.map fun seconds => stamp.micros - seconds * microsPerSecond

/-- Microseconds from the second stamp to the first; `none` when one carries its distance from
universal time and the other does not. -/
def since? (later earlier : Stamp) : Option Int :=
  match later.universal?, earlier.universal? with
  | some a, some b => some (a - b)
  | none, none => some (later.micros - earlier.micros)
  | _, _ => none

def before? (first second : Stamp) : Option Bool := (first.since? second).map (· < 0)

/-! ### Written form -/

/-- A number in at least the given count of digits. -/
def padded (count value : Nat) : List Char :=
  let digits := Nat.toDigits 10 value
  List.replicate (count - digits.length) '0' ++ digits

/-- How far a clock is from universal time, with `Z` or `+00:00` for no distance. -/
def offsetText (zeroText : List Char) (seconds : Int) : List Char :=
  if seconds == 0 then zeroText
  else
    let minutes := seconds.natAbs / 60
    (if seconds < 0 then '-' else '+') :: padded 2 (minutes / 60) ++ [':'] ++
      padded 2 (minutes % 60)

/-- Date and time with the letter T between them; microseconds only when they are not zero. -/
def clockText (micros : Int) : List Char :=
  let days := (micros / microsPerDay).toNat
  let inDay := (micros % microsPerDay).toNat
  let date := Calendar.Date.ofOrdinal (days + 1)
  let seconds := inDay / 1000000
  let fraction := inDay % 1000000
  padded 4 date.year ++ ['-'] ++ padded 2 date.month ++ ['-'] ++ padded 2 date.day ++ ['T'] ++
    padded 2 (seconds / 3600) ++ [':'] ++ padded 2 (seconds / 60 % 60) ++ [':'] ++
    padded 2 (seconds % 60) ++ (if fraction == 0 then [] else '.' :: padded 6 fraction)

/-- The written form of a stamp; universal time is marked with `Z`. -/
def text (stamp : Stamp) : String :=
  String.ofList (clockText stamp.micros ++ (stamp.offset.map (offsetText ['Z'])).getD [])

/-- The written form in which universal time is marked with `+00:00`. -/
def numericText (stamp : Stamp) : String :=
  String.ofList (clockText stamp.micros ++
    (stamp.offset.map (offsetText "+00:00".toList)).getD [])

/-! ### Reading -/

def twoDigits? : List Char → Option (Nat × List Char)
  | a :: b :: rest =>
      if isAsciiDigit a && isAsciiDigit b then some (digitsValue [a, b], rest) else none
  | _ => none

def mark? (mark : Char) : List Char → Option (List Char)
  | character :: rest => if character == mark then some rest else none
  | [] => none

/-- A date as `2026-01-31` at the start of the characters. -/
def readDate? (characters : List Char) : Option (Calendar.Date × List Char) := do
  let (century, r) ← twoDigits? characters
  let (year, r) ← twoDigits? r
  let (month, r) ← twoDigits? (← mark? '-' r)
  let (day, r) ← twoDigits? (← mark? '-' r)
  some (← Calendar.date? (century * 100 + year) month day, r)

/-- The first six digits of a fraction of a second as microseconds. -/
def microsOf (digits : List Char) : Nat :=
  let kept := digits.take 6
  digitsValue kept * Nat.pow 10 (6 - kept.length)

/-- The distance from universal time at the end of a written stamp. -/
def readOffset? : List Char → Option (Option Int)
  | [] => some none
  | ['Z'] => some (some 0)
  | ['z'] => some (some 0)
  | sign :: rest => do
      if sign != '+' && sign != '-' && sign != '−' then none
      else
        let (hours, r) ← twoDigits? rest
        let (minutes, r) ← twoDigits? (match r with
          | ':' :: r => r
          | _ => r)
        if r.isEmpty && hours < 24 && minutes < 60 then
          let seconds : Int := ((hours * 3600 + minutes * 60 : Nat) : Int)
          some (some (if sign == '+' then seconds else -seconds))
        else none

/-- A time of day with optional seconds and fraction, and the distance from universal time. -/
def readTime? (date : Calendar.Date) (characters : List Char) : Option Stamp := do
  let (hour, r) ← twoDigits? characters
  let (minute, r) ← twoDigits? (← mark? ':' r)
  let (second, micros, r) ← (match r with
    | ':' :: r => do
        let (second, r) ← twoDigits? r
        match r with
        | mark :: fraction =>
            if mark == '.' || mark == ',' then
              let digits := fraction.takeWhile isAsciiDigit
              if digits.isEmpty then none
              else some (second, microsOf digits, fraction.dropWhile isAsciiDigit)
            else some (second, 0, r)
        | [] => some (second, 0, r)
    | _ => some (0, 0, r))
  if hour < 24 && minute < 60 && second < 60 then
    let offset ← readOffset? r
    some { ofParts date hour minute second micros with offset }
  else none

/-- Microseconds from the start of year 1 to the start of year 1970. -/
def epochMicros : Int := 719162 * microsPerDay

/-- The stamp of universal time a number of seconds after the start of 1970; large numbers count
milliseconds. The part after the point is given in microseconds of the unit. -/
def ofEpoch? (count : Int) (fraction : Nat) : Option Stamp :=
  let micros :=
    if count.natAbs > 20000000000 then count * 1000 + fraction / 1000
    else count * microsPerSecond + fraction
  let shown := epochMicros + micros
  if 0 ≤ shown && shown < endOfCalendar then some ⟨shown, some 0⟩ else none

/-- A number of seconds or milliseconds written in digits. -/
def readEpoch? (characters : List Char) : Option Stamp := do
  let (negative, magnitude) := match characters with
    | '-' :: rest => (true, rest)
    | '+' :: rest => (false, rest)
    | _ => (false, characters)
  let (whole, rest) := magnitude.span isAsciiDigit
  if whole.isEmpty || whole.length > 18 then none
  else
    let count : Int := digitsValue whole
    match rest with
    | [] => ofEpoch? (if negative then -count else count) 0
    | '.' :: digits =>
        if !digits.all isAsciiDigit then none
        else if negative && microsOf digits != 0 then
          ofEpoch? (-count - 1) (1000000 - microsOf digits)
        else ofEpoch? (if negative then -count else count) (microsOf digits)
    | _ => none

/-- Reads a written stamp: date and time, a date alone, or a count of seconds. -/
def read? (characters : List Char) : Option Stamp :=
  let dateAndTime := do
    let (date, r) ← readDate? characters
    match r with
    | mark :: time =>
        if mark == 'T' || mark == 't' || mark == ' ' || mark == '_' then readTime? date time
        else none
    | [] => some (ofParts date 0 0 0 0)
  dateAndTime <|> readEpoch? characters

/-- The stamp that a real number of seconds stands for. -/
def ofReal? (seconds : Binary64) : Option Stamp :=
  match seconds with
  | .finite negative units =>
      let micros := units * 1000000 / Binary64.unitsPerOne
      let whole : Int := Binary64.signedUnits negative (micros / 1000000)
      let fraction := micros % 1000000
      if negative && fraction != 0 then ofEpoch? (whole - 1) (1000000 - fraction)
      else ofEpoch? whole fraction
  | _ => none

end Stamp

end ChatFlow
