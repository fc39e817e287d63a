import ChatFlow.Number.Reading
import ChatFlow.Text.Word
import ChatFlow.Text.Search
import ChatFlow.Time.Calendar
/-
The written forms an input node may ask for: e-mail addresses, telephone numbers, numbers, taxpayer
numbers and dates.
-/

namespace ChatFlow.Reply

open Text

/-! ### E-mail addresses -/

/-- A character of the part of an address before the at sign. -/
def isLocalCharacter (character : Char) : Bool :=
  isAsciiLetter character || isAsciiDigit character || "._%+-".toList.contains character

def isDomainCharacter (character : Char) : Bool :=
  isAsciiLetter character || isAsciiDigit character || ".-".toList.contains character

/-- Splits a domain at its last dot. -/
def splitLastDot? (characters : List Char) : Option (List Char × List Char) :=
  let last := (characters.reverse.takeWhile (· != '.')).reverse
  match characters.reverse.dropWhile (· != '.') with
  | [] => none
  | _ :: before => some (before.reverse, last)

/-- A domain name whose last label is at least two letters. -/
def isDomain (characters : List Char) : Bool :=
  match splitLastDot? characters with
  | none => false
  | some (name, label) =>
      !name.isEmpty && name.all isDomainCharacter && 2 ≤ label.length && label.all isAsciiLetter

/-- One line that is an address. -/
def isAddress (characters : List Char) : Bool :=
  let localPart := characters.takeWhile isLocalCharacter
  match characters.dropWhile isLocalCharacter with
  | '@' :: domain => !localPart.isEmpty && isDomain domain
  | _ => false

/-- Characters without a line feed at the end. -/
def dropFinalLineFeed (characters : List Char) : List Char :=
  match characters.reverse with
  | '\n' :: rest => rest.reverse
  | _ => characters

/-- An e-mail address, with or without a line feed after it. -/
def isEmail (characters : List Char) : Bool := isAddress (dropFinalLineFeed characters)

/-! ### Telephone numbers -/

/-- A character that may stand between the digits of a telephone number. -/
def isPhoneSeparator (character : Char) : Bool :=
  isBlank character || "-().".toList.contains character

/-- Ten to thirteen digits, after an optional plus sign, separators left out. -/
def isPhone (characters : List Char) : Bool :=
  let cleaned := characters.filter (!isPhoneSeparator ·)
  let digits := match cleaned with
    | '+' :: rest => rest
    | _ => cleaned
  isDecimal digits && 10 ≤ digits.length && digits.length ≤ 13

/-! ### Numbers -/

/-- Characters with the first comma as a point. -/
def firstCommaToPoint : List Char → List Char
  | [] => []
  | character :: rest =>
      if character == ',' then '.' :: rest else character :: firstCommaToPoint rest

/-- A number; the one comma of a text without a point is read as a point. -/
def isNumber (characters : List Char) : Bool :=
  let decimal :=
    if characters.count ',' == 1 && !characters.contains '.' then firstCommaToPoint characters
    else characters
  (Number.readReal? decimal).isSome

/-! ### Taxpayer numbers -/

/-- Weighted sum of digit values, the first with the given weight and each next with one less. -/
def weightedSum : (weight : Nat) → List Nat → Nat
  | _, [] => 0
  | weight, digit :: rest => digit * weight + weightedSum (weight - 1) rest

/-- The check digit that follows some digit values. -/
def checkDigit (digits : List Nat) : Nat :=
  let check := weightedSum (digits.length + 1) digits * 10 % 11
  if check == 10 then 0 else check

/-- Eleven digits, not one character repeated, the last two being the check digits of those before
them; all other characters are left out. -/
def isTaxpayerNumber (characters : List Char) : Bool :=
  let digits := characters.filter isDigit
  let values := digits.map fun digit => (digitValue? digit).getD 0
  digits.length == 11 && !digits.all (some · == digits.head?) &&
    some (checkDigit (values.take 9)) == values[9]? &&
    some (checkDigit (values.take 10)) == values[10]?

/-! ### Dates -/

/-- The ways to read a number between two bounds with one or two digits, the preferred way first.
A first digit is one of `0` to `9`. -/
def leadingTwoDigits? (characters : List Char) (tens : Char → Bool) (unit : Char → Bool) :
    Option (List Char × List Char) :=
  match characters with
  | first :: second :: rest =>
      if tens first && unit second then some ([first, second], rest) else none
  | _ => none

def isOneToNine (character : Char) : Bool := '1' ≤ character && character ≤ '9'

/-- The day of the month at the start of the characters: two digits, one digit, or a blank and a
digit. -/
def readDay? (characters : List Char) : Option (Nat × List Char) :=
  let found :=
    leadingTwoDigits? characters (· == '3') (fun unit => unit == '0' || unit == '1')
    <|> leadingTwoDigits? characters (fun tens => tens == '1' || tens == '2') isDigit
    <|> leadingTwoDigits? characters (· == '0') isOneToNine
    <|> (match characters with
      | first :: rest => if isOneToNine first then some ([first], rest) else none
      | [] => none)
    <|> leadingTwoDigits? characters (· == ' ') isOneToNine
  found.map fun (digits, rest) => (digitsValue (digits.filter (· != ' ')), rest)

/-- The month at the start of the characters: two digits or one. -/
def readMonth? (characters : List Char) : Option (Nat × List Char) :=
  let found :=
    leadingTwoDigits? characters (· == '1') (fun unit => '0' ≤ unit && unit ≤ '2')
    <|> leadingTwoDigits? characters (· == '0') isOneToNine
    <|> (match characters with
      | first :: rest => if isOneToNine first then some ([first], rest) else none
      | [] => none)
  found.map fun (digits, rest) => (digitsValue digits, rest)

/-- A year of exactly four digits at the start of the characters. -/
def readYear? (characters : List Char) : Option (Nat × List Char) :=
  let digits := characters.take 4
  if digits.length == 4 && digits.all isDigit then some (digitsValue digits, characters.drop 4)
  else none

def afterMark? (mark : Char) : List Char → Option (List Char)
  | character :: rest => if character = mark then some rest else none
  | [] => none

/-- Day, month and year with a mark between them. -/
def isDayFirstDate (mark : Char) (characters : List Char) : Bool :=
  ((do
    let (day, afterDay) ← readDay? characters
    let (month, afterMonth) ← readMonth? (← afterMark? mark afterDay)
    let (year, rest) ← readYear? (← afterMark? mark afterMonth)
    if rest.isEmpty then Calendar.date? year month day else none)).isSome

/-- Year, month and day with hyphens between them. -/
def isYearFirstDate (characters : List Char) : Bool :=
  ((do
    let (year, afterYear) ← readYear? characters
    let (month, afterMonth) ← readMonth? (← afterMark? '-' afterYear)
    let (day, rest) ← readDay? (← afterMark? '-' afterMonth)
    if rest.isEmpty then Calendar.date? year month day else none)).isSome

/-- A date as `01/02/2026`, `01-02-2026` or `2026-02-01`. -/
def isDate (characters : List Char) : Bool :=
  isDayFirstDate '/' characters || isDayFirstDate '-' characters || isYearFirstDate characters

end ChatFlow.Reply
