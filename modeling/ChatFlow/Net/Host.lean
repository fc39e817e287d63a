import ChatFlow.Json.Reader
import ChatFlow.Text.Case
import ChatFlow.Text.Percent
import ChatFlow.Text.Punycode
import ChatFlow.Text.Search
/-
Hosts of addresses: numeric addresses of both families, names in ASCII, and names in other scripts,
which are brought into ASCII label by label.
-/

namespace ChatFlow.Host

open Text

/-! ### Numeric addresses -/

/-- Whether characters look like four numbers with one character between each two; some digits of
the group at hand may have been read. -/
def looksNumeric (groupsLeft : Nat) (inGroup : Bool) : List Char → Bool
  | [] => groupsLeft == 0 && inGroup
  | character :: rest =>
      (isAsciiDigit character && looksNumeric groupsLeft true rest) ||
        (inGroup && groupsLeft != 0 && looksNumeric (groupsLeft - 1) false rest)

/-- A number below 256 in digits, without leading zeros. -/
def isOctet (digits : List Char) : Bool :=
  !digits.isEmpty && digits.length ≤ 3 && digits.all isAsciiDigit &&
    (digits.length == 1 || digits.head? != some '0') && digitsValue digits < 256

def isFourOctets (characters : List Char) : Bool :=
  let parts := splitWhere (· == '.') characters
  parts.length == 4 && parts.all isOctet

/-- At most four hexadecimal digits. -/
def isSixteenBits (digits : List Char) : Bool :=
  digits.length ≤ 4 && digits.all fun digit => (Json.hexValue? digit).isSome

/-- The parts of an address of eight, with two where the last one is written as four octets. -/
def expandOctets (parts : List (List Char)) : Option (List (List Char)) :=
  match parts.getLast? with
  | some last =>
      if last.contains '.' then
        if isFourOctets last then some (parts.dropLast ++ [['0'], ['0']]) else none
      else some parts
  | none => none

/-- Positions of the empty parts between the first part and the last one. -/
def gaps (parts : List (List Char)) : List Nat :=
  (List.range parts.length).filter fun position =>
    position != 0 && position + 1 != parts.length && (parts[position]?.getD []).isEmpty

/-- Eight parts, or fewer where one gap stands for parts that are zero. An empty part at either end
is allowed only beside the gap. -/
def isEightParts (parts : List (List Char)) : Bool :=
  let firstEmpty := (parts.head?.getD []).isEmpty
  let lastEmpty := (parts.getLast?.getD []).isEmpty
  parts.all isSixteenBits &&
    match gaps parts with
    | [] => parts.length == 8 && !firstEmpty && !lastEmpty
    | [gap] =>
        let before := if firstEmpty then gap - 1 else gap
        let after := parts.length - gap - 1 - (if lastEmpty then 1 else 0)
        (!firstEmpty || before == 0) && (!lastEmpty || after == 0) && before + after < 8
    | _ => false

/-- Whether characters are an address of the longer family, perhaps with the name of a scope. -/
def isLongNumeric (characters : List Char) : Bool :=
  let (number, scope) := characters.span (· != '%')
  let scopeIsFine := match scope with
    | [] => true
    | _ :: name => !name.isEmpty && !name.contains '%'
  let parts := splitWhere (· == ':') number
  scopeIsFine && 3 ≤ parts.length &&
    match expandOctets parts with
    | some parts => parts.length ≤ 9 && isEightParts parts
    | none => false

/-! ### Names -/

/-- Characters that stand for themselves in a name. -/
def isKeptInName (character : Char) : Bool :=
  isUnreserved character || "!$&'()*+,;=\"`\x7b\x7d%|\\".toList.contains character

/-- The full stops of several scripts. -/
def isStop (character : Char) : Bool := ['.', '。', '．', '｡'].contains character

/-- A label of letters, numbers and hyphens; hyphens stand neither at an end nor as third and fourth
character. -/
def isLabel (label : List Char) : Bool :=
  !label.isEmpty && label.head? != some '-' && label.getLast? != some '-' &&
    (label.drop 2).take 2 != ['-', '-'] &&
    label.all fun character => character == '-' || isLetterOrNumber character

/-- A label in ASCII, of at most sixty-three characters. -/
def asciiLabel? (label : List Char) : Option (List Char) :=
  if isLabel label then
    let coded :=
      if label.all fun character => character.toNat < 128 then label
      else "xn--".toList ++ Punycode.encode label
    if coded.length ≤ 63 then some coded else none
  else none

def joinLabels : List (List Char) → List Char
  | [] => []
  | [label] => label
  | label :: rest => label ++ '.' :: joinLabels rest

/-- A name in any script as a name in ASCII; a stop may end it. -/
def asciiName? (name : List Char) : Option (List Char) := do
  let labels := splitWhere isStop name
  let isRooted := labels.getLast? == some []
  let coded ← (if isRooted then labels.dropLast else labels).mapM asciiLabel?
  let joined := joinLabels (if isRooted then coded ++ [[]] else coded)
  if coded.isEmpty || joined.length > (if isRooted then 254 else 253) then none else some joined

/-- A host in its coded form; `none` for a host that is none. -/
def encode? (host : List Char) : Option (List Char) :=
  if host.isEmpty then some []
  else if looksNumeric 3 false host then if isFourOctets host then some host else none
  else if host.head? == some '[' && host.getLast? == some ']' then
    let inner := host.tail.dropLast
    if isLongNumeric inner then some inner else none
  else if host.all fun character => character.toNat < 128 then
    some (percentEncode isKeptInName (lowerChars host))
  else asciiName? (lowerChars host)

end ChatFlow.Host
