import ChatFlow.Text.Blank
import ChatFlow.Text.Case
/-
Texts as bytes. Decoding gives a character, or nothing for each stretch of bytes that is no
character; strict reading refuses such bytes and lenient reading replaces them.
-/

namespace ChatFlow.Text

inductive Charset where
  | ascii | latin1 | windows1252
  | utf8 | utf16 (bigEndian : Bool) | utf32 (bigEndian : Bool)
  | utf8Marked | utf16Marked | utf32Marked
  deriving DecidableEq, Repr

def utf8Bytes (text : String) : List UInt8 := text.toList.flatMap String.utf8EncodeChar

/-! ### UTF-8 -/

def isBetween (least most : Nat) (byte : UInt8) : Bool :=
  least ≤ byte.toNat && byte.toNat ≤ most

/-- The ranges of the bytes that may follow a first byte. -/
def followers? (first : Nat) : Option (List (Nat × Nat)) :=
  let any := (0x80, 0xBF)
  if first < 0x80 then some []
  else if first < 0xC2 then none
  else if first < 0xE0 then some [any]
  else if first = 0xE0 then some [(0xA0, 0xBF), any]
  else if first = 0xED then some [(0x80, 0x9F), any]
  else if first < 0xF0 then some [any, any]
  else if first = 0xF0 then some [(0x90, 0xBF), any, any]
  else if first < 0xF4 then some [any, any, any]
  else if first = 0xF4 then some [(0x80, 0x8F), any, any]
  else none

/-- The bits that a first byte gives to its character. -/
def leadingBits (first : Nat) : Nat :=
  if first < 0x80 then first
  else if first < 0xE0 then first % 32
  else if first < 0xF0 then first % 16
  else first % 8

/-- Reads the bytes that follow a first byte; nothing is read where one is out of its range, and
the rest starts at that byte. -/
def readFollowers (code : Nat) : List (Nat × Nat) → List UInt8 → Option Nat × List UInt8
  | [], bytes => (some code, bytes)
  | _ :: _, [] => (none, [])
  | (least, most) :: ranges, byte :: rest =>
      if isBetween least most byte then readFollowers (code * 64 + byte.toNat % 64) ranges rest
      else (none, byte :: rest)

theorem length_readFollowers (ranges : List (Nat × Nat)) :
    ∀ (code : Nat) (bytes : List UInt8),
      (readFollowers code ranges bytes).2.length ≤ bytes.length := by
  induction ranges with
  | nil => intro code bytes; simp [readFollowers]
  | cons range ranges ih =>
      intro code bytes
      cases bytes with
      | nil => simp [readFollowers]
      | cons byte rest =>
          simp only [readFollowers]
          split
          · exact Nat.le_succ_of_le (ih _ rest)
          · simp

def decodeUtf8 : List UInt8 → List (Option Char)
  | [] => []
  | first :: rest =>
      match followers? first.toNat with
      | none => none :: decodeUtf8 rest
      | some ranges =>
          let read := readFollowers (leadingBits first.toNat) ranges rest
          read.1.map Char.ofNat :: decodeUtf8 read.2
termination_by bytes => bytes.length
decreasing_by
  · simp
  · have := length_readFollowers ranges (leadingBits first.toNat) rest
    simp only [List.length_cons]
    omega

/-! ### Wider units -/

def codeChar? (code : Nat) : Option Char :=
  if code < 0xD800 || (0xE000 ≤ code && code < 0x110000) then some (Char.ofNat code) else none

/-- Units of two bytes; a byte that is left over is no unit. -/
def units16 (bigEndian : Bool) : List UInt8 → List (Option Nat)
  | [] => []
  | [_] => [none]
  | a :: b :: rest =>
      some (if bigEndian then a.toNat * 256 + b.toNat else b.toNat * 256 + a.toNat) ::
        units16 bigEndian rest

/-- The characters of units; two units of the surrogate ranges make one character. -/
def decodeUnits16 : List (Option Nat) → List (Option Char)
  | [] => []
  | none :: rest => none :: decodeUnits16 rest
  | some unit :: rest =>
      if 0xD800 ≤ unit && unit < 0xDC00 then
        match rest with
        | some low :: rest' =>
            if 0xDC00 ≤ low && low < 0xE000 then
              some (Char.ofNat (0x10000 + (unit - 0xD800) * 1024 + (low - 0xDC00))) ::
                decodeUnits16 rest'
            else none :: decodeUnits16 (some low :: rest')
        | none :: rest' => none :: decodeUnits16 rest'
        | [] => [none]
      else codeChar? unit :: decodeUnits16 rest

def decodeUtf32 (bigEndian : Bool) : List UInt8 → List (Option Char)
  | [] => []
  | a :: b :: c :: d :: rest =>
      let ordered := if bigEndian then [a, b, c, d] else [d, c, b, a]
      codeChar? (ordered.foldl (fun code byte => code * 256 + byte.toNat) 0) ::
        decodeUtf32 bigEndian rest
  | _ => [none]

/-! ### Single bytes -/

/-- The characters of the bytes 0x80 to 0x9F; zero stands for a byte that is no character. -/
def windows1252High : List Nat :=
  [0x20AC, 0, 0x201A, 0x0192, 0x201E, 0x2026, 0x2020, 0x2021, 0x02C6, 0x2030, 0x0160, 0x2039,
    0x0152, 0, 0x017D, 0, 0, 0x2018, 0x2019, 0x201C, 0x201D, 0x2022, 0x2013, 0x2014, 0x02DC,
    0x2122, 0x0161, 0x203A, 0x0153, 0, 0x017E, 0x0178]

def windows1252Char? (byte : UInt8) : Option Char :=
  let code := byte.toNat
  if 0x80 ≤ code && code < 0xA0 then
    match windows1252High[code - 0x80]? with
    | some 0 => none
    | found => found.map Char.ofNat
  else some (Char.ofNat code)

/-! ### Charsets -/

namespace Charset

/-- The characters of bytes, with nothing for each stretch of bytes that is no character. -/
def decode : Charset → List UInt8 → List (Option Char)
  | .ascii, bytes =>
      bytes.map fun byte => if byte.toNat < 0x80 then some (Char.ofNat byte.toNat) else none
  | .latin1, bytes => bytes.map fun byte => some (Char.ofNat byte.toNat)
  | .windows1252, bytes => bytes.map windows1252Char?
  | .utf8, bytes => decodeUtf8 bytes
  | .utf16 bigEndian, bytes => decodeUnits16 (units16 bigEndian bytes)
  | .utf32 bigEndian, bytes => decodeUtf32 bigEndian bytes
  | .utf8Marked, 0xEF :: 0xBB :: 0xBF :: bytes => decodeUtf8 bytes
  | .utf8Marked, bytes => decodeUtf8 bytes
  | .utf16Marked, 0xFE :: 0xFF :: bytes => decodeUnits16 (units16 true bytes)
  | .utf16Marked, 0xFF :: 0xFE :: bytes => decodeUnits16 (units16 false bytes)
  | .utf16Marked, bytes => decodeUnits16 (units16 false bytes)
  | .utf32Marked, 0 :: 0 :: 0xFE :: 0xFF :: bytes => decodeUtf32 true bytes
  | .utf32Marked, 0xFF :: 0xFE :: 0 :: 0 :: bytes => decodeUtf32 false bytes
  | .utf32Marked, bytes => decodeUtf32 false bytes

/-- The text of bytes, if all of them are characters. -/
def read? (charset : Charset) (bytes : List UInt8) : Option (List Char) :=
  (charset.decode bytes).mapM id

/-- The text of bytes, with the replacement character where there is no character. -/
def readLeniently (charset : Charset) (bytes : List UInt8) : List Char :=
  (charset.decode bytes).map fun character => character.getD '\ufffd'

/-- Names of charsets, in small letters and with hyphens. -/
def names : List (String × Charset) :=
  [("utf-8", .utf8), ("utf8", .utf8), ("u8", .utf8), ("utf", .utf8), ("cp65001", .utf8),
    ("ascii", .ascii), ("us-ascii", .ascii), ("646", .ascii), ("ansi-x3.4-1968", .ascii),
    ("iso-8859-1", .latin1), ("iso8859-1", .latin1), ("8859", .latin1), ("cp819", .latin1),
    ("latin-1", .latin1), ("latin1", .latin1), ("latin", .latin1), ("l1", .latin1),
    ("windows-1252", .windows1252), ("cp1252", .windows1252), ("1252", .windows1252),
    ("utf-8-sig", .utf8Marked),
    ("utf-16", .utf16Marked), ("utf16", .utf16Marked), ("u16", .utf16Marked),
    ("utf-16le", .utf16 false), ("utf-16-le", .utf16 false),
    ("utf-16be", .utf16 true), ("utf-16-be", .utf16 true),
    ("utf-32", .utf32Marked), ("utf32", .utf32Marked), ("u32", .utf32Marked),
    ("utf-32le", .utf32 false), ("utf-32-le", .utf32 false),
    ("utf-32be", .utf32 true), ("utf-32-be", .utf32 true)]

def named? (name : List Char) : Option Charset :=
  let plain := String.ofList ((lowerChars name).map fun character =>
    if character == '_' || character == ' ' then '-' else character)
  (names.find? fun entry => entry.1 == plain).map Prod.snd

/-- The charset of a JSON text, told by its mark or by the places of its zero bytes. -/
def ofJson : List UInt8 → Charset
  | 0 :: 0 :: 0xFE :: 0xFF :: _ => .utf32Marked
  | 0xFF :: 0xFE :: 0 :: 0 :: _ => .utf32Marked
  | 0xFE :: 0xFF :: _ => .utf16Marked
  | 0xFF :: 0xFE :: _ => .utf16Marked
  | 0xEF :: 0xBB :: 0xBF :: _ => .utf8Marked
  | 0 :: 0 :: _ :: _ :: _ => .utf32 true
  | 0 :: _ :: _ :: _ :: _ => .utf16 true
  | _ :: 0 :: 0 :: 0 :: _ => .utf32 false
  | _ :: 0 :: _ :: _ :: _ => .utf16 false
  | [0, _] => .utf16 true
  | [_, 0] => .utf16 false
  | _ => .utf8

end Charset

end ChatFlow.Text
