import Mathlib

/-! Byte and character classes of UTF-8 text, with the lengths measured in bytes.
White space is the Unicode `White_Space` property, not the ASCII subset. -/

namespace Starring.Foundation

def utf8 (text : String) : List UInt8 := text.toUTF8.data.toList

theorem utf8_ofList (chars : List Char) : utf8 (String.ofList chars) = chars.flatMap String.utf8EncodeChar := by
  simp [utf8, String.toUTF8, List.utf8Encode]

def isAsciiDigit (byte : UInt8) : Bool := 48 ≤ byte.toNat && byte.toNat ≤ 57
def isAsciiLowercase (byte : UInt8) : Bool := 97 ≤ byte.toNat && byte.toNat ≤ 122
def isAsciiUppercase (byte : UInt8) : Bool := 65 ≤ byte.toNat && byte.toNat ≤ 90

def isAsciiAlphanumeric (byte : UInt8) : Bool :=
  isAsciiDigit byte || isAsciiLowercase byte || isAsciiUppercase byte

/-- A digit or one of `a` to `f`. -/
def isLowerHexDigit (byte : UInt8) : Bool :=
  isAsciiDigit byte || (97 ≤ byte.toNat && byte.toNat ≤ 102)

/-- A SHA-256 value as it is written in identifiers. -/
def isLowerHex64 (text : String) : Bool :=
  text.utf8ByteSize == 64 && (utf8 text).all isLowerHexDigit

def isWhitespace (char : Char) : Bool :=
  let point := char.toNat
  (9 ≤ point && point ≤ 13) || point == 32 || point == 0x85 || point == 0xA0 || point == 0x1680 ||
    (0x2000 ≤ point && point ≤ 0x200A) || point == 0x2028 || point == 0x2029 || point == 0x202F ||
    point == 0x205F || point == 0x3000

/-- Nothing is left of the text once both ends are trimmed. -/
def isBlank (text : String) : Bool := text.toList.all isWhitespace

/-- `encode_utf16().count()`. -/
def utf16Length (text : String) : Nat := (text.toList.map fun char => if char.toNat < 0x10000 then 1 else 2).sum

/-- The number a string of decimal digits stands for, after the digits already read. -/
def parseDigits : List UInt8 → Nat → Option Nat
  | [], value => some value
  | byte :: bytes, value =>
    if isAsciiDigit byte then parseDigits bytes (value * 10 + (byte.toNat - 48)) else none

/-- `str::parse::<u64>`: decimal digits, with a plus sign allowed before them. -/
def parseU64 (text : String) : Option UInt64 :=
  let digits := match utf8 text with
    | 43 :: rest => rest
    | bytes => bytes
  if digits = [] then none
  else (parseDigits digits 0).bind fun value => if value < 2 ^ 64 then some (UInt64.ofNat value) else none

end Starring.Foundation
