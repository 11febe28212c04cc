import Starring.Foundation.Text

/-! SHA-256 over byte lists, its lower-case hexadecimal form, and the
length-framed material that digests are taken of. -/

namespace Starring.Foundation
open List

/-- The low `width` bytes of a number, most significant first. -/
def bigEndian (width number : Nat) : List UInt8 :=
  (List.range width).reverse.map fun place => UInt8.ofNat (number / 256 ^ place)

theorem length_bigEndian (width number : Nat) : (bigEndian width number).length = width := by
  simp [bigEndian]

namespace Sha256

def roundConstants : List UInt32 :=
  [0x428a2f98, 0x71374491, 0xb5c0fbcf, 0xe9b5dba5, 0x3956c25b, 0x59f111f1, 0x923f82a4, 0xab1c5ed5,
   0xd807aa98, 0x12835b01, 0x243185be, 0x550c7dc3, 0x72be5d74, 0x80deb1fe, 0x9bdc06a7, 0xc19bf174,
   0xe49b69c1, 0xefbe4786, 0x0fc19dc6, 0x240ca1cc, 0x2de92c6f, 0x4a7484aa, 0x5cb0a9dc, 0x76f988da,
   0x983e5152, 0xa831c66d, 0xb00327c8, 0xbf597fc7, 0xc6e00bf3, 0xd5a79147, 0x06ca6351, 0x14292967,
   0x27b70a85, 0x2e1b2138, 0x4d2c6dfc, 0x53380d13, 0x650a7354, 0x766a0abb, 0x81c2c92e, 0x92722c85,
   0xa2bfe8a1, 0xa81a664b, 0xc24b8b70, 0xc76c51a3, 0xd192e819, 0xd6990624, 0xf40e3585, 0x106aa070,
   0x19a4c116, 0x1e376c08, 0x2748774c, 0x34b0bcb5, 0x391c0cb3, 0x4ed8aa4a, 0x5b9cca4f, 0x682e6ff3,
   0x748f82ee, 0x78a5636f, 0x84c87814, 0x8cc70208, 0x90befffa, 0xa4506ceb, 0xbef9a3f7, 0xc67178f2]

structure Working where
  a : UInt32
  b : UInt32
  c : UInt32
  d : UInt32
  e : UInt32
  f : UInt32
  g : UInt32
  h : UInt32

def initial : Working :=
  ⟨0x6a09e667, 0xbb67ae85, 0x3c6ef372, 0xa54ff53a, 0x510e527f, 0x9b05688c, 0x1f83d9ab, 0x5be0cd19⟩

def rotateRight (word places : UInt32) : UInt32 := (word >>> places) ||| (word <<< (32 - places))

def round (s : Working) (constant : UInt32) (word : UInt32) : Working :=
  let sum1 := rotateRight s.e 6 ^^^ rotateRight s.e 11 ^^^ rotateRight s.e 25
  let choice := (s.e &&& s.f) ^^^ (~~~s.e &&& s.g)
  let first := s.h + sum1 + choice + constant + word
  let sum0 := rotateRight s.a 2 ^^^ rotateRight s.a 13 ^^^ rotateRight s.a 22
  let majority := (s.a &&& s.b) ^^^ (s.a &&& s.c) ^^^ (s.b &&& s.c)
  ⟨first + sum0 + majority, s.a, s.b, s.c, s.d + first, s.e, s.f, s.g⟩

/-- The message schedule, newest word first. -/
def extend : Nat → List UInt32 → List UInt32
  | 0, words => words
  | more + 1, words =>
    let older := words.getD 14 0
    let newer := words.getD 1 0
    let sigma0 := rotateRight older 7 ^^^ rotateRight older 18 ^^^ (older >>> 3)
    let sigma1 := rotateRight newer 17 ^^^ rotateRight newer 19 ^^^ (newer >>> 10)
    extend more ((words.getD 15 0 + sigma0 + words.getD 6 0 + sigma1) :: words)

def wordsOf : List UInt8 → List UInt32
  | first :: second :: third :: fourth :: rest =>
    ((first.toUInt32 <<< 24) ||| (second.toUInt32 <<< 16) ||| (third.toUInt32 <<< 8) ||| fourth.toUInt32) ::
      wordsOf rest
  | _ => []

def compress (s : Working) (block : List UInt8) : Working :=
  let schedule := (extend 48 (wordsOf block).reverse).reverse
  let r := (roundConstants.zip schedule).foldl (fun state (constant, word) => round state constant word) s
  ⟨s.a + r.a, s.b + r.b, s.c + r.c, s.d + r.d, s.e + r.e, s.f + r.f, s.g + r.g, s.h + r.h⟩

def pad (message : List UInt8) : List UInt8 :=
  message ++ 0x80 :: List.replicate ((119 - message.length % 64) % 64) 0 ++ bigEndian 8 (8 * message.length)

def blocks : Nat → List UInt8 → List (List UInt8)
  | 0, _ => []
  | count + 1, bytes => bytes.take 64 :: blocks count (bytes.drop 64)

end Sha256

def sha256 (message : List UInt8) : List UInt8 :=
  let padded := Sha256.pad message
  let s := (Sha256.blocks (padded.length / 64) padded).foldl Sha256.compress Sha256.initial
  [s.a, s.b, s.c, s.d, s.e, s.f, s.g, s.h].flatMap fun word => bigEndian 4 word.toNat

theorem length_sha256 (message : List UInt8) : (sha256 message).length = 32 := by
  simp [sha256, length_bigEndian]

def hexDigits : List Char :=
  ['0', '1', '2', '3', '4', '5', '6', '7', '8', '9', 'a', 'b', 'c', 'd', 'e', 'f']

/-- The two lower-case hexadecimal digits of a byte. -/
def lowerHex (byte : UInt8) : List Char :=
  [hexDigits.getD (byte.toNat / 16) '0', hexDigits.getD (byte.toNat % 16) '0']

def sha256Hex (message : List UInt8) : String := String.ofList ((sha256 message).flatMap lowerHex)

/-- A hexadecimal digit is one byte long. -/
theorem utf8_hexDigit : ∀ place < 16,
    (String.utf8EncodeChar (hexDigits.getD place '0')).length = 1 ∧
      (String.utf8EncodeChar (hexDigits.getD place '0')).all isLowerHexDigit = true := by
  decide

theorem utf8_lowerHex (byte : UInt8) :
    ((lowerHex byte).flatMap String.utf8EncodeChar).length = 2 ∧
      ((lowerHex byte).flatMap String.utf8EncodeChar).all isLowerHexDigit = true := by
  have bound := byte.toNat_lt
  obtain ⟨highLength, highHex⟩ := utf8_hexDigit (byte.toNat / 16) (by omega)
  obtain ⟨lowLength, lowHex⟩ := utf8_hexDigit (byte.toNat % 16) (by omega)
  simp only [lowerHex, flatMap_cons, flatMap_nil, append_nil, length_append,
    all_append, highLength, lowLength, highHex, lowHex]
  decide

theorem utf8_hexBytes (bytes : List UInt8) :
    ((bytes.flatMap lowerHex).flatMap String.utf8EncodeChar).length = 2 * bytes.length ∧
      ((bytes.flatMap lowerHex).flatMap String.utf8EncodeChar).all isLowerHexDigit = true := by
  induction bytes with
  | nil => simp
  | cons byte bytes ih =>
    obtain ⟨length, digits⟩ := utf8_lowerHex byte
    simp only [flatMap_cons, flatMap_append, length_append, all_append, length_cons,
      length, digits, ih.1, ih.2]
    exact ⟨by omega, rfl⟩

/-- A SHA-256 value in hexadecimal parses as one. -/
theorem isLowerHex64_sha256Hex (message : List UInt8) : isLowerHex64 (sha256Hex message) = true := by
  obtain ⟨length, digits⟩ := utf8_hexBytes (sha256 message)
  have bytes : utf8 (sha256Hex message) = _ := utf8_ofList ((sha256 message).flatMap lowerHex)
  have size : (sha256Hex message).utf8ByteSize = 64 := by
    change (utf8 (sha256Hex message)).length = 64
    rw [bytes, length, length_sha256]
  simp only [isLowerHex64, size, bytes, digits]
  rfl

/-- Every part of digest material is preceded by its length in eight bytes. -/
def lengthFramed (parts : List (List UInt8)) : List UInt8 :=
  parts.flatMap fun part => bigEndian 8 part.length ++ part

example : sha256Hex (utf8 "abc") = "ba7816bf8f01cfea414140de5dae2223b00361a396177a9cb410ff61f20015ad" := by
  decide +kernel

end Starring.Foundation
