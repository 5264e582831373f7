/-
# Bytes as base-64 text

Four characters spell three bytes, and `=` fills the last group.  Reading is strict or lenient:
a strict reader refuses what stands outside the alphabet and every padding but the one that ends
the text, a lenient one passes over both.  Neither looks at the bits that the last group leaves
unused.
-/
import Vesting.Bytes

namespace Vesting.Base64

/-- The characters, by value. -/
def alphabet : List Char :=
  "ABCDEFGHIJKLMNOPQRSTUVWXYZabcdefghijklmnopqrstuvwxyz0123456789+/".toList

/-- The character of a six-bit value. -/
def digit (v : Nat) : Char := alphabet.getD v 'A'

/-- The value of a character of the alphabet. -/
def value? (c : Char) : Option Nat := alphabet.idxOf? c

/-! ## 1. Writing -/

/-- The characters of the bytes, newest first in front of `acc`. -/
def encodeFrom (acc : List Char) : Bytes → List Char
  | [] => acc.reverse
  | [a] =>
    ('=' :: '=' :: digit (a.toNat % 4 * 16) :: digit (a.toNat / 4) :: acc).reverse
  | [a, b] =>
    ('=' :: digit (b.toNat % 16 * 4) :: digit (a.toNat % 4 * 16 + b.toNat / 16)
      :: digit (a.toNat / 4) :: acc).reverse
  | a :: b :: c :: rest =>
    encodeFrom
      (digit (c.toNat % 64) :: digit (b.toNat % 16 * 4 + c.toNat / 64)
        :: digit (a.toNat % 4 * 16 + b.toNat / 16) :: digit (a.toNat / 4) :: acc)
      rest

/-- The text of a byte string. -/
def encode (data : Bytes) : String := String.ofList (encodeFrom [] data)

/-! ## 2. Reading -/

/-- Why a text is no base-64 text. -/
inductive Malformed
  /-- It has a character outside ASCII. -/
  | notAscii
  /-- It starts with padding. -/
  | leadingPadding
  /-- A character is not in the alphabet. -/
  | foreignCharacter
  /-- Data goes on inside the padding. -/
  | brokenPadding
  /-- Something follows the padding. -/
  | excessData
  /-- A group holds a single character; `count` characters hold data. -/
  | loneCharacter (count : Nat)
  /-- The last group is not filled up. -/
  | missingPadding
deriving DecidableEq, Repr

/-- The text of a refusal. -/
def Malformed.message : Malformed → String
  | .notAscii => "string argument should contain only ASCII characters"
  | .leadingPadding => "Leading padding not allowed"
  | .foreignCharacter => "Only base64 data is allowed"
  | .brokenPadding => "Discontinuous padding not allowed"
  | .excessData => "Excess data after padding"
  | .loneCharacter count =>
    s!"Invalid base64-encoded string: number of data characters ({count}) cannot be 1 more than "
      ++ "a multiple of 4"
  | .missingPadding => "Incorrect padding"

/-- Where a reader stands: how many characters of the current group it has seen, their bits that
make no whole byte yet, the padding seen, and the bytes read, newest first. -/
structure Progress where
  group : Nat := 0
  bits : Nat := 0
  padding : Nat := 0
  padded : Bool := false
  bytes : Bytes := []

/-- Takes in one character of the alphabet, of the given value. -/
def Progress.push (s : Progress) (v : Nat) : Progress :=
  match s.group with
  | 0 => { s with group := 1, bits := v, padding := 0 }
  | 1 => { s with group := 2, bits := v % 16, padding := 0,
                  bytes := UInt8.ofNat (s.bits * 4 + v / 16) :: s.bytes }
  | 2 => { s with group := 3, bits := v % 4, padding := 0,
                  bytes := UInt8.ofNat (s.bits * 16 + v / 4) :: s.bytes }
  | _ => { s with group := 0, bits := 0, padding := 0,
                  bytes := UInt8.ofNat (s.bits * 64 + v) :: s.bytes }

/-- The bytes read, once the text has ended; the last group has to be whole. -/
def Progress.finish (s : Progress) : Except Malformed Bytes :=
  match s.group with
  | 0 => .ok s.bytes.reverse
  | 1 => .error (.loneCharacter (s.bytes.length / 3 * 4 + 1))
  | _ => .error .missingPadding

/-- Reads on from `s`. -/
def decodeFrom (strict : Bool) (s : Progress) : List Char → Except Malformed Bytes
  | [] => s.finish
  | c :: rest =>
    if c = '=' then
      let s := { s with padded := true }
      if s.group < 2 then decodeFrom strict s rest
      else if s.group + (s.padding + 1) < 4 then
        decodeFrom strict { s with padding := s.padding + 1 } rest
      else if strict && !rest.isEmpty then .error .excessData
      else .ok s.bytes.reverse
    else match value? c with
      | none => if strict then .error .foreignCharacter else decodeFrom strict s rest
      | some v =>
        if strict && s.padded then .error .brokenPadding else decodeFrom strict (s.push v) rest

/-- Reads base-64 text. -/
def decode (strict : Bool) (text : List Char) : Except Malformed Bytes :=
  if text.any (fun c => 128 ≤ c.toNat) then .error .notAscii
  else if strict && text.head? = some '=' then .error .leadingPadding
  else decodeFrom strict {} text

end Vesting.Base64
