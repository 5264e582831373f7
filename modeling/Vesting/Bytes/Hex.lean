/-
# Bytes as hexadecimal text

Two lower-case digits a byte.  Reading takes digits of either case and lets white space stand
between bytes but not inside one; a refusal names the position of the offending character.
-/
import Vesting.Bytes

namespace Vesting.Hex

/-- The digit of a value below sixteen. -/
def digit (v : Nat) : Char :=
  Char.ofNat (if v < 10 then 48 + v else 87 + v)

/-- The value of a hexadecimal digit of either case. -/
def value? (c : Char) : Option Nat :=
  if '0' ≤ c ∧ c ≤ '9' then some (c.toNat - 48)
  else if 'a' ≤ c ∧ c ≤ 'f' then some (c.toNat - 87)
  else if 'A' ≤ c ∧ c ≤ 'F' then some (c.toNat - 55)
  else none

/-- The two digits of a byte. -/
def digits (b : UInt8) : List Char := [digit (b.toNat / 16), digit (b.toNat % 16)]

/-- The digits of a byte string. -/
def encode (data : Bytes) : String := String.ofList (data.flatMap digits)

/-- The characters that may stand between two bytes. -/
def isGap (c : Char) : Bool := c = ' ' || ('\t' ≤ c && c ≤ '\r')

/-- Reads bytes from position `pos` on, `acc` holding those already read, newest first.  A
refusal is the position of the first character that is no digit; at the end of the text that is
the text's length. -/
def decodeFrom (pos : Nat) (acc : Bytes) : List Char → Except Nat Bytes
  | [] => .ok acc.reverse
  | hi :: rest =>
    if isGap hi then decodeFrom (pos + 1) acc rest
    else match value? hi, rest with
      | none, _ => .error pos
      | some _, [] => .error (pos + 1)
      | some h, lo :: rest =>
        match value? lo with
        | none => .error (pos + 1)
        | some l => decodeFrom (pos + 2) (UInt8.ofNat (16 * h + l) :: acc) rest

/-- Reads hexadecimal text.  A character outside ASCII is refused first, wherever it stands. -/
def decode (text : List Char) : Except Nat Bytes :=
  match text.findIdx? (fun c => 128 ≤ c.toNat) with
  | some pos => .error pos
  | none => decodeFrom 0 [] text

end Vesting.Hex
