/-
# Bytes as base-58 text

The text of a byte string is the number that the bytes spell, most significant first, in base 58,
after one `1` for each leading zero byte.  The digits leave out `0`, `O`, `I` and `l`.
-/
import Vesting.Bytes
import Vesting.Bytes.Radix

namespace Vesting.Base58

/-- The digits, smallest first. -/
def alphabet : List Char :=
  "123456789ABCDEFGHJKLMNPQRSTUVWXYZabcdefghijkmnopqrstuvwxyz".toList

/-- The character of a digit value. -/
def digit (v : Nat) : Char := alphabet.getD v '1'

/-- The value of a digit. -/
def value? (c : Char) : Option Nat := alphabet.idxOf? c

/-- The text of a byte string. -/
def encode (data : Bytes) : String :=
  let zeros := (data.takeWhile (· = 0)).length
  let digits := Radix.digits 58 (Radix.value 256 (data.map UInt8.toNat))
  String.ofList (List.replicate zeros '1' ++ digits.map digit)

/-- The byte string that a text spells, if every character is a digit. -/
def decode? (text : List Char) : Option Bytes := do
  let zeros := (text.takeWhile (· = '1')).length
  let digits ← text.mapM value?
  return List.replicate zeros 0 ++ (Radix.digits 256 (Radix.value 58 digits)).map UInt8.ofNat

end Vesting.Base58
