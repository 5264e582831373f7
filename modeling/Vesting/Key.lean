/-
# Keys

A key names an account, a program or a signer.  It is 32 bytes long and shown in base 58.
-/
import Vesting.Bytes.Base58

namespace Vesting

/-- 32 bytes that name an account, a program or a signer. -/
structure Key where
  bytes : Bytes
  length_bytes : bytes.length = 32
deriving DecidableEq

namespace Key

/-- A key from its bytes, if there are 32. -/
def ofBytes? (data : Bytes) : Option Key :=
  if h : data.length = 32 then some ⟨data, h⟩ else none

@[simp] theorem ofBytes?_bytes (k : Key) : ofBytes? k.bytes = some k := by
  simp [ofBytes?, k.length_bytes]

/-- The key at an offset of a longer byte string. -/
def slice (data : Bytes) (offset : Nat) (h : offset + 32 ≤ data.length) : Key :=
  ⟨(data.drop offset).take 32, Bytes.length_take_drop h⟩

/-- The key of all zeros. -/
def zero : Key := ⟨List.replicate 32 0, by simp⟩

instance : Inhabited Key := ⟨zero⟩

/-- The text of a key. -/
def text (k : Key) : String := Base58.encode k.bytes

instance : ToString Key := ⟨text⟩

/-- The longest text that a key can have. -/
def maxText : Nat := 44

/-- Reads the text of a key. -/
def ofText? (s : String) : Option Key :=
  if maxText < s.utf8ByteSize then none else (Base58.decode? s.toList).bind ofBytes?

/-- Keys in the order of their bytes. -/
def le (a b : Key) : Bool := !decide (b.bytes < a.bytes)

/-- A key given by its text in this library; the zero key where the text is none. -/
def named (s : String) : Key := (ofText? s).getD zero

/-! ## The keys that every cluster knows -/

/-- The program that owns plain accounts. -/
def systemProgram : Key := zero

/-- The program that owns token accounts. -/
def tokenProgram : Key := named "TokenkegQfeZyiNwAJbNbGKPFXCWuBvf9Ss623VQ5DA"

/-- The program that opens the token account that goes with a wallet and a mint. -/
def associatedTokenProgram : Key := named "ATokenGPvbdGVxr1b2hvZbsiqW5xWH25efTNsLJA8knL"

/-- The account that stands for the rent rules. -/
def rentSysvar : Key := named "SysvarRent111111111111111111111111111111111"

/-- The account that stands for the clock. -/
def clockSysvar : Key := named "SysvarC1ock11111111111111111111111111111111"

/-- The text of the deployed vesting program. -/
def vestingProgramText : String := "SoLi39YzAM2zEXcecy77VGbxLB5yHryNckY9Jx7yBKM"

/-- The deployed vesting program. -/
def vestingProgram : Key := named vestingProgramText

end Key
end Vesting
