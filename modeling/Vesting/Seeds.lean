/-
# Seeds

The 32 bytes from which the address of a contract is derived.
-/
import Vesting.Fault

namespace Vesting

/-- 32 bytes that lead to the address of a contract. -/
structure Seeds where
  bytes : Bytes
  length_bytes : bytes.length = 32

namespace Seeds

/-- Seeds with the same bytes are the same. -/
@[ext] theorem ext {a b : Seeds} (h : a.bytes = b.bytes) : a = b := by
  cases a
  cases h
  rfl

instance : DecidableEq Seeds := fun a b =>
  decidable_of_iff (a.bytes = b.bytes) ⟨ext, congrArg bytes⟩

/-- Seeds from bytes, of which there have to be 32. -/
def ofBytes (data : Bytes) : Except Fault Seeds :=
  if h : data.length = 32 then .ok ⟨data, h⟩ else .error (.invalid .seedsLength)

@[simp] theorem ofBytes_bytes (s : Seeds) : ofBytes s.bytes = .ok s := by
  simp [ofBytes, s.length_bytes]

/-- The seeds with which a longer byte string starts. -/
def first (data : Bytes) (h : 32 ≤ data.length) : Seeds := ⟨data.take 32, List.length_take_of_le h⟩

end Seeds
end Vesting
