/-
# Numbers of a bounded size

The checks that turn a value of no fixed shape into a number of 64 or 32 bits.  A truth value is
no number, whatever it would count as.
-/
import Vesting.Datum
import Vesting.Fault

namespace Vesting

/-- The largest number of 64 bits. -/
def maxU64 : Nat := 18446744073709551615

/-- The largest number of 32 bits. -/
def maxU32 : Nat := 4294967295

/-- An integer as a number of 64 bits; `field` names it in a refusal. -/
def Word64.ofInt (field : String) (n : Int) : Except Fault UInt64 :=
  if 0 ≤ n ∧ n ≤ maxU64 then .ok (UInt64.ofNat n.toNat) else .error (.invalid (.outsideU64 field))

/-- A value as a number of 64 bits. -/
def Word64.ofDatum (field : String) : Datum → Except Fault UInt64
  | .int n => Word64.ofInt field n
  | _ => .error (.invalid (.notInteger field))

/-- An integer as a number of 32 bits. -/
def Word32.ofInt (field : String) (n : Int) : Except Fault UInt32 :=
  if 0 ≤ n ∧ n ≤ maxU32 then .ok (UInt32.ofNat n.toNat) else .error (.invalid (.outsideU32 field))

/-- A value as a number of 32 bits; what is no integer is refused like one out of range. -/
def Word32.ofDatum (field : String) : Datum → Except Fault UInt32
  | .int n => Word32.ofInt field n
  | _ => .error (.invalid (.outsideU32 field))

/-- A number of 64 bits passes the check as itself. -/
theorem Word64.ofInt_toNat (field : String) (n : UInt64) :
    Word64.ofInt field (n.toNat : Int) = .ok n := by
  have h : n.toNat < 2 ^ 64 := n.toNat_lt
  have fits : 0 ≤ (n.toNat : Int) ∧ (n.toNat : Int) ≤ maxU64 := by
    simp only [maxU64]
    omega
  simp [Word64.ofInt, fits]

/-- What passes the check is the number that was given. -/
theorem Word64.toNat_of_ofInt {field : String} {n : Int} {w : UInt64}
    (h : Word64.ofInt field n = .ok w) : (w.toNat : Int) = n := by
  unfold Word64.ofInt at h
  split at h
  · rename_i fits
    cases h
    simp only [maxU64] at fits
    simp only [UInt64.toNat_ofNat']
    omega
  · cases h

end Vesting
