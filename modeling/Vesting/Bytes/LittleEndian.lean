/-
# Numbers as bytes, least significant byte first

`encode n v` writes `v` in `n` bytes and `decode` reads a number back.  The two undo each other:
`decode_encode` for numbers that fit, `encode_decode` for every byte string.
-/
import Vesting.Bytes

namespace Vesting.LittleEndian

/-- The lowest `n` bytes of `v`, least significant first. -/
def encode : Nat → Nat → Bytes
  | 0, _ => []
  | n + 1, v => UInt8.ofNat v :: encode n (v / 256)

/-- The number that a byte string holds, least significant byte first. -/
def decode : Bytes → Nat
  | [] => 0
  | b :: rest => b.toNat + 256 * decode rest

/-- How many numbers fit in `n` bytes. -/
def capacity : Nat → Nat
  | 0 => 1
  | n + 1 => 256 * capacity n

@[simp] theorem length_encode (n v : Nat) : (encode n v).length = n := by
  induction n generalizing v with
  | zero => rfl
  | succ n ih => simp [encode, ih]

/-- A number that fits in `n` bytes is read back. -/
theorem decode_encode {n v : Nat} (h : v < capacity n) : decode (encode n v) = v := by
  induction n generalizing v with
  | zero =>
    rw [capacity] at h
    rw [encode, decode]
    omega
  | succ n ih =>
    have hq : v / 256 < capacity n := by
      rw [capacity] at h
      omega
    have hb : (UInt8.ofNat v).toNat = v % 256 := by simp
    rw [encode, decode, ih hq, hb]
    omega

/-- A byte string holds a number that fits in as many bytes. -/
theorem decode_lt (b : Bytes) : decode b < capacity b.length := by
  induction b with
  | nil => decide
  | cons x rest ih =>
    have hx : x.toNat < 256 := x.toNat_lt
    simp only [decode, List.length_cons, capacity]
    omega

/-- Writing back what was read gives the same bytes. -/
theorem encode_decode (b : Bytes) : encode b.length (decode b) = b := by
  induction b with
  | nil => rfl
  | cons x rest ih =>
    have hx : x.toNat < 256 := x.toNat_lt
    have hq : (x.toNat + 256 * decode rest) / 256 = decode rest := by omega
    have hb : UInt8.ofNat (x.toNat + 256 * decode rest) = x := by
      apply UInt8.toNat_inj.mp
      simp only [UInt8.toNat_ofNat']
      omega
    simp only [List.length_cons, encode, decode, hq, hb, ih]

end Vesting.LittleEndian
