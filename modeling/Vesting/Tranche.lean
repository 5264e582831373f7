/-
# Tranches

A tranche releases an amount of tokens at a time.  It is stored in 16 bytes: the release time,
then the amount.  The amount of a tranche that has been paid out is zero.
-/
import Vesting.Bytes.LittleEndian
import Vesting.Bytes.Size
import Vesting.Datum.Bounded

namespace Vesting

/-- `amount` tokens that are due at `releaseTime`. -/
structure Tranche where
  releaseTime : UInt64
  amount : UInt64
deriving DecidableEq, Repr

namespace Tranche

/-! ## 1. A single tranche -/

/-- The length of a stored tranche. -/
def length : Nat := 16

/-- A tranche from values that nobody has checked. -/
def ofData (releaseTime amount : Datum) : Except Fault Tranche := do
  let releaseTime ← Word64.ofDatum "release_time" releaseTime
  let amount ← Word64.ofDatum "amount" amount
  return ⟨releaseTime, amount⟩

/-- The tranche once it has been paid out. -/
def released (t : Tranche) : Tranche := { t with amount := 0 }

/-- The tranche is due at a clock value. -/
def isDue (now : Int) (t : Tranche) : Bool := (t.releaseTime.toNat : Int) ≤ now

/-- The fields of a tranche by name. -/
def toDatum (t : Tranche) : Datum :=
  .table [("release_time", .int t.releaseTime.toNat), ("amount", .int t.amount.toNat)]

/-- The 16 bytes of a tranche. -/
def pack (t : Tranche) : Bytes :=
  LittleEndian.encode 8 t.releaseTime.toNat ++ LittleEndian.encode 8 t.amount.toNat

@[simp] theorem length_pack (t : Tranche) : t.pack.length = 16 := by
  simp [pack]

/-- The tranche in the first 16 bytes. -/
def read (data : Bytes) : Tranche :=
  ⟨UInt64.ofNat (LittleEndian.decode (data.take 8)),
   UInt64.ofNat (LittleEndian.decode ((data.drop 8).take 8))⟩

/-- A tranche is read back from its bytes. -/
theorem read_pack_append (t : Tranche) (rest : Bytes) : read (t.pack ++ rest) = t := by
  have time : (t.pack ++ rest).take 8 = LittleEndian.encode 8 t.releaseTime.toNat := by
    rw [pack, List.append_assoc, List.take_append_of_le_length (by simp)]
    exact List.take_of_length_le (by simp)
  have amount : ((t.pack ++ rest).drop 8).take 8 = LittleEndian.encode 8 t.amount.toNat := by
    rw [pack, List.append_assoc, List.drop_append_of_le_length (by simp)]
    rw [List.drop_of_length_le (by simp), List.nil_append, List.take_append_of_le_length (by simp)]
    exact List.take_of_length_le (by simp)
  have bound (w : UInt64) : w.toNat < LittleEndian.capacity 8 := w.toNat_lt
  rw [read, time, amount, LittleEndian.decode_encode (bound _),
    LittleEndian.decode_encode (bound _)]
  simp

/-- The tranche at an offset. -/
def unpack (data : Bytes) (offset : Int) : Except Fault Tranche :=
  if data.length - offset < 16 then
    .error (.rejected (.shortTranche (data.length - offset).toNat))
  else do
    let ⟨window, _⟩ ← data.windowAt offset 16
    return read window

/-! ## 2. Tranches back to back -/

/-- The bytes of tranches, one behind the other. -/
def packAll (ts : List Tranche) : Bytes := ts.flatMap pack

/-- The first `n` tranches of a byte string, behind those already read, newest first. -/
def readFrom (acc : List Tranche) : Nat → Bytes → List Tranche
  | 0, _ => acc.reverse
  | n + 1, data => readFrom (read data :: acc) n (data.drop 16)

/-- The first `n` tranches of a byte string. -/
def readMany (n : Nat) (data : Bytes) : List Tranche := readFrom [] n data

/-- What has been read already comes first. -/
theorem readFrom_eq (acc : List Tranche) (n : Nat) (data : Bytes) :
    readFrom acc n data = acc.reverse ++ readMany n data := by
  induction n generalizing acc data with
  | zero => simp [readFrom, readMany]
  | succ n ih =>
    have step : readMany (n + 1) data = [read data] ++ readMany n (data.drop 16) :=
      ih [read data] (data.drop 16)
    rw [readFrom, ih, step]
    simp

@[simp] theorem readMany_zero (data : Bytes) : readMany 0 data = [] := rfl

/-- The first tranche comes first. -/
theorem readMany_succ (n : Nat) (data : Bytes) :
    readMany (n + 1) data = read data :: readMany n (data.drop 16) :=
  readFrom_eq [read data] n (data.drop 16)

/-- The tranches of a byte string.  Bytes behind the last whole one are passed over, or refused by
a strict reader. -/
def unpackAll (strict : Bool) (data : Bytes) : Except Fault (List Tranche) :=
  if strict ∧ data.length % 16 ≠ 0 then
    .error (.rejected (.trailingBytes (data.length % 16)))
  else
    .ok (readMany (data.length / 16) data)

/-- The sum of the amounts. -/
def total : List Tranche → Nat
  | [] => 0
  | t :: ts => t.amount.toNat + total ts

/-- The sum of the amounts that are due at a clock value. -/
def dueAt (now : Int) (ts : List Tranche) : Nat := total (ts.filter (isDue now))

/-- The tranches once everything due at a clock value has been paid out. -/
def release (now : Int) (ts : List Tranche) : List Tranche :=
  ts.map fun t => if t.isDue now then t.released else t

end Tranche
end Vesting
