/-
# Byte strings

A byte string is a list of bytes, so that every function on it is a recursion on data and every
fact about it an induction.  This file holds the cuts that records and accounts are made of:
a window read at an offset, and a range that is replaced.
-/

namespace Vesting

/-- A string of bytes. -/
abbrev Bytes := List UInt8

namespace Bytes

/-! ## 1. Reading a window -/

/-- The position that an offset names: a negative one counts from the end. -/
def position (data : Bytes) (offset : Int) : Int :=
  if offset < 0 then offset + data.length else offset

/-- The `size` bytes of `data` that start at `offset`, if they all exist. -/
def window? (data : Bytes) (offset : Int) (size : Nat) : Option Bytes :=
  if 0 ≤ data.position offset ∧ data.position offset + size ≤ data.length then
    some ((data.drop (data.position offset).toNat).take size)
  else
    none

/-- A window has the length that was asked for. -/
theorem length_of_window? {data w : Bytes} {offset : Int} {size : Nat}
    (h : data.window? offset size = some w) : w.length = size := by
  unfold window? at h
  split at h
  · rename_i fits
    cases h
    simp only [List.length_take, List.length_drop]
    omega
  · cases h

/-- A window that exists has its full length. -/
theorem length_take_drop {data : Bytes} {offset size : Nat} (h : offset + size ≤ data.length) :
    ((data.drop offset).take size).length = size := by
  simp only [List.length_take, List.length_drop]
  omega

/-! ## 2. Replacing a range -/

/-- `data.replaceRange start stop new` puts `new` in the place of the bytes from `start` up to
`stop`.  What lies beyond the end of `data` does not exist, so a short string grows. -/
def replaceRange (data : Bytes) (start stop : Nat) (new : Bytes) : Bytes :=
  data.take start ++ new ++ data.drop stop

/-- The place that a bound names: a negative one counts from the end, and one beyond an end of
`data` names that end. -/
def bound (data : Bytes) (n : Int) : Nat := min (data.position n).toNat data.length

/-- `data.splice start stop new` puts `new` in the place of the bytes between two bounds.  Where
the second comes before the first, nothing is taken away. -/
def splice (data : Bytes) (start stop : Int) (new : Bytes) : Bytes :=
  data.replaceRange (data.bound start) (max (data.bound start) (data.bound stop)) new

/-- `data.overwrite? offset new` puts `new` over the bytes at `offset`, if there are enough. -/
def overwrite? (data : Bytes) (offset : Nat) (new : Bytes) : Option Bytes :=
  if offset + new.length ≤ data.length then
    some (data.replaceRange offset (offset + new.length) new)
  else
    none

/-- Overwriting keeps the length. -/
theorem length_of_overwrite? {data new out : Bytes} {offset : Nat}
    (h : data.overwrite? offset new = some out) : out.length = data.length := by
  unfold overwrite? at h
  split at h
  · cases h
    simp only [replaceRange, List.length_append, List.length_take, List.length_drop]
    omega
  · cases h

end Bytes
end Vesting
