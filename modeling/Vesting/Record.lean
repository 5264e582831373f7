/-
# Records of contracts

The account of a contract holds a header of 65 bytes, which says who receives the tokens, of which
mint they are, and whether the contract has been set up, and then its tranches.  The functions
here read a record and change it in place; a writer touches its own range only.
-/
import Vesting.Tranche

namespace Vesting

/-! ## 1. Headers -/

/-- The head of a contract. -/
structure Header where
  /-- The token account that receives the tokens. -/
  destination : Key
  /-- The mint of the tokens. -/
  mint : Key
  /-- The contract has been set up. -/
  initialized : Bool
deriving DecidableEq

namespace Header

/-- The 65 bytes of a header. -/
def pack (h : Header) : Bytes :=
  h.destination.bytes ++ h.mint.bytes ++ [if h.initialized then 1 else 0]

@[simp] theorem length_pack (h : Header) : h.pack.length = 65 := by
  simp [pack, h.destination.length_bytes, h.mint.length_bytes]

/-- Reads the flag of a header. -/
def flag (b : UInt8) : Except Fault Bool :=
  if b = 0 then .ok false
  else if b = 1 then .ok true
  else .error (.rejected (.badFlag b))

/-- The header in 65 bytes. -/
def read (data : Bytes) (h : data.length = 65) : Except Fault Header := do
  let initialized ← flag data[64]
  return ⟨Key.slice data 0 (by omega), Key.slice data 32 (by omega), initialized⟩

/-- The header at an offset. -/
def unpack (data : Bytes) (offset : Int) : Except Fault Header :=
  if data.length - offset < 65 then
    .error (.rejected (.shortHeader (data.length - offset).toNat))
  else do
    let ⟨window, length⟩ ← data.windowAt offset 65
    read window length

end Header

/-! ## 2. Reading a record -/

namespace Record

/-- The length of a record with `n` tranches. -/
def length (n : Nat) : Nat := 65 + 16 * n

/-- The record has been set up.  A record shorter than a header never has. -/
def isInitialized (data : Bytes) : Bool := 65 ≤ data.length && data[64]? == some 1

/-- How many tranches fit in a record. -/
def capacity (data : Bytes) : Nat := (data.length - 65) / 16

/-- The header of a record. -/
def header (data : Bytes) : Except Fault Header := Header.unpack data 0

/-- The tranches of a record, as far as they are whole. -/
def tranches (data : Bytes) : List Tranche := Tranche.readMany (capacity data) (data.drop 65)

/-- The tranches of a record; a strict reader refuses bytes behind the last whole one. -/
def readTranches (strict : Bool) (data : Bytes) : Except Fault (List Tranche) :=
  Tranche.unpackAll strict (data.drop 65)

/-- A lenient reader never refuses. -/
theorem readTranches_false (data : Bytes) : readTranches false data = .ok (tranches data) := by
  simp [readTranches, Tranche.unpackAll, tranches, capacity]

/-- What is not paid out yet. -/
def totalLocked (data : Bytes) : Nat := Tranche.total (tranches data)

/-- What is due at a clock value. -/
def vestedAt (now : Int) (data : Bytes) : Nat := Tranche.dueAt now (tranches data)

/-! ## 3. Writing a record -/

/-- Writes the header; a record too short for it grows. -/
def writeHeader (h : Header) (data : Bytes) : Bytes := data.replaceRange 0 65 h.pack

/-- Writes the destination; a record too short for it grows. -/
def writeDestination (destination : Key) (data : Bytes) : Bytes :=
  data.replaceRange 0 32 destination.bytes

/-- Writes tranches from `offset` on.  The first that does not fit ends the work; those before it
stay written. -/
def writeFrom (offset : Nat) : List Tranche → Bytes → Bytes × Except Fault Unit
  | [], data => (data, .ok ())
  | t :: ts, data =>
    match data.overwrite? offset t.pack with
    | none => (data, .error .misfit)
    | some data => writeFrom (offset + 16) ts data

/-- Writes tranches behind the header. -/
def writeTranches (ts : List Tranche) (data : Bytes) : Bytes × Except Fault Unit :=
  writeFrom 65 ts data

end Record
end Vesting
