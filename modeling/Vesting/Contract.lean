/-
# Contracts as clients see them

The bytes of a contract's account, read once: its header, its tranches, and what of them is still
locked or due.
-/
import Vesting.Record

namespace Vesting

/-- A contract read from the bytes of its account. -/
structure Contract where
  address : Key
  header : Header
  tranches : List Tranche
deriving DecidableEq

namespace Contract

/-- Reads a contract. -/
def decode (address : Key) (data : Bytes) : Except Fault Contract :=
  if data.length < 65 then .error (.invalid (.notRecord address data.length))
  else do
    let header ← Record.header data
    return ⟨address, header, Record.tranches data⟩

/-- What is not paid out yet. -/
def totalLocked (c : Contract) : Nat := Tranche.total c.tranches

/-- What is due at a clock value. -/
def vestedAt (now : Int) (c : Contract) : Nat := Tranche.dueAt now c.tranches

/-- The fields of a contract by name. -/
def fields (c : Contract) : List (String × Datum) :=
  [("address", .text c.address.text),
   ("destination_address", .text c.header.destination.text),
   ("mint_address", .text c.header.mint.text),
   ("is_initialized", .bool c.header.initialized),
   ("schedules", .list (c.tranches.map Tranche.toDatum)),
   ("total_locked", .int c.totalLocked)]

end Contract
end Vesting
