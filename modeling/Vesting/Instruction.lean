/-
# Instructions

An instruction hands a command to a program, together with the accounts it works on.  The order of
the accounts is part of the contract between the builders here and the engine that runs them.
-/
import Vesting.Command

namespace Vesting

/-- An account of an instruction, and what the instruction may do with it. -/
structure AccountMeta where
  key : Key
  signer : Bool
  writable : Bool
deriving DecidableEq

/-- Bytes for a program, and the accounts that go with them. -/
structure Instruction where
  program : Key
  accounts : List AccountMeta
  data : Bytes
deriving DecidableEq

namespace Instruction

/-- The accounts that have to sign. -/
def signers (ix : Instruction) : List Key :=
  (ix.accounts.filter AccountMeta.signer).map AccountMeta.key

/-- The keys of the accounts, in order. -/
def keys (ix : Instruction) : List Key := ix.accounts.map AccountMeta.key

/-! ## Builders -/

/-- Makes room for a contract of `count` tranches. -/
def init (program payer vesting : Key) (seeds : Seeds) (count : UInt32)
    (systemProgram : Key := Key.systemProgram) (rentSysvar : Key := Key.rentSysvar) :
    Instruction where
  program := program
  accounts := [⟨systemProgram, false, false⟩, ⟨rentSysvar, false, false⟩, ⟨payer, true, true⟩,
    ⟨vesting, false, true⟩]
  data := (Command.init seeds count).encode

/-- Sets up a contract and funds its escrow. -/
def create (program vesting escrow sourceOwner source destination mint : Key)
    (tranches : List Tranche) (seeds : Seeds) (tokenProgram : Key := Key.tokenProgram) :
    Instruction where
  program := program
  accounts := [⟨tokenProgram, false, false⟩, ⟨vesting, false, true⟩, ⟨escrow, false, true⟩,
    ⟨sourceOwner, true, false⟩, ⟨source, false, true⟩]
  data := (Command.create seeds mint destination tranches).encode

/-- Pays out what is due. -/
def unlock (program vesting escrow destination : Key) (seeds : Seeds)
    (tokenProgram : Key := Key.tokenProgram) (clockSysvar : Key := Key.clockSysvar) :
    Instruction where
  program := program
  accounts := [⟨tokenProgram, false, false⟩, ⟨clockSysvar, false, false⟩, ⟨vesting, false, true⟩,
    ⟨escrow, false, true⟩, ⟨destination, false, true⟩]
  data := (Command.unlock seeds).encode

/-- Names another destination; the owner of the current one signs. -/
def changeDestination (program vesting owner current target : Key) (seeds : Seeds) :
    Instruction where
  program := program
  accounts := [⟨vesting, false, true⟩, ⟨current, false, false⟩, ⟨owner, true, false⟩,
    ⟨target, false, false⟩]
  data := (Command.changeDestination seeds).encode

/-- Shows that the program can be reached. -/
def empty (program : Key) (number : UInt32) : Instruction where
  program := program
  accounts := []
  data := (Command.empty number).encode

end Instruction
end Vesting
