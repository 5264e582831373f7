/-
# The vesting program

Each command finds its accounts by their position, checks every condition in a fixed order, and
only then has tokens moved and writes the record.  A condition that does not hold is logged and
breaks the command off.

What a command comes to once all its checks have passed is a `Plan`: what the host is asked to do,
and what is written and reported behind it.
-/
import Vesting.Command
import Vesting.Host
import Vesting.Record

namespace Vesting

open Act

namespace Engine

/-! ## 1. Accounts -/

/-- A way to find the account at a position, which plays a role. -/
abbrev Finder := Nat → Role → Act Key

/-- The account at a position, which plays a role. -/
def pick (accounts : List Key) : Finder := fun position role =>
  match accounts[position]? with
  | some key => pure key
  | none => refuse (.missingAccount role)

/-- Checks that the seeds lead to the account of the contract. -/
def checkAddress (host : Host) (seeds : Seeds) (vesting : Key) : Act Unit :=
  match host.derive seeds.bytes host.program with
  | .ok address => demand (address = vesting) .addressMismatch
  | .error (.rejected why) =>
    if why.code = .invalidArgument then refuse (.badSeeds why) else fail (.rejected why)
  | .error why => fail why

/-- The token account under a key, which plays a role. -/
def tokenAccount (role : Role) (key : Key) : Act TokenAccount := do
  match TokenAccount.unpack (← account key).data with
  | .ok token => pure token
  | .error (.rejected why) =>
    if why.code = .invalidAccountData then refuse (.notTokenAccount role why)
    else fail (.rejected why)
  | .error why => fail why

/-- A transfer has given an account new bytes, so that a record read from it before is gone. -/
def Displaced (vesting source destination : Key) : Prop :=
  source ≠ destination ∧ (vesting = source ∨ vesting = destination)

instance (vesting source destination : Key) : Decidable (Displaced vesting source destination) :=
  inferInstanceAs (Decidable (_ ∧ _))

/-- Stores the bytes of a record. -/
def storeRecord (vesting : Key) (data : Bytes) : Act Unit := do
  store vesting { ← account vesting with data }

/-- Stores the bytes of a record behind a transfer; what the transfer has put in their place
stays. -/
def storeBehind (vesting source destination : Key) (data : Bytes) : Act Unit :=
  if Displaced vesting source destination then pure () else storeRecord vesting data

end Engine

/-! ## 2. Plans -/

open Engine

/-- What a command has decided on, once it has checked everything. -/
inductive Plan
  /-- To have an account opened, with `size` zero bytes. -/
  | opening (payer vesting : Key) (size : Nat) (seeds : Seeds)
  /-- To have tokens moved, and to write a draft into a record then. -/
  | payment (tokenProgram source destination authority : Key) (seeds : Option Bytes) (total : Nat)
      (vesting : Key) (draft : Bytes × Except Fault Unit) (report : Event)
  /-- To write a draft into a record. -/
  | writing (vesting : Key) (draft : Bytes) (report : Event)
  /-- To report, and nothing else. -/
  | reporting (report : Event)

namespace Plan

/-- What the host is asked to do. -/
def ask (host : Host) (signers : List Key) : Plan → Act Unit
  | opening payer vesting size seeds =>
    host.createAccount signers payer vesting (Host.minimumBalance size) size host.program
      (some seeds.bytes)
  | payment tokenProgram source destination authority seeds total _ _ _ =>
    host.transfer signers tokenProgram source destination authority seeds total
  | writing .. | reporting _ => pure ()

/-- What is left to do behind the host. -/
def finish : Plan → Act Unit
  | opening .. => pure ()
  | payment _ source destination _ _ _ vesting draft report => do
    storeBehind vesting source destination draft.1
    orFail draft.2
    note report
  | writing vesting draft report => do
    storeRecord vesting draft
    note report
  | reporting report => note report

/-- Carries a plan out. -/
def carry (host : Host) (signers : List Key) (p : Plan) : Act Unit := do
  p.ask host signers
  p.finish

end Plan

namespace Engine

/-! ## 3. Commands -/

section Commands

variable (find : Finder) (host : Host) (signers : List Key)

/-- Decides on the account of a contract with room for `count` tranches. -/
def planInit (seeds : Seeds) (count : UInt32) : Act Plan := do
  let systemProgram ← find 0 .systemProgram
  let rentSysvar ← find 1 .rentSysvar
  let payer ← find 2 .payer
  let vesting ← find 3 .vesting
  demand (systemProgram = Key.systemProgram) .wrongSystemProgram
  demand (rentSysvar = Key.rentSysvar) .wrongRentSysvar
  let size := Record.length count.toNat
  checkAddress host seeds vesting
  note (.opening vesting size (Host.minimumBalance size))
  return .opening payer vesting size seeds

/-- Decides on a contract, and on the transfer of the total of its tranches into escrow. -/
def planCreate (seeds : Seeds) (mint destination : Key) (tranches : List Tranche) : Act Plan := do
  let tokenProgram ← find 0 .tokenProgram
  let vesting ← find 1 .vesting
  let escrow ← find 2 .escrow
  let sourceOwner ← find 3 .sourceOwner
  let source ← find 4 .source
  checkAddress host seeds vesting
  demand (sourceOwner ∈ signers) .sourceUnsigned
  let record ← account vesting
  demand (record.owner = host.program) .foreignRecord
  demand (¬ Record.isInitialized record.data) .alreadyInitialized
  let held ← tokenAccount .escrow escrow
  demand (held.owner = vesting) .escrowOwner
  demand (held.delegate = none) .escrowDelegate
  demand (held.closeAuthority = none) .escrowCloseAuthority
  let expected := Record.length tranches.length
  demand (record.data.length = expected) (.recordLength record.data.length expected)
  let total := Tranche.total tranches
  demand (total ≤ maxU64) .totalOverflow
  let paying ← tokenAccount .source source
  demand (total ≤ paying.amount.toNat) (.sourceShort paying.amount.toNat total)
  return .payment tokenProgram source escrow sourceOwner none total vesting
    (Record.writeTranches tranches (Record.writeHeader ⟨destination, mint, true⟩ record.data))
    (.created vesting tranches.length total)

/-- Decides on the transfer of everything that is due. -/
def planUnlock (seeds : Seeds) : Act Plan := do
  let tokenProgram ← find 0 .tokenProgram
  let clockSysvar ← find 1 .clockSysvar
  let vesting ← find 2 .vesting
  let escrow ← find 3 .escrow
  let destination ← find 4 .destination
  checkAddress host seeds vesting
  demand (tokenProgram = Key.tokenProgram) .wrongTokenProgram
  let record := (← account vesting).data
  demand (65 ≤ record.length) .recordShort
  let header ← orFail (Record.header record)
  demand (header.destination = destination) .destinationMismatch
  let held ← tokenAccount .escrow escrow
  demand (held.owner = vesting) .escrowOwner
  demand (clockSysvar = Key.clockSysvar) .wrongClockSysvar
  let tranches := Record.tranches record
  noteAll (tranches.map (.trancheSeen host.clock))
  let total := Tranche.dueAt host.clock tranches
  demand (total ≠ 0) .nothingDue
  note (.releasing held.amount.toNat total)
  return .payment tokenProgram escrow destination vesting (some seeds.bytes) total vesting
    (Record.writeTranches (Tranche.release host.clock tranches) record)
    (.released total vesting destination)

/-- Decides on another destination, if the owner of the current one agrees. -/
def planChangeDestination (seeds : Seeds) : Act Plan := do
  let vesting ← find 0 .vesting
  let current ← find 1 .currentDestination
  let owner ← find 2 .currentOwner
  let target ← find 3 .newDestination
  let record := (← account vesting).data
  demand (65 ≤ record.length) .recordShort
  checkAddress host seeds vesting
  let header ← orFail (Record.header record)
  demand (header.destination = current) .destinationMismatch
  demand (owner ∈ signers) .destinationUnsigned
  let token ← tokenAccount .currentDestination current
  demand (token.owner = owner) .destinationOwner
  return .writing vesting (Record.writeDestination target record) (.redirected current target)

/-- Decides what a command comes to, for accounts that are found in some way. -/
def planBy : Command → Act Plan
  | .init seeds count => planInit find host seeds count
  | .create seeds mint destination tranches =>
    planCreate find host signers seeds mint destination tranches
  | .unlock seeds => planUnlock find host seeds
  | .changeDestination seeds => planChangeDestination find host signers seeds
  | .empty number => return .reporting (.emptySeen number)

end Commands

section Accounts

variable (host : Host) (signers accounts : List Key)

/-- Decides what a command comes to. -/
def plan (c : Command) : Act Plan := planBy (pick accounts) host signers c

/-- Carries out a command. -/
def perform (c : Command) : Act Unit := do (← plan host signers accounts c).carry host signers

/-- Opens the account of a contract with room for `count` tranches. -/
def init (seeds : Seeds) (count : UInt32) : Act Unit :=
  perform host signers accounts (.init seeds count)

/-- Sets up a contract and moves the total of its tranches into escrow. -/
def create (seeds : Seeds) (mint destination : Key) (tranches : List Tranche) : Act Unit :=
  perform host signers accounts (.create seeds mint destination tranches)

/-- Pays out every tranche that is due. -/
def unlock (seeds : Seeds) : Act Unit := perform host signers accounts (.unlock seeds)

/-- Names another destination, if the owner of the current one agrees. -/
def changeDestination (seeds : Seeds) : Act Unit :=
  perform host signers accounts (.changeDestination seeds)

end Accounts

/-! ## 4. The entry -/

/-- Reads a command and carries it out. -/
def execute (host : Host) (signers accounts : List Key) (data : Bytes) : Act Unit := do
  let command ← orFail (Command.decode false data)
  note (.started command.kind)
  perform host signers accounts command

/-- Reads a command, carries it out, and logs a refusal. -/
def process (host : Host) (signers accounts : List Key) (data : Bytes) : Act Unit :=
  tryCatch (execute host signers accounts data) fun why => do
    match why with
    | .rejected r => note (.refused r)
    | _ => pure ()
    fail why

end Engine
end Vesting
