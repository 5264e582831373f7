/-
# Playing a contract through

A simulation sets up the contract that settings describe on a bank of its own, moves the clock to
a given time, and pays out what is due by then.
-/
import Vesting.Bank
import Vesting.Seeds.Phrase
import Vesting.Session
import Vesting.Settings

namespace Vesting

/-- The keys that take part in a simulation wherever the settings name none. -/
structure Cast where
  payer : Key
  sourceOwner : Key
  destinationOwner : Key
  mint : Key
  source : Key
  destination : Key
  escrow : Key

/-- How a simulation ends. -/
structure Simulation where
  address : Key
  seeds : Seeds
  time : Int
  /-- Why nothing was paid out, if nothing was. -/
  refusal : Option Rejection
  source : UInt64
  escrow : UInt64
  destination : UInt64
  tranches : List Tranche

namespace Simulation

/-! ## 1. The stage -/

/-- The lamports with which the payer starts. -/
def purse : Int := 1000000000000

/-- Who and what takes part in a simulation. -/
structure Stage where
  program : Key
  seeds : Seeds
  vesting : Key
  mint : Key
  source : Key
  destination : Key
  cast : Cast
  tranches : List Tranche

/-- Sets the stage for a contract. -/
def Stage.of (cast : Cast) (program : Key) (contract : ContractSettings) : Except Fault Stage :=
  match contract.seed with
  | none => .error (.invalid .simulateSeed)
  | some seed =>
    if contract.tranches.isEmpty then .error (.invalid .simulateSchedules)
    else do
      let (seeds, vesting) ← Seeds.resolve seed program
      return {
        program, seeds, vesting, cast
        mint := contract.mint.getD cast.mint
        source := contract.source.getD cast.source
        destination := contract.destination.getD cast.destination
        tranches := contract.tranches }

namespace Stage

/-- What the source holds at first: the total of the tranches, as far as an account can hold it. -/
def funds (s : Stage) : UInt64 := UInt64.ofNat (min (Tranche.total s.tranches) maxU64)

/-- A token account of the stage's mint. -/
def tokens (s : Stage) (owner : Key) (amount : UInt64) : TokenAccount where
  mint := s.mint
  owner := owner
  amount := amount

/-- The bank at the start. -/
def bank (s : Stage) : Bank :=
  let start : Bank := { host := { program := s.program } }
  let paying := start.addAccount s.cast.payer ⟨Key.systemProgram, purse, []⟩
  let funded := paying.addTokenAccount s.source (s.tokens s.cast.sourceOwner s.funds)
  let receiving := funded.addTokenAccount s.destination (s.tokens s.cast.destinationOwner 0)
  receiving.addTokenAccount s.cast.escrow (s.tokens s.vesting 0)

/-- The instructions that set up the contract. -/
def opening (s : Stage) : Except Fault (List Instruction) := do
  let count ← Word32.ofInt "number_of_schedules" s.tranches.length
  return [
    Instruction.init s.program s.cast.payer s.vesting s.seeds count,
    Instruction.create s.program s.vesting s.cast.escrow s.cast.sourceOwner s.source s.destination
      s.mint s.tranches s.seeds]

/-- The instruction that pays out. -/
def closing (s : Stage) : Instruction :=
  Instruction.unlock s.program s.vesting s.cast.escrow s.destination s.seeds

/-- Sets up the contract. -/
def setUp (s : Stage) : Outcome Unit :=
  match s.opening with
  | .error why => ⟨.error why, s.bank, []⟩
  | .ok ixs => s.bank.processTransaction ixs [s.cast.payer, s.cast.sourceOwner]

/-- Pays out what is due at a time. -/
def payOut (s : Stage) (b : Bank) (time : Int) : Outcome Unit :=
  (b.atClock time).processTransaction [s.closing] []

/-- What is left on the stage. -/
def report (s : Stage) (b : Bank) (time : Int) (refusal : Option Rejection) :
    Except Fault Simulation :=
  match b.ledger.get? s.vesting with
  | none => .error (.unknownAccount s.vesting)
  | some record => do
    let source ← b.tokenBalance s.source
    let escrow ← b.tokenBalance s.cast.escrow
    let destination ← b.tokenBalance s.destination
    return { address := s.vesting, seeds := s.seeds, time, refusal, source, escrow, destination,
             tranches := Record.tranches record.data }

end Stage

/-! ## 2. The play -/

/-- Why the vesting program said no, if it did; other faults are passed on. -/
def refusal? : Except Fault Unit → Except Fault (Option Rejection)
  | .ok () => .ok none
  | .error (.rejected why) => .ok (some why)
  | .error why => .error why

/-- Plays a contract through up to a time.  The events are told whether it ends well or not. -/
def run (cast : Cast) (program : Key) (contract : ContractSettings) (time : Int) :
    Except Fault Simulation × List Event :=
  match Stage.of cast program contract with
  | .error why => (.error why, [])
  | .ok stage =>
    let opened := stage.setUp
    match opened.result with
    | .error why => (.error why, opened.log)
    | .ok () =>
      let paid := stage.payOut opened.bank time
      let result := do stage.report paid.bank time (← refusal? paid.result)
      (result, opened.log ++ paid.log)

/-- Sets up a contract in a session, which keeps the events. -/
def prepare (cast : Cast) (program : Key) (contract : ContractSettings) : Session Unit := do
  let stage ← Session.orFail (Stage.of cast program contract)
  let opened := stage.setUp
  Session.note opened.log
  Session.orFail opened.result

/-- Plays a contract through in a session, which keeps the events. -/
def play (cast : Cast) (program : Key) (contract : ContractSettings) (time : Int) :
    Session Simulation := do
  let (result, events) := run cast program contract time
  Session.note events
  Session.orFail result

/-- What to say about a simulation. -/
def message : String := "Simulation finished"

/-- A simulation by the names of its parts. -/
def toDatum (s : Simulation) : Datum :=
  .table [
    ("vesting_address", .text s.address.text),
    ("seeds", .text (Hex.encode s.seeds.bytes)),
    ("time", .int s.time),
    ("unlock_error", .ofText? (s.refusal.map Rejection.text)),
    ("balances", .table [("source", .int s.source.toNat), ("escrow", .int s.escrow.toNat),
      ("destination", .int s.destination.toNat)]),
    ("schedules", .list (s.tranches.map Tranche.toDatum))]

end Simulation
end Vesting
