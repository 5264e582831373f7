/-
# Banks

A bank is a host with a ledger of its own.  It runs commands as transactions: a transaction that
fails leaves the ledger as it was, and one that succeeds drops every empty account.
-/
import Vesting.Engine
import Vesting.Instruction

namespace Vesting

/-- A host with its ledger. -/
structure Bank where
  host : Host := {}
  ledger : Ledger := .empty

/-- How a piece of work ended: its result, the bank after it, and its events in order. -/
structure Outcome (α : Type) where
  result : Except Fault α
  bank : Bank
  log : List Event := []

namespace Bank

/-! ## 1. Transactions -/

/-- Runs an act as a transaction. -/
def transact (b : Bank) (act : Act Unit) : Outcome Unit :=
  match act.run.run ⟨b.ledger, []⟩ with
  | (.ok (), w) => ⟨.ok (), { b with ledger := w.ledger.sweep }, w.log.reverse⟩
  | (.error why, w) => ⟨.error why, b, w.log.reverse⟩

/-- Hands bytes to the program that runs here. -/
def invoke (host : Host) (program : Key) (keys : List Key) (data : Bytes) (signers : List Key) :
    Act Unit := do
  Act.require (program = host.program) (.notLoaded program)
  Engine.process host signers keys data

/-- Runs raw command bytes as a transaction of their own. -/
def process (b : Bank) (program : Key) (keys : List Key) (data : Bytes) (signers : List Key) :
    Outcome Unit :=
  b.transact (invoke b.host program keys data signers)

/-- Runs an instruction with the authority of its own signers. -/
def perform (host : Host) (ix : Instruction) : Act Unit :=
  invoke host ix.program ix.keys ix.data ix.signers

/-- The first key that has to sign instructions and has not. -/
def missingSignature? (ixs : List Instruction) (signers : List Key) : Option Key :=
  (ixs.flatMap Instruction.signers).find? fun key => !signers.contains key

/-- Runs instructions as one transaction that `signers` have signed. -/
def processTransaction (b : Bank) (ixs : List Instruction) (signers : List Key) : Outcome Unit :=
  match missingSignature? ixs signers with
  | some key => ⟨.error (.rejected (.missingSignature key)), b, []⟩
  | none => b.transact (ixs.forM (perform b.host))

/-! ## 2. The ledger -/

/-- Puts an account into the ledger. -/
def addAccount (b : Bank) (key : Key) (a : Account) : Bank :=
  { b with ledger := b.ledger.insert key a }

/-- Puts a token account into the ledger. -/
def addTokenAccount (b : Bank) (key : Key) (token : TokenAccount) : Bank :=
  b.addAccount key
    ⟨Key.tokenProgram, Host.minimumBalance TokenAccount.length, token.pack⟩

/-- Changes the bytes of an account that the ledger holds. -/
def editData (b : Bank) (key : Key) (f : Bytes → Bytes) : Except Fault Bank :=
  match b.ledger.get? key with
  | none => .error .noAccount
  | some a => .ok (b.addAccount key { a with data := f a.data })

/-- The bank at another time. -/
def atClock (b : Bank) (clock : Int) : Bank := { b with host := { b.host with clock } }

/-- The tokens in an account. -/
def tokenBalance (b : Bank) (key : Key) : Except Fault UInt64 :=
  match b.ledger.get? key with
  | none => .error (.unknownAccount key)
  | some a => TokenAccount.amount <$> TokenAccount.unpack a.data

/-- Lets the host act outside a transaction: nothing is undone and nothing dropped.  Accounts that
the ledger does not hold take part, but are not kept. -/
def direct (b : Bank) (act : Act Unit) : Outcome Unit :=
  let (result, w) := act.run.run ⟨b.ledger, []⟩
  let kept := w.ledger.filter fun key _ => (b.ledger.get? key).isSome
  ⟨result, { b with ledger := kept }, w.log.reverse⟩

end Bank
end Vesting
