/-
# Clients of a deployed program

A client reads contracts from a cluster and sends it transactions, which it signs with the payer
and with whoever else has to sign.
-/
import Vesting.Bytes.Base58
import Vesting.Contract
import Vesting.Instruction.Bundle
import Vesting.Keypair
import Vesting.Session

namespace Vesting.Client

open Session

/-! ## 1. Reading -/

/-- The bytes of an account. -/
def fetchData (address : Key) : Session Bytes := do
  call (.accountInfo address)
  let cluster := (← get).cluster
  match cluster.failure with
  | some message => fail (.unreachable message)
  | none =>
    match cluster.accounts.lookup address with
    | none => fail (.rejected (.notFound address))
    | some payload => orFail payload.bytes

/-- The contract in an account. -/
def fetch (address : Key) : Session Contract := do
  orFail (Contract.decode address (← fetchData address))

/-- Reads a keypair file. -/
def loadKeypair (path : String) : Session Keypair := do
  let p ← orFail ((Path.ofText path).expand (← env))
  orFail (Keypair.read (← readText p))

/-! ## 2. Sending -/

/-- The keypairs that sign: the payer, and the others unless they are the payer again. -/
def signers (payer : Keypair) (others : List Keypair) : List Keypair :=
  payer :: others.filter fun k => k.key ≠ payer.key

/-- Signs instructions, sends them and waits until they are confirmed. -/
def send (payer : Keypair) (others : List Keypair) (ixs : List Instruction) : Session String := do
  let m ← get
  let cluster := m.cluster
  if let some why := cluster.closed then fail (.unreachable why)
  let message := m.signer.compile payer.key ixs
  sign message (signers payer others)
  let signature := Base58.encode cluster.signature
  call (.send message)
  call (.confirm signature)
  note [.confirmed signature]
  return signature

/-- Makes room for a contract. -/
def sendInit (program : Key) (payer : Keypair) (seeds : Seeds) (vesting : Key) (count : UInt32) :
    Session String :=
  send payer [] [Instruction.init program payer.key vesting seeds count]

/-- Makes room for a contract, opens its escrow and sets it up. -/
def sendCreate (program : Key) (payer sourceOwner : Keypair) (source destination mint : Key)
    (tranches : List Tranche) (seeds : Seeds) (vesting : Key) : Session String := do
  let ixs ← orFail (Instruction.createBundle program payer.key sourceOwner.key source destination
    mint tranches seeds vesting)
  send payer [sourceOwner] ixs

/-- Pays out what is due of a contract. -/
def sendUnlock (program : Key) (payer : Keypair) (seeds : Seeds) (vesting : Key) :
    Session String := do
  let contract ← fetch vesting
  let escrow ← orFail (Address.associated vesting contract.header.mint)
  send payer [] [Instruction.unlock program vesting escrow contract.header.destination seeds]

/-- Names another destination for a contract. -/
def sendChangeDestination (program : Key) (payer owner : Keypair) (target : Key) (seeds : Seeds)
    (vesting : Key) : Session String := do
  let contract ← fetch vesting
  send payer [owner]
    [Instruction.changeDestination program vesting owner.key contract.header.destination target
      seeds]

end Vesting.Client
