/-
# Messages

What is signed and sent: every key that instructions use, once each and in a fixed order, and the
instructions with positions in the place of keys.  A signer makes messages of instructions and signs
them with keypairs.
-/
import Vesting.Instruction
import Vesting.Keypair

namespace Vesting

/-! ## 1. Keys and what they may do -/

/-- All uses of keys: the payer signs and is written, programs only run. -/
def Instruction.uses (payer : Key) (ixs : List Instruction) : List AccountMeta :=
  ⟨payer, true, true⟩ :: ixs.flatMap fun ix => ix.accounts ++ [⟨ix.program, false, false⟩]

namespace Message

/-- Adds a use to those already joined: a key signs or is written if any of its uses does. -/
def join (use : AccountMeta) : List AccountMeta → List AccountMeta
  | [] => [use]
  | m :: rest =>
    if m.key = use.key then ⟨m.key, m.signer || use.signer, m.writable || use.writable⟩ :: rest
    else m :: join use rest

/-- The uses of every key but the payer, joined and in the order of the keys. -/
def joined (payer : Key) (uses : List AccountMeta) : List AccountMeta :=
  ((uses.filter fun m => m.key ≠ payer).foldl (fun ms use => join use ms) []).mergeSort
    fun a b => Key.le a.key b.key

/-! ## 2. Messages -/

/-- An instruction with positions for keys. -/
structure Step where
  program : Nat
  accounts : List Nat
  data : Bytes
deriving DecidableEq

end Message

/-- Keys and the steps that use them. -/
structure Message where
  /-- How many keys have to sign. -/
  signers : Nat
  /-- How many of them are only read. -/
  readonlySigners : Nat
  /-- How many of the others are only read. -/
  readonlyOthers : Nat
  keys : List Key
  steps : List Message.Step
deriving DecidableEq

namespace Message

/-- The step of an instruction. -/
def Step.ofInstruction (keys : List Key) (ix : Instruction) : Step where
  program := keys.idxOf ix.program
  accounts := ix.keys.map keys.idxOf
  data := ix.data

/-- The message of instructions: the payer, then signers that are written, signers that are read,
and the others likewise. -/
def compile (payer : Key) (ixs : List Instruction) : Message :=
  let uses := joined payer (Instruction.uses payer ixs)
  let pick (signer writable : Bool) :=
    uses.filter fun m => m.signer = signer ∧ m.writable = writable
  let writableSigners := pick true true
  let readonlySigners := pick true false
  let writableOthers := pick false true
  let readonlyOthers := pick false false
  let keys := payer ::
    (writableSigners ++ readonlySigners ++ writableOthers ++ readonlyOthers).map AccountMeta.key
  { signers := 1 + writableSigners.length + readonlySigners.length
    readonlySigners := readonlySigners.length
    readonlyOthers := readonlyOthers.length
    keys
    steps := ixs.map (Step.ofInstruction keys) }

/-- The keys that have to sign. -/
def required (m : Message) : List Key := m.keys.take m.signers

/-! ## 3. Signing -/

/-- Signs a message with keypairs.  A keypair that does not have to sign is not taken, and none that
has to may lack. -/
def sign (m : Message) (pairs : List Keypair) : Except Fault Unit :=
  let keys := pairs.map Keypair.key
  if keys.any fun key => !m.required.contains key then .error (.unsigned .foreign)
  else if m.required.any fun key => !keys.contains key then .error (.unsigned .notEnough)
  else .ok ()

end Message

/-- What makes messages of instructions for a payer, and signs them. -/
structure Signer where
  compile : Key → List Instruction → Message := Message.compile
  sign : Message → List Keypair → Except Fault Unit := Message.sign

/-- A message, and the keypairs with which it is to be signed. -/
structure Signing where
  message : Message
  pairs : List Keypair

end Vesting
