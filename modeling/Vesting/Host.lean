/-
# The host of the vesting program

A host runs one program, keeps the clock, derives addresses and does two things on the program's
behalf: it opens accounts and it moves tokens.  Both need authority: a key acts if it has signed
the command, or if it is the address of seeds that the program presents.
-/
import Vesting.Act
import Vesting.Address
import Vesting.Bytes.Size
import Vesting.TokenAccount

namespace Vesting

/-- Where the vesting program runs. -/
structure Host where
  /-- The program that runs here. -/
  program : Key := Key.vestingProgram
  clock : Int := 0
  derive : Address.Derivation := Address.derive

namespace Host

open Act

/-- The largest size of an account. -/
def maxSize : Nat := 10 * 1024 * 1024

/-- The lamports for which an account of `size` bytes is kept forever. -/
def minimumBalance (size : Int) : Int := (128 + size) * 3480 * 2

/-- A key has signed, or it is the address of the seeds presented.  Seeds without an address are
no authority. -/
def signedFor (host : Host) (signers : List Key) (key : Key) (seeds : Option Bytes) :
    Except Fault Bool :=
  if key ∈ signers then .ok true
  else match seeds with
    | none => .ok false
    | some seeds =>
      match host.derive seeds host.program with
      | .ok address => .ok (address == key)
      | .error (.rejected why) =>
        if why.code = .invalidArgument then .ok false else .error (.rejected why)
      | .error why => .error why

/-! ## 1. Opening accounts -/

/-- Opens the account `target` with `size` zero bytes and lamports from `payer`. -/
def createAccount (host : Host) (signers : List Key) (payer target : Key) (lamports size : Int)
    (owner : Key) (seeds : Option Bytes) : Act Unit := do
  require (payer ∈ signers) (.payerUnsigned payer)
  let signed ← orFail (host.signedFor signers target seeds)
  require signed (.newUnsigned target)
  require (← account target).isEmpty (.inUse target)
  require (size ≤ maxSize) (.tooLarge size)
  let paying ← account payer
  require (lamports ≤ paying.lamports) (.payerShort paying.lamports lamports)
  store payer { paying with lamports := paying.lamports - lamports }
  store target { ← account target with lamports }
  orFail (Bytes.checkSize size)
  store target ⟨owner, lamports, List.replicate size.toNat 0⟩
  note (.opened target size lamports)

/-! ## 2. Moving tokens -/

/-- Moves tokens from `source` to `destination` on behalf of `authority`.  Both accounts are
written anew, unless they are the same: then nothing moves. -/
def transfer (host : Host) (signers : List Key) (tokenProgram source destination authority : Key)
    (seeds : Option Bytes) (amount : Int) : Act Unit := do
  require (tokenProgram = Key.tokenProgram) (.unknownTokenProgram tokenProgram)
  let sourceAccount ← account source
  let destinationAccount ← account destination
  require (sourceAccount.owner = Key.tokenProgram) (.notTokenOwned source)
  require (destinationAccount.owner = Key.tokenProgram) (.notTokenOwned destination)
  let debtor ← orFail (TokenAccount.unpack sourceAccount.data)
  let creditor ← orFail (TokenAccount.unpack destinationAccount.data)
  require (debtor.mint = creditor.mint) .mintMismatch
  require (¬ (debtor.isFrozen ∨ creditor.isFrozen)) .frozen
  require (authority = debtor.owner) (.notOwner authority source)
  let signed ← orFail (host.signedFor signers authority seeds)
  require signed (.transferUnsigned authority)
  require (amount ≤ debtor.amount.toNat) (.balanceShort debtor.amount.toNat amount)
  if source ≠ destination then
    require (creditor.amount.toNat + amount ≤ maxU64)
      (.balanceOverflow creditor.amount.toNat amount)
    let debited ← orFail (debtor.withAmount (debtor.amount.toNat - amount))
    let credited ← orFail (creditor.withAmount (creditor.amount.toNat + amount))
    store source { sourceAccount with data := debited.pack }
    store destination { destinationAccount with data := credited.pack }
    note (.moved amount source destination)

end Host
end Vesting
