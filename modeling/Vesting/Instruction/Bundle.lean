/-
# All that a new contract takes

Three instructions set up a contract: one makes room for its record, one opens the token account
that will be its escrow, and one writes the record and funds the escrow.
-/
import Vesting.Address
import Vesting.Instruction

namespace Vesting.Instruction

/-- Opens the token account that goes with `wallet` and `mint`, wherever that is. -/
def openAssociated (payer wallet mint : Key) : Except Fault Instruction := do
  let account ← Address.associated wallet mint
  return {
    program := Key.associatedTokenProgram
    accounts := [⟨payer, true, true⟩, ⟨account, false, true⟩, ⟨wallet, false, false⟩,
      ⟨mint, false, false⟩, ⟨Key.systemProgram, false, false⟩, ⟨Key.tokenProgram, false, false⟩,
      ⟨Key.rentSysvar, false, false⟩]
    data := [] }

/-- The payer alone signs for that. -/
theorem signers_openAssociated {payer wallet mint : Key} {ix : Instruction}
    (h : openAssociated payer wallet mint = .ok ix) : ix.signers = [payer] := by
  obtain ⟨account, -, h⟩ := bind_eq_ok_iff.1 h
  obtain rfl := Except.ok.inj h
  rfl

/-- Makes room for a contract, opens its escrow and sets it up. -/
def createBundle (program payer sourceOwner source destination mint : Key)
    (tranches : List Tranche) (seeds : Seeds) (vesting : Key) :
    Except Fault (List Instruction) := do
  let escrow ← Address.associated vesting mint
  let count ← Word32.ofInt "number_of_schedules" tranches.length
  let opening ← openAssociated payer vesting mint
  return [
    init program payer vesting seeds count,
    opening,
    create program vesting escrow sourceOwner source destination mint tranches seeds]

end Vesting.Instruction
