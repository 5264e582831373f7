/-
# How setting up a contract is decided

Thirteen things may stand in the way of a contract, and more than one of them at a time.
`Engine.createHurdles` lists them in the order in which they are met, and `Engine.create_decided`
says that this list is all there is: the first hurdle that stands gives the class of the refusal,
and nothing has been changed; where none stands the contract is set up, and `Founded` says what the
ledger holds then.

The accounts of the command are given by position and may coincide.  Two coincidences matter.  The
source may be the escrow, and then no token moves.  The record may not be either of them, although
nobody compares their keys: its length is that of no token account (`Engine.Funding.ne_of_token`).
-/
import Vesting.Proofs.Mint
import Vesting.Proofs.Verdict

namespace Vesting

open Act Engine

/-! ## 1. What is written -/

/-- Over a record of the right length a contract is written from end to end. -/
theorem Record.founded_eq (header : Header) {ts : List Tranche} {data : Bytes}
    (h : data.length = length ts.length) :
    founded header ts data = header.pack ++ Tranche.packAll ts := by
  have hhead : writeHeader header data = header.pack ++ data.drop 65 := by
    rw [writeHeader, Bytes.replaceRange, List.take_zero, List.nil_append]
  have hlength : (writeHeader header data).length = length ts.length :=
    (length_writeHeader header (header_fits h)).trans h
  rw [founded, writeTranches_eq (tranches_fit header h), Bytes.replaceRange,
    List.drop_of_length_le (Nat.le_of_eq hlength), List.append_nil, hhead,
    List.take_left' header.length_pack]

/-- What setting up a contract makes of a ledger. -/
structure Founded (l l' : Ledger) (vesting escrow source : Key) (header : Header)
    (tranches : List Tranche) : Prop where
  /-- The record is none of the accounts between which the tokens move. -/
  apart : vesting ≠ source ∧ vesting ≠ escrow
  /-- The record holds the header and the tranches, and nothing else. -/
  record : l'.account vesting
    = (l.account vesting).storing (header.pack ++ Tranche.packAll tranches)
  /-- The source has given the total. -/
  debited : source ≠ escrow → ∃ t n, (l.account source).token? = some t ∧
    n + Tranche.total tranches = t.amount.toNat ∧
    l'.account source = (l.account source).storing (t.holding n).pack
  /-- The escrow has received it. -/
  credited : source ≠ escrow → ∃ t n, (l.account escrow).token? = some t ∧
    n = t.amount.toNat + Tranche.total tranches ∧ n ≤ maxU64 ∧
    l'.account escrow = (l.account escrow).storing (t.holding n).pack
  /-- All other accounts are as they were. -/
  others : ∀ k, k ≠ vesting → (source ≠ escrow → k ≠ source ∧ k ≠ escrow) →
    l'.account k = l.account k

theorem Engine.Funding.founded {host : Host} {signers accounts : List Key} {seeds : Seeds}
    {tranches : List Tranche} {l : Ledger} {vesting escrow sourceOwner source : Key}
    {debtor creditor : TokenAccount}
    (h : Funding host signers accounts seeds tranches l vesting escrow sourceOwner source debtor
      creditor) (header : Header) :
    Founded l (l.settled source escrow debtor creditor (Tranche.total tranches) vesting
      (Record.founded header tranches (l.account vesting).data)) vesting escrow source header
      tranches where
  apart := ⟨h.ne_of_token h.permitted.debtor_eq, h.ne_of_token h.permitted.creditor_eq⟩
  record := by
    rw [Ledger.account_settled_of_not_displaced _ _ _ _ _ h.not_displaced,
      Record.founded_eq header h.record_length]
  debited hne := by
    refine ⟨debtor, _, h.permitted.debtor_eq, Nat.sub_add_cancel h.permitted.covered, ?_⟩
    rw [Ledger.account_settled_of_ne _ _ _ _ _ (h.ne_of_token h.permitted.debtor_eq).symm,
      Ledger.account_move _ _ _ _ hne, if_neg hne, if_pos rfl]
    rfl
  credited hne := by
    refine ⟨creditor, _, h.permitted.creditor_eq, rfl, h.permitted.fits hne, ?_⟩
    rw [Ledger.account_settled_of_ne _ _ _ _ _ (h.ne_of_token h.permitted.creditor_eq).symm,
      Ledger.account_move _ _ _ _ hne, if_pos rfl]
    rfl
  others _ hvesting hmoved := Ledger.account_settled_off _ _ _ _ _ hvesting hmoved

/-! ## 2. The hurdles -/

namespace Engine

/-- What may stand in the way of setting a contract up, in the order in which it is met. -/
def createHurdles (host : Host) (signers : List Key) (seeds : Seeds) (tranches : List Tranche)
    (l : Ledger) (accounts : List Key) : List Hurdle :=
  fewerThan 5 accounts ::
    match accounts with
    | tokenProgram :: vesting :: escrow :: sourceOwner :: source :: _ =>
      let record := l.account vesting
      let total := Tranche.total tranches
      addressHurdles host seeds vesting ++
        [.refusal (sourceOwner ∉ signers) .missingRequiredSignature,
         .refusal (record.owner ≠ host.program) .invalidArgument,
         .refusal (65 ≤ record.data.length ∧ record.data[64]? = some 1) .invalidArgument,
         notToken l escrow,
         .refusal (l.Shows escrow fun t => t.owner ≠ vesting) .invalidArgument,
         .refusal (l.Shows escrow fun t => t.delegate ≠ none ∨ t.closeAuthority ≠ none)
           .invalidAccountData,
         .refusal (record.data.length ≠ 65 + 16 * tranches.length) .invalidAccountData,
         .refusal (maxU64 < total) .invalidInstructionData,
         notToken l source,
         .refusal (l.Shows source fun t => t.amount.toNat < total) .insufficientFunds,
         .refusal (∃ h ∈ host.transferHurdles signers tokenProgram source escrow sourceOwner none
           total l, h.stands) .hostError]
    | _ => []

/-- **Setting up is decided by its first hurdle that stands.**  Where none stands, the contract is
set up. -/
theorem create_decided (host : Host) (signers accounts : List Key) (seeds : Seeds)
    (mint destination : Key) (tranches : List Tranche) (w : World) :
    (create host signers accounts seeds mint destination tranches).Decided w
      (Leaves fun _ l' => ∃ tokenProgram vesting escrow sourceOwner source rest,
        accounts = tokenProgram :: vesting :: escrow :: sourceOwner :: source :: rest ∧
        Founded w.ledger l' vesting escrow source ⟨destination, mint, true⟩ tranches)
      (createHurdles host signers seeds tranches w.ledger accounts) := by
  simp only [create, perform, plan, planBy, planCreate, bind_assoc, pure_bind, Plan.carry_payment]
  refine decided_pick (by decide) fun tokenProgram h₀ => ?_
  refine decided_pick (by decide) fun vesting h₁ => decided_pick (by decide) fun escrow h₂ => ?_
  refine decided_pick (by decide) fun sourceOwner h₃ => ?_
  refine decided_pick (by decide) fun source h₄ => ?_
  obtain ⟨rest, rfl⟩ := eq_of_picks h₀ h₁ h₂ h₃ h₄
  refine .pass (by simp [fewerThan]) ?_
  refine decided_checkAddress fun haddress => ?_
  refine .demand Iff.rfl rfl fun hsigned => ?_
  refine .bind_of_yields (yields_account.2 ⟨rfl, rfl⟩) rfl ?_
  refine .demand Iff.rfl rfl fun howner => ?_
  refine .demand (by rw [not_not, Record.isInitialized_iff]) rfl fun hfresh => ?_
  refine decided_tokenAccount fun creditor hcreditor => ?_
  refine .demand (Ledger.shows_iff hcreditor) rfl fun hescrowOwner => ?_
  -- a delegate and a close authority are two checks and one hurdle
  refine .demand_part (fun hdelegate => ?_) fun hdelegate => ?_
  · exact ⟨(Ledger.shows_iff hcreditor).2 (.inl hdelegate), _, rfl, rfl⟩
  refine .demand ?_ rfl fun hclose => ?_
  · rw [Ledger.shows_iff hcreditor, hdelegate]
    simp
  refine .demand Iff.rfl rfl fun hlength => ?_
  refine .demand (by omega) rfl fun hfits => ?_
  refine decided_tokenAccount fun debtor hdebtor => ?_
  refine .demand ((Ledger.shows_iff hdebtor).trans (by omega)) rfl fun hcovered => ?_
  simp only [Record.writeTranches_writeHeader _ hlength]
  refine .merge ((Host.transfer_decided ..).bind_of_leaves fun _ w₁ _ hmoved => ?_) ?_
  · -- behind the transfer nothing fails
    obtain ⟨debtor', creditor', hpermitted, hledger⟩ := hmoved
    obtain ⟨l₁, log⟩ := w₁
    obtain rfl : l₁ = _ := hledger
    obtain rfl := hpermitted.program_eq
    have hsame : creditor = creditor' := by
      have hcreditor' := (Account.token?_eq_some_iff.1 hpermitted.creditor_eq).2
      exact Except.ok.inj (hcreditor.symm.trans hcreditor')
    subst hsame
    have hfunding : Funding host signers [Key.tokenProgram, vesting, escrow] seeds tranches
        w.ledger vesting escrow sourceOwner source debtor' creditor :=
      ⟨rfl, rfl, haddress, hsigned, howner, by simpa using hfresh, hescrowOwner, hlength, hfits,
        hpermitted⟩
    exact ⟨(), _, yields_settle .., _, _, _, _, _, _, rfl, hfunding.founded _⟩
  · -- both accounts have been read and the owner has signed, so the rest is up to the host
    exact Host.ends_of_transferHurdles (fun _ hwhy => hwhy) (fun hnone => absurd hdebtor (hnone _))
      (fun hnone => absurd hcreditor (hnone _)) (Host.signedFor_of_mem hsigned none)

end Engine
end Vesting
