/-
# How paying out is decided

Anybody may have a contract pay out what is due, so what stands in the way is all there is to
protect it.  The hurdles come in three groups: those that concern the accounts that were given
(`Engine.unlockChecks`), the question whether anything is due at all, and those of the transfer.

The first group does not look at the tranches.  Once it is passed, what is left of the command is
`Engine.payDue`, and there is one number in it: what is due at the clock of the host by the bytes of
the record (`Engine.unlock_checked`).
-/
import Vesting.Proofs.Verdict

namespace Vesting.Engine

open Act Host

variable {host : Host} {signers accounts : List Key} {seeds : Seeds} {w : World}

/-! ## 1. The accounts that are given -/

/-- What may stand in the way of a payment before anybody asks what is due, in the order in which
it is met. -/
def unlockChecks (host : Host) (seeds : Seeds) (l : Ledger) (accounts : List Key) : List Hurdle :=
  fewerThan 5 accounts ::
    match accounts with
    | tokenProgram :: clockSysvar :: vesting :: escrow :: destination :: _ =>
      let record := (l.account vesting).data
      addressHurdles host seeds vesting ++
        [.refusal (tokenProgram ≠ Key.tokenProgram) .invalidArgument,
         .refusal (record.length < 65) .invalidAccountData,
         .refusal (∀ header, Record.header record ≠ .ok header) .invalidBoolean,
         .refusal (∃ header, Record.header record = .ok header ∧ header.destination ≠ destination)
           .invalidArgument,
         notToken l escrow,
         .refusal (l.Shows escrow fun t => t.owner ≠ vesting) .invalidArgument,
         .refusal (clockSysvar ≠ Key.clockSysvar) .invalidArgument]
    | _ => []

/-- What is known once these hurdles are passed. -/
structure Presented (host : Host) (accounts : List Key) (seeds : Seeds) (l : Ledger)
    (vesting escrow destination : Key) (held : TokenAccount) : Prop where
  accounts_eq : ∃ rest, accounts =
    Key.tokenProgram :: Key.clockSysvar :: vesting :: escrow :: destination :: rest
  address : host.derive seeds.bytes host.program = .ok vesting
  header_eq : ∃ header, Record.header (l.account vesting).data = .ok header ∧
    header.destination = destination
  held_eq : TokenAccount.unpack (l.account escrow).data = .ok held
  held_owner : held.owner = vesting

/-- What is left to do then: to pay out what is due by the bytes of the record. -/
def payDue (host : Host) (signers : List Key) (seeds : Seeds) (vesting escrow destination : Key)
    (held : TokenAccount) (record : Bytes) : Act Unit := do
  let total := Record.vestedAt host.clock record
  demand (total ≠ 0) .nothingDue
  note (.releasing held.amount.toNat total)
  host.transfer signers Key.tokenProgram escrow destination vesting (some seeds.bytes) total
  storeBehind vesting escrow destination (Record.paidOut host.clock record)
  note (.released total vesting destination)

/-- **Behind its checks, paying out is up to the record and the host.** -/
theorem unlock_checked (host : Host) (signers accounts : List Key) (seeds : Seeds) (w : World) :
    (unlock host signers accounts seeds).Decided w
      (fun out => ∃ vesting escrow destination held log,
        Presented host accounts seeds w.ledger vesting escrow destination held ∧
        out = (payDue host signers seeds vesting escrow destination held
          (w.ledger.account vesting).data).exec ⟨w.ledger, log⟩)
      (unlockChecks host seeds w.ledger accounts) := by
  simp only [unlock, perform, plan, planBy, planUnlock, bind_assoc, pure_bind, Plan.carry_payment]
  refine decided_pick (by decide) fun tokenProgram h₀ => ?_
  refine decided_pick (by decide) fun clockSysvar h₁ => ?_
  refine decided_pick (by decide) fun vesting h₂ => decided_pick (by decide) fun escrow h₃ => ?_
  refine decided_pick (by decide) fun destination h₄ => ?_
  obtain ⟨rest, rfl⟩ := eq_of_picks h₀ h₁ h₂ h₃ h₄
  refine .pass (by simp [fewerThan]) ?_
  refine decided_checkAddress fun haddress => ?_
  refine .demand Iff.rfl rfl fun htokenProgram => ?_
  refine .bind_of_yields (yields_account.2 ⟨rfl, rfl⟩) rfl ?_
  refine .demand Nat.not_le.symm rfl fun hlong => ?_
  refine .orFail Iff.rfl (fun _ => Record.refuses_of_header hlong) fun header hheader => ?_
  refine .demand (by simp [hheader]) rfl fun hdestination => ?_
  refine decided_tokenAccount fun held hheld => ?_
  refine .demand (Ledger.shows_iff hheld) rfl fun howner => ?_
  refine .demand Iff.rfl rfl fun hclockSysvar => ?_
  subst htokenProgram hclockSysvar
  simp only [Record.writeTranches_release _ hlong]
  exact ⟨vesting, escrow, destination, held, _,
    ⟨⟨rest, rfl⟩, haddress, ⟨header, hheader, hdestination⟩, hheld, howner⟩, rfl⟩

/-- Conversely, what is known then leaves none of these hurdles standing. -/
theorem Presented.clear {l : Ledger} {vesting escrow destination : Key} {held : TokenAccount}
    (h : Presented host accounts seeds l vesting escrow destination held) :
    ∀ hurdle ∈ unlockChecks host seeds l accounts, ¬ hurdle.stands := by
  obtain ⟨⟨rest, rfl⟩, haddress, ⟨header, hheader, hdestination⟩, hheld, howner⟩ := h
  have hlong := Record.length_of_header hheader
  simp [unlockChecks, addressHurdles, fewerThan, notToken, Ledger.shows_iff hheld, haddress,
    hheader, hdestination, hheld, howner, hlong]

/-! ## 2. What is due -/

section PayDue

variable {vesting escrow destination : Key} {held : TokenAccount} {record : Bytes}

/-- Where nothing is due, that is what the command is refused for. -/
theorem payDue_of_nothing_due (h : Record.vestedAt host.clock record = 0) :
    (payDue host signers seeds vesting escrow destination held record).Breaks w
      (.rejected .nothingDue) ⟨w.ledger, .failed .nothingDue :: w.log⟩ :=
  breaks_bind.2 (.inl (breaks_of_demand (not_not.2 h)))

/-- Where something is due, exactly that much is asked of the host, and the record is written
behind it. -/
theorem exec_payDue (h : Record.vestedAt host.clock record ≠ 0) :
    (payDue host signers seeds vesting escrow destination held record).exec w =
      Act.exec (do
        host.transfer signers Key.tokenProgram escrow destination vesting (some seeds.bytes)
          (Record.vestedAt host.clock record)
        storeBehind vesting escrow destination (Record.paidOut host.clock record)
        note (.released (Record.vestedAt host.clock record) vesting destination))
      ⟨w.ledger, .releasing held.amount.toNat (Record.vestedAt host.clock record) :: w.log⟩ := by
  unfold payDue
  rw [exec_bind_of_yields (yields_of_demand h), exec_bind_of_yields (a := ()) (yields_note.2 rfl)]

/-- Where something is due and its transfer is permitted, it is paid. -/
theorem yields_payDue {debtor creditor : TokenAccount}
    (hdue : Record.vestedAt host.clock record ≠ 0)
    (hpermitted : Permitted host signers Key.tokenProgram escrow destination vesting
      (some seeds.bytes) (Record.vestedAt host.clock record) w.ledger debtor creditor) :
    ∃ w', (payDue host signers seeds vesting escrow destination held record).Yields w () w' := by
  have hmoves (log : List Event) := Permitted.yields_transfer (w := ⟨w.ledger, log⟩) hpermitted
  exact ⟨_, (exec_payDue hdue).trans ((exec_bind_of_yields (hmoves _)).trans (yields_settle ..))⟩

/-- **A payment is refused if nothing is due, and by its transfer.**  Otherwise it is made, and the
tranches that it is made for are written off. -/
theorem payDue_decided (host : Host) (signers : List Key) (seeds : Seeds)
    (vesting escrow destination : Key) (held : TokenAccount) (record : Bytes) (w : World) :
    let total := Record.vestedAt host.clock record
    (payDue host signers seeds vesting escrow destination held record).Decided w
      (Leaves fun _ l' => ∃ debtor creditor,
        Permitted host signers Key.tokenProgram escrow destination vesting (some seeds.bytes) total
          w.ledger debtor creditor ∧
        l' = w.ledger.settled escrow destination debtor creditor total vesting
          (Record.paidOut host.clock record))
      (.refusal (total = 0) .invalidArgument :: host.transferHurdles signers Key.tokenProgram escrow
        destination vesting (some seeds.bytes) total w.ledger) := by
  refine .demand not_not.symm rfl fun _ => ?_
  refine .bind_of_yields (a := ()) (yields_note.2 rfl) rfl ?_
  refine (transfer_decided ..).bind_of_leaves fun _ w₁ _ hmoved => ?_
  obtain ⟨debtor, creditor, hpermitted, hledger⟩ := hmoved
  obtain ⟨l₁, log⟩ := w₁
  obtain rfl : l₁ = _ := hledger
  exact ⟨(), _, yields_settle .., debtor, creditor, hpermitted, rfl⟩

/-- The class of a refused payment says whether something was due. -/
theorem payDue_breaks {w' : World} {why : Fault}
    (haddress : host.derive seeds.bytes host.program = .ok vesting)
    (hdue : Record.vestedAt host.clock record ≠ 0)
    (hbreaks : (payDue host signers seeds vesting escrow destination held record).Breaks w why w') :
    ¬ why.Refuses .invalidArgument := by
  rcases (payDue_decided host signers seeds vesting escrow destination held record w).cases with
    ⟨_, _, hok, -⟩ | ⟨h, hmem, hstands, why', _, hwhy, hends, -⟩
  · cases hok.symm.trans hbreaks
  · cases hwhy.symm.trans hbreaks
    rcases List.mem_cons.1 hmem with rfl | hmem
    · exact absurd hstands hdue
    · refine ends_of_transferHurdles (E := fun why => ¬ why.Refuses .invalidArgument) ?_ ?_ ?_
        (signedFor_of_derive signers haddress) h hmem hstands why hends
      · exact fun why hwhy hinvalid => nomatch hwhy.unique hinvalid
      · exact fun _ why hwhy hinvalid => nomatch hwhy.unique hinvalid
      · exact fun _ why hwhy hinvalid => nomatch hwhy.unique hinvalid

end PayDue

end Vesting.Engine
