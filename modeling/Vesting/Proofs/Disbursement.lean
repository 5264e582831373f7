/-
# Paying out, from the first hurdle to the last byte

Paying out is the command that nobody has to sign, and so who has signed does not occur among its
hurdles (`Engine.unlockHurdles`).  The accounts are whatever somebody has chosen to present, in any
order and with repetitions, and the record is whatever bytes are found there.  So the list has to be
complete: `Engine.unlock_decided` says which refusal the command ends in for every choice of
accounts, and what it leaves where there is none (`Disbursed`).

Of the hurdles of a transfer seven are left here (`Host.paymentHurdles`).  The others have been
passed before: the escrow has been read and belongs to the contract, and the seeds speak for the
contract.

The record is written behind the transfer.  A record that is a token account could be one of the two
accounts of the transfer, and then its tranches would not be written off (`Engine.Displaced`).  That
is why the theorem asks that the record be no account of the token program, and it is all that it
asks.
-/
import Vesting.Proofs.Effect
import Vesting.Proofs.Movement
import Vesting.Proofs.Payment
import Vesting.Proofs.Wire

namespace Vesting

open Act Engine

/-! ## 1. What is written -/

namespace Record

/-- A record is a header, its tranches, and fewer bytes than a tranche has. -/
theorem eq_parts (data : Bytes) :
    data =
      data.take 65 ++ Tranche.packAll (tranches data) ++ data.drop (length (capacity data)) := by
  have hroom : 16 * capacity data ≤ (data.drop 65).length := by
    rw [List.length_drop, capacity]
    omega
  rw [tranches, Tranche.packAll_readMany hroom, List.append_assoc, length, ← List.drop_drop,
    List.take_append_drop, List.take_append_drop]

theorem length_rest (data : Bytes) : (data.drop (length (capacity data))).length < 16 := by
  rw [List.length_drop, length, capacity]
  omega

/-- Paying out writes other tranches between the same bytes. -/
theorem paidOut_eq (now : Int) {data : Bytes} (h : 65 ≤ data.length) :
    paidOut now data = data.take 65 ++ Tranche.packAll (Tranche.release now (tranches data)) ++
      data.drop (length (capacity data)) := by
  rw [paidOut, writeTranches_eq (release_fits now h), Bytes.replaceRange, Tranche.length_release,
    length_tranches]

end Record

/-- What paying out at a clock value makes of a ledger. -/
structure Disbursed (now : Int) (l l' : Ledger) (vesting escrow destination : Key) : Prop where
  /-- The record is none of the accounts between which the tokens move. -/
  apart : vesting ≠ escrow ∧ vesting ≠ destination
  /-- The record is the same, except that the tranches that are due have no amount any more. -/
  record : ∃ head tail, head.length = 65 ∧ tail.length < 16 ∧
    let tranches := Record.tranches (l.account vesting).data
    (l.account vesting).data = head ++ Tranche.packAll tranches ++ tail ∧
    l'.account vesting = (l.account vesting).storing
      (head ++ Tranche.packAll (Tranche.release now tranches) ++ tail)
  /-- What they came to has gone from the escrow to the destination. -/
  moved : escrow ≠ destination →
    l.HandsOver l' escrow destination (Record.vestedAt now (l.account vesting).data)
  /-- All other accounts are as they were. -/
  others : ∀ k, k ≠ vesting → (escrow ≠ destination → k ≠ escrow ∧ k ≠ destination) →
    l'.account k = l.account k

theorem Host.Permitted.disbursed {host : Host} {signers : List Key}
    {tokenProgram escrow destination authority vesting : Key} {seeds : Option Bytes} {now : Int}
    {l : Ledger} {debtor creditor : TokenAccount}
    (h : Permitted host signers tokenProgram escrow destination authority seeds
      (Record.vestedAt now (l.account vesting).data) l debtor creditor)
    (hlong : 65 ≤ (l.account vesting).data.length)
    (howner : (l.account vesting).owner ≠ Key.tokenProgram) :
    Disbursed now l (l.settled escrow destination debtor creditor
      (Record.vestedAt now (l.account vesting).data) vesting
      (Record.paidOut now (l.account vesting).data)) vesting escrow destination := by
  have hescrow : vesting ≠ escrow := fun heq => howner (heq ▸ h.source_owner)
  have hdestination : vesting ≠ destination := fun heq => howner (heq ▸ h.destination_owner)
  refine ⟨⟨hescrow, hdestination⟩, ?record, fun hne => ?moved, fun k hk hmoved => ?others⟩
  case record =>
    refine ⟨_, _, List.length_take_of_le hlong, Record.length_rest _, Record.eq_parts _, ?_⟩
    rw [h.account_settled_record _ howner, Record.paidOut_eq now hlong]
  case moved =>
    obtain ⟨hdebited, hcredited⟩ := h.handsOver hne
    constructor
    · rwa [Ledger.account_settled_of_ne _ _ _ _ _ hescrow.symm]
    · rwa [Ledger.account_settled_of_ne _ _ _ _ _ hdestination.symm]
  case others => exact Ledger.account_settled_off _ _ _ _ _ hk hmoved

/-! ## 2. The hurdles -/

/-- What may stand in the way of a transfer of `n` tokens out of an escrow that the program speaks
for, in the order in which it is met. -/
def Host.paymentHurdles (escrow destination : Key) (n : Nat) (l : Ledger) : List Hurdle :=
  [.refusal ((l.account escrow).owner ≠ Key.tokenProgram) .hostError,
   .refusal ((l.account destination).owner ≠ Key.tokenProgram) .hostError,
   notToken l destination,
   .refusal (l.Between escrow destination fun d c => d.mint ≠ c.mint) .hostError,
   .refusal (l.Between escrow destination fun d c => d.isFrozen ∨ c.isFrozen) .hostError,
   .refusal (l.Shows escrow fun d => d.amount.toNat < n) .hostError,
   .refusal (escrow ≠ destination ∧ l.Shows destination fun c => maxU64 < c.amount.toNat + n)
     .hostError]

/-- The other hurdles of the transfer do not stand. -/
theorem Host.decided_payment {β : Type} {host : Host} {signers : List Key}
    {escrow destination vesting : Key} {seeds : Option Bytes} {n : Nat} {w : World} {act : Act β}
    {K : Except Fault β × World → Prop} {held : TokenAccount}
    (hact : act.Decided w K (host.transferHurdles signers Key.tokenProgram escrow destination
      vesting seeds n w.ledger))
    (hheld : TokenAccount.unpack (w.ledger.account escrow).data = .ok held)
    (howner : held.owner = vesting) (hsigned : host.signedFor signers vesting seeds = .ok true) :
    act.Decided w K (paymentHurdles escrow destination n w.ledger) := by
  have hknown : ¬ w.ledger.Shows escrow fun d => vesting ≠ d.owner := by
    rw [Ledger.shows_iff hheld, not_not, howner]
  refine (hact.drop (not_not.2 rfl)).keep fun _ h => h.keep fun _ h => ?_
  refine (h.drop fun hnone => hnone held hheld).keep fun _ h => h.keep fun _ h => ?_
  refine h.keep fun _ h => ?_
  have hauthority := (h.drop hknown).drop fun hnone => hnone true hsigned
  exact hauthority.drop (by simp [hsigned])

namespace Engine

/-- What may stand in the way of paying out, in the order in which it is met. -/
def unlockHurdles (host : Host) (seeds : Seeds) (l : Ledger) (accounts : List Key) : List Hurdle :=
  fewerThan 5 accounts ::
    match accounts with
    | tokenProgram :: clockSysvar :: vesting :: escrow :: destination :: _ =>
      let record := (l.account vesting).data
      let due := Record.vestedAt host.clock record
      addressHurdles host seeds vesting ++
        .refusal (tokenProgram ≠ Key.tokenProgram) .invalidArgument ::
        .refusal (record.length < 65) .invalidAccountData ::
        .refusal (record[64]? ≠ some 0 ∧ record[64]? ≠ some 1) .invalidBoolean ::
        .refusal (record.take 32 ≠ destination.bytes) .invalidArgument ::
        notToken l escrow ::
        .refusal (l.Shows escrow fun t => t.owner ≠ vesting) .invalidArgument ::
        .refusal (clockSysvar ≠ Key.clockSysvar) .invalidArgument ::
        .refusal (due = 0) .invalidArgument ::
        Host.paymentHurdles escrow destination due l
    | _ => []

/-- **Paying out is decided by its first hurdle that stands.**  Where none stands, what is due
changes hands, and it is written off. -/
theorem unlock_decided (host : Host) (signers accounts : List Key) (seeds : Seeds) (w : World)
    (hrecord : ∀ vesting, accounts[2]? = some vesting →
      (w.ledger.account vesting).owner ≠ Key.tokenProgram) :
    (unlock host signers accounts seeds).Decided w
      (Leaves fun _ l' => ∃ tokenProgram clockSysvar vesting escrow destination rest,
        accounts = tokenProgram :: clockSysvar :: vesting :: escrow :: destination :: rest ∧
        Disbursed host.clock w.ledger l' vesting escrow destination)
      (unlockHurdles host seeds w.ledger accounts) := by
  have hchecked := unlock_checked host signers accounts seeds w
  rcases accounts with
    _ | ⟨tokenProgram, _ | ⟨clockSysvar, _ | ⟨vesting, _ | ⟨escrow, _ | ⟨destination, rest⟩⟩⟩⟩⟩
  case cons.cons.cons.cons.cons =>
    refine hchecked.keep fun _ h => h.keep fun _ h => h.keep fun _ h => h.keep fun _ h => ?_
    refine h.keep fun hlong h => ?_
    have hlong : 65 ≤ (w.ledger.account vesting).data.length := Nat.not_lt.1 hlong
    refine h.recast (Record.not_header_iff hlong).symm (fun _ hwhy => hwhy) fun hheader h => ?_
    have hheader : ∃ header, Record.header (w.ledger.account vesting).data = .ok header := by
      simpa using hheader
    obtain ⟨header, hheader⟩ := hheader
    refine h.recast ?_ (fun _ hwhy => hwhy) fun _ h => ?_
    · simp [hheader, Record.destination_eq_iff hheader]
    refine h.keep fun _ h => h.keep fun _ h => h.keep fun _ h => ?_
    -- what is left is to pay out, and there is one escrow and one destination to do it with
    obtain ⟨_, _, _, held, log, ⟨⟨_, haccounts⟩, haddress, -, hheld, howner⟩, hexec⟩ := h
    simp only [List.cons.injEq] at haccounts
    obtain ⟨-, -, rfl, rfl, rfl, -⟩ := haccounts
    have hpaid := (payDue_decided host signers seeds vesting escrow destination held
      (w.ledger.account vesting).data ⟨w.ledger, log⟩).of_exec hexec rfl
    refine hpaid.keep fun _ hpaid => ?_
    have hsigned := Host.signedFor_of_derive signers haddress
    refine (Host.decided_payment hpaid hheld howner hsigned).imp ?_
    rintro ⟨u, w', hyields, debtor, creditor, hpermitted, hledger⟩
    refine ⟨u, w', hyields, _, _, vesting, escrow, destination, rest, rfl, ?_⟩
    rw [hledger]
    exact hpermitted.disbursed hlong (hrecord vesting rfl)
  -- where accounts are missing, that is the only hurdle
  all_goals exact hchecked.keep fun hfew _ => absurd (by simp [fewerThan]) hfew

/-- The first tranche of a small contract falls due, and its thirty tokens change hands. -/
theorem unlock_decided_first :
    (Sample.payout.before.account Sample.vesting).owner ≠ Key.tokenProgram ∧
    Record.vestedAt 15 (Sample.payout.before.account Sample.vesting).data = 30 ∧
    ∃ w', (unlock Sample.payout.host Sample.unlock.signers Sample.unlock.keys Sample.seeds).Yields
        ⟨Sample.payout.before, []⟩ () w' ∧
      Disbursed 15 Sample.payout.before w'.ledger Sample.vesting Sample.escrow
        Sample.destination := by
  have howner : (Sample.payout.before.account Sample.vesting).owner ≠ Key.tokenProgram := by
    decide +kernel
  have hclock : Sample.payout.host.clock = 15 := by decide +kernel
  have hgoes : ((unlock Sample.payout.host Sample.unlock.signers Sample.unlock.keys
      Sample.seeds).exec ⟨Sample.payout.before, []⟩).1 = .ok () := by
    decide +kernel
  have hdecided := unlock_decided Sample.payout.host Sample.unlock.signers Sample.unlock.keys
    Sample.seeds ⟨Sample.payout.before, []⟩ fun vesting hvesting => by
      obtain rfl : Sample.vesting = vesting := Option.some.inj hvesting
      dsimp only
      exact howner
  refine ⟨howner, by decide +kernel, ?_⟩
  rcases hdecided.cases with ⟨_, w', hyields, _, _, _, _, _, _, haccounts, hdisbursed⟩ |
    ⟨_, _, _, why, w', hbreaks, -⟩
  · simp only [Sample.unlock, List.cons.injEq] at haccounts
    obtain ⟨-, -, rfl, rfl, rfl, -⟩ := haccounts
    simp only [hclock] at hdisbursed
    exact ⟨w', hyields, hdisbursed⟩
  · rw [hbreaks] at hgoes
    cases hgoes

end Engine
end Vesting
