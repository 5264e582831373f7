/-
# How naming another destination is decided

Eight things may stand in the way of another destination.  `Engine.changeDestinationHurdles` lists
them in the order in which they are met, and `Engine.changeDestination_decided` says that this list
is all there is: the first hurdle that stands gives the class of the refusal, and nothing has been
changed; where none stands the key of the fourth account is the stored destination, and that is the
only change there is (`Redirected`).

The length of the record is asked for first, before anybody knows whose record it is.  That is why
the new key goes where the old one was: a record too short for a header would grow
(`Record.writeDestination`).

The four accounts may be one and the same.  Everything that is read of them is read before the key
is written, so it makes no difference.
-/
import Vesting.Proofs.Verdict

namespace Vesting

open Act Engine

/-! ## 1. What is written -/

/-- What naming `target` makes of a ledger. -/
structure Redirected (l l' : Ledger) (vesting target : Key) : Prop where
  /-- The record keeps its owner, its lamports, and all bytes but the first 32. -/
  record : l'.account vesting
    = (l.account vesting).storing (target.bytes ++ (l.account vesting).data.drop 32)
  /-- So it keeps its length. -/
  length : (l'.account vesting).data.length = (l.account vesting).data.length
  /-- All other accounts are as they were. -/
  others : ∀ k, k ≠ vesting → l'.account k = l.account k

theorem redirected_rewritten {l : Ledger} {vesting : Key}
    (h : 65 ≤ (l.account vesting).data.length) (target : Key) :
    Redirected l (l.rewritten vesting (Record.writeDestination target (l.account vesting).data))
      vesting target where
  record := by
    rw [Ledger.account_rewritten, if_pos rfl, Record.writeDestination, Bytes.replaceRange,
      List.take_zero, List.nil_append]
  length := by
    rw [Ledger.account_rewritten, if_pos rfl]
    exact Record.length_writeDestination target (by omega)
  others k hk := by
    rw [Ledger.account_rewritten, if_neg hk]

/-! ## 2. The hurdles -/

namespace Engine

/-- What may stand in the way of another destination, in the order in which it is met. -/
def changeDestinationHurdles (host : Host) (signers : List Key) (seeds : Seeds) (l : Ledger)
    (accounts : List Key) : List Hurdle :=
  fewerThan 4 accounts ::
    match accounts with
    | vesting :: current :: owner :: _ :: _ =>
      let record := (l.account vesting).data
      .refusal (record.length < 65) .invalidAccountData ::
        (addressHurdles host seeds vesting ++
          [.refusal (record[64]? ≠ some 0 ∧ record[64]? ≠ some 1) .invalidBoolean,
           .refusal (record.take 32 ≠ current.bytes) .invalidArgument,
           .refusal (owner ∉ signers) .invalidArgument,
           notToken l current,
           .refusal (l.Shows current fun t => t.owner ≠ owner) .invalidArgument])
    | _ => []

/-- **Another destination is decided by its first hurdle that stands.**  Where none stands, it is
named. -/
theorem changeDestination_decided (host : Host) (signers accounts : List Key) (seeds : Seeds)
    (w : World) :
    (changeDestination host signers accounts seeds).Decided w
      (Leaves fun _ l' => ∃ vesting current owner target rest,
        accounts = vesting :: current :: owner :: target :: rest ∧
        Redirected w.ledger l' vesting target)
      (changeDestinationHurdles host signers seeds w.ledger accounts) := by
  simp only [changeDestination, perform, plan, planBy, planChangeDestination, bind_assoc, pure_bind,
    Plan.carry_writing]
  refine decided_pick (by decide) fun vesting h₀ => decided_pick (by decide) fun current h₁ => ?_
  refine decided_pick (by decide) fun owner h₂ => decided_pick (by decide) fun target h₃ => ?_
  obtain ⟨rest, rfl⟩ := eq_of_four_picks h₀ h₁ h₂ h₃
  refine .pass (by simp [fewerThan]) ?_
  refine .bind_of_yields (yields_account.2 ⟨rfl, rfl⟩) rfl ?_
  refine .demand Nat.not_le.symm rfl fun hlong => ?_
  refine decided_checkAddress fun _ => ?_
  refine .orFail (Record.not_header_iff hlong).symm (fun _ => Record.refuses_of_header hlong)
    fun header hheader => ?_
  refine .demand (not_congr (Record.destination_eq_iff hheader).symm) rfl fun _ => ?_
  refine .demand Iff.rfl rfl fun _ => ?_
  refine decided_tokenAccount fun t ht => ?_
  refine .demand (Ledger.shows_iff ht) rfl fun _ => ?_
  have hwritten : Act.Yields (do
      storeRecord vesting (Record.writeDestination target (w.ledger.account vesting).data)
      note (.redirected current target)) w () _ :=
    yields_storeRecord_bind.2 (yields_note.2 rfl)
  exact ⟨(), _, hwritten, vesting, current, owner, target, rest, rfl,
    redirected_rewritten hlong target⟩

end Engine
end Vesting
