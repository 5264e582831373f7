/-
# Nothing has to be undone

A bank takes back what a failed command has done.  The program does not count on that: a command
that is broken off has changed nothing yet (`Engine.process_atomic`).  This module says where the
line runs.  Up to the point at which the host has done what it was asked for, a command may fail;
from there on it cannot (`Plan.finish_yields`), although it still has a record to write.

Two things could go wrong there.  The bytes that a command writes could fail to fit, and they could
make the record longer or shorter.  Neither happens, since the draft was made from the very record
that it replaces (`Plan.Fits`) and the transfer in between leaves that record alone: either it is
neither of the two accounts between which tokens move, or it is one of them, and then the draft is
not stored at all (`Engine.Displaced`).
-/
import Vesting.Proofs.Effect

namespace Vesting

open Act Engine

/-! ## 1. Lengths -/

namespace Ledger

variable {l : Ledger} {vesting : Key} {data : Bytes}

/-- Bytes as long as those that they replace change no length. -/
theorem length_rewritten (h : data.length = (l.account vesting).data.length) (k : Key) :
    ((l.rewritten vesting data).account k).data.length = (l.account k).data.length := by
  rw [account_rewritten]
  split
  · rename_i hk
    subst hk
    exact h
  · rfl

/-- Behind a transfer the draft changes no length either. -/
theorem length_settled {source destination : Key} (debtor creditor : TokenAccount) (n : Nat)
    (h : data.length = (l.account vesting).data.length) (k : Key) :
    ((l.settled source destination debtor creditor n vesting data).account k).data.length
      = ((l.move source destination debtor creditor n).account k).data.length := by
  rw [settled]
  split
  · rfl
  · rename_i hplaced
    refine length_rewritten ?_ k
    rw [account_move_of_not_displaced _ _ _ _ hplaced, h]

end Ledger

/-! ## 2. Behind the host -/

/-- **What is done behind the host goes through, and changes no length.** -/
theorem Plan.finish_yields {host : Host} {signers : List Key} {p : Plan} {w₁ w₂ : World}
    (hfits : p.Fits w₁.ledger) (hask : (p.ask host signers).Yields w₁ () w₂) :
    ∃ w₃, p.finish.Yields w₂ () w₃ ∧
      ∀ k, (w₃.ledger.account k).data.length = (w₂.ledger.account k).data.length := by
  cases p with
  | opening => exact ⟨w₂, rfl, fun _ => rfl⟩
  | payment tokenProgram source destination authority seeds total vesting draft report =>
    obtain ⟨debtor, creditor, -, hmoved⟩ := Host.transfer_yields hask
    obtain ⟨hdraft, hlength⟩ := hfits
    obtain ⟨moved, log⟩ := w₂
    obtain rfl : moved = _ := congrArg World.ledger hmoved
    let settled := w₁.ledger.settled source destination debtor creditor total vesting draft.1
    refine ⟨⟨settled, report :: log⟩, ?_, Ledger.length_settled debtor creditor total hlength⟩
    exact yields_storeBehind_bind.2 (yields_orFail_bind.2 ⟨(), hdraft, yields_note.2 rfl⟩)
  | writing vesting draft report =>
    cases hask
    let rewritten := w₁.ledger.rewritten vesting draft
    refine ⟨⟨rewritten, report :: w₁.log⟩, ?_, Ledger.length_rewritten hfits⟩
    exact yields_storeRecord_bind.2 (yields_note.2 rfl)
  | reporting report => exact ⟨_, yields_note.2 rfl, fun _ => rfl⟩

/-- **The program needs nobody to undo its work.**  Whatever the accounts hold and whichever of them
are the same, a command that is broken off leaves every account as it was.  It looks, asks its host
and finishes; behind the host nothing fails, and no account becomes longer or shorter. -/
theorem Engine.unaided_atomicity (host : Host) (signers accounts : List Key) :
    (∀ data w why w', (process host signers accounts data).Breaks w why w' →
      w'.ledger = w.ledger) ∧
    ∀ c,
      perform host signers accounts c = (do
        let p ← plan host signers accounts c
        p.ask host signers
        p.finish) ∧
      ∀ w p w₁ w₂, (plan host signers accounts c).Yields w p w₁ →
        (p.ask host signers).Yields w₁ () w₂ →
        w₁.ledger = w.ledger ∧
        ∃ w₃, p.finish.Yields w₂ () w₃ ∧
          ∀ k, (w₃.ledger.account k).data.length = (w₂.ledger.account k).data.length := by
  refine ⟨process_atomic host signers accounts, fun c => ?_⟩
  refine ⟨perform_eq_plan host signers accounts c, fun w p w₁ w₂ hplan hask => ?_⟩
  obtain ⟨hsound, hlooked⟩ := plan_yields hplan
  refine ⟨hlooked, Plan.finish_yields ?_ hask⟩
  rw [hlooked]
  exact hsound.fits

namespace Sample

/-- The escrow holds tokens of another mint, so that the transfer is what fails. -/
def mixed : Bank := bank.addTokenAccount escrow { mint := key 10, owner := vesting, amount := 0 }

end Sample

/-- A contract is refused by the host, behind all checks of the program, and nothing has changed.
Another one is funded, and then its record is written. -/
theorem Engine.unaided_atomicity_mixed :
    (∃ w, (process Sample.mixed.host Sample.create.signers Sample.create.keys
        Sample.create.data).Breaks ⟨Sample.mixed.ledger, []⟩ (.rejected .mintMismatch) w ∧
      w.ledger = Sample.mixed.ledger) ∧
    ∃ p w₁ w₂ w₃,
      (plan Sample.bank.host Sample.create.signers Sample.create.keys
        (.create Sample.seeds Sample.mint Sample.destination Sample.tranches)).Yields
          ⟨Sample.bank.ledger, []⟩ p w₁ ∧
      (p.ask Sample.bank.host Sample.create.signers).Yields w₁ () w₂ ∧
      p.finish.Yields w₂ () w₃ ∧
      ∀ k, (w₃.ledger.account k).data.length = (w₂.ledger.account k).data.length := by
  constructor
  · have hrefused : ((process Sample.mixed.host Sample.create.signers Sample.create.keys
        Sample.create.data).exec ⟨Sample.mixed.ledger, []⟩).1
          = .error (.rejected .mintMismatch) := by
      decide +kernel
    have hbreaks := breaks_of_result hrefused
    exact ⟨_, hbreaks, (unaided_atomicity _ _ _).1 _ _ _ _ hbreaks⟩
  · have hfunded : ((perform Sample.bank.host Sample.create.signers Sample.create.keys
        (.create Sample.seeds Sample.mint Sample.destination Sample.tranches)).exec
          ⟨Sample.bank.ledger, []⟩).1 = .ok () := by
      decide +kernel
    obtain ⟨hparts, hbehind⟩ := (unaided_atomicity Sample.bank.host Sample.create.signers
      Sample.create.keys).2 (.create Sample.seeds Sample.mint Sample.destination Sample.tranches)
    rw [hparts] at hfunded
    obtain ⟨p, w₁, hplan, hrest⟩ := yields_bind.1 (yields_of_result hfunded)
    obtain ⟨_, w₂, hask, -⟩ := yields_bind.1 hrest
    obtain ⟨-, w₃, hfinish, hlength⟩ := hbehind _ p w₁ w₂ hplan hask
    exact ⟨p, w₁, w₂, w₃, hplan, hask, hfinish, hlength⟩

end Vesting
