/-
# Commands decide before they act

Every command has three parts.  It looks at what it was given and decides (`Engine.plan`): nothing
is changed, and what comes out is a `Plan`.  Then its host does what the plan asks for, which is to
open an account or to move tokens (`Plan.ask`).  Last it writes a record and reports
(`Plan.finish`).

The first part is an inspection (`Engine.inspects_plan`), so it can fail and does not change a
thing. The last part changes the ledger and cannot fail, since the plan has found that its draft
goes into the record (`Plan.Fits`, `Plan.finish_sure`).  Between the two stands the host alone.
-/
import Vesting.Proofs.Inspection
import Vesting.Proofs.Opening
import Vesting.Proofs.Settlement

namespace Vesting

open Act Engine

/-! ## 1. Plans carried out -/

namespace Engine

/-- **A command is planned, then the host is asked, then the rest is done.** -/
theorem perform_eq_plan (host : Host) (signers accounts : List Key) (c : Command) :
    perform host signers accounts c = (do
      let p ← plan host signers accounts c
      p.ask host signers
      p.finish) := rfl

end Engine

namespace Plan

variable {host : Host} {signers : List Key}

theorem carry_opening {payer vesting : Key} {size : Nat} {seeds : Seeds} :
    (opening payer vesting size seeds).carry host signers
      = host.createAccount signers payer vesting (Host.minimumBalance size) size host.program
          (some seeds.bytes) :=
  bind_pure_unit

theorem carry_payment {tokenProgram source destination authority vesting : Key}
    {seeds : Option Bytes} {total : Nat} {draft : Bytes × Except Fault Unit} {report : Event} :
    (payment tokenProgram source destination authority seeds total vesting draft report).carry host
      signers = (do
        host.transfer signers tokenProgram source destination authority seeds total
        storeBehind vesting source destination draft.1
        orFail draft.2
        note report) := rfl

theorem carry_writing {vesting : Key} {draft : Bytes} {report : Event} :
    (writing vesting draft report).carry host signers = (do
      storeRecord vesting draft
      note report) :=
  pure_bind () _

theorem carry_reporting {report : Event} :
    (reporting report).carry host signers = note report :=
  pure_bind () _

end Plan

/-! ## 2. What is known of a plan -/

namespace Plan

/-- The accounts that the plan may change are among those that were given. -/
def Within (accounts : List Key) : Plan → Prop
  | opening payer vesting _ _ => payer ∈ accounts ∧ vesting ∈ accounts
  | payment _ source destination _ _ _ vesting _ _ =>
    source ∈ accounts ∧ destination ∈ accounts ∧ vesting ∈ accounts
  | writing vesting _ _ => vesting ∈ accounts
  | reporting _ => True

/-- The draft of the plan could be written, and is as long as the record that it replaces. -/
def Fits (l : Ledger) : Plan → Prop
  | payment _ _ _ _ _ _ vesting draft _ =>
    draft.2 = .ok () ∧ draft.1.length = (l.account vesting).data.length
  | writing vesting draft _ => draft.length = (l.account vesting).data.length
  | opening .. | reporting _ => True

/-- What the checks of a command have found out about its plan. -/
structure Sound (accounts : List Key) (l : Ledger) (p : Plan) : Prop where
  within : p.Within accounts
  fits : p.Fits l

end Plan

namespace Engine

variable {F : Fault → Prop} {host : Host} {accounts : List Key} {l l' : Ledger}

section Walks

variable (hF : host.FailsBy F) (hl : ∀ k ∈ accounts, l.account k = l'.account k)
include hF

theorem inspects_planInit (seeds : Seeds) (count : UInt32) :
    (planInit (pick accounts) host seeds count).Inspects l l' F (Plan.Sound accounts l) := by
  unfold planInit
  refine (inspects_pick hF _ _).bind fun systemProgram _ => ?_
  refine (inspects_pick hF _ _).bind fun rentSysvar _ => ?_
  refine (inspects_pick hF _ _).bind fun payer hpayer => ?_
  refine (inspects_pick hF _ _).bind fun vesting hvesting => ?_
  refine (inspects_demand _ (hF.rejected _)).bind fun _ _ => ?_
  refine (inspects_demand _ (hF.rejected _)).bind fun _ _ => ?_
  refine (inspects_checkAddress hF _ _).bind fun _ _ => ?_
  refine (inspects_note _).bind fun _ _ => ?_
  exact inspects_pure
    ⟨⟨List.mem_of_getElem? hpayer, List.mem_of_getElem? hvesting⟩, trivial⟩

include hl

theorem inspects_planCreate (signers : List Key) (seeds : Seeds) (mint destination : Key)
    (tranches : List Tranche) :
    (planCreate (pick accounts) host signers seeds mint destination tranches).Inspects l l' F
      (Plan.Sound accounts l) := by
  unfold planCreate
  refine (inspects_pick hF _ _).bind fun tokenProgram _ => ?_
  refine (inspects_pick hF _ _).bind fun vesting hvesting => ?_
  refine (inspects_pick hF _ _).bind fun escrow hescrow => ?_
  refine (inspects_pick hF _ _).bind fun sourceOwner _ => ?_
  refine (inspects_pick hF _ _).bind fun source hsource => ?_
  have hvesting := List.mem_of_getElem? hvesting
  have hescrow := List.mem_of_getElem? hescrow
  have hsource := List.mem_of_getElem? hsource
  refine (inspects_checkAddress hF _ _).bind fun _ _ => ?_
  refine (inspects_demand _ (hF.rejected _)).bind fun _ _ => ?_
  refine (inspects_account (hl vesting hvesting)).bind fun record hrecord => ?_
  refine (inspects_demand _ (hF.rejected _)).bind fun _ _ => ?_
  refine (inspects_demand _ (hF.rejected _)).bind fun _ _ => ?_
  refine (inspects_tokenAccount hF _ (hl escrow hescrow)).bind fun held _ => ?_
  refine (inspects_demand _ (hF.rejected _)).bind fun _ _ => ?_
  refine (inspects_demand _ (hF.rejected _)).bind fun _ _ => ?_
  refine (inspects_demand _ (hF.rejected _)).bind fun _ _ => ?_
  refine (inspects_demand _ (hF.rejected _)).bind fun _ hlength => ?_
  refine (inspects_demand _ (hF.rejected _)).bind fun _ _ => ?_
  refine (inspects_tokenAccount hF _ (hl source hsource)).bind fun paying _ => ?_
  refine (inspects_demand _ (hF.rejected _)).bind fun _ _ => ?_
  refine inspects_pure ⟨⟨hsource, hescrow, hvesting⟩, ?_⟩
  rw [Record.writeTranches_writeHeader _ hlength]
  refine ⟨rfl, ?_⟩
  rw [Record.length_founded _ hlength, ← hlength, hrecord]

theorem inspects_planUnlock (seeds : Seeds) :
    (planUnlock (pick accounts) host seeds).Inspects l l' F (Plan.Sound accounts l) := by
  unfold planUnlock
  refine (inspects_pick hF _ _).bind fun tokenProgram _ => ?_
  refine (inspects_pick hF _ _).bind fun clockSysvar _ => ?_
  refine (inspects_pick hF _ _).bind fun vesting hvesting => ?_
  refine (inspects_pick hF _ _).bind fun escrow hescrow => ?_
  refine (inspects_pick hF _ _).bind fun destination hdestination => ?_
  have hvesting := List.mem_of_getElem? hvesting
  have hescrow := List.mem_of_getElem? hescrow
  have hdestination := List.mem_of_getElem? hdestination
  refine (inspects_checkAddress hF _ _).bind fun _ _ => ?_
  refine (inspects_demand _ (hF.rejected _)).bind fun _ _ => ?_
  refine (inspects_account (hl vesting hvesting)).bind fun record hrecord => ?_
  refine (inspects_demand _ (hF.rejected _)).bind fun _ hlong => ?_
  refine (inspects_header hF _).bind fun header _ => ?_
  refine (inspects_demand _ (hF.rejected _)).bind fun _ _ => ?_
  refine (inspects_tokenAccount hF _ (hl escrow hescrow)).bind fun held _ => ?_
  refine (inspects_demand _ (hF.rejected _)).bind fun _ _ => ?_
  refine (inspects_demand _ (hF.rejected _)).bind fun _ _ => ?_
  refine (inspects_noteAll _).bind fun _ _ => ?_
  refine (inspects_demand _ (hF.rejected _)).bind fun _ _ => ?_
  refine (inspects_note _).bind fun _ _ => ?_
  refine inspects_pure ⟨⟨hescrow, hdestination, hvesting⟩, ?_⟩
  rw [Record.writeTranches_release _ hlong]
  refine ⟨rfl, ?_⟩
  rw [Record.length_paidOut _ hlong, hrecord]

theorem inspects_planChangeDestination (signers : List Key) (seeds : Seeds) :
    (planChangeDestination (pick accounts) host signers seeds).Inspects l l' F
      (Plan.Sound accounts l) := by
  unfold planChangeDestination
  refine (inspects_pick hF _ _).bind fun vesting hvesting => ?_
  refine (inspects_pick hF _ _).bind fun current hcurrent => ?_
  refine (inspects_pick hF _ _).bind fun owner _ => ?_
  refine (inspects_pick hF _ _).bind fun target _ => ?_
  have hvesting := List.mem_of_getElem? hvesting
  have hcurrent := List.mem_of_getElem? hcurrent
  refine (inspects_account (hl vesting hvesting)).bind fun record hrecord => ?_
  refine (inspects_demand _ (hF.rejected _)).bind fun _ hlong => ?_
  refine (inspects_checkAddress hF _ _).bind fun _ _ => ?_
  refine (inspects_header hF _).bind fun header _ => ?_
  refine (inspects_demand _ (hF.rejected _)).bind fun _ _ => ?_
  refine (inspects_demand _ (hF.rejected _)).bind fun _ _ => ?_
  refine (inspects_tokenAccount hF _ (hl current hcurrent)).bind fun token _ => ?_
  refine (inspects_demand _ (hF.rejected _)).bind fun _ _ => ?_
  refine inspects_pure ⟨hvesting, ?_⟩
  have hlong : 32 ≤ record.data.length := Nat.le_trans (by decide) hlong
  show (Record.writeDestination target record.data).length = (l.account vesting).data.length
  rw [Record.length_writeDestination target hlong, hrecord]

/-- **To plan is to look.** -/
theorem inspects_plan (signers : List Key) (c : Command) :
    (plan host signers accounts c).Inspects l l' F (Plan.Sound accounts l) := by
  cases c with
  | init seeds count => exact inspects_planInit hF seeds count
  | create seeds mint destination tranches =>
    exact inspects_planCreate hF hl signers seeds mint destination tranches
  | unlock seeds => exact inspects_planUnlock hF hl seeds
  | changeDestination seeds => exact inspects_planChangeDestination hF hl signers seeds
  | empty number => exact inspects_pure ⟨trivial, trivial⟩

end Walks

/-- What comes out of the checks is sound, and they leave the ledger as it is. -/
theorem plan_yields {signers : List Key} {c : Command} {w w' : World} {p : Plan}
    (h : (plan host signers accounts c).Yields w p w') :
    p.Sound accounts w.ledger ∧ w'.ledger = w.ledger :=
  (inspects_plan host.failsBy_anyhow (fun _ _ => rfl) signers c).of_yields h

/-! ## 3. Carrying a plan out -/

section Storing

/-- Behind a transfer, the ledger is the one that `Ledger.settled` describes. -/
theorem yields_storeBehind (l : Ledger) (log : List Event) (vesting source destination : Key)
    (debtor creditor : TokenAccount) (n : Nat) (data : Bytes) :
    (storeBehind vesting source destination data).Yields
      ⟨l.move source destination debtor creditor n, log⟩ ()
      ⟨l.settled source destination debtor creditor n vesting data, log⟩ := by
  unfold storeBehind Ledger.settled
  split
  · rfl
  · rfl

theorem sure_storeRecord (vesting : Key) (data : Bytes) : (storeRecord vesting data).Sure :=
  (sure_account vesting).bind fun _ => sure_store vesting _

theorem sure_storeBehind (vesting source destination : Key) (data : Bytes) :
    (storeBehind vesting source destination data).Sure := by
  unfold storeBehind
  split
  · exact sure_pure ()
  · exact sure_storeRecord vesting data

end Storing
end Engine

namespace Plan

/-- **Nothing breaks off what is done behind the host.** -/
theorem finish_sure {p : Plan} {l : Ledger} (h : p.Fits l) : p.finish.Sure := by
  cases p with
  | opening => exact sure_pure ()
  | payment =>
    refine (sure_storeBehind _ _ _ _).bind fun _ => ?_
    exact (sure_orFail h.1).bind fun _ => sure_note _
  | writing => exact (sure_storeRecord _ _).bind fun _ => sure_note _
  | reporting => exact sure_note _

end Plan

end Vesting
