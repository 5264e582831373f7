/-
# How making room for a contract is decided

The command that makes room checks which accounts it has been given, and leaves the rest to the
host.  `Engine.init_decided` puts the checks of both into one list, in the order in which they are
met: the first hurdle that stands gives the class of the refusal, and nothing has been changed;
where none stands there is a record of zeros afterwards, which somebody else has paid for
(`Engine.Allocated`).

What an account costs is a multiple of its length, and both are bounded.  The number of tranches has
32 bits, so the length may pass the largest one that the host allows; that is one of the hurdles.
And nobody has to compare the payer with the new account: an account of nothing cannot pay
(`Host.Openable.payer_ne`).
-/
import Vesting.Proofs.Verdict

namespace Vesting

open Act

/-! ## 1. The hurdles of opening an account -/

namespace Host

/-- What may stand in the way of opening an account, in the order in which it is met. -/
def openingHurdles (host : Host) (signers : List Key) (payer target : Key) (lamports : Int)
    (size : Nat) (seeds : Option Bytes) (l : Ledger) : List Hurdle :=
  let signed := host.signedFor signers target seeds
  [.refusal (payer ∉ signers) .hostError,
   ⟨∀ b, signed ≠ .ok b, fun why => signed = .error why⟩,
   .refusal (signed = .ok false) .hostError,
   .refusal (l.account target ≠ .empty) .hostError,
   .refusal (maxSize < size) .hostError,
   .refusal ((l.account payer).lamports < lamports) .hostError]

/-- **Opening an account is decided by its first hurdle that stands.**  Behind the checks the
lamports change hands and the bytes are made, and nothing fails. -/
theorem createAccount_decided (host : Host) (signers : List Key) (payer target : Key)
    (lamports : Int) (size : Nat) (owner : Key) (seeds : Option Bytes) (w : World) :
    (host.createAccount signers payer target lamports size owner seeds).Decided w
      (Leaves fun _ l' =>
        Openable host signers payer target lamports size seeds w.ledger ∧
        l' = w.ledger.opened payer target owner lamports size)
      (host.openingHurdles signers payer target lamports size seeds w.ledger) := by
  unfold createAccount openingHurdles
  refine .require Iff.rfl rfl fun hpayer => ?_
  refine .orFail Iff.rfl (fun _ hwhy => hwhy) fun signed hsigned => ?_
  refine .require (by simp [hsigned]) rfl fun htrue => ?_
  refine .bind_of_yields (yields_account.2 ⟨rfl, rfl⟩) rfl ?_
  refine .require (not_congr Account.isEmpty_iff.symm) rfl fun hfresh => ?_
  refine .require (by omega) rfl fun hsize => ?_
  refine .bind_of_yields (yields_account.2 ⟨rfl, rfl⟩) rfl ?_
  refine .require Int.not_le.symm rfl fun hcovered => ?_
  have hsize : size ≤ maxSize := by exact_mod_cast hsize
  rw [htrue] at hsigned
  have hopenable : Openable host signers payer target lamports size seeds w.ledger :=
    ⟨hpayer, hsigned, Account.isEmpty_iff.1 hfresh, hsize, hcovered⟩
  refine ⟨(), ⟨w.ledger.opened payer target owner lamports size,
    .opened target size lamports :: w.log⟩, ?_, hopenable, rfl⟩
  show Act.Yields _ w () _
  simp only [yields_store_bind, yields_account_bind, yields_orFail_bind, yields_note]
  exact ⟨(), checkSize_of_le hsize, rfl⟩

end Host

/-! ## 2. The hurdles of making room -/

namespace Engine

/-- What a record with room for `n` tranches costs. -/
def rent (n : Nat) : Int := (128 + 65 + 16 * n) * 6960

theorem minimumBalance_eq_rent (n : Nat) : Host.minimumBalance (Record.length n) = rent n := by
  unfold Host.minimumBalance Record.length rent
  omega

/-- What may stand in the way of making room for `n` tranches, in the order in which it is met. -/
def initHurdles (host : Host) (signers : List Key) (seeds : Seeds) (n : Nat) (l : Ledger)
    (accounts : List Key) : List Hurdle :=
  fewerThan 4 accounts ::
    match accounts with
    | systemProgram :: rentSysvar :: payer :: vesting :: _ =>
      .refusal (systemProgram ≠ Key.systemProgram) .invalidArgument ::
      .refusal (rentSysvar ≠ Key.rentSysvar) .invalidArgument ::
      (addressHurdles host seeds vesting ++
        [.refusal (payer ∉ signers) .hostError,
         .refusal (l.account vesting ≠ .empty) .hostError,
         .refusal (10 * 1024 * 1024 < 65 + 16 * n) .hostError,
         .refusal ((l.account payer).lamports < rent n) .hostError])
    | _ => []

/-- What it takes to make room for `n` tranches. -/
structure Allocatable (host : Host) (signers accounts : List Key) (seeds : Seeds) (n : Nat)
    (l : Ledger) (payer vesting : Key) : Prop where
  accounts_eq : ∃ rest,
    accounts = Key.systemProgram :: Key.rentSysvar :: payer :: vesting :: rest
  address : host.derive seeds.bytes host.program = .ok vesting
  payer_signed : payer ∈ signers
  fresh : l.account vesting = .empty
  size_le : 65 + 16 * n ≤ 10 * 1024 * 1024
  covered : rent n ≤ (l.account payer).lamports

theorem clear_initHurdles_iff {host : Host} {signers accounts : List Key} {seeds : Seeds} {n : Nat}
    {l : Ledger} :
    (∀ h ∈ initHurdles host signers seeds n l accounts, ¬ h.stands) ↔
      ∃ payer vesting, Allocatable host signers accounts seeds n l payer vesting := by
  constructor
  · intro hclear
    rcases accounts with _ | ⟨systemProgram, _ | ⟨rentSysvar, _ | ⟨payer, _ | ⟨vesting, rest⟩⟩⟩⟩
    case cons.cons.cons.cons =>
      simp only [initHurdles, addressHurdles, List.cons_append, List.nil_append,
        List.forall_mem_cons, Hurdle.stands_refusal, not_not, Nat.not_lt, Int.not_lt] at hclear
      obtain ⟨-, rfl, rfl, -, haddress, hpayer, hfresh, hsize, hcovered, -⟩ := hclear
      exact ⟨payer, vesting, ⟨rest, rfl⟩, haddress, hpayer, hfresh, hsize, hcovered⟩
    all_goals
      have hfew := hclear _ List.mem_cons_self
      simp [fewerThan] at hfew
  · rintro ⟨payer, vesting, ⟨rest, rfl⟩, haddress, hpayer, hfresh, hsize, hcovered⟩
    simp [initHurdles, addressHurdles, fewerThan, haddress, hpayer, hfresh, hsize, hcovered]

/-- What making room for `n` tranches leaves. -/
structure Allocated (program : Key) (l l' : Ledger) (payer vesting : Key) (n : Nat) : Prop where
  /-- The payer is not the account that it pays for. -/
  apart : payer ≠ vesting
  /-- The record belongs to the program, is paid for, and holds zeros. -/
  record : l'.account vesting = ⟨program, rent n, List.replicate (65 + 16 * n) 0⟩
  /-- It has not been set up, and has room for as many tranches as were asked for. -/
  reads : Record.isInitialized (l'.account vesting).data = false ∧
    Record.capacity (l'.account vesting).data = n
  /-- The payer has as many lamports fewer. -/
  paid : l'.account payer = (l.account payer).having ((l.account payer).lamports - rent n)
  /-- All other accounts are as they were. -/
  others : ∀ k, k ≠ payer → k ≠ vesting → l'.account k = l.account k

theorem allocated_opened {host : Host} {signers : List Key} {payer vesting : Key} {n : Nat}
    {seeds : Option Bytes} {l : Ledger}
    (h : Host.Openable host signers payer vesting (rent n) (Record.length n) seeds l) :
    Allocated host.program l (l.opened payer vesting host.program (rent n) (Record.length n)) payer
      vesting n := by
  have hpos : 0 < rent n := by
    unfold rent
    omega
  have hne := h.payer_ne hpos
  refine ⟨hne, ?_, ?_, ?_, fun k hpayer hvesting => ?_⟩
  · rw [Ledger.account_opened, if_pos rfl, Record.length]
  · rw [Ledger.account_opened, if_pos rfl]
    refine ⟨Record.isInitialized_zeros _, ?_⟩
    rw [Record.capacity, List.length_replicate, Record.length]
    omega
  · rw [Ledger.account_opened, if_neg hne, if_pos rfl]
  · rw [Ledger.account_opened, if_neg hvesting, if_neg hpayer]

/-- **Making room is decided by its first hurdle that stands.**  Where none stands it goes through,
and the record is there; and that is where all of `Allocatable` holds. -/
theorem init_decided (host : Host) (signers accounts : List Key) (seeds : Seeds) (count : UInt32)
    (w : World) :
    (init host signers accounts seeds count).Decided w
        (Leaves fun _ l' => ∃ payer vesting,
          Allocatable host signers accounts seeds count.toNat w.ledger payer vesting ∧
          Allocated host.program w.ledger l' payer vesting count.toNat)
        (initHurdles host signers seeds count.toNat w.ledger accounts) ∧
      ((∃ u w', (init host signers accounts seeds count).Yields w u w') ↔
        ∃ payer vesting,
          Allocatable host signers accounts seeds count.toNat w.ledger payer vesting) := by
  refine ⟨?decided, (Decided.yields_iff ?decided).trans clear_initHurdles_iff⟩
  simp only [init, perform, plan, planBy, planInit, bind_assoc, pure_bind, Plan.carry_opening]
  refine decided_pick (by decide) fun systemProgram h₀ => ?_
  refine decided_pick (by decide) fun rentSysvar h₁ => decided_pick (by decide) fun payer h₂ => ?_
  refine decided_pick (by decide) fun vesting h₃ => ?_
  obtain ⟨rest, rfl⟩ := eq_of_four_picks h₀ h₁ h₂ h₃
  refine .pass (by simp [fewerThan]) ?_
  refine .demand Iff.rfl rfl fun hsystemProgram => .demand Iff.rfl rfl fun hrentSysvar => ?_
  refine decided_checkAddress fun haddress => ?_
  refine .bind_of_yields (a := ()) (yields_note.2 rfl) rfl ?_
  subst hsystemProgram hrentSysvar
  -- the seeds speak for the new account, so nobody has to sign for it
  have hsigned := Host.signedFor_of_derive signers haddress
  rw [minimumBalance_eq_rent]
  refine (Host.createAccount_decided ..).keep fun _ hrest => ?_
  refine ((hrest.drop fun hnone => hnone true hsigned).drop (by simp [hsigned])).imp ?_
  rintro ⟨u, w', hyields, h, hledger⟩
  refine ⟨u, w', hyields, payer, vesting, ⟨⟨rest, rfl⟩, haddress, h.payer_signed, h.fresh,
    h.size_le,
    h.covered⟩, ?_⟩
  rw [hledger]
  exact allocated_opened h

end Engine
end Vesting
