/-
# What opening an account does

A host opens an account only where there is none, and only if the payer has signed and the seeds or
a signature speak for the new account: that is `Openable`.  Then, and only then, the ledger becomes
`Ledger.opened` (`Openable.yields_createAccount`, `createAccount_yields`).
The payer is not the new account as soon as the new account costs something
(`Openable.payer_ne`), so lamports only change hands (`Openable.sum_lamports_opened`).
-/
import Vesting.Proofs.Act
import Vesting.Proofs.Ledger
import Vesting.Proofs.TokenAccount

namespace Vesting

/-! ## 1. The ledger with a new account -/

/-- The account with other lamports. -/
def Account.having (a : Account) (lamports : Int) : Account := ⟨a.owner, lamports, a.data⟩

/-- The ledger once `payer` has given away lamports. -/
def Ledger.paid (l : Ledger) (payer : Key) (lamports : Int) : Ledger :=
  l.insert payer ((l.account payer).having ((l.account payer).lamports - lamports))

/-- The ledger once `payer` has paid for the account `target`, which belongs to `owner` and holds
`size` zero bytes.  The lamports are there before the bytes are. -/
def Ledger.opened (l : Ledger) (payer target owner : Key) (lamports : Int) (size : Nat) : Ledger :=
  ((l.paid payer lamports).insert target
    (((l.paid payer lamports).account target).having lamports)).insert target
    ⟨owner, lamports, List.replicate size 0⟩

namespace Host

/-- Everything that opening an account asks for. -/
structure Openable (host : Host) (signers : List Key) (payer target : Key) (lamports : Int)
    (size : Nat) (seeds : Option Bytes) (l : Ledger) : Prop where
  payer_signed : payer ∈ signers
  target_signed : host.signedFor signers target seeds = .ok true
  fresh : l.account target = .empty
  size_le : size ≤ maxSize
  covered : lamports ≤ (l.account payer).lamports

open Act

/-- No account is free. -/
theorem minimumBalance_pos (size : Nat) : 0 < minimumBalance size := by
  unfold minimumBalance
  omega

/-- An account of a permitted size can be made. -/
theorem checkSize_of_le {size : Nat} (h : size ≤ maxSize) :
    Bytes.checkSize size = .ok () := by
  have hsize : (size : Int) ≤ 10485760 := Int.ofNat_le.2 h
  have hword : Bytes.isWord size = true := by
    rw [Bytes.isWord, Bool.and_eq_true, decide_eq_true_iff, decide_eq_true_iff, Bytes.minWord,
      Bytes.maxWord]
    omega
  have hbytes : ¬ Bytes.maxWord - Bytes.overhead < size := by
    rw [Bytes.maxWord, Bytes.overhead]
    omega
  have hmemory : ¬ Bytes.memory ≤ size := by
    rw [Bytes.memory]
    omega
  rw [Bytes.checkSize, hword, if_neg (by decide), if_neg (by omega), if_neg hbytes,
    if_neg hmemory]

/-- **An account that is opened was not there, and the payer has signed.** -/
theorem createAccount_yields {host : Host} {signers : List Key} {payer target owner : Key}
    {lamports : Int} {size : Nat} {seeds : Option Bytes} {w w' : World} {u : Unit}
    (h : (host.createAccount signers payer target lamports size owner seeds).Yields w u w') :
    Openable host signers payer target lamports size seeds w.ledger ∧
      w' = ⟨w.ledger.opened payer target owner lamports size,
        .opened target size lamports :: w.log⟩ := by
  unfold createAccount at h
  simp only [yields_require_bind, yields_account_bind, yields_orFail_bind, yields_store_bind,
    yields_note] at h
  obtain ⟨hpayer, signed, hsigned, rfl, hfresh, hsize, hcovered, -, -, rfl⟩ := h
  refine ⟨⟨hpayer, hsigned, Account.isEmpty_iff.1 hfresh, ?_, hcovered⟩, rfl⟩
  exact_mod_cast hsize

/-- **An account that may be opened is opened.** -/
theorem Openable.yields_createAccount {host : Host} {signers : List Key} {payer target : Key}
    {lamports : Int} {size : Nat} {seeds : Option Bytes} {w : World}
    (h : Openable host signers payer target lamports size seeds w.ledger) (owner : Key) :
    (host.createAccount signers payer target lamports size owner seeds).Yields w ()
      ⟨w.ledger.opened payer target owner lamports size,
        .opened target size lamports :: w.log⟩ := by
  have hsize : (size : Int) ≤ maxSize := Int.ofNat_le.2 h.size_le
  unfold createAccount
  simp only [yields_require_bind, yields_account_bind, yields_orFail_bind, yields_store_bind,
    yields_note]
  exact ⟨h.payer_signed, true, h.target_signed, rfl, Account.isEmpty_iff.2 h.fresh, hsize,
    h.covered, (), checkSize_of_le h.size_le, rfl⟩

theorem plain_createAccount (host : Host) (signers : List Key) (payer target : Key)
    (lamports size : Int) (owner : Key) (seeds : Option Bytes) :
    Plain (host.createAccount signers payer target lamports size owner seeds) := by
  unfold createAccount
  refine .bind (.require _ _) fun _ => .bind (.orFail _) fun _ => .bind (.require _ _) fun _ => ?_
  refine .bind (.account _) fun _ => .bind (.require _ _) fun _ => .bind (.require _ _) fun _ => ?_
  refine .bind (.account _) fun _ => .bind (.require _ _) fun _ => .bind (.store _ _) fun _ => ?_
  refine .bind (.account _) fun _ => .bind (.store _ _) fun _ => .bind (.orFail _) fun _ => ?_
  exact .bind (.store _ _) fun _ => .note_one _

end Host

/-! ## 2. What the accounts hold afterwards -/

theorem Ledger.account_opened (l : Ledger) (payer target owner : Key) (lamports : Int)
    (size : Nat) (k : Key) :
    (l.opened payer target owner lamports size).account k =
      if k = target then ⟨owner, lamports, List.replicate size 0⟩
      else if k = payer then (l.account payer).having ((l.account payer).lamports - lamports)
      else l.account k := by
  rw [opened, account_insert, account_insert]
  by_cases hk : k = target
  · rw [if_pos hk, if_pos hk]
  · rw [if_neg hk, if_neg hk, if_neg hk, paid, account_insert]

/-- Of an account that was there, only the lamports may change, and only if it pays. -/
theorem Ledger.account_of_opened {l l' : Ledger} {payer target owner : Key} {lamports : Int}
    {size : Nat} (hl : l' = l.opened payer target owner lamports size) {k : Key}
    (hk : k ≠ target) :
    ∃ n, l'.account k = (l.account k).having n ∧ (k ≠ payer → n = (l.account k).lamports) := by
  rw [hl, account_opened, if_neg hk]
  by_cases hp : k = payer
  · subst hp
    rw [if_pos rfl]
    exact ⟨_, rfl, fun hne => absurd rfl hne⟩
  · rw [if_neg hp]
    exact ⟨_, rfl, fun _ => rfl⟩

namespace Host.Openable

variable {host : Host} {signers : List Key} {payer target : Key} {lamports : Int}
  {size : Nat} {seeds : Option Bytes} {l : Ledger}
  (h : Openable host signers payer target lamports size seeds l)
include h

/-- Nobody pays for an account with that very account. -/
theorem payer_ne (hpos : 0 < lamports) : payer ≠ target := by
  rintro rfl
  have hcovered := h.covered
  rw [h.fresh] at hcovered
  exact absurd hpos (Int.not_lt.2 hcovered)

/-- An account that is there is not the one that is opened. -/
theorem ne_target {k : Key} (hk : l.account k ≠ .empty) : k ≠ target := by
  rintro rfl
  exact hk h.fresh

/-- Paying leaves the new account alone. -/
theorem account_paid_target (hpos : 0 < lamports) :
    (l.paid payer lamports).account target = .empty := by
  rw [Ledger.paid, Ledger.account_insert, if_neg (h.payer_ne hpos).symm, h.fresh]

variable (owner : Key)

/-- **Lamports only change hands.** -/
theorem sum_lamports_opened (hpos : 0 < lamports) :
    (l.opened payer target owner lamports size).sum Account.lamports
      = l.sum Account.lamports := by
  have hpay : (l.paid payer lamports).sum Account.lamports + (l.account payer).lamports
      = l.sum Account.lamports + ((l.account payer).lamports - lamports) :=
    Ledger.sum_insert rfl l payer _
  have hgift := Ledger.sum_insert (f := Account.lamports) rfl (l.paid payer lamports) target
    (((l.paid payer lamports).account target).having lamports)
  rw [h.account_paid_target hpos] at hgift
  change _ + 0 = _ + lamports at hgift
  rw [Ledger.opened, Ledger.sum_insert_of_eq rfl, h.account_paid_target hpos]
  · omega
  · rw [Ledger.account_insert, if_pos rfl]
    rfl

/-- **Nobody's tokens change**, if the new account is no token account. -/
theorem balance_opened (howner : owner ≠ Key.tokenProgram) (k : Key) :
    ((l.opened payer target owner lamports size).account k).balance = (l.account k).balance := by
  by_cases hk : k = target
  · subst hk
    rw [Ledger.account_opened, if_pos rfl, h.fresh, Account.balance_eq_zero howner,
      Account.balance_eq_zero (a := .empty) Key.systemProgram_ne_tokenProgram]
  · obtain ⟨n, hn, -⟩ := Ledger.account_of_opened (l := l) rfl hk
    rw [hn]
    rfl

theorem sum_balanceOf_opened (hpos : 0 < lamports) (howner : owner ≠ Key.tokenProgram)
    (mint : Key) :
    (l.opened payer target owner lamports size).sum (Account.balanceOf mint)
      = l.sum (Account.balanceOf mint) := by
  have hempty := Account.balanceOf_empty mint
  rw [Ledger.opened, Ledger.sum_insert_of_eq hempty, Ledger.sum_insert_of_eq hempty,
    Ledger.paid, Ledger.sum_insert_of_eq hempty]
  · rfl
  · rfl
  · rw [Ledger.account_insert, if_pos rfl, h.account_paid_target hpos]
    exact (Account.balanceOf_eq_zero howner mint).trans hempty.symm

end Host.Openable
end Vesting
