/-
# What a transfer of tokens does

A transfer goes through exactly if every condition of `Permitted` holds, and then the ledger becomes
`Ledger.move` (`transfer_yields`, `Permitted.yields_transfer`).  What breaks it off otherwise is a
`TransferFault` (`transfer_breaks`).  Everything that is said about money rests on the second
section, which reads `Ledger.move` account by account:

* owners and lamports stay (`owner_move`, `lamports_move`);
* the debtor's tokens go down and the creditor's go up by the same number (`balance_move_source`,
  `balance_move_destination`), unless they are one account, and all other accounts stay;
* so what the accounts of a mint hold together stays (`sum_balanceOf_move`).
-/
import Vesting.Proofs.Act
import Vesting.Proofs.Ledger
import Vesting.Proofs.TokenAccount

namespace Vesting

/-! ## 1. The ledger after a transfer -/

/-- The ledger once `n` tokens have gone from `source` to `destination`. -/
def Ledger.move (l : Ledger) (source destination : Key) (debtor creditor : TokenAccount) (n : Nat) :
    Ledger :=
  if source = destination then l
  else
    (l.insert source
      { l.account source with data := (debtor.holding (debtor.amount.toNat - n)).pack }).insert
        destination
        { l.account destination with data := (creditor.holding (creditor.amount.toNat + n)).pack }

namespace Host

/-- Everything that a transfer of `n` tokens asks for. -/
structure Permitted (host : Host) (signers : List Key)
    (tokenProgram source destination authority : Key) (seeds : Option Bytes) (n : Nat) (l : Ledger)
    (debtor creditor : TokenAccount) : Prop where
  program_eq : tokenProgram = Key.tokenProgram
  debtor_eq : (l.account source).token? = some debtor
  creditor_eq : (l.account destination).token? = some creditor
  mint_eq : debtor.mint = creditor.mint
  thawed : ¬ (debtor.isFrozen = true ∨ creditor.isFrozen = true)
  owner_eq : authority = debtor.owner
  signed : host.signedFor signers authority seeds = .ok true
  covered : n ≤ debtor.amount.toNat
  fits : source ≠ destination → creditor.amount.toNat + n ≤ maxU64

open Act

/-- Seeds that lead to a key speak for it. -/
theorem signedFor_of_derive {host : Host} (signers : List Key) {key : Key} {seeds : Bytes}
    (h : host.derive seeds host.program = .ok key) :
    host.signedFor signers key (some seeds) = .ok true := by
  rw [signedFor]
  split
  · rfl
  · rw [h]
    simp

/-- A key that has signed needs no seeds. -/
theorem signedFor_of_mem {host : Host} {signers : List Key} {key : Key} (h : key ∈ signers)
    (seeds : Option Bytes) : host.signedFor signers key seeds = .ok true := by
  unfold signedFor
  rw [if_pos h]

/-- **A transfer that goes through is permitted, and moves the tokens.** -/
theorem transfer_yields {host : Host} {signers : List Key}
    {tokenProgram source destination authority : Key} {seeds : Option Bytes} {n : Nat}
    {w w' : World} {u : Unit}
    (h : (host.transfer signers tokenProgram source destination authority seeds n).Yields w u w') :
    ∃ debtor creditor,
      Permitted host signers tokenProgram source destination authority seeds n w.ledger debtor
        creditor ∧
      w' = ⟨w.ledger.move source destination debtor creditor n,
        if source = destination then w.log else .moved n source destination :: w.log⟩ := by
  unfold transfer at h
  simp only [yields_require_bind, yields_account_bind, yields_orFail_bind] at h
  obtain ⟨hprogram, hsource, hdestination, debtor, hdebtor, creditor, hcreditor, hmint, hthawed,
    howner, signed, hsigned, rfl, hcovered, h⟩ := h
  have hle : n ≤ debtor.amount.toNat := by exact_mod_cast hcovered
  by_cases hne : source = destination
  · rw [if_neg (not_not.2 hne), yields_pure] at h
    obtain ⟨-, rfl⟩ := h
    refine ⟨debtor, creditor, ⟨hprogram, ?_, ?_, hmint, hthawed, howner, hsigned, hle, ?_⟩, ?_⟩
    · exact Account.token?_eq_some_iff.2 ⟨hsource, hdebtor⟩
    · exact Account.token?_eq_some_iff.2 ⟨hdestination, hcreditor⟩
    · exact fun h => absurd hne h
    · rw [Ledger.move, if_pos hne, if_pos hne]
  · rw [if_pos hne] at h
    simp only [yields_require_bind, yields_orFail_bind, yields_store_bind, yields_note] at h
    obtain ⟨hfits, debited, hdebited, credited, hcredited, rfl⟩ := h
    have hfits : creditor.amount.toNat + n ≤ maxU64 := by exact_mod_cast hfits
    cases (debtor.withAmount_sub hle).symm.trans hdebited
    cases (creditor.withAmount_add hfits).symm.trans hcredited
    refine ⟨debtor, creditor, ⟨hprogram, ?_, ?_, hmint, hthawed, howner, hsigned, hle, ?_⟩, ?_⟩
    · exact Account.token?_eq_some_iff.2 ⟨hsource, hdebtor⟩
    · exact Account.token?_eq_some_iff.2 ⟨hdestination, hcreditor⟩
    · exact fun _ => hfits
    · rw [Ledger.move, if_neg hne, if_neg hne]

/-- **A transfer that is permitted goes through.** -/
theorem Permitted.yields_transfer {host : Host} {signers : List Key}
    {tokenProgram source destination authority : Key} {seeds : Option Bytes} {n : Nat} {w : World}
    {debtor creditor : TokenAccount}
    (h : Permitted host signers tokenProgram source destination authority seeds n w.ledger debtor
      creditor) :
    (host.transfer signers tokenProgram source destination authority seeds n).Yields w ()
      ⟨w.ledger.move source destination debtor creditor n,
        if source = destination then w.log else .moved n source destination :: w.log⟩ := by
  obtain ⟨hsource, hdebtor⟩ := Account.token?_eq_some_iff.1 h.debtor_eq
  obtain ⟨hdestination, hcreditor⟩ := Account.token?_eq_some_iff.1 h.creditor_eq
  have hcovered : (n : Int) ≤ debtor.amount.toNat := by exact_mod_cast h.covered
  unfold transfer
  simp only [yields_require_bind, yields_account_bind, yields_orFail_bind]
  refine ⟨h.program_eq, hsource, hdestination, debtor, hdebtor, creditor, hcreditor, h.mint_eq,
    h.thawed, h.owner_eq, true, h.signed, rfl, hcovered, ?_⟩
  by_cases hne : source = destination
  · rw [if_neg (not_not.2 hne), if_pos hne, Ledger.move, if_pos hne]
    exact yields_pure.2 ⟨rfl, rfl⟩
  · have hfits := h.fits hne
    rw [if_pos hne, if_neg hne, Ledger.move, if_neg hne]
    simp only [yields_require_bind, yields_orFail_bind, yields_store_bind, yields_note]
    exact ⟨by exact_mod_cast hfits, _, debtor.withAmount_sub h.covered, _,
      creditor.withAmount_add hfits, rfl⟩

/-- Everything that can break a transfer off. -/
inductive TransferFault (host : Host) (signers : List Key)
    (tokenProgram source destination authority : Key) (seeds : Option Bytes) (amount : Int)
    (l : Ledger) : Fault → Prop
  | program (h : tokenProgram ≠ Key.tokenProgram) :
      TransferFault _ _ _ _ _ _ _ _ _ (.rejected (.unknownTokenProgram tokenProgram))
  | owner (k : Key) : TransferFault _ _ _ _ _ _ _ _ _ (.rejected (.notTokenOwned k))
  | bytes {data : Bytes} {why : Fault} (h : TokenAccount.unpack data = .error why) :
      TransferFault _ _ _ _ _ _ _ _ _ why
  | mint : TransferFault _ _ _ _ _ _ _ _ _ (.rejected .mintMismatch)
  | frozen : TransferFault _ _ _ _ _ _ _ _ _ (.rejected .frozen)
  | authority : TransferFault _ _ _ _ _ _ _ _ _ (.rejected (.notOwner authority source))
  | signature {why : Fault} (h : host.signedFor signers authority seeds = .error why) :
      TransferFault _ _ _ _ _ _ _ _ _ why
  | unsigned (h : host.signedFor signers authority seeds = .ok false) :
      TransferFault _ _ _ _ _ _ _ _ _ (.rejected (.transferUnsigned authority))
  | short {debtor : TokenAccount} (h : TokenAccount.unpack (l.account source).data = .ok debtor)
      (hshort : ¬ amount ≤ debtor.amount.toNat) :
      TransferFault _ _ _ _ _ _ _ _ _ (.rejected (.balanceShort debtor.amount.toNat amount))
  | full (has : Int) : TransferFault _ _ _ _ _ _ _ _ _ (.rejected (.balanceOverflow has amount))
  | number (why : Invalid) : TransferFault _ _ _ _ _ _ _ _ _ (.invalid why)

/-- **What breaks a transfer off is one of its checks.** -/
theorem transfer_breaks (host : Host) (signers : List Key)
    (tokenProgram source destination authority : Key) (seeds : Option Bytes) (amount : Int)
    (w : World) :
    (host.transfer signers tokenProgram source destination authority seeds amount).BreaksOnly w
      fun why _ => TransferFault host signers tokenProgram source destination authority seeds
        amount w.ledger why := by
  have hnumber (t : TokenAccount) (n : Int) (why : Fault) (hwhy : t.withAmount n = .error why) :
      TransferFault host signers tokenProgram source destination authority seeds amount w.ledger
        why := by
    unfold TokenAccount.withAmount Word64.ofInt at hwhy
    split at hwhy
    · cases hwhy
    · cases hwhy
      exact .number _
  unfold transfer
  refine breaksOnly_require_bind .program fun _ => ?_
  refine breaksOnly_bind_of_yields (yields_account.2 ⟨rfl, rfl⟩) ?_
  refine breaksOnly_bind_of_yields (yields_account.2 ⟨rfl, rfl⟩) ?_
  refine breaksOnly_require_bind (fun _ => .owner source) fun _ => ?_
  refine breaksOnly_require_bind (fun _ => .owner destination) fun _ => ?_
  refine breaksOnly_orFail_bind (fun _ => .bytes) fun debtor hdebtor => ?_
  refine breaksOnly_orFail_bind (fun _ => .bytes) fun creditor _ => ?_
  refine breaksOnly_require_bind (fun _ => .mint) fun _ => ?_
  refine breaksOnly_require_bind (fun _ => .frozen) fun _ => ?_
  refine breaksOnly_require_bind (fun _ => .authority) fun _ => ?_
  refine breaksOnly_orFail_bind (fun _ => .signature) fun signed hsigned => ?_
  refine breaksOnly_require_bind (fun hunsigned => ?_) fun _ => ?_
  · rw [Bool.not_eq_true] at hunsigned
    rw [hunsigned] at hsigned
    exact .unsigned hsigned
  refine breaksOnly_require_bind (.short hdebtor) fun _ => ?_
  split
  · refine breaksOnly_require_bind (fun _ => .full _) fun _ => ?_
    refine breaksOnly_orFail_bind (hnumber _ _) fun debited _ => ?_
    refine breaksOnly_orFail_bind (hnumber _ _) fun credited _ => ?_
    refine Sure.breaksOnly ?_ _ _
    exact (sure_store _ _).bind fun _ => (sure_store _ _).bind fun _ => sure_note _
  · exact (sure_pure _).breaksOnly _ _

theorem plain_transfer (host : Host) (signers : List Key)
    (tokenProgram source destination authority : Key) (seeds : Option Bytes) (amount : Int) :
    Plain (host.transfer signers tokenProgram source destination authority seeds amount) := by
  unfold transfer
  refine .bind (.require _ _) fun _ => .bind (.account _) fun _ => .bind (.account _) fun _ => ?_
  refine .bind (.require _ _) fun _ => .bind (.require _ _) fun _ => .bind (.orFail _) fun _ => ?_
  refine .bind (.orFail _) fun _ => .bind (.require _ _) fun _ => .bind (.require _ _) fun _ => ?_
  refine .bind (.require _ _) fun _ => .bind (.orFail _) fun _ => .bind (.require _ _) fun _ => ?_
  refine .bind (.require _ _) fun _ => ?_
  split
  · refine .bind (.require _ _) fun _ => .bind (.orFail _) fun _ => .bind (.orFail _) fun _ => ?_
    exact .bind (.store _ _) fun _ => .bind (.store _ _) fun _ => .note_one _
  · exact .pure ()

end Host

/-! ## 2. What the accounts hold afterwards -/

namespace Ledger

section

variable (l : Ledger) {source destination : Key} (debtor creditor : TokenAccount) (n : Nat)

theorem move_self (h : source = destination) :
    l.move source destination debtor creditor n = l := if_pos h

theorem account_move (h : source ≠ destination) (k : Key) :
    (l.move source destination debtor creditor n).account k =
      if k = destination then
        { l.account destination with data := (creditor.holding (creditor.amount.toNat + n)).pack }
      else if k = source then
        { l.account source with data := (debtor.holding (debtor.amount.toNat - n)).pack }
      else l.account k := by
  rw [move, if_neg h, account_insert, account_insert]

theorem account_move_of_ne {k : Key} (hs : k ≠ source) (hd : k ≠ destination) :
    (l.move source destination debtor creditor n).account k = l.account k := by
  by_cases h : source = destination
  · rw [move_self l debtor creditor n h]
  · rw [account_move l debtor creditor n h, if_neg hd, if_neg hs]

theorem owner_move (k : Key) :
    ((l.move source destination debtor creditor n).account k).owner = (l.account k).owner := by
  by_cases h : source = destination
  · rw [move_self l debtor creditor n h]
  · rw [account_move l debtor creditor n h]
    split
    · rename_i hk
      rw [hk]
    · split
      · rename_i hk
        rw [hk]
      · rfl

theorem lamports_move (k : Key) :
    ((l.move source destination debtor creditor n).account k).lamports
      = (l.account k).lamports := by
  by_cases h : source = destination
  · rw [move_self l debtor creditor n h]
  · rw [account_move l debtor creditor n h]
    split
    · rename_i hk
      rw [hk]
    · split
      · rename_i hk
        rw [hk]
      · rfl

end

/-- Another amount in one account shows in what the accounts of its mint hold together. -/
theorem sum_balanceOf_insert (mint : Key) {l : Ledger} {k : Key} {t : TokenAccount} {m : Nat}
    (ht : (l.account k).token? = some t) (hm : m ≤ maxU64) :
    (l.insert k { l.account k with data := (t.holding m).pack }).sum (Account.balanceOf mint)
        + (if t.mint = mint then t.amount.toNat else 0)
      = l.sum (Account.balanceOf mint) + if t.mint = mint then m else 0 := by
  have hsum := sum_insert (Account.balanceOf_empty mint) l k
    { l.account k with data := (t.holding m).pack }
  rw [Account.balanceOf_of_token? ht, Account.balanceOf_of_token? (Account.token?_holding ht m),
    TokenAccount.toNat_holding t hm] at hsum
  exact hsum

end Ledger

namespace Host.Permitted

variable {host : Host} {signers : List Key} {tokenProgram source destination authority : Key}
  {seeds : Option Bytes} {n : Nat} {l : Ledger} {debtor creditor : TokenAccount}

section

variable (h : Permitted host signers tokenProgram source destination authority seeds n l debtor
  creditor)
include h

theorem source_owner : (l.account source).owner = Key.tokenProgram :=
  (Account.token?_eq_some_iff.1 h.debtor_eq).1

theorem destination_owner : (l.account destination).owner = Key.tokenProgram :=
  (Account.token?_eq_some_iff.1 h.creditor_eq).1

/-- The debtor afterwards: `n` tokens fewer, and nothing else. -/
theorem token?_move_source (hne : source ≠ destination) :
    ((l.move source destination debtor creditor n).account source).token?
      = some (debtor.holding (debtor.amount.toNat - n)) := by
  rw [Ledger.account_move l debtor creditor n hne, if_neg hne, if_pos rfl]
  exact Account.token?_holding h.debtor_eq _

/-- The creditor afterwards: `n` tokens more, and nothing else. -/
theorem token?_move_destination (hne : source ≠ destination) :
    ((l.move source destination debtor creditor n).account destination).token?
      = some (creditor.holding (creditor.amount.toNat + n)) := by
  rw [Ledger.account_move l debtor creditor n hne, if_pos rfl]
  exact Account.token?_holding h.creditor_eq _

/-- A token account stays one, and changes in its amount at most. -/
theorem token?_move {k : Key} {t : TokenAccount} (ht : (l.account k).token? = some t) :
    ∃ m, ((l.move source destination debtor creditor n).account k).token?
      = some (t.holding m) := by
  have hsame : some t = some (t.holding t.amount.toNat) := by
    simp [TokenAccount.holding]
  by_cases hne : source = destination
  · rw [Ledger.move_self l debtor creditor n hne, ht]
    exact ⟨_, hsame⟩
  by_cases hs : k = source
  · subst hs
    cases h.debtor_eq.symm.trans ht
    exact ⟨_, h.token?_move_source hne⟩
  by_cases hd : k = destination
  · subst hd
    cases h.creditor_eq.symm.trans ht
    exact ⟨_, h.token?_move_destination hne⟩
  · rw [Ledger.account_move_of_ne l debtor creditor n hs hd, ht]
    exact ⟨_, hsame⟩

theorem balance_move_source (hne : source ≠ destination) :
    ((l.move source destination debtor creditor n).account source).balance + n
      = (l.account source).balance := by
  have hle := h.covered
  rw [Account.balance_of_token? (h.token?_move_source hne),
    Account.balance_of_token? h.debtor_eq,
    TokenAccount.toNat_holding _ (Nat.le_trans (Nat.sub_le _ _) debtor.amount_le)]
  omega

theorem balance_move_destination (hne : source ≠ destination) :
    ((l.move source destination debtor creditor n).account destination).balance
      = (l.account destination).balance + n := by
  rw [Account.balance_of_token? (h.token?_move_destination hne),
    Account.balance_of_token? h.creditor_eq, TokenAccount.toNat_holding _ (h.fits hne)]

/-- Nobody but the debtor has less afterwards. -/
theorem balance_le_balance_move {k : Key} (hk : k ≠ source) :
    (l.account k).balance
      ≤ ((l.move source destination debtor creditor n).account k).balance := by
  by_cases hne : source = destination
  · refine Nat.le_of_eq ?_
    rw [Ledger.move_self l debtor creditor n hne]
  by_cases hd : k = destination
  · subst hd
    rw [h.balance_move_destination hne]
    omega
  · refine Nat.le_of_eq ?_
    rw [Ledger.account_move_of_ne l debtor creditor n hk hd]

/-- Nobody but the creditor has more afterwards. -/
theorem balance_move_le {k : Key} (hk : k ≠ destination) :
    ((l.move source destination debtor creditor n).account k).balance
      ≤ (l.account k).balance := by
  by_cases hne : source = destination
  · refine Nat.le_of_eq ?_
    rw [Ledger.move_self l debtor creditor n hne]
  by_cases hs : k = source
  · subst hs
    have := h.balance_move_source hne
    omega
  · refine Nat.le_of_eq ?_
    rw [Ledger.account_move_of_ne l debtor creditor n hs hk]

/-- **A transfer neither makes tokens nor destroys them.** -/
theorem sum_balanceOf_move (mint : Key) :
    (l.move source destination debtor creditor n).sum (Account.balanceOf mint)
      = l.sum (Account.balanceOf mint) := by
  by_cases hne : source = destination
  · rw [Ledger.move_self l debtor creditor n hne]
  have hout := Ledger.sum_balanceOf_insert mint h.debtor_eq
    (Nat.le_trans (Nat.sub_le _ n) debtor.amount_le)
  have hin := Ledger.sum_balanceOf_insert mint
    (l := l.insert source
      { l.account source with data := (debtor.holding (debtor.amount.toNat - n)).pack })
    (k := destination) (t := creditor)
    (by rw [Ledger.account_insert, if_neg (Ne.symm hne)]; exact h.creditor_eq) (h.fits hne)
  rw [Ledger.account_insert, if_neg (Ne.symm hne)] at hin
  have hle := h.covered
  rw [Ledger.move, if_neg hne]
  rw [h.mint_eq] at hout
  by_cases hm : creditor.mint = mint
  · rw [if_pos hm, if_pos hm] at hout hin
    omega
  · rw [if_neg hm, if_neg hm] at hout hin
    omega

end
end Host.Permitted

/-- Lamports stay where they are. -/
theorem Ledger.sum_lamports_move (l : Ledger) (source destination : Key)
    (debtor creditor : TokenAccount) (n : Nat) :
    (l.move source destination debtor creditor n).sum Account.lamports
      = l.sum Account.lamports := by
  unfold move
  split
  · rfl
  · rename_i hne
    rw [sum_insert_of_eq rfl, sum_insert_of_eq rfl]
    · rfl
    · rw [account_insert, if_neg (Ne.symm hne)]

end Vesting
