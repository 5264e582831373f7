/-
# The ledger after a payment

A command that has tokens moved writes its record afterwards.  `Ledger.settled` is the ledger that
this leaves, and it is read off in the same way as `Ledger.move`: owners and lamports stay
everywhere, tokens change where the move changes them, and the bytes of the record are the new ones
(`account_settled_record`).  The last point needs a record that is no token account.  Otherwise the
move may have taken the record's place, and then the record is not written at all
(`Engine.Displaced`).
-/
import Vesting.Engine
import Vesting.Proofs.Transfer

namespace Vesting

/-! ## 1. Rewriting a record -/

/-- A record apart from both accounts of a transfer is not displaced. -/
theorem Engine.not_displaced_of_ne {vesting source destination : Key} (hs : source ≠ vesting)
    (hd : destination ≠ vesting) : ¬ Displaced vesting source destination := by
  rintro ⟨-, hv | hv⟩
  · exact hs hv.symm
  · exact hd hv.symm

/-- The account with other bytes. -/
def Account.storing (a : Account) (data : Bytes) : Account := ⟨a.owner, a.lamports, data⟩

namespace Ledger

/-- The ledger with other bytes in an account. -/
def rewritten (l : Ledger) (vesting : Key) (data : Bytes) : Ledger :=
  l.insert vesting ((l.account vesting).storing data)

section

variable (l : Ledger) (vesting : Key) (data : Bytes)

theorem account_rewritten (k : Key) :
    (l.rewritten vesting data).account k =
      if k = vesting then (l.account vesting).storing data else l.account k :=
  account_insert l vesting k _

theorem owner_rewritten (k : Key) :
    ((l.rewritten vesting data).account k).owner = (l.account k).owner := by
  rw [account_rewritten]
  split
  · rename_i hk
    rw [hk]
    rfl
  · rfl

theorem lamports_rewritten (k : Key) :
    ((l.rewritten vesting data).account k).lamports = (l.account k).lamports := by
  rw [account_rewritten]
  split
  · rename_i hk
    rw [hk]
    rfl
  · rfl

theorem sum_lamports_rewritten :
    (l.rewritten vesting data).sum Account.lamports = l.sum Account.lamports :=
  sum_insert_of_eq rfl l rfl

/-- Bytes outside the token accounts hold no tokens. -/
theorem balance_rewritten {vesting : Key} (h : (l.account vesting).owner ≠ Key.tokenProgram)
    (k : Key) : ((l.rewritten vesting data).account k).balance = (l.account k).balance := by
  rw [account_rewritten]
  split
  · rename_i hk
    subst hk
    rw [Account.balance_eq_zero h]
    exact Account.balance_eq_zero (a := (l.account k).storing data) h
  · rfl

theorem sum_balanceOf_rewritten {vesting : Key}
    (h : (l.account vesting).owner ≠ Key.tokenProgram) (mint : Key) :
    (l.rewritten vesting data).sum (Account.balanceOf mint) = l.sum (Account.balanceOf mint) := by
  refine sum_insert_of_eq (Account.balanceOf_empty mint) l ?_
  rw [Account.balanceOf_eq_zero h]
  exact Account.balanceOf_eq_zero (a := (l.account vesting).storing data) h mint

end

/-! ## 2. A move and then a record -/

/-- The ledger once tokens have been moved and then a record has been rewritten.  Bytes that the
move has put into the record's account are not written over. -/
def settled (l : Ledger) (source destination : Key) (debtor creditor : TokenAccount) (n : Nat)
    (vesting : Key) (data : Bytes) : Ledger :=
  if Engine.Displaced vesting source destination then l.move source destination debtor creditor n
  else (l.move source destination debtor creditor n).rewritten vesting data

section

variable (l : Ledger) {source destination : Key} (debtor creditor : TokenAccount) (n : Nat)
  {vesting : Key} (data : Bytes)

theorem owner_settled (k : Key) :
    ((l.settled source destination debtor creditor n vesting data).account k).owner
      = (l.account k).owner := by
  rw [settled]
  split
  · exact owner_move l debtor creditor n k
  · rw [owner_rewritten, owner_move]

theorem lamports_settled (k : Key) :
    ((l.settled source destination debtor creditor n vesting data).account k).lamports
      = (l.account k).lamports := by
  rw [settled]
  split
  · exact lamports_move l debtor creditor n k
  · rw [lamports_rewritten, lamports_move]

/-- Elsewhere the move is all that has happened. -/
theorem account_settled_of_ne {k : Key} (hk : k ≠ vesting) :
    (l.settled source destination debtor creditor n vesting data).account k
      = (l.move source destination debtor creditor n).account k := by
  rw [settled]
  split
  · rfl
  · rw [account_rewritten, if_neg hk]

/-- Everywhere else nothing has happened. -/
theorem account_settled_off {k : Key} (hk : k ≠ vesting)
    (hmoved : source ≠ destination → k ≠ source ∧ k ≠ destination) :
    (l.settled source destination debtor creditor n vesting data).account k = l.account k := by
  rw [account_settled_of_ne l debtor creditor n data hk]
  by_cases hne : source = destination
  · rw [move_self l debtor creditor n hne]
  · exact account_move_of_ne l debtor creditor n (hmoved hne).1 (hmoved hne).2

/-- An account that a transfer does not displace keeps its bytes. -/
theorem account_move_of_not_displaced (h : ¬ Engine.Displaced vesting source destination) :
    (l.move source destination debtor creditor n).account vesting = l.account vesting := by
  by_cases hne : source = destination
  · rw [move_self l debtor creditor n hne]
  · refine account_move_of_ne l debtor creditor n ?_ ?_
    · exact fun hs => h ⟨hne, .inl hs⟩
    · exact fun hd => h ⟨hne, .inr hd⟩

/-- Behind a transfer that leaves it alone, a record takes its draft. -/
theorem account_settled_of_not_displaced (h : ¬ Engine.Displaced vesting source destination) :
    (l.settled source destination debtor creditor n vesting data).account vesting
      = (l.account vesting).storing data := by
  rw [settled, if_neg h, account_rewritten, if_pos rfl, account_move_of_not_displaced _ _ _ _ h]

theorem sum_lamports_settled :
    (l.settled source destination debtor creditor n vesting data).sum Account.lamports
      = l.sum Account.lamports := by
  rw [settled]
  split
  · exact sum_lamports_move l source destination debtor creditor n
  · rw [sum_lamports_rewritten, sum_lamports_move]

end
end Ledger

namespace Host.Permitted

variable {host : Host} {signers : List Key} {tokenProgram source destination authority : Key}
  {seeds : Option Bytes} {n : Nat} {l : Ledger} {debtor creditor : TokenAccount}
  (h : Permitted host signers tokenProgram source destination authority seeds n l debtor creditor)
include h

/-- A record is neither of the accounts between which tokens move. -/
theorem not_displaced {vesting : Key} (hv : (l.account vesting).owner ≠ Key.tokenProgram) :
    ¬ Engine.Displaced vesting source destination := by
  refine Engine.not_displaced_of_ne ?_ ?_
  · rintro rfl
    exact hv h.source_owner
  · rintro rfl
    exact hv h.destination_owner

variable (data : Bytes)

/-- A record outside the token accounts is rewritten. -/
theorem account_settled_record {vesting : Key}
    (hv : (l.account vesting).owner ≠ Key.tokenProgram) :
    (l.settled source destination debtor creditor n vesting data).account vesting
      = (l.account vesting).storing data :=
  Ledger.account_settled_of_not_displaced _ _ _ _ _ (h.not_displaced hv)

/-- The other records stay. -/
theorem account_settled_other {vesting k : Key} (hk : k ≠ vesting)
    (hv : (l.account k).owner ≠ Key.tokenProgram) :
    (l.settled source destination debtor creditor n vesting data).account k = l.account k := by
  rw [Ledger.account_settled_of_ne _ _ _ _ _ hk,
    Ledger.account_move_of_not_displaced _ _ _ _ (h.not_displaced hv)]

/-- What a record holds makes no difference to any balance. -/
theorem balance_settled {vesting : Key} (hv : (l.account vesting).owner ≠ Key.tokenProgram)
    (k : Key) :
    ((l.settled source destination debtor creditor n vesting data).account k).balance
      = ((l.move source destination debtor creditor n).account k).balance := by
  rw [Ledger.settled, if_neg (h.not_displaced hv), Ledger.balance_rewritten]
  rw [Ledger.owner_move]
  exact hv

theorem sum_balanceOf_settled {vesting : Key}
    (hv : (l.account vesting).owner ≠ Key.tokenProgram) (mint : Key) :
    (l.settled source destination debtor creditor n vesting data).sum (Account.balanceOf mint)
      = l.sum (Account.balanceOf mint) := by
  rw [Ledger.settled, if_neg (h.not_displaced hv), Ledger.sum_balanceOf_rewritten,
    h.sum_balanceOf_move]
  rw [Ledger.owner_move]
  exact hv

end Host.Permitted

end Vesting
