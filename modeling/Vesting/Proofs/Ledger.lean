/-
# Sums over a ledger

What all accounts of a ledger hold together is a sum over its entries.  Storing an account changes
such a sum by the new account's part less the old one's (`sum_insert`), whether the key was there
or not, and dropping empty accounts does not change it (`sum_sweep`), as long as the empty account
counts for nothing.  That is all that conservation needs to know about how ledgers are stored.
-/
import Mathlib.Algebra.BigOperators.Group.List.Basic
import Mathlib.Algebra.Ring.Nat
import Vesting.Ledger

namespace Vesting.Ledger

variable {M : Type} [AddCommMonoid M]

/-- What the accounts of a ledger hold together, by what each of them holds. -/
def sum (f : Account → M) (l : Ledger) : M := (l.entries.map fun e => f e.2).sum

section

variable {f : Account → M}

/-- Replacing an entry, or adding one behind the others. -/
theorem sum_put (hf : f .empty = 0) (key : Key) (a : Account) (entries : List (Key × Account)) :
    ((put key a entries).map fun e => f e.2).sum + f ((entries.lookup key).getD .empty)
      = (entries.map fun e => f e.2).sum + f a := by
  induction entries with
  | nil => simp [put, hf]
  | cons e rest ih =>
    obtain ⟨k, b⟩ := e
    by_cases h : k = key
    · subst h
      simp only [put, if_pos, List.map_cons, List.sum_cons, List.lookup_cons_self,
        Option.getD_some]
      rw [add_assoc, add_comm, add_comm _ (f b)]
    · have hne : (key == k) = false := by simpa using fun he => h he.symm
      simp only [put, if_neg h, List.map_cons, List.sum_cons, List.lookup_cons, hne]
      rw [add_assoc, ih, add_assoc]

/-- **Storing an account changes the sum by the new part less the old one.** -/
theorem sum_insert (hf : f .empty = 0) (l : Ledger) (key : Key) (a : Account) :
    (l.insert key a).sum f + f (l.account key) = l.sum f + f a :=
  sum_put hf key a l.entries

/-- **Empty accounts may be dropped.** -/
theorem sum_sweep (hf : f .empty = 0) (l : Ledger) : l.sweep.sum f = l.sum f := by
  obtain ⟨entries, nodup⟩ := l
  show ((entries.filter fun e => !e.2.isEmpty).map fun e => f e.2).sum
    = (entries.map fun e => f e.2).sum
  clear nodup
  induction entries with
  | nil => rfl
  | cons e rest ih =>
    cases he : e.2.isEmpty
    · simp [he, ih]
    · rw [Account.isEmpty_iff] at he
      simp [he, ih, hf, Account.isEmpty_iff.2]

/-- An account may be replaced by one that holds as much. -/
theorem sum_insert_of_eq {M : Type} [AddCancelCommMonoid M] {f : Account → M}
    (hf : f .empty = 0) (l : Ledger) {key : Key} {a : Account} (h : f a = f (l.account key)) :
    (l.insert key a).sum f = l.sum f := by
  have := sum_insert hf l key a
  rw [h] at this
  exact add_right_cancel this

end
end Vesting.Ledger
