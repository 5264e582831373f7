/-
# A transfer moves its amount, and nothing else

Whether a transfer goes through is a question about two token accounts and one key, and
`Host.transfer_exact` answers it: the conditions that it lists are all there are, so nobody is
turned away who meets them, and nobody gets through who does not.  What is left then can be told
in two numbers (`Ledger.HandsOver`).  The two accounts are written anew from end to end, but the
amount is the only field of either that is read back as another one (`Account.Readjusted`).

A transfer that does not go through leaves everything as it was, because both accounts have been
worked out before the first of them is stored.

The two accounts may be one.  Then the conditions are the same, except that room for the amount is
not asked for, and nothing moves.
-/
import Vesting.Proofs.Verdict

namespace Vesting

open Act

/-! ## 1. Another amount -/

/-- A token account of `m` tokens has become one of `m'`, and is the same in everything else. -/
def Account.Readjusted (a a' : Account) (m m' : Nat) : Prop :=
  ∃ t t' : TokenAccount, a.token? = some t ∧ a'.token? = some t' ∧
    t.amount.toNat = m ∧ t'.amount.toNat = m' ∧ t' = { t with amount := t'.amount } ∧
    a' = a.storing t'.pack

theorem Account.readjusted_holding {a : Account} {t : TokenAccount}
    (h : a.token? = some t) {m' : Nat}
    (hm' : m' ≤ maxU64) :
    a.Readjusted (a.storing (t.holding m').pack) t.amount.toNat m' :=
  ⟨t, t.holding m', h, token?_holding h m', rfl, t.toNat_holding hm', rfl, rfl⟩

/-- `n` tokens have gone from `source` to `destination`. -/
structure Ledger.HandsOver (l l' : Ledger) (source destination : Key) (n : Nat) : Prop where
  debited : ∃ m, (l.account source).Readjusted (l'.account source) (m + n) m
  credited : ∃ m, m + n ≤ maxU64 ∧
    (l.account destination).Readjusted (l'.account destination) m (m + n)

/-- What else happens makes no difference to it. -/
theorem Ledger.HandsOver.congr {l l' l'' : Ledger} {source destination : Key} {n : Nat}
    (h : l.HandsOver l' source destination n) (hs : l''.account source = l'.account source)
    (hd : l''.account destination = l'.account destination) :
    l.HandsOver l'' source destination n where
  debited := by
    rw [hs]
    exact h.debited
  credited := by
    rw [hd]
    exact h.credited

namespace Host

/-- **A transfer that is permitted takes from one account what it gives to the other.** -/
theorem Permitted.handsOver {host : Host} {signers : List Key}
    {tokenProgram source destination authority : Key} {seeds : Option Bytes} {n : Nat} {l : Ledger}
    {debtor creditor : TokenAccount}
    (h : Permitted host signers tokenProgram source destination authority seeds n l debtor creditor)
    (hne : source ≠ destination) :
    l.HandsOver (l.move source destination debtor creditor n) source destination n where
  debited := by
    have hless := Nat.le_trans (Nat.sub_le _ n) debtor.amount_le
    refine ⟨debtor.amount.toNat - n, ?_⟩
    rw [Ledger.account_move _ _ _ _ hne, if_neg hne, if_pos rfl, Nat.sub_add_cancel h.covered]
    exact Account.readjusted_holding h.debtor_eq hless
  credited := by
    refine ⟨creditor.amount.toNat, h.fits hne, ?_⟩
    rw [Ledger.account_move _ _ _ _ hne, if_pos rfl]
    exact Account.readjusted_holding h.creditor_eq (h.fits hne)

/-! ## 2. The authority -/

/-- The key has signed, or it is the address of the seeds that are presented. -/
def SpeaksFor (host : Host) (signers : List Key) (key : Key) (seeds : Option Bytes) : Prop :=
  key ∈ signers ∨ ∃ data, seeds = some data ∧ host.derive data host.program = .ok key

theorem signedFor_eq_true_iff {host : Host} {signers : List Key} {key : Key}
    {seeds : Option Bytes} :
    host.signedFor signers key seeds = .ok true ↔ host.SpeaksFor signers key seeds := by
  unfold signedFor SpeaksFor
  by_cases hmem : key ∈ signers
  · simp [hmem]
  · rw [if_neg hmem, or_iff_right hmem]
    cases seeds with
    | none => simp
    | some data =>
      cases hderive : host.derive data host.program with
      | ok address => simp [hderive]
      | error why =>
        cases why with
        | rejected r => by_cases hcode : r.code = .invalidArgument <;> simp [hderive, hcode]
        | _ => simp [hderive]

/-! ## 3. The transfer -/

/-- **A transfer moves its amount, and nothing else.**  It goes through exactly if both accounts are
token accounts of one mint, neither of them frozen, if the authority is the owner of the source and
speaks for itself, if the source holds the amount, and if a destination that is another account has
room for it.  Then the amount has changed hands, or nothing has changed if the two accounts are one;
otherwise nothing has changed at all.  Either way no account changes its owner or its lamports, and
no third account changes. -/
theorem transfer_exact (host : Host) (signers : List Key)
    (tokenProgram source destination authority : Key) (seeds : Option Bytes) (n : Nat)
    (w : World) :
    let act := host.transfer signers tokenProgram source destination authority seeds n
    ((∃ w', act.Yields w () w') ↔
      tokenProgram = Key.tokenProgram ∧ ∃ debtor creditor,
        ((w.ledger.account source).owner = Key.tokenProgram ∧
          TokenAccount.unpack (w.ledger.account source).data = .ok debtor) ∧
        ((w.ledger.account destination).owner = Key.tokenProgram ∧
          TokenAccount.unpack (w.ledger.account destination).data = .ok creditor) ∧
        debtor.mint = creditor.mint ∧ (debtor.isFrozen = false ∧ creditor.isFrozen = false) ∧
        (authority = debtor.owner ∧ host.SpeaksFor signers authority seeds) ∧
        n ≤ debtor.amount.toNat ∧
        (source ≠ destination → creditor.amount.toNat + n ≤ maxU64)) ∧
    (∀ w', act.Yields w () w' →
      (source ≠ destination → w.ledger.HandsOver w'.ledger source destination n) ∧
      (source = destination → w'.ledger = w.ledger)) ∧
    (∀ why w', act.Breaks w why w' → w'.ledger = w.ledger) ∧
    ∀ k, let a' := (act.exec w).2.ledger.account k
      a'.owner = (w.ledger.account k).owner ∧ a'.lamports = (w.ledger.account k).lamports ∧
        (k ≠ source → k ≠ destination → a' = w.ledger.account k) := by
  intro act
  have hkept : act.Atomic w :=
    (transfer_decided host signers tokenProgram source destination authority seeds n w).atomic
  refine ⟨⟨?_, ?_⟩, ?_, hkept, fun k => ?_⟩
  · rintro ⟨w', hyields⟩
    obtain ⟨debtor, creditor, h, -⟩ := transfer_yields hyields
    have hthawed : debtor.isFrozen = false ∧ creditor.isFrozen = false := by simpa using h.thawed
    exact ⟨h.program_eq, debtor, creditor, Account.token?_eq_some_iff.1 h.debtor_eq,
      Account.token?_eq_some_iff.1 h.creditor_eq, h.mint_eq, hthawed,
      ⟨h.owner_eq, signedFor_eq_true_iff.1 h.signed⟩, h.covered, h.fits⟩
  · rintro ⟨hprogram, debtor, creditor, hdebtor, hcreditor, hmint, hthawed, ⟨howner, hspeaks⟩,
      hcovered, hfits⟩
    have h : Permitted host signers tokenProgram source destination authority seeds n w.ledger
        debtor creditor :=
      ⟨hprogram, Account.token?_eq_some_iff.2 hdebtor, Account.token?_eq_some_iff.2 hcreditor,
        hmint,
        by simpa using hthawed, howner, signedFor_eq_true_iff.2 hspeaks, hcovered, hfits⟩
    exact ⟨_, h.yields_transfer⟩
  · intro w' hyields
    obtain ⟨debtor, creditor, hpermitted, rfl⟩ := transfer_yields hyields
    exact ⟨hpermitted.handsOver, w.ledger.move_self debtor creditor n⟩
  · cases hresult : (act.exec w).1 with
    | ok u =>
      obtain ⟨debtor, creditor, -, hw⟩ := transfer_yields (yields_of_result hresult)
      rw [hw]
      exact ⟨w.ledger.owner_move debtor creditor n k, w.ledger.lamports_move debtor creditor n k,
        w.ledger.account_move_of_ne debtor creditor n⟩
    | error why =>
      rw [hkept why _ (breaks_of_result hresult)]
      exact ⟨rfl, rfl, fun _ _ => rfl⟩

end Host
end Vesting
