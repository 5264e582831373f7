/-
# What a moment does to one record

`Moment.Effect` says what a successful moment does to the whole ledger.  Most invariants are about
one address, and for them the question is what has become of the account there.  `Moment.Touch`
answers it: the moment has carried out a command whose seeds lead to this address, and then the
account is what that command makes of it, or the account is as it was, but for lamports with which
it has paid for another (`Moment.Effect.touch`).

It is enough that the account at the address is no token account: then no transfer of any command
has written over it.
-/
import Vesting.Proofs.Release

namespace Vesting

open Engine

/-- The seeds that a command presents. -/
def Command.seeds? : Command → Option Seeds
  | .init seeds _ | .create seeds _ _ _ | .unlock seeds | .changeDestination seeds => some seeds
  | .empty _ => none

namespace Moment

/-- The moment carries out a command whose seeds lead to `vesting`. -/
structure Performs (m : Moment) (c : Command) (vesting : Key) : Prop where
  succeeds : m.Succeeds
  orders : m.Orders c
  address : ∃ seeds, c.seeds? = some seeds ∧
    m.host.derive seeds.bytes m.host.program = .ok vesting

variable {m : Moment} {c : Command} {vesting : Key}

/-- A moment that carries out a command for one address does nothing for another. -/
theorem not_performs (hc : m.Orders c) {target : Key}
    (haddress : ∀ seeds, c.seeds? = some seeds →
      m.host.derive seeds.bytes m.host.program = .ok target) (hne : vesting ≠ target)
    (c' : Command) : ¬ m.Performs c' vesting := by
  rintro ⟨-, horders, seeds, hseeds, hderive⟩
  cases hc.unique horders
  exact hne (Except.ok.inj (hderive.symm.trans (haddress seeds hseeds)))

/-- What a moment that has carried out the command has made of the account `vesting`. -/
inductive Touch (m : Moment) (vesting : Key) : Command → Prop
  /-- The command is for another address, or for none. -/
  | kept {c : Command} {lamports : Int} (hother : ∀ c', ¬ m.Performs c' vesting)
      (hafter : m.after.account vesting = (m.before.account vesting).having lamports)
      (hempty : m.before.account vesting = .empty → m.after.account vesting = .empty) :
      Touch m vesting c
  | opened {seeds : Seeds} {count : UInt32} {payer : Key}
      (h : Opening m.host m.order.signers m.order.keys seeds count m.before payer vesting)
      (hafter : m.after.account vesting = ⟨m.host.program,
        Host.minimumBalance (Record.length count.toNat),
        List.replicate (Record.length count.toNat) 0⟩) :
      Touch m vesting (.init seeds count)
  | founded {seeds : Seeds} {mint destination : Key} {tranches : List Tranche}
      {escrow sourceOwner source : Key} {debtor creditor : TokenAccount}
      (h : Funding m.host m.order.signers m.order.keys seeds tranches m.before vesting escrow
        sourceOwner source debtor creditor)
      (hafter : m.after.account vesting = (m.before.account vesting).storing
        (Record.founded ⟨destination, mint, true⟩ tranches (m.before.account vesting).data)) :
      Touch m vesting (.create seeds mint destination tranches)
  | paid {seeds : Seeds} {escrow destination : Key} {header : Header}
      {debtor creditor : TokenAccount}
      (h : Payout m.host m.order.signers m.order.keys seeds m.before vesting escrow destination
        header debtor creditor)
      (hafter : m.after.account vesting = (m.before.account vesting).storing
        (Record.paidOut m.host.clock (m.before.account vesting).data)) :
      Touch m vesting (.unlock seeds)
  | redirected {seeds : Seeds} {current target owner : Key} {header : Header}
      {token : TokenAccount}
      (h : Redirection m.host m.order.signers m.order.keys seeds m.before vesting current target
        owner header token)
      (hafter : m.after.account vesting = (m.before.account vesting).storing
        (Record.writeDestination target (m.before.account vesting).data)) :
      Touch m vesting (.changeDestination seeds)

/-- An account that a moment leaves alone. -/
theorem Touch.of_same (hother : ∀ c', ¬ m.Performs c' vesting)
    (hsame : m.after.account vesting = m.before.account vesting) : m.Touch vesting c := by
  have hafter : m.after.account vesting
      = (m.before.account vesting).having (m.before.account vesting).lamports := hsame
  refine .kept hother hafter fun hempty => ?_
  rw [hsame, hempty]

/-- **Every effect, seen from one record.** -/
theorem Effect.touch (h : m.Effect c) (hc : m.Orders c)
    (hrecord : (m.before.account vesting).owner ≠ Key.tokenProgram) : m.Touch vesting c := by
  have hother {target : Key} {seeds : Seeds} (hseeds : c.seeds? = some seeds)
      (haddress : m.host.derive seeds.bytes m.host.program = .ok target)
      (hne : vesting ≠ target) (c' : Command) : ¬ m.Performs c' vesting := by
    refine not_performs hc (fun seeds' hseeds' => ?_) hne c'
    cases hseeds.symm.trans hseeds'
    exact haddress
  cases h with
  | @opened seeds count payer target h hafter =>
    by_cases hv : vesting = target
    · subst hv
      refine .opened h ?_
      rw [hafter, Ledger.account_opened, if_pos rfl]
    · obtain ⟨n, hn, hkept⟩ := Ledger.account_of_opened hafter hv
      refine .kept (hother rfl h.address hv) hn fun hempty => ?_
      -- an account of nothing cannot pay for another
      have hpayer : vesting ≠ payer := by
        rintro rfl
        have hcovered := h.openable.covered
        rw [hempty] at hcovered
        exact absurd (Host.minimumBalance_pos _) (Int.not_lt.2 hcovered)
      rw [hn, hkept hpayer, hempty]
      rfl
  | @funded seeds mint destination tranches target escrow sourceOwner source debtor creditor h
      hafter =>
    by_cases hv : vesting = target
    · subst hv
      refine .founded h ?_
      rw [hafter, h.permitted.account_settled_record _ hrecord]
    · refine .of_same (hother rfl h.address hv) ?_
      rw [hafter, h.permitted.account_settled_other _ hv hrecord]
  | @paid seeds target escrow destination header debtor creditor h hafter =>
    by_cases hv : vesting = target
    · subst hv
      refine .paid h ?_
      rw [hafter, h.permitted.account_settled_record _ hrecord]
    · refine .of_same (hother rfl h.address hv) ?_
      rw [hafter, h.permitted.account_settled_other _ hv hrecord]
  | @redirected seeds target current new owner header token h hafter =>
    by_cases hv : vesting = target
    · subst hv
      refine .redirected h ?_
      rw [hafter, Ledger.account_rewritten, if_pos rfl]
    · refine .of_same (hother rfl h.address hv) ?_
      rw [hafter, Ledger.account_rewritten, if_neg hv]
  | idle hafter =>
    refine .of_same ?_ (by rw [hafter])
    rintro c' ⟨-, horders, seeds, hseeds, -⟩
    cases hc.unique horders
    cases hseeds

end Moment
end Vesting
