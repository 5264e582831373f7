/-
# Nobody is debited without authority

Authority is given for one instruction at a time: by the keys that have signed that instruction, and
by seeds from which the program derives an address of its own.  This module goes through the five
effects of a moment and finds every way in which an account can come to hold less.

* Tokens leave an account in two ways only.  Its owner has signed an instruction that sets up a
  contract, or its owner is a contract that pays out what is due, and then the tokens go to the
  destination on record and nowhere else (`Moment.Effect.debit`).
* Lamports leave an account in one way only: it has signed an instruction that makes room for a
  contract, and pays for it (`Moment.Effect.expense`).

A moment is a function of its order and of the ledger it meets, so `Bank.debit_authorized` puts any
run in front of the call: what earlier calls and instructions have been signed by does not matter.
-/
import Vesting.Proofs.Effect

namespace Vesting

/-! ## 1. Who may take what -/

namespace Moment

/-- The moment sets up a contract, and `owner` has signed for that. -/
def SetsUpFor (m : Moment) (owner : Key) : Prop :=
  owner ∈ m.order.signers ∧ ∃ seeds mint destination tranches,
    m.Orders (.create seeds mint destination tranches)

/-- The moment pays out what is due to the contract `vesting`, from `escrow` to the destination on
record. -/
structure PaysOut (m : Moment) (escrow vesting : Key) : Prop where
  unlock : ∃ seeds : Seeds, m.Orders (.unlock seeds) ∧
    m.host.derive seeds.bytes m.host.program = .ok vesting
  debit : (m.after.account escrow).balance
      + Record.vestedAt m.host.clock (m.before.account vesting).data
    = (m.before.account escrow).balance
  credit : ∃ header, Record.header (m.before.account vesting).data = .ok header ∧
    (m.after.account header.destination).balance
      = (m.before.account header.destination).balance
        + Record.vestedAt m.host.clock (m.before.account vesting).data ∧
    ∀ k, k ≠ header.destination →
      (m.after.account k).balance ≤ (m.before.account k).balance

/-- The moment makes room for a contract, `payer` pays for it and has signed for that. -/
def OpensFor (m : Moment) (payer : Key) : Prop :=
  payer ∈ m.order.signers ∧ m.order.keys[2]? = some payer ∧
    ∃ seeds count, m.Orders (.init seeds count)

/-! ## 2. One moment -/

variable {m : Moment} {c : Command}

/-- **Where tokens go missing.** -/
theorem Effect.debit (h : m.Effect c) (hc : m.Orders c)
    (hprogram : m.host.program ≠ Key.tokenProgram) (hclean : m.before.Clean m.host) {k : Key}
    (hless : (m.after.account k).balance < (m.before.account k).balance) :
    ∃ t, (m.before.account k).token? = some t ∧ (m.SetsUpFor t.owner ∨ m.PaysOut k t.owner) := by
  cases h with
  | opened h hafter =>
    rw [hafter, h.openable.balance_opened _ hprogram] at hless
    exact absurd hless (Nat.lt_irrefl _)
  | @funded seeds mint destination tranches vesting escrow sourceOwner source debtor creditor h
      hafter =>
    rw [hafter, h.permitted.balance_settled _ (hclean _ ⟨_, h.address⟩)] at hless
    have hk : k = source := by
      by_contra hk
      exact absurd (h.permitted.balance_le_balance_move hk) (Nat.not_le.2 hless)
    subst hk
    refine ⟨debtor, h.permitted.debtor_eq, Or.inl ⟨?_, seeds, mint, destination, tranches, hc⟩⟩
    rw [← h.permitted.owner_eq]
    exact h.owner_signed
  | @paid seeds vesting escrow destination header debtor creditor h hafter =>
    have hbalance := h.permitted.balance_settled
      (Record.paidOut m.host.clock (m.before.account vesting).data) (hclean _ ⟨_, h.address⟩)
    rw [← hafter] at hbalance
    rw [hbalance] at hless
    have hk : k = escrow := by
      by_contra hk
      exact absurd (h.permitted.balance_le_balance_move hk) (Nat.not_le.2 hless)
    subst hk
    have hne : k ≠ destination := by
      intro hk
      rw [Ledger.move_self _ _ _ _ hk] at hless
      exact absurd hless (Nat.lt_irrefl _)
    refine ⟨debtor, h.permitted.debtor_eq, Or.inr ?_⟩
    rw [← h.permitted.owner_eq]
    refine ⟨⟨seeds, hc, h.address⟩, ?_, header, h.header_eq, ?_, ?_⟩
    · rw [hbalance]
      exact h.permitted.balance_move_source hne
    · rw [hbalance, h.destination_eq]
      exact h.permitted.balance_move_destination hne
    · intro k' hk'
      rw [h.destination_eq] at hk'
      rw [hbalance]
      exact h.permitted.balance_move_le hk'
  | redirected h hafter =>
    rw [hafter, Ledger.balance_rewritten _ _ (hclean _ ⟨_, h.address⟩)] at hless
    exact absurd hless (Nat.lt_irrefl _)
  | idle hafter =>
    rw [hafter] at hless
    exact absurd hless (Nat.lt_irrefl _)

/-- **Where lamports go missing.** -/
theorem Effect.expense (h : m.Effect c) (hc : m.Orders c) {k : Key}
    (hless : (m.after.account k).lamports < (m.before.account k).lamports) : m.OpensFor k := by
  cases h with
  | @opened seeds count payer vesting h hafter =>
    by_cases hk : k = vesting
    · subst hk
      have hpos := Host.minimumBalance_pos (Record.length count.toNat)
      rw [hafter, Ledger.account_opened, if_pos rfl, h.openable.fresh] at hless
      exact absurd hless (Int.not_lt.2 (Int.le_of_lt hpos))
    · obtain ⟨n, hn, hkept⟩ := Ledger.account_of_opened hafter hk
      rw [hn] at hless
      have hpayer : k = payer := by
        by_contra hne
        rw [hkept hne] at hless
        exact absurd hless (Int.lt_irrefl _)
      subst hpayer
      exact ⟨h.openable.payer_signed, h.payer_at, seeds, count, hc⟩
  | funded h hafter =>
    rw [hafter, Ledger.lamports_settled] at hless
    exact absurd hless (Int.lt_irrefl _)
  | paid h hafter =>
    rw [hafter, Ledger.lamports_settled] at hless
    exact absurd hless (Int.lt_irrefl _)
  | redirected h hafter =>
    rw [hafter, Ledger.lamports_rewritten] at hless
    exact absurd hless (Int.lt_irrefl _)
  | idle hafter =>
    rw [hafter] at hless
    exact absurd hless (Int.lt_irrefl _)

end Moment

/-! ## 3. Every instruction of every call -/

/-- **Authority.**  Whatever has been run before, every instruction of a call that takes tokens from
an account has the signature of the account's owner and sets up a contract, or pays out what is due
to the owner, a contract; and every instruction that takes lamports from an account has its
signature and makes room for a contract.  The signatures are those of the instruction itself, and
the call has them too. -/
theorem Bank.debit_authorized (b : Bank) (hprogram : b.host.program ≠ Key.tokenProgram)
    (hclean : b.ledger.Clean b.host) (steps : List Bank.Step) (c : Bank.Call) :
    ∀ m ∈ c.moments (b.run steps),
      (∀ k, (m.after.account k).balance < (m.before.account k).balance →
        ∃ t, (m.before.account k).token? = some t ∧
          (m.SetsUpFor t.owner ∨ m.PaysOut k t.owner)) ∧
      (∀ k, (m.after.account k).lamports < (m.before.account k).lamports → m.OpensFor k) ∧
      m.order ∈ c.orders ∧ ∀ k ∈ m.order.signers, k ∈ c.signed := by
  intro m hm
  have hprogram : (b.run steps).host.program ≠ Key.tokenProgram := by
    rw [(b.host_run steps).1]
    exact hprogram
  have hclean : m.before.Clean m.host :=
    Bank.Call.clean_before hprogram (clean_run (by rwa [← (b.host_run steps).1]) hclean steps) m hm
  rw [← Bank.Call.host_of_mem_moments hm] at hprogram
  refine ⟨?_, ?_, (Moment.mem_sequence hm).2, Bank.Call.signers_subset hm⟩
  · intro k hless
    by_cases hsucceeds : m.Succeeds
    · obtain ⟨command, hdecode, heffect⟩ := hsucceeds.effect
      exact heffect.debit hdecode hprogram hclean hless
    · rw [m.after_eq_before hsucceeds] at hless
      exact absurd hless (Nat.lt_irrefl _)
  · intro k hless
    by_cases hsucceeds : m.Succeeds
    · obtain ⟨command, hdecode, heffect⟩ := hsucceeds.effect
      exact heffect.expense hdecode hless
    · rw [m.after_eq_before hsucceeds] at hless
      exact absurd hless (Int.lt_irrefl _)

/-- Thirty tokens leave an escrow, and the contract to which it belongs has them paid out. -/
theorem Bank.debit_authorized_payout :
    Sample.bank.host.program ≠ Key.tokenProgram ∧ Sample.bank.ledger.Clean Sample.bank.host ∧
      (Sample.payout.before.account Sample.escrow).balance = 100 ∧
      (Sample.payout.after.account Sample.escrow).balance = 70 ∧
      ∃ t, (Sample.payout.before.account Sample.escrow).token? = some t ∧
        (Sample.payout.SetsUpFor t.owner ∨ Sample.payout.PaysOut Sample.escrow t.owner) := by
  have hbefore : (Sample.payout.before.account Sample.escrow).balance = 100 := by decide +kernel
  have hafter : (Sample.payout.after.account Sample.escrow).balance = 70 := by decide +kernel
  have hmem : Sample.payout ∈ (Bank.Call.process Sample.unlock).moments
      (Sample.bank.run [.call (.process Sample.create), .clock 15]) := by
    rw [Bank.Call.moments_process, Sample.payout]
    exact List.mem_singleton_self _
  obtain ⟨hdebit, -⟩ := debit_authorized Sample.bank Sample.program_ne Sample.clean _ _ _ hmem
  refine ⟨Sample.program_ne, Sample.clean, hbefore, hafter, hdebit Sample.escrow ?_⟩
  rw [hbefore, hafter]
  decide

end Vesting
