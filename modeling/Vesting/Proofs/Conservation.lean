/-
# Nothing is made and nothing is lost

Whatever bytes a bank is handed, with whatever accounts and signatures, what the token accounts of a
mint hold together stays, and so do all lamports together (`Bank.call_conserves`).  For each effect
that a moment can have this has been shown where the effect is described; what is left is to put the
five together (`Moment.Effect.sum_balanceOf`, `Moment.Effect.sum_lamports`) and to carry them
through a call.

A record is written over without regard to the tokens it may hold, so the ledger has to be clean: no
token account at an address that the program can sign for.  The call keeps it clean on the way.
-/
import Vesting.Proofs.Effect

namespace Vesting

/-! ## 1. One moment -/

namespace Moment

variable {m : Moment} {c : Command}

/-- **No effect makes tokens or destroys them.** -/
theorem Effect.sum_balanceOf (h : m.Effect c) (hprogram : m.host.program ≠ Key.tokenProgram)
    (hclean : m.before.Clean m.host) (mint : Key) :
    m.after.sum (Account.balanceOf mint) = m.before.sum (Account.balanceOf mint) := by
  cases h with
  | opened h hafter =>
    rw [hafter]
    exact h.openable.sum_balanceOf_opened _ (Host.minimumBalance_pos _) hprogram mint
  | funded h hafter =>
    rw [hafter]
    exact h.permitted.sum_balanceOf_settled _ (hclean _ ⟨_, h.address⟩) mint
  | paid h hafter =>
    rw [hafter]
    exact h.permitted.sum_balanceOf_settled _ (hclean _ ⟨_, h.address⟩) mint
  | redirected h hafter =>
    rw [hafter]
    exact m.before.sum_balanceOf_rewritten _ (hclean _ ⟨_, h.address⟩) mint
  | idle hafter => rw [hafter]

/-- **No effect makes lamports or destroys them.** -/
theorem Effect.sum_lamports (h : m.Effect c) :
    m.after.sum Account.lamports = m.before.sum Account.lamports := by
  cases h with
  | opened h hafter =>
    rw [hafter]
    exact h.openable.sum_lamports_opened _ (Host.minimumBalance_pos _)
  | funded h hafter => rw [hafter, Ledger.sum_lamports_settled]
  | paid h hafter => rw [hafter, Ledger.sum_lamports_settled]
  | redirected h hafter => rw [hafter, Ledger.sum_lamports_rewritten]
  | idle hafter => rw [hafter]

end Moment

/-! ## 2. One call -/

/-- A clean ledger that holds as much as another, of every mint and in lamports. -/
structure Ledger.Conserves (host : Host) (l₀ l : Ledger) : Prop where
  clean : l.Clean host
  tokens : ∀ mint, l.sum (Account.balanceOf mint) = l₀.sum (Account.balanceOf mint)
  lamports : l.sum Account.lamports = l₀.sum Account.lamports

namespace Ledger.Conserves

variable {host : Host} {l₀ l : Ledger}

theorem sweep (h : Conserves host l₀ l) : Conserves host l₀ l.sweep where
  clean := h.clean.sweep
  tokens mint := by rw [sum_sweep (Account.balanceOf_empty mint), h.tokens]
  lamports := by rw [sum_sweep rfl, h.lamports]

/-- **The step.** -/
theorem moment {m : Moment} (hprogram : m.host.program ≠ Key.tokenProgram) (hm : m.Succeeds)
    (h : Conserves m.host l₀ m.before) : Conserves m.host l₀ m.after := by
  obtain ⟨c, -, heffect⟩ := hm.effect
  refine ⟨m.clean_after hprogram hm h.clean, ?_, ?_⟩
  · intro mint
    rw [heffect.sum_balanceOf hprogram h.clean, h.tokens]
  · rw [heffect.sum_lamports, h.lamports]

end Ledger.Conserves

/-- No account holds more tokens than 64 bits can count. -/
theorem Account.balance_le (a : Account) : a.balance ≤ maxU64 := by
  rw [balance]
  cases a.token? with
  | none => exact Nat.zero_le _
  | some t => exact t.amount_le

/-- **Conservation.**  A call, whether it goes through or not, leaves as many tokens of every mint
and as many lamports as there were, and no balance beyond 64 bits. -/
theorem Bank.call_conserves (b : Bank) (c : Bank.Call)
    (hprogram : b.host.program ≠ Key.tokenProgram) (hclean : b.ledger.Clean b.host) :
    (∀ mint, (c.run b).bank.ledger.sum (Account.balanceOf mint)
      = b.ledger.sum (Account.balanceOf mint)) ∧
    (c.run b).bank.ledger.sum Account.lamports = b.ledger.sum Account.lamports ∧
    ∀ k, ((c.run b).bank.ledger.account k).balance ≤ maxU64 := by
  have hkept : Ledger.Conserves b.host b.ledger (c.run b).bank.ledger := by
    refine (Bank.Call.keeps (P := Ledger.Conserves b.host b.ledger) ?_ ?_ ?_).2
    · exact ⟨hclean, fun _ => rfl, rfl⟩
    · exact fun _ h => h.sweep
    · intro m hm hsucceeds h
      have hhost : m.host = b.host := Bank.Call.host_of_mem_moments hm
      rw [← hhost] at h hprogram ⊢
      exact h.moment hprogram hsucceeds
  exact ⟨hkept.tokens, hkept.lamports, fun k => Account.balance_le _⟩

/-- A hundred tokens go into escrow, and there are a hundred before and after. -/
theorem Bank.call_conserves_create :
    Sample.bank.host.program ≠ Key.tokenProgram ∧ Sample.bank.ledger.Clean Sample.bank.host ∧
      ((Bank.Call.process Sample.create).run Sample.bank).bank.ledger.sum
        (Account.balanceOf Sample.mint) = 100 := by
  obtain ⟨htokens, -, -⟩ :=
    call_conserves Sample.bank (.process Sample.create) Sample.program_ne Sample.clean
  refine ⟨Sample.program_ne, Sample.clean, ?_⟩
  rw [htokens]
  decide +kernel

end Vesting
