/-
# What is written off is delivered, if there is somewhere to deliver it

To pay out takes two steps.  The host moves what is due from the escrow to the destination, and then
the tranches are written off.  The second step asks only whether the first has gone through, and a
transfer from an account to itself goes through as well: nothing moves.

So the two steps belong together as long as the escrow that is presented is not the destination that
the record names (`Bank.payout_delivered`).  Nothing sees to that.  The command that sets a contract
up takes any destination, the escrow included, and a contract like this is paid out without a token
leaving its escrow (`Bank.payout_delivered_not_to_escrow`).

What else could part the two steps is that the record is itself one of the accounts between which
the tokens move.  A contract does not sit at a token account to begin with, and no run makes one of
it: an account that is there keeps its length, and one that is opened has the length of a record
(`Moment.Effect.length_after`).
-/
import Vesting.Proofs.Atomicity
import Vesting.Proofs.LifeCycle

namespace Vesting

open Engine

/-! ## 1. Lengths -/

/-- A transfer makes no account longer or shorter. -/
theorem Host.Permitted.length_move {host : Host} {signers : List Key}
    {tokenProgram source destination authority : Key} {seeds : Option Bytes} {n : Nat} {l : Ledger}
    {debtor creditor : TokenAccount}
    (h : Permitted host signers tokenProgram source destination authority seeds n l debtor creditor)
    (k : Key) :
    ((l.move source destination debtor creditor n).account k).data.length
      = (l.account k).data.length := by
  have hlength {k : Key} {t : TokenAccount} (ht : (l.account k).token? = some t) :
      (l.account k).data.length = 165 :=
    TokenAccount.length_of_unpack (Account.token?_eq_some_iff.1 ht).2
  by_cases hne : source = destination
  · rw [l.move_self _ _ _ hne]
  rw [l.account_move _ _ _ hne]
  split
  · rename_i hk
    rw [hk, hlength h.creditor_eq]
    exact TokenAccount.length_pack _
  · split
    · rename_i hk
      rw [hk, hlength h.debtor_eq]
      exact TokenAccount.length_pack _
    · rfl

/-- An account keeps its length, unless there was none and the program opens a record. -/
theorem Moment.Effect.length_after {m : Moment} {c : Command} (h : m.Effect c) (k : Key) :
    (m.after.account k).data.length = (m.before.account k).data.length ∨
      m.before.account k = .empty ∧ ∃ n, (m.after.account k).data.length = Record.length n := by
  cases h with
  | @opened seeds count payer vesting h hafter =>
    by_cases hk : k = vesting
    · right
      subst hk
      rw [hafter, Ledger.account_opened, if_pos rfl]
      exact ⟨h.openable.fresh, count.toNat, List.length_replicate⟩
    · left
      obtain ⟨n, hn, -⟩ := Ledger.account_of_opened hafter hk
      rw [hn]
      rfl
  | @funded seeds mint destination tranches vesting escrow sourceOwner source debtor creditor h
      hafter =>
    left
    have hlength := (Record.length_founded ⟨destination, mint, true⟩ h.record_length).trans
      h.record_length.symm
    rw [hafter, Ledger.length_settled _ _ _ hlength, h.permitted.length_move]
  | paid h hafter =>
    left
    rw [hafter, Ledger.length_settled _ _ _ (Record.length_paidOut _ h.long),
      h.permitted.length_move]
  | redirected h hafter =>
    left
    have hlong : 32 ≤ (m.before.account _).data.length := Nat.le_trans (by decide) h.long
    rw [hafter, Ledger.length_rewritten (Record.length_writeDestination _ hlong)]
  | idle hafter =>
    left
    rw [hafter]

/-- The account belongs to the token program and is as long as its accounts are. -/
def Account.TokenShaped (a : Account) : Prop :=
  a.owner = Key.tokenProgram ∧ a.data.length = TokenAccount.length

instance (a : Account) : Decidable a.TokenShaped := inferInstanceAs (Decidable (_ ∧ _))

theorem Account.tokenShaped_of_token {a : Account} {t : TokenAccount} (h : a.token? = some t) :
    a.TokenShaped := by
  obtain ⟨howner, hunpack⟩ := Account.token?_eq_some_iff.1 h
  exact ⟨howner, TokenAccount.length_of_unpack hunpack⟩

/-- **No moment makes a token account.** -/
theorem Moment.Effect.not_tokenShaped {m : Moment} {c : Command} (h : m.Effect c) {k : Key}
    (hk : ¬ (m.before.account k).TokenShaped) : ¬ (m.after.account k).TokenShaped := by
  rintro ⟨howner, hlength⟩
  rcases h.length_after k with hkept | ⟨-, n, hopened⟩
  · rcases h.owner_after k with howner' | ⟨hempty, -⟩
    · exact hk ⟨howner'.symm.trans howner, hkept.symm.trans hlength⟩
    · rw [hempty, hlength] at hkept
      cases hkept
  · exact Record.length_ne n (hopened.symm.trans hlength)

/-- So no run does. -/
theorem Linked.not_tokenShaped {l l' : Ledger} {ms : List Moment} (h : Linked l ms l') {k : Key}
    (hk : ¬ (l.account k).TokenShaped) :
    ∀ m ∈ ms, m.Succeeds ∧ ¬ (m.before.account k).TokenShaped := by
  refine (h.keeps (P := fun l => ¬ (l.account k).TokenShaped) ?_ hk ?_).1
  · intro l₁ l₂ hagrees h₁
    rw [← hagrees k]
    exact h₁
  · intro m hm hsucceeds hbefore
    obtain ⟨c, -, heffect⟩ := hsucceeds.effect
    exact heffect.not_tokenShaped hbefore

/-! ## 2. One payment -/

namespace Moment

/-- What paying out from `escrow` to `destination` does to the contract `vesting`. -/
structure Delivers (m : Moment) (vesting escrow destination : Key) : Prop where
  escrow_at : m.order.keys[3]? = some escrow
  destination_at : m.order.keys[4]? = some destination
  /-- The destination is the one that the record names. -/
  stored : ∃ header, Record.header (m.before.account vesting).data = .ok header ∧
    header.destination = destination
  /-- Something is due. -/
  due : 0 < Tranche.dueAt m.host.clock (m.before.tranches vesting)
  /-- All of that is written off, and nothing else. -/
  written_off : m.after.tranches vesting
    = Tranche.release m.host.clock (m.before.tranches vesting)
  /-- It has gone from the escrow to the destination exactly if these are two accounts. -/
  delivered_iff :
    ((m.after.account destination).balance = (m.before.account destination).balance
        + Tranche.dueAt m.host.clock (m.before.tranches vesting) ∧
      (m.after.account escrow).balance + Tranche.dueAt m.host.clock (m.before.tranches vesting)
        = (m.before.account escrow).balance) ↔ escrow ≠ destination
  /-- If they are one, the record is all that changes. -/
  kept : escrow = destination → ∀ k, k ≠ vesting → m.after.account k = m.before.account k

/-- **One payment.**  It does what it should, unless it pays the escrow. -/
theorem Unlocks.delivers {m : Moment} {vesting : Key} (h : m.Unlocks vesting)
    (hvesting : ¬ (m.before.account vesting).TokenShaped) :
    ∃ escrow destination, m.Delivers vesting escrow destination := by
  obtain ⟨hsucceeds, seeds, horders, hderive⟩ := h
  obtain ⟨c, hc, heffect⟩ := hsucceeds.effect
  cases hc.unique horders
  cases heffect with
  | @paid _ target escrow destination header debtor creditor h hafter =>
    obtain rfl : target = vesting := Except.ok.inj (h.address.symm.trans hderive)
    -- the record is neither of the two accounts, so it takes what is written to it
    have hother {k : Key} {t : TokenAccount} (ht : (m.before.account k).token? = some t) :
        target ≠ k := by
      rintro rfl
      exact hvesting (Account.tokenShaped_of_token ht)
    have hescrow := hother h.permitted.debtor_eq
    have hdestination := hother h.permitted.creditor_eq
    have hrecord : (m.after.account target).data
        = Record.paidOut m.host.clock (m.before.account target).data := by
      rw [hafter, Ledger.account_settled_of_not_displaced _ _ _ _ _
        (not_displaced_of_ne hescrow.symm hdestination.symm)]
      rfl
    have hmoved {k : Key} (hk : target ≠ k) : m.after.account k
        = (m.before.move escrow destination debtor creditor
          (Record.vestedAt m.host.clock (m.before.account target).data)).account k := by
      rw [hafter, Ledger.account_settled_of_ne _ _ _ _ _ hk.symm]
    refine ⟨escrow, destination, h.escrow_at, h.destination_at,
      ⟨header, h.header_eq, h.destination_eq⟩, Nat.pos_of_ne_zero h.due, ?_, ?_, ?_⟩
    · rw [Ledger.tranches, hrecord, Record.tranches_paidOut _ h.long]
      rfl
    · rw [hmoved hescrow, hmoved hdestination]
      constructor
      · rintro ⟨hcredited, -⟩ heq
        rw [Ledger.move_self _ _ _ _ heq] at hcredited
        exact h.due (Nat.left_eq_add.1 hcredited)
      · intro hne
        exact ⟨h.permitted.balance_move_destination hne, h.permitted.balance_move_source hne⟩
    · intro heq k hk
      rw [hmoved hk.symm, Ledger.move_self _ _ _ _ heq]

end Moment

/-! ## 3. All payments -/

/-- **What is written off is delivered, except to the escrow.**  Let no token account sit at
`vesting` to begin with.  Whenever a run pays out, something is due and is written off, and it has
gone from the escrow to the stored destination exactly if these are two accounts. -/
theorem Bank.payout_delivered (b : Bank) (steps : List Bank.Step) {vesting : Key}
    (hvesting : ¬ (b.ledger.account vesting).TokenShaped) :
    ∀ m ∈ b.trail steps, m.Unlocks vesting →
      ∃ escrow destination, m.Delivers vesting escrow destination := by
  intro m hm hunlocks
  have hkept := (b.linked_trail steps).not_tokenShaped hvesting
  exact hunlocks.delivers (hkept m hm).2

namespace Sample

theorem not_tokenShaped : ¬ (bank.ledger.account vesting).TokenShaped := by decide +kernel

/-- Sets up the contract so that it pays its own escrow. -/
def loop : Order :=
  { create with data := (Command.create seeds mint escrow tranches).encode }

/-- Pays out what is due, to the escrow. -/
def unlockLoop : Order :=
  { unlock with keys := [Key.tokenProgram, Key.clockSysvar, vesting, escrow, escrow] }

/-- The order to pay the escrow, about to be carried out. -/
def payoutLoop : Moment :=
  let due := bank.run [.call (.process loop), .clock 15]
  ⟨due.host, unlockLoop, due.ledger⟩

theorem payout_unlocks : payout.Unlocks vesting := by
  have hdone : payout.result = .ok () ∧ payout.Orders (.unlock seeds) ∧
      payout.host.derive seeds.bytes payout.host.program = .ok vesting := by
    decide +kernel
  exact ⟨hdone.1, seeds, hdone.2.1, hdone.2.2⟩

theorem payoutLoop_unlocks : payoutLoop.Unlocks vesting := by
  have hdone : payoutLoop.result = .ok () ∧ payoutLoop.Orders (.unlock seeds) ∧
      payoutLoop.host.derive seeds.bytes payoutLoop.host.program = .ok vesting := by
    decide +kernel
  exact ⟨hdone.1, seeds, hdone.2.1, hdone.2.2⟩

end Sample

/-- The first tranche of the contract goes to its beneficiary. -/
theorem Bank.payout_delivered_first :
    ¬ (Sample.bank.ledger.account Sample.vesting).TokenShaped ∧
      Sample.payout ∈ Sample.bank.trail
        ([.call (.process Sample.create), .clock 15] ++ [.call (.process Sample.unlock)]) ∧
      Sample.payout.Unlocks Sample.vesting ∧
      Sample.payout.Delivers Sample.vesting Sample.escrow Sample.destination := by
  have hmem := mem_trail_process Sample.bank [.call (.process Sample.create), .clock 15]
    Sample.unlock (by decide +kernel)
  refine ⟨Sample.not_tokenShaped, hmem, Sample.payout_unlocks, ?_⟩
  obtain ⟨escrow, destination, h⟩ := payout_delivered Sample.bank _ Sample.not_tokenShaped _ hmem
    Sample.payout_unlocks
  obtain rfl : Sample.escrow = escrow := Option.some.inj h.escrow_at
  obtain rfl : Sample.destination = destination := Option.some.inj h.destination_at
  exact h

/-- **A contract may pay its own escrow.**  What is due is written off then, and not a token is
delivered. -/
theorem Bank.payout_delivered_not_to_escrow :
    ¬ ∀ (b : Bank) (steps : List Bank.Step) (m : Moment) (vesting escrow : Key) (header : Header),
      ¬ (b.ledger.account vesting).TokenShaped → m ∈ b.trail steps → m.Unlocks vesting →
      m.order.keys[3]? = some escrow →
      Record.header (m.before.account vesting).data = .ok header →
      0 < Tranche.dueAt m.host.clock (m.before.tranches vesting) →
      (m.after.account header.destination).balance
          = (m.before.account header.destination).balance
            + Tranche.dueAt m.host.clock (m.before.tranches vesting) ∧
        (m.after.account escrow).balance + Tranche.dueAt m.host.clock (m.before.tranches vesting)
          = (m.before.account escrow).balance := by
  intro hclaim
  have hmem := mem_trail_process Sample.bank [.call (.process Sample.loop), .clock 15]
    Sample.unlockLoop (by decide +kernel)
  have hlooped : Record.header (Sample.payoutLoop.before.account Sample.vesting).data
        = .ok ⟨Sample.escrow, Sample.mint, true⟩ ∧
      Tranche.dueAt Sample.payoutLoop.host.clock (Sample.payoutLoop.before.tranches Sample.vesting)
        = 30 ∧
      (Sample.payoutLoop.after.account Sample.escrow).balance
        = (Sample.payoutLoop.before.account Sample.escrow).balance := by
    decide +kernel
  obtain ⟨hheader, hdue, hkept⟩ := hlooped
  obtain ⟨-, hdebited⟩ := hclaim Sample.bank _ Sample.payoutLoop Sample.vesting Sample.escrow _
    Sample.not_tokenShaped hmem Sample.payoutLoop_unlocks rfl hheader (by omega)
  rw [hdue, hkept] at hdebited
  omega

end Vesting
