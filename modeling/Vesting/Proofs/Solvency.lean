/-
# An escrow covers what its contract still owes

When a contract is set up, the total of its tranches goes into an escrow, a token account that the
contract owns.  From then on the escrow holds at least what is left in the tranches
(`Bank.escrow_solvent`), and so no unlock that presents this escrow can fail for want of tokens.

The record does not name its escrow, so the invariant `Ledger.Backed` has to name both.  One moment
keeps it (`Moment.Effect.backed_after`), for two reasons.

* Tokens leave the escrow only where its owner, the contract, has signed, or where the contract is
  unlocked (`Moment.Effect.escrow_after`).  The first is excluded, and in the second case the
  tranches lose as much as the escrow.
* Nothing writes over the escrow.  Records are written at addresses that seeds lead to, and the
  escrow's key is none of these.
-/
import Vesting.Proofs.Release

namespace Vesting

/-! ## 1. Escrows -/

/-- `escrow` is a token account that belongs to the contract `vesting`, which has been set up, and
it holds what the contract still owes. -/
structure Ledger.Backed (l : Ledger) (host : Host) (vesting escrow : Key) : Prop where
  holds : l.Holds host vesting
  token : ∃ t, (l.account escrow).token? = some t ∧ t.owner = vesting
  covered : Tranche.total (l.tranches vesting) ≤ (l.account escrow).balance

namespace Ledger.Backed

variable {l l' : Ledger} {host host' : Host} {vesting escrow : Key}

theorem congr (h : l.Backed host vesting escrow) (hhost : host.program = host'.program)
    (hagrees : l.Agrees l') : l'.Backed host' vesting escrow := by
  refine ⟨h.holds.congr hhost (hagrees vesting), ?_, ?_⟩
  · rw [← hagrees escrow]
    exact h.token
  · rw [Ledger.tranches, ← hagrees vesting, ← hagrees escrow]
    exact h.covered

end Ledger.Backed

namespace Moment

variable {m : Moment} {c : Command} {vesting escrow : Key}

/-- **What happens to an escrow.**  It stays a token account of the contract, and it loses tokens
only to an unlock of the contract, and then as many as are due. -/
theorem Effect.escrow_after (h : m.Effect c) (hc : m.Orders c) (hsucceeds : m.Succeeds)
    (hescrow : ¬ m.host.Derivable escrow) (hsigner : vesting ∉ m.order.signers) {t : TokenAccount}
    (ht : (m.before.account escrow).token? = some t) (howner : t.owner = vesting) :
    (∃ t', (m.after.account escrow).token? = some t' ∧ t'.owner = vesting) ∧
      ((m.before.account escrow).balance ≤ (m.after.account escrow).balance ∨
        m.Unlocks vesting ∧
          (m.after.account escrow).balance
            + Tranche.dueAt m.host.clock (m.before.tranches vesting)
            = (m.before.account escrow).balance) := by
  have hnot {key : Key} {seeds : Seeds}
      (hderive : m.host.derive seeds.bytes m.host.program = .ok key) : escrow ≠ key := by
    rintro rfl
    exact hescrow ⟨seeds, hderive⟩
  cases h with
  | @opened seeds count payer target h hafter =>
    have hne : escrow ≠ target := h.openable.ne_target (Account.ne_empty_of_token? ht)
    obtain ⟨n, hn, -⟩ := Ledger.account_of_opened hafter hne
    rw [hn]
    exact ⟨⟨t, ht, howner⟩, Or.inl (Nat.le_refl _)⟩
  | @funded seeds mint destination tranches target held sourceOwner source debtor creditor h
      hafter =>
    obtain ⟨n, hn⟩ := h.permitted.token?_move ht
    rw [hafter, Ledger.account_settled_of_ne _ _ _ _ _ (hnot h.address)]
    refine ⟨⟨t.holding n, hn, howner⟩, Or.inl (h.permitted.balance_le_balance_move ?_)⟩
    -- the owner of the source has signed, and the owner of the escrow has not
    rintro rfl
    cases ht.symm.trans h.permitted.debtor_eq
    rw [← howner, ← h.permitted.owner_eq] at hsigner
    exact hsigner h.owner_signed
  | @paid seeds target held destination header debtor creditor h hafter =>
    obtain ⟨n, hn⟩ := h.permitted.token?_move ht
    rw [hafter, Ledger.account_settled_of_ne _ _ _ _ _ (hnot h.address)]
    refine ⟨⟨t.holding n, hn, howner⟩, ?_⟩
    by_cases hheld : escrow = held
    · subst hheld
      cases ht.symm.trans h.permitted.debtor_eq
      have htarget : target = vesting := h.permitted.owner_eq.trans howner
      subst htarget
      by_cases hself : escrow = destination
      · rw [Ledger.move_self _ _ _ _ hself]
        exact Or.inl (Nat.le_refl _)
      · exact Or.inr ⟨⟨hsucceeds, seeds, hc, h.address⟩, h.permitted.balance_move_source hself⟩
    · exact Or.inl (h.permitted.balance_le_balance_move hheld)
  | @redirected seeds target current new owner header token h hafter =>
    rw [hafter, Ledger.account_rewritten, if_neg (hnot h.address)]
    exact ⟨⟨t, ht, howner⟩, Or.inl (Nat.le_refl _)⟩
  | idle hafter =>
    rw [hafter]
    exact ⟨⟨t, ht, howner⟩, Or.inl (Nat.le_refl _)⟩

/-- **The step.** -/
theorem Succeeds.backed_after (hsucceeds : m.Succeeds)
    (hprogram : m.host.program ≠ Key.tokenProgram) (hescrow : ¬ m.host.Derivable escrow)
    (hsigner : vesting ∉ m.order.signers) (hbacked : m.before.Backed m.host vesting escrow) :
    m.after.Backed m.host vesting escrow := by
  obtain ⟨c, hc, heffect⟩ := hsucceeds.effect
  have hcontinues := heffect.record_after hc hsucceeds hprogram hbacked.holds
  obtain ⟨t, ht, howner⟩ := hbacked.token
  obtain ⟨htoken, hbalance⟩ := heffect.escrow_after hc hsucceeds hescrow hsigner ht howner
  refine ⟨hcontinues.holds, htoken, ?_⟩
  have hcovered := hbacked.covered
  rcases hcontinues.cases with ⟨-, htranches, -⟩ | ⟨hunlocks, htranches⟩
  · have hrelease := Tranche.total_release m.host.clock (m.before.tranches vesting)
    rw [htranches]
    rcases hbalance with hmore | ⟨-, hless⟩
    · omega
    · omega
  · rw [htranches]
    rcases hbalance with hmore | ⟨h, -⟩
    · exact Nat.le_trans hcovered hmore
    · exact absurd h hunlocks

/-- **The first step.**  A contract that is set up is backed by the escrow that is presented. -/
theorem Succeeds.backs (hsucceeds : m.Succeeds) (hprogram : m.host.program ≠ Key.tokenProgram)
    {seeds : Seeds} {mint destination : Key} {ts : List Tranche}
    (hcreate : m.Orders (.create seeds mint destination ts))
    (hderive : m.host.derive seeds.bytes m.host.program = .ok vesting)
    (hposition : m.order.keys[2]? = some escrow) (hescrow : ¬ m.host.Derivable escrow) :
    m.after.Backed m.host vesting escrow := by
  obtain ⟨hholds, hfounds, -, -⟩ := hsucceeds.founds hprogram hcreate hderive
  obtain ⟨c, hc, heffect⟩ := hsucceeds.effect
  cases hc.unique hcreate
  cases heffect with
  | @funded _ _ _ _ target held sourceOwner source debtor creditor h hafter =>
    obtain rfl : target = vesting := Except.ok.inj (h.address.symm.trans hderive)
    obtain rfl : held = escrow := Option.some.inj (h.escrow_at.symm.trans hposition)
    have hne : held ≠ target := by
      rintro rfl
      exact hescrow ⟨seeds, hderive⟩
    have hsame : m.after.account held
        = (m.before.move source held debtor creditor (Tranche.total ts)).account held := by
      rw [hafter, Ledger.account_settled_of_ne _ _ _ _ _ hne]
    obtain ⟨n, hn⟩ := h.permitted.token?_move h.permitted.creditor_eq
    refine ⟨hholds, ⟨creditor.holding n, by rw [hsame, hn], h.escrow_owner⟩, ?_⟩
    rw [hfounds, hsame]
    -- an escrow that pays itself has the tokens already
    by_cases hself : source = held
    · rw [Ledger.move_self _ _ _ _ hself, ← hself,
        Account.balance_of_token? h.permitted.debtor_eq]
      exact h.permitted.covered
    · rw [h.permitted.balance_move_destination hself]
      exact Nat.le_add_left _ _

end Moment

/-! ## 2. Where an unlock may fail -/

/-- A fault that says that a token account holds too little. -/
def Fault.IsShortage (why : Fault) : Prop :=
  ∃ has amount, why = .rejected (.balanceShort has amount)

/-- Only the ledger refuses for want of tokens. -/
theorem Fault.not_isShortage_of_code {r : Rejection} (h : r.code ≠ .hostError) :
    ¬ IsShortage (.rejected r) := by
  rintro ⟨has, amount, hr⟩
  cases hr
  exact h rfl

/-- Whatever breaks the act off on `w`, it is not a lack of tokens. -/
def Act.Covered {α : Type} (act : Act α) (w : World) : Prop :=
  act.BreaksOnly w fun why _ => ¬ why.IsShortage

open Act

/-- Reading fails for what the bytes are, not for want of tokens. -/
theorem TokenAccount.not_isShortage_of_unpack {data : Bytes} {why : Fault}
    (h : unpack data = .error why) : ¬ why.IsShortage := by
  obtain ⟨r, rfl, hr⟩ := unpack_error h
  exact Fault.not_isShortage_of_code (by rw [hr]; decide)

theorem Record.not_isShortage_of_header {data : Bytes} {why : Fault}
    (h : header data = .error why) : ¬ why.IsShortage := by
  obtain ⟨r, rfl, hr | hr⟩ := header_error h
  · exact Fault.not_isShortage_of_code (by rw [hr]; decide)
  · exact Fault.not_isShortage_of_code (by rw [hr]; decide)

/-- **A transfer that the source can afford does not fail for want of tokens.** -/
theorem Host.transfer_covered (host : Host) (signers : List Key)
    (tokenProgram source destination authority : Key) (seeds : Option Bytes) (amount : Int)
    (w : World)
    (hsigned : ∀ why, host.signedFor signers authority seeds = .error why → ¬ why.IsShortage)
    (hafford : ∀ t, TokenAccount.unpack (w.ledger.account source).data = .ok t →
      amount ≤ t.amount.toNat) :
    (host.transfer signers tokenProgram source destination authority seeds amount).Covered w := by
  intro why w' hb
  cases transfer_breaks _ _ _ _ _ _ _ _ _ why w' hb with
  | bytes h => exact TokenAccount.not_isShortage_of_unpack h
  | signature h => exact hsigned why h
  -- the one check that a lack of tokens fails
  | short hdebtor hshort => exact absurd (hafford _ hdebtor) hshort
  | _ => simp [Fault.IsShortage]

namespace Engine

/-- **An unlock whose escrow holds what is due does not fail for want of tokens.** -/
theorem unlock_covered {host : Host} {signers accounts : List Key} {seeds : Seeds}
    {vesting escrow : Key} {w : World}
    (hderive : host.derive seeds.bytes host.program = .ok vesting)
    (hescrow : accounts[3]? = some escrow)
    (hafford : ∀ t, TokenAccount.unpack (w.ledger.account escrow).data = .ok t →
      Record.vestedAt host.clock (w.ledger.account vesting).data ≤ t.amount.toNat) :
    (unlock host signers accounts seeds).Covered w := by
  have hcheck (r : Rejection) (h : r.code ≠ .hostError) : ¬ Fault.IsShortage (.rejected r) :=
    Fault.not_isShortage_of_code h
  have hseeds (why : Rejection) : ¬ Fault.IsShortage (.rejected (.badSeeds why)) :=
    hcheck _ (by simp [Rejection.code])
  have htoken (role : Role) (why : Rejection) :
      ¬ Fault.IsShortage (.rejected (.notTokenAccount role why)) :=
    hcheck _ (by simp [Rejection.code])
  simp only [unlock, perform, plan, planBy, planUnlock, bind_assoc, pure_bind, Plan.carry_payment]
  refine breaksOnly_pick_bind (hcheck _ (by decide)) fun tokenProgram _ => ?_
  refine breaksOnly_pick_bind (hcheck _ (by decide)) fun clockSysvar _ => ?_
  refine breaksOnly_pick_bind (hcheck _ (by decide)) fun target _ => ?_
  refine breaksOnly_pick_bind (hcheck _ (by decide)) fun held hheld => ?_
  obtain rfl : held = escrow := Option.some.inj (hheld.symm.trans hescrow)
  refine breaksOnly_pick_bind (hcheck _ (by decide)) fun destination _ => ?_
  refine breaksOnly_checkAddress_bind (hcheck _ (by decide)) (fun _ => hseeds _)
    (fun why hwhy => ?_) fun htarget => ?_
  · cases hwhy.symm.trans hderive
  obtain rfl : vesting = target := Except.ok.inj (hderive.symm.trans htarget)
  refine breaksOnly_demand_bind (fun _ => hcheck _ (by decide)) fun _ => ?_
  refine breaksOnly_bind_of_yields (yields_account.2 ⟨rfl, rfl⟩) ?_
  refine breaksOnly_demand_bind (fun _ => hcheck _ (by decide)) fun hlong => ?_
  refine breaksOnly_orFail_bind (fun _ => Record.not_isShortage_of_header) fun header _ => ?_
  refine breaksOnly_demand_bind (fun _ => hcheck _ (by decide)) fun _ => ?_
  refine breaksOnly_tokenAccount_bind (fun _ => htoken _ _) fun t _ => ?_
  refine breaksOnly_demand_bind (fun _ => hcheck _ (by decide)) fun _ => ?_
  refine breaksOnly_demand_bind (fun _ => hcheck _ (by decide)) fun _ => ?_
  refine breaksOnly_bind_of_yields (a := ()) (yields_noteAll.2 rfl) ?_
  refine breaksOnly_demand_bind (fun _ => hcheck _ (by decide)) fun _ => ?_
  refine breaksOnly_bind_of_yields (a := ()) (yields_note.2 rfl) ?_
  simp only [Record.writeTranches_release _ hlong]
  refine BreaksOnly.bind (Host.transfer_covered _ _ _ _ _ _ _ _ _ ?_ ?_) fun _ _ _ => ?_
  · -- the seeds lead to the contract, so asking whether they sign for it does not fail
    intro why hwhy
    rw [Host.signedFor_of_derive _ hderive] at hwhy
    cases hwhy
  · intro t ht
    exact Int.ofNat_le.2 (hafford t ht)
  · refine Sure.breaksOnly ?_ _ _
    refine (sure_storeBehind _ _ _ _).bind fun _ => ?_
    exact (sure_orFail rfl).bind fun _ => sure_note _

end Engine

/-! ## 3. Runs -/

namespace Moment

variable {m : Moment} {vesting escrow : Key}

/-- **An unlock that presents the escrow of a backed contract does not fail for want of tokens.** -/
theorem not_short (hbacked : m.before.Backed m.host vesting escrow) {seeds : Seeds}
    (hunlock : m.Orders (.unlock seeds))
    (hderive : m.host.derive seeds.bytes m.host.program = .ok vesting)
    (hescrow : m.order.keys[3]? = some escrow) {why : Fault} (h : m.result = .error why) :
    ¬ why.IsShortage := by
  have hexecute : (Engine.execute m.host m.order.signers m.order.keys m.order.data).Covered
      ⟨m.before, []⟩ := by
    unfold Engine.execute
    refine breaksOnly_bind_of_yields (yields_orFail.2 ⟨hunlock, rfl⟩) ?_
    refine breaksOnly_bind_of_yields (a := ()) (yields_note.2 rfl) ?_
    refine Engine.unlock_covered hderive hescrow fun t ht => ?_
    obtain ⟨t', ht', -⟩ := hbacked.token
    obtain rfl := Except.ok.inj ((Account.token?_eq_some_iff.1 ht').2.symm.trans ht)
    have hcovered := hbacked.covered
    rw [Account.balance_of_token? ht'] at hcovered
    exact Nat.le_trans (Tranche.dueAt_le_total _ _) hcovered
  have hcarry : (m.order.carry m.host).Covered ⟨m.before, []⟩ := by
    refine breaksOnly_require_bind (fun _ => by simp [Fault.IsShortage]) fun _ => ?_
    intro why' w' hb
    obtain ⟨w₁, hb, -⟩ := Engine.breaks_process hb
    exact hexecute why' w₁ hb
  exact hcarry why ⟨m.after, m.log⟩ (Prod.ext h rfl)

end Moment

/-- **Solvency.**  In a run, let `m` be a moment that sets up the contract `vesting` with the escrow
`escrow`, whose key no seeds lead to, and let nothing that follows be signed by the contract itself.
Every later moment meets an escrow that holds what is left in the tranches, and the run, which may
end anywhere, leaves one.  The same goes for the moments of whatever is called next, also of a call
that fails in the end, if the contract has not signed it; so no unlock of the contract that presents
this escrow fails for want of tokens. -/
theorem Bank.escrow_solvent (b : Bank) (hprogram : b.host.program ≠ Key.tokenProgram)
    {steps : List Bank.Step} {past later : List Moment} {m : Moment}
    (htrail : b.trail steps = past ++ m :: later) {seeds : Seeds}
    {mint destination vesting escrow : Key} {ts : List Tranche}
    (hcreate : m.Orders (.create seeds mint destination ts))
    (hderive : m.host.derive seeds.bytes m.host.program = .ok vesting)
    (hposition : m.order.keys[2]? = some escrow) (hescrow : ¬ b.host.Derivable escrow)
    (hsigners : ∀ n ∈ later, vesting ∉ n.order.signers) :
    (∀ n ∈ later, n.before.Backed b.host vesting escrow) ∧
      (b.run steps).ledger.Backed b.host vesting escrow ∧
      ∀ c : Bank.Call, vesting ∉ c.signed → ∀ n ∈ c.moments (b.run steps),
        n.before.Backed b.host vesting escrow ∧
          ∀ seeds' : Seeds, n.Orders (.unlock seeds') →
            n.host.derive seeds'.bytes n.host.program = .ok vesting →
            n.order.keys[3]? = some escrow →
            ∀ has amount, n.result ≠ .error (.rejected (.balanceShort has amount)) := by
  obtain ⟨hsucceeds, hlater, hhost⟩ := from_moment htrail
  have hm := hhost m List.mem_cons_self
  have hfirst := hsucceeds.backs (by rwa [hm.1]) hcreate hderive hposition
    (by rwa [hm.derivable])
  have hstep (n : Moment) (hn : n.host.Alike b.host) (hsigner : vesting ∉ n.order.signers)
      (hok : n.Succeeds) (hbefore : n.before.Backed b.host vesting escrow) :
      n.after.Backed b.host vesting escrow := by
    refine (hok.backed_after (by rwa [hn.1]) (by rwa [hn.derivable]) hsigner ?_).congr hn.1
      fun _ => rfl
    exact hbefore.congr hn.1.symm fun _ => rfl
  obtain ⟨hall, hfinal⟩ :=
    hlater.keeps (P := (Ledger.Backed · b.host vesting escrow))
      (fun l₁ l₂ hagrees h => h.congr rfl hagrees) (hfirst.congr hm.1 fun _ => rfl)
      fun n hn => hstep n (hhost n (List.mem_cons_of_mem _ hn)) (hsigners n hn)
  refine ⟨fun n hn => (hall n hn).2, hfinal, ?_⟩
  intro c hc
  have halike (n : Moment) (hn : n ∈ c.moments (b.run steps)) : n.host.Alike b.host := by
    rw [Bank.Call.host_of_mem_moments hn]
    exact b.host_run steps
  obtain ⟨hbefore, -⟩ := Bank.Call.keeps (P := (Ledger.Backed · b.host vesting escrow)) hfinal
    (fun l h => h.congr rfl l.agrees_sweep)
    fun n hn => hstep n (halike n hn) fun hs => hc (Bank.Call.signers_subset hn vesting hs)
  intro n hn
  refine ⟨hbefore n hn, ?_⟩
  intro seeds' hunlock hderive' hposition' has amount hresult
  have hbacked := (hbefore n hn).congr (halike n hn).1.symm fun _ => rfl
  exact n.not_short hbacked hunlock hderive' hposition' hresult ⟨has, amount, rfl⟩

/-- Once the first of two tranches has been paid out, the escrow holds the seventy tokens that the
second one still needs. -/
theorem Bank.escrow_solvent_payout :
    ¬ Sample.bank.host.Derivable Sample.escrow ∧
      (∀ n ∈ Sample.founded.trail Sample.rest, Sample.vesting ∉ n.order.signers) ∧
      (Sample.bank.run (.call (.process Sample.create) :: Sample.rest)).ledger.Backed
        Sample.bank.host Sample.vesting Sample.escrow ∧
      ((Sample.bank.run (.call (.process Sample.create) :: Sample.rest)).ledger.account
        Sample.escrow).balance = 70 := by
  have hescrow : ¬ Sample.bank.host.Derivable Sample.escrow := by
    rw [Sample.derivable_iff]
    decide
  have hsigners : ∀ n ∈ Sample.founded.trail Sample.rest, Sample.vesting ∉ n.order.signers := by
    decide +kernel
  obtain ⟨-, hbacked, -⟩ := escrow_solvent Sample.bank Sample.program_ne Sample.trail
    Sample.orders_create rfl rfl hescrow hsigners
  refine ⟨hescrow, hsigners, hbacked, ?_⟩
  decide +kernel

end Vesting
