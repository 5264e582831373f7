/-
# A contract changes hands only if its beneficiary agrees

Once a contract has been set up, its mint, its flag and the times of its tranches are fixed.  Its
destination is not: who owns the token account at the current destination may name another one.
`Moment.Succession` says how the destination moves through a run.  Every moment leaves it where it
is, except for those that carry out the command for it, and each of these has the signature of the
owner of the token account that is at the current destination at that moment.

The owner is looked up when the command is carried out and is not part of the record, so the step
(`Ledger.Terms.after`) reads two accounts: the record says where to look, and the account that is
found there says who has to sign.
-/
import Vesting.Proofs.Header
import Vesting.Proofs.Touch

namespace Vesting

/-! ## 1. Terms -/

/-- The terms of the contract `vesting`: the first 32 bytes of its record name the destination, the
next 32 the mint, and the flag behind them says that it has been set up; and its tranches have these
times. -/
structure Ledger.Terms (l : Ledger) (vesting destination mint : Key) (times : List UInt64) :
    Prop where
  bytes_eq : (l.account vesting).data.take 65 = destination.bytes ++ (mint.bytes ++ [1])
  times_eq : (l.tranches vesting).map Tranche.releaseTime = times

namespace Tranche

/-- Paying out leaves the times alone. -/
theorem times_release (now : Int) (ts : List Tranche) :
    (release now ts).map releaseTime = ts.map releaseTime := by
  rw [release, List.map_map]
  refine List.map_congr_left fun t _ => ?_
  rw [Function.comp_apply]
  split
  · rfl
  · rfl

end Tranche

namespace Ledger.Terms

variable {l l' : Ledger} {vesting destination mint : Key} {times : List UInt64}

/-- Terms are what the header says, and the times. -/
theorem iff_header : l.Terms vesting destination mint times ↔
    Record.header (l.account vesting).data = .ok ⟨destination, mint, true⟩ ∧
      (l.tranches vesting).map Tranche.releaseTime = times := by
  rw [Record.header_eq_ok_iff, Header.pack_eq]
  exact ⟨fun h => ⟨h.bytes_eq, h.times_eq⟩, fun h => ⟨h.1, h.2⟩⟩

/-- Terms are a matter of the bytes of the record. -/
theorem congr (h : l.Terms vesting destination mint times)
    (hsame : (l'.account vesting).data = (l.account vesting).data) :
    l'.Terms vesting destination mint times := by
  refine ⟨?_, ?_⟩
  · rw [hsame]
    exact h.bytes_eq
  · rw [tranches, hsame]
    exact h.times_eq

theorem of_storing {a : Account} {data : Bytes} (hafter : l.account vesting = a.storing data)
    (hheader : Record.header data = .ok ⟨destination, mint, true⟩)
    (htimes : (Record.tranches data).map Tranche.releaseTime = times) :
    l.Terms vesting destination mint times := by
  rw [iff_header, tranches, hafter]
  exact ⟨hheader, htimes⟩

end Ledger.Terms

/-! ## 2. One moment -/

namespace Moment

/-- The moment makes `target` the destination of the contract `vesting` in the place of `current`,
as the owner of the token account at `current` has signed for, and changes nothing else in its
account. -/
structure Redirects (m : Moment) (vesting current target : Key) : Prop where
  performs : ∃ seeds, m.Performs (.changeDestination seeds) vesting
  consent : ∃ token, TokenAccount.unpack (m.before.account current).data = .ok token ∧
    token.owner ∈ m.order.signers
  target_at : m.order.keys[3]? = some target
  after_eq : m.after.account vesting = (m.before.account vesting).storing
    (target.bytes ++ (m.before.account vesting).data.drop 32)

/-- How the destination of the contract `vesting` moves through moments, while its mint and the
times of its tranches stay. -/
inductive Succession (vesting mint : Key) (times : List UInt64) : Key → List Moment → Key → Prop
  | nil {current : Key} : Succession vesting mint times current [] current
  /-- The moment is for something else. -/
  | stays {current last : Key} {m : Moment} {ms : List Moment}
      (hbefore : m.before.Terms vesting current mint times)
      (hafter : m.after.Terms vesting current mint times)
      (hother : ∀ seeds, ¬ m.Performs (.changeDestination seeds) vesting)
      (rest : Succession vesting mint times current ms last) :
      Succession vesting mint times current (m :: ms) last
  /-- The moment names another destination. -/
  | passes {current target last : Key} {m : Moment} {ms : List Moment}
      (hbefore : m.before.Terms vesting current mint times)
      (hafter : m.after.Terms vesting target mint times)
      (hredirects : m.Redirects vesting current target)
      (rest : Succession vesting mint times target ms last) :
      Succession vesting mint times current (m :: ms) last

end Moment

/-- **The first step.**  A contract is set up on the terms that the command names. -/
theorem Moment.Succeeds.terms {m : Moment} {vesting : Key} (hsucceeds : m.Succeeds)
    (hprogram : m.host.program ≠ Key.tokenProgram) {seeds : Seeds} {mint destination : Key}
    {ts : List Tranche} (hcreate : m.Orders (.create seeds mint destination ts))
    (hderive : m.host.derive seeds.bytes m.host.program = .ok vesting) :
    m.after.Terms vesting destination mint (ts.map Tranche.releaseTime) := by
  obtain ⟨c, hc, heffect⟩ := hsucceeds.effect
  cases hc.unique hcreate
  cases heffect with
  | @funded _ _ _ _ target escrow sourceOwner source debtor creditor h hafter =>
    obtain rfl : target = vesting := Except.ok.inj (h.address.symm.trans hderive)
    have hrecord : (m.before.account target).owner ≠ Key.tokenProgram := by
      rw [h.record_owner]
      exact hprogram
    have hsame := h.permitted.account_settled_record
      (Record.founded ⟨destination, mint, true⟩ ts (m.before.account target).data) hrecord
    rw [← hafter] at hsame
    refine .of_storing hsame (Record.header_founded _ h.record_length) ?_
    rw [Record.tranches_founded _ h.record_length]

/-- **The step.**  A moment leaves the terms of a contract that has been set up as they are, or it
names another destination, and may do so. -/
theorem Ledger.Terms.after {m : Moment} {vesting current mint : Key} {times : List UInt64}
    (hterms : m.before.Terms vesting current mint times) (hsucceeds : m.Succeeds)
    (hprogram : m.host.program ≠ Key.tokenProgram) (hholds : m.before.Holds m.host vesting) :
    m.after.Terms vesting current mint times ∧
        (∀ seeds, ¬ m.Performs (.changeDestination seeds) vesting) ∨
      ∃ target, m.after.Terms vesting target mint times ∧
        m.Redirects vesting current target := by
  obtain ⟨c, hc, heffect⟩ := hsucceeds.effect
  obtain ⟨hheader, htimes⟩ := iff_header.1 hterms
  have hrecord : (m.before.account vesting).owner ≠ Key.tokenProgram := by
    rw [hholds.owner]
    exact hprogram
  have hnot (hne : ∀ seeds, c ≠ .changeDestination seeds) (seeds : Seeds) :
      ¬ m.Performs (.changeDestination seeds) vesting := by
    intro hperforms
    exact hne seeds (hc.unique hperforms.orders)
  cases heffect.touch hc hrecord with
  | kept hother hafter =>
    refine Or.inl ⟨hterms.congr ?_, fun seeds => hother _⟩
    rw [hafter]
    rfl
  | opened h => exact absurd h.openable.fresh hholds.ne_empty
  | founded h =>
    have hfresh := h.fresh
    rw [hholds.initialized] at hfresh
    cases hfresh
  | paid h hafter =>
    refine Or.inl ⟨of_storing hafter ?_ ?_, hnot (by simp)⟩
    · exact (Record.header_paidOut _ h.long).2 hheader
    · rw [Record.tranches_paidOut _ h.long, Tranche.times_release]
      exact htimes
  | @redirected seeds found target owner header token h hafter =>
    obtain rfl : found = current := by
      have hsame := h.header_eq.symm.trans hheader
      cases Except.ok.inj hsame
      exact h.current_eq.symm
    refine Or.inr ⟨target, of_storing hafter ?_ ?_, ?_⟩
    · exact Record.header_writeDestination target hheader
    · rw [Record.tranches_writeDestination _ h.long]
      exact htimes
    · refine ⟨⟨seeds, hsucceeds, hc, seeds, rfl, h.address⟩, ⟨token, h.token_eq, ?_⟩,
        h.target_at, ?_⟩
      · rw [h.token_owner]
        exact h.owner_signed
      · rw [hafter, Record.writeDestination, Bytes.replaceRange, List.take_zero, List.nil_append]

/-! ## 3. Runs -/

/-- **The destination moves by consent.** -/
theorem Linked.succession {l l' : Ledger} {ms : List Moment} {host : Host}
    {vesting current mint : Key} {times : List UInt64} (h : Linked l ms l')
    (hhost : ∀ m ∈ ms, m.host.Alike host) (hprogram : host.program ≠ Key.tokenProgram)
    (hholds : l.Holds host vesting) (hterms : l.Terms vesting current mint times) :
    ∃ last, l'.Terms vesting last mint times ∧
      Moment.Succession vesting mint times current ms last := by
  induction h generalizing current with
  | nil hagrees =>
    refine ⟨current, hterms.congr ?_, .nil⟩
    rw [hagrees vesting]
  | @cons l l' m ms hagrees hsucceeds _ ih =>
    have hm := hhost m List.mem_cons_self
    have hbefore : m.before.Holds m.host vesting := hholds.congr hm.1.symm (hagrees vesting)
    have hterms : m.before.Terms vesting current mint times := by
      refine hterms.congr ?_
      rw [hagrees vesting]
    have hprogram' : m.host.program ≠ Key.tokenProgram := by
      rw [hm.1]
      exact hprogram
    obtain ⟨c, hc, heffect⟩ := hsucceeds.effect
    have hcontinues := heffect.record_after hc hsucceeds hprogram' hbefore
    have hhosts : ∀ n ∈ ms, n.host.Alike host := fun n hn => hhost n (List.mem_cons_of_mem _ hn)
    have hholds := hcontinues.holds.congr hm.1 rfl
    rcases hterms.after hsucceeds hprogram' hbefore with ⟨hafter, hother⟩ | ⟨target, hafter, hto⟩
    · obtain ⟨last, hlast, hrest⟩ := ih hhosts hholds hafter
      exact ⟨last, hlast, .stays hterms hafter hother hrest⟩
    · obtain ⟨last, hlast, hrest⟩ := ih hhosts hholds hafter
      exact ⟨last, hlast, .passes hterms hafter hto hrest⟩

/-- **A contract changes hands only if its beneficiary agrees.**  In a run, let `m` be a moment that
sets up the contract `vesting`, and let `later` be what follows.  The run may end anywhere.  The
mint, the flag and the times stay what they were set up as; the destination is the one that has been
set up, and moves by consent. -/
theorem Bank.destination_changes_by_consent (b : Bank)
    (hprogram : b.host.program ≠ Key.tokenProgram) {steps : List Bank.Step}
    {past later : List Moment} {m : Moment} (htrail : b.trail steps = past ++ m :: later)
    {seeds : Seeds} {mint destination vesting : Key} {ts : List Tranche}
    (hcreate : m.Orders (.create seeds mint destination ts))
    (hderive : m.host.derive seeds.bytes m.host.program = .ok vesting) :
    m.after.Terms vesting destination mint (ts.map Tranche.releaseTime) ∧
      ∃ last, (b.run steps).ledger.Terms vesting last mint (ts.map Tranche.releaseTime) ∧
        Moment.Succession vesting mint (ts.map Tranche.releaseTime) destination later last := by
  obtain ⟨hsucceeds, hlater, hhost⟩ := from_moment htrail
  have hm := hhost m List.mem_cons_self
  have hprogram' : m.host.program ≠ Key.tokenProgram := by
    rw [hm.1]
    exact hprogram
  have hterms := hsucceeds.terms hprogram' hcreate hderive
  have hholds := (hsucceeds.founds hprogram' hcreate hderive).1.congr hm.1 rfl
  exact ⟨hterms, hlater.succession (fun n hn => hhost n (List.mem_cons_of_mem _ hn)) hprogram
    hholds hterms⟩

namespace Sample

def heir : Key := key 11

/-- The owner of the destination names another one. -/
def redirect : Order where
  program := program
  keys := [vesting, destination, key 6, heir]
  data := (Command.changeDestination seeds).encode
  signers := [key 6]

end Sample

/-- A contract is set up, and the owner of its destination hands it on. -/
theorem Bank.destination_handed_on :
    let times := Sample.tranches.map Tranche.releaseTime
    let steps : List Bank.Step := [.call (.process Sample.redirect)]
    let final := (Sample.bank.run (.call (.process Sample.create) :: steps)).ledger
    (∃ last, final.Terms Sample.vesting last Sample.mint times ∧
      Moment.Succession Sample.vesting Sample.mint times Sample.destination
        (Sample.founded.trail steps) last) ∧
      (final.account Sample.vesting).data.take 32 = Sample.heir.bytes := by
  intro times steps final
  refine ⟨?_, by decide +kernel⟩
  exact (destination_changes_by_consent Sample.bank Sample.program_ne Sample.trail
    Sample.orders_create rfl).2

end Vesting
