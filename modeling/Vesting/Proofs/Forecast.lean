/-
# What is shown is what is paid

Four places say what is due: the contract that a client has read, the record itself, the rows of the
viewer, and the command that pays it out.  Each of them runs through the tranches on its own, and
the rows do not even ask the same question: a row is released if its amount is zero, whenever that
was written, and only then does its time count.

They agree nevertheless (`Record.forecast`).  A tranche without an amount adds nothing to any of
the sums, so it makes no difference that the rows leave out what the others count as zero
(`Tranche.total_filter_congr`); and what is left to show of a tranche that has been paid out is
that it has no amount (`Row.ofTranches_release`).
-/
import Vesting.Proofs.Payment
import Vesting.Proofs.Release
import Vesting.Viewer

namespace Vesting

/-! ## 1. Rows -/

/-- A tranche without an amount makes no difference to a sum. -/
theorem Tranche.total_filter_congr {p q : Tranche → Bool}
    (h : ∀ t : Tranche, t.amount ≠ 0 → p t = q t) (ts : List Tranche) :
    total (ts.filter p) = total (ts.filter q) := by
  have htotal (s : Tranche → Bool) (t : Tranche) (ts : List Tranche) :
      total ((t :: ts).filter s) = (if s t then t.amount.toNat else 0) + total (ts.filter s) := by
    rw [List.filter_cons]
    split
    · rfl
    · rw [Nat.zero_add]
  induction ts with
  | nil => rfl
  | cons t ts ih =>
    rw [htotal, htotal, ih]
    by_cases hamount : t.amount = 0
    · simp [hamount]
    · rw [h t hamount]

namespace Row

/-- The row of a tranche. -/
def ofTranche (now : Int) (i : Nat) (t : Tranche) : Row :=
  ⟨i, t.releaseTime.toNat, t.amount.toNat, statusOf now t.releaseTime.toNat t.amount.toNat⟩

theorem ofTranches_eq (now : Int) (ts : List Tranche) :
    ofTranches now ts = ts.mapIdx (ofTranche now) := by
  refine List.ext_getElem? fun i => ?_
  rw [ofTranches, ofPairs, List.getElem?_mapIdx, List.getElem?_map, List.getElem?_mapIdx,
    Option.map_map]
  rfl

/-- What the amounts come to of the rows whose status is among some. -/
def sumOf (p : Status → Bool) (rows : List Row) : Int :=
  (rows.filter fun r => p r.status).foldr (fun r rest => r.amount + rest) 0

/-- The rows of some status add up to what their tranches do, wherever they stand in the table. -/
theorem sumOf_mapIdx (p : Status → Bool) (now : Int) (place : Nat → Nat) (ts : List Tranche) :
    sumOf p (ts.mapIdx fun i => ofTranche now (place i))
      = Tranche.total (ts.filter fun t => p (ofTranche now 0 t).status) := by
  induction ts generalizing place with
  | nil => rfl
  | cons t ts ih =>
    have ih := ih fun i => place (i + 1)
    have hstatus : (ofTranche now (place 0) t).status = (ofTranche now 0 t).status := rfl
    rw [List.mapIdx_cons, sumOf, List.filter_cons, List.filter_cons, hstatus]
    split
    · rw [List.foldr_cons, ← sumOf, ih, Tranche.total, Int.natCast_add]
      rfl
    · exact ih

theorem sumOf_ofTranches (p : Status → Bool) (now : Int) (ts : List Tranche) :
    sumOf p (ofTranches now ts)
      = Tranche.total (ts.filter fun t => p (ofTranche now 0 t).status) := by
  rw [ofTranches_eq]
  exact sumOf_mapIdx p now id ts

theorem status_ofTranche {now : Int} {i : Nat} {t : Tranche} (h : t.amount ≠ 0) :
    (ofTranche now i t).status = if t.isDue now then .unlockable else .locked := by
  have hamount : t.amount.toNat ≠ 0 := fun hzero => h (UInt64.toNat_inj.1 hzero)
  simp [ofTranche, statusOf, hamount, Tranche.isDue]

/-- **The unlockable rows add up to what is due.** -/
theorem sumOf_unlockable (now : Int) (ts : List Tranche) :
    sumOf (· = .unlockable) (ofTranches now ts) = Tranche.dueAt now ts := by
  rw [sumOf_ofTranches, Tranche.dueAt]
  refine congrArg _ (Tranche.total_filter_congr (fun t hamount => ?_) ts)
  rw [status_ofTranche hamount]
  cases t.isDue now <;> rfl

/-- **The rows that are not released add up to what is locked.** -/
theorem sumOf_not_released (now : Int) (ts : List Tranche) :
    sumOf (· ≠ .released) (ofTranches now ts) = Tranche.total ts := by
  rw [sumOf_ofTranches, Tranche.total_filter_congr (q := fun _ => true) (fun t hamount => ?_),
    List.filter_true]
  rw [status_ofTranche hamount]
  cases t.isDue now <;> rfl

/-- A row once everything unlockable has been paid out. -/
def settled (r : Row) : Row :=
  if r.status = .unlockable then { r with amount := 0, status := .released } else r

/-- **Paying out changes the unlockable rows, and no others.** -/
theorem ofTranches_release (now : Int) (ts : List Tranche) :
    ofTranches now (Tranche.release now ts) = (ofTranches now ts).map settled := by
  rw [ofTranches_eq, ofTranches_eq]
  refine List.ext_getElem? fun i => ?_
  rw [List.getElem?_mapIdx, Tranche.release, List.getElem?_map, List.getElem?_map,
    List.getElem?_mapIdx, Option.map_map, Option.map_map]
  refine congrArg (Option.map · _) (funext fun t => ?_)
  show ofTranche now i (if t.isDue now then t.released else t) = settled (ofTranche now i t)
  by_cases hamount : t.amount = 0
  · -- there is nothing to pay, and the row has been released before
    have hreleased : t.released = t := by
      rw [Tranche.released, ← hamount]
    rw [hreleased, ite_self, settled, if_neg]
    simp [ofTranche, statusOf, hamount]
  · rw [settled, status_ofTranche hamount]
    cases t.isDue now with
    | true => simp [ofTranche, statusOf, Tranche.released]
    | false => simp

end Row

/-! ## 2. The command -/

theorem Contract.decode_eq_ok_iff {address : Key} {data : Bytes} {c : Contract} :
    decode address data = .ok c ↔
      ∃ header, Record.header data = .ok header ∧ c = ⟨address, header, Record.tranches data⟩ := by
  unfold decode
  cases hheader : Record.header data with
  | ok header =>
    rw [if_neg (Nat.not_lt.2 (Record.length_of_header hheader))]
    simp [bind, Except.bind, pure, Except.pure, eq_comm]
  | error why =>
    split <;> simp [bind, Except.bind]

/-- Once everything due has been paid out, the record decodes to the same contract with what is left
of its tranches. -/
theorem Contract.decode_paidOut {address : Key} {data : Bytes} {c : Contract}
    (h : decode address data = .ok c) (now : Int) :
    decode address (Record.paidOut now data)
      = .ok { c with tranches := Tranche.release now c.tranches } := by
  obtain ⟨header, hheader, rfl⟩ := decode_eq_ok_iff.1 h
  have hlong := Record.length_of_header hheader
  refine decode_eq_ok_iff.2 ⟨header, (Record.header_paidOut now hlong).2 hheader, ?_⟩
  rw [Record.tranches_paidOut now hlong]

namespace Engine

open Act

/-- How a payment of `due` tokens comes out: `out` is what the command comes to on `l`. -/
structure PaysDue (host : Host) (signers : List Key) (seeds : Seeds) (l : Ledger)
    (vesting escrow destination : Key) (due : Nat) (out : Except Fault Unit × World) : Prop where
  /-- The argument is invalid exactly if there is nothing to pay. -/
  refused_iff : (∃ why, out.1 = .error why ∧ why.Refuses .invalidArgument) ↔ due = 0
  /-- Then no tokens are moved. -/
  untouched : due = 0 → out.2.ledger = l
  /-- Otherwise the host is asked for a transfer of as much as is due, and what comes behind it
  cannot change its result. -/
  asked : due ≠ 0 → ∃ log, out = Act.exec (do
      host.transfer signers Key.tokenProgram escrow destination vesting (some seeds.bytes) due
      storeBehind vesting escrow destination
        (Record.paidOut host.clock (l.account vesting).data)
      note (.released due vesting destination)) ⟨l, log⟩

theorem unlock_paysDue {host : Host} {signers accounts : List Key} {seeds : Seeds} {l : Ledger}
    {log : List Event} {vesting : Key} (hvesting : accounts[2]? = some vesting)
    (hclear : ∀ h ∈ unlockChecks host seeds l accounts, ¬ h.stands) :
    ∃ escrow destination, accounts[3]? = some escrow ∧ accounts[4]? = some destination ∧
      PaysDue host signers seeds l vesting escrow destination
        (Record.vestedAt host.clock (l.account vesting).data)
        ((unlock host signers accounts seeds).exec ⟨l, log⟩) := by
  obtain ⟨vesting', escrow, destination, held, log', h, hout⟩ :=
    (unlock_checked host signers accounts seeds ⟨l, log⟩).of_clear hclear
  obtain ⟨rest, rfl⟩ := h.accounts_eq
  obtain rfl : vesting = vesting' := (Option.some.inj hvesting).symm
  refine ⟨escrow, destination, rfl, rfl, ?_⟩
  rw [hout]
  by_cases hdue : Record.vestedAt host.clock (l.account vesting).data = 0
  · rw [payDue_of_nothing_due hdue]
    exact ⟨iff_of_true ⟨_, rfl, _, rfl, rfl⟩ hdue, fun _ => rfl, fun hne => absurd hdue hne⟩
  · refine ⟨iff_of_false ?_ hdue, fun hzero => absurd hzero hdue, fun _ => ⟨_, exec_payDue hdue⟩⟩
    rintro ⟨why, hwhy, hinvalid⟩
    exact payDue_breaks h.address hdue (breaks_of_result hwhy) hinvalid

end Engine

/-! ## 3. The forecast -/

/-- What is told of a record at a clock value, by everyone who is asked. -/
structure Record.Forecast (data : Bytes) (now : Int) (c : Contract) (rows : List Row) : Prop where
  due_by_record : Record.vestedAt now data = c.vestedAt now
  due_by_rows : Row.sumOf (· = .unlockable) rows = c.vestedAt now
  locked_by_record : Record.totalLocked data = c.totalLocked
  locked_by_rows : Row.sumOf (· ≠ .released) rows = c.totalLocked

/-- **What is shown is what is paid.**  For every record that decodes and every clock value, the
contract, the record and the rows of the viewer tell the same.  A payment that gets as far as the
tranches asks the host for that number of tokens, or is refused because it is zero.  Once it has
gone through, the record decodes again, nothing is due, what is locked has gone down by that number,
the unlockable rows are released, and the others are as they were. -/
theorem Record.forecast {address : Key} {data : Bytes} {c : Contract}
    (hdecode : Contract.decode address data = .ok c) (now : Int) (v : Viewer) :
    let rows := (v.fillTranches now c.tranches).rows
    Record.Forecast data now c rows ∧
    ∀ (host : Host) (signers accounts : List Key) (seeds : Seeds) (l : Ledger) (log : List Event)
        (vesting : Key),
      host.clock = now → accounts[2]? = some vesting → (l.account vesting).data = data →
      (∀ h ∈ Engine.unlockChecks host seeds l accounts, ¬ h.stands) →
      let out := (Engine.unlock host signers accounts seeds).exec ⟨l, log⟩
      (∃ escrow destination, accounts[3]? = some escrow ∧ accounts[4]? = some destination ∧
        Engine.PaysDue host signers seeds l vesting escrow destination (c.vestedAt now) out) ∧
      (out.1 = .ok () → (l.account vesting).owner ≠ Key.tokenProgram →
        ∃ c', Contract.decode address (out.2.ledger.account vesting).data = .ok c' ∧
          c'.header = c.header ∧ c'.vestedAt now = 0 ∧
          c'.totalLocked + c.vestedAt now = c.totalLocked ∧
          (v.fillTranches now c'.tranches).rows = rows.map Row.settled) := by
  obtain ⟨header, -, hc⟩ := Contract.decode_eq_ok_iff.1 hdecode
  have htranches : Record.tranches data = c.tranches := by rw [hc]
  have hdue : Record.vestedAt now data = c.vestedAt now := congrArg (Tranche.dueAt now) htranches
  intro rows
  refine ⟨⟨hdue, Row.sumOf_unlockable now _, congrArg Tranche.total htranches,
    Row.sumOf_not_released now _⟩, ?_⟩
  intro host signers accounts seeds l log vesting hclock hvesting hdata hclear out
  subst hclock hdata
  refine ⟨?_, fun hok howner => ?_⟩
  · rw [← hdue]
    exact Engine.unlock_paysDue hvesting hclear
  obtain ⟨vesting', escrow, destination, header', debtor, creditor, h, -, hw⟩ :=
    Engine.unlock_yields (Act.yields_of_result hok)
  obtain rfl : vesting = vesting' := Option.some.inj (hvesting.symm.trans h.vesting_at)
  have hrecord : (out.2.ledger.account vesting).data
      = Record.paidOut host.clock (l.account vesting).data := by
    rw [hw]
    exact congrArg Account.data (h.permitted.account_settled_record _ howner)
  rw [hrecord]
  refine ⟨_, Contract.decode_paidOut hdecode host.clock, rfl, ?_, ?_, ?_⟩
  · exact Tranche.dueAt_release_of_le (Int.le_refl _) _
  · exact (Nat.add_comm _ _).trans (Tranche.total_release host.clock c.tranches)
  · exact Row.ofTranches_release host.clock c.tranches

/-- Thirty of a hundred tokens are due, and the row of their tranche is the one that changes. -/
theorem Record.forecast_payout :
    ∃ c c', Contract.decode Sample.vesting (Sample.payout.before.account Sample.vesting).data
        = .ok c ∧
      Contract.decode Sample.vesting (((Engine.unlock Sample.payout.host Sample.unlock.signers
        Sample.unlock.keys Sample.seeds).exec ⟨Sample.payout.before, []⟩).2.ledger.account
          Sample.vesting).data = .ok c' ∧
      c.vestedAt 15 = 30 ∧ c'.totalLocked + 30 = 100 ∧
      Record.Forecast (Sample.payout.before.account Sample.vesting).data 15 c
        (Row.ofTranches 15 c.tranches) ∧
      Row.ofTranches 15 c'.tranches = (Row.ofTranches 15 c.tranches).map Row.settled := by
  let c : Contract := ⟨Sample.vesting, ⟨Sample.destination, Sample.mint, true⟩, Sample.tranches⟩
  let held : TokenAccount := { mint := Sample.mint, owner := Sample.vesting, amount := 100 }
  have hdecode : Contract.decode Sample.vesting
      (Sample.payout.before.account Sample.vesting).data = .ok c := by decide +kernel
  have hdue : c.vestedAt 15 = 30 := by decide +kernel
  have hlocked : c.totalLocked = 100 := by decide +kernel
  have hpresented : Engine.Presented Sample.payout.host Sample.unlock.keys Sample.seeds
      Sample.payout.before Sample.vesting Sample.escrow Sample.destination held :=
    ⟨⟨[], rfl⟩, by decide +kernel, ⟨c.header, by decide +kernel, rfl⟩, by decide +kernel, rfl⟩
  obtain ⟨hforecast, hpays⟩ := Record.forecast hdecode 15 {}
  obtain ⟨-, hpaid⟩ := hpays Sample.payout.host Sample.unlock.signers Sample.unlock.keys
    Sample.seeds Sample.payout.before [] Sample.vesting (by decide +kernel) rfl rfl hpresented.clear
  obtain ⟨c', hdecode', -, -, hleft, hrows⟩ := hpaid (by decide +kernel) (by decide +kernel)
  rw [hdue, hlocked] at hleft
  exact ⟨c, c', hdecode, hdecode', hdue, hleft, hforecast, hrows⟩

end Vesting
