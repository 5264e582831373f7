/-
# Every tranche is released once, in full, and not before its time

Once a contract has been set up, nothing but its own payouts changes its tranches.  The argument has
two parts.

* **The step** (`Moment.Effect.record_after`).  A successful moment leaves the record of a contract
  that has been set up with the same length, the same owner and the same flag.  If the moment
  unlocks this contract, every tranche due at its clock becomes zero and the sum of their amounts is
  handed to one transfer, out of the escrow (`Moment.Hands`); otherwise every tranche stays.
* **The accounts** (`Linked.accounts`).  Take the tranches whose times satisfy `p`, where `p`
  holds of every time that was due when anything was paid.  What has been handed to transfers
  since, and what these tranches still hold, add up to what they held at first.  With `p` always
  true this is the sum of all tranches; with `p` true up to a latest clock it is the bound on what
  can have been paid by then.

Clocks may go back and forth: only the clocks of the payouts themselves enter the argument.

What is measured is the argument of the transfer, and not what the command reports.  The moves in
the log and the balances of the two accounts are stated beside it.  A transfer from an account to
itself is the one case that they do not show.
-/
import Vesting.Proofs.Effect
import Vesting.Proofs.Movement

namespace Vesting

/-! ## 1. Tranches -/

namespace Tranche

/-- The sum of the amounts of the tranches whose times satisfy `p`. -/
def totalOf (p : UInt64 → Bool) (ts : List Tranche) : Nat :=
  total (ts.filter fun t => p t.releaseTime)

theorem totalOf_true (ts : List Tranche) : totalOf (fun _ => true) ts = total ts := by
  rw [totalOf, List.filter_true]

theorem totalOf_cons (p : UInt64 → Bool) (t : Tranche) (ts : List Tranche) :
    totalOf p (t :: ts) = (if p t.releaseTime then t.amount.toNat else 0) + totalOf p ts := by
  unfold totalOf
  rw [List.filter_cons]
  split
  · rfl
  · rw [Nat.zero_add]

/-- What is due at a clock value. -/
theorem dueAt_eq_totalOf (now : Int) (ts : List Tranche) :
    dueAt now ts = totalOf (fun time => (time.toNat : Int) ≤ now) ts := rfl

/-- **What is paid out is what is missing afterwards.** -/
theorem totalOf_release {p : UInt64 → Bool} {now : Int}
    (hp : ∀ time : UInt64, (time.toNat : Int) ≤ now → p time = true) (ts : List Tranche) :
    dueAt now ts + totalOf p (release now ts) = totalOf p ts := by
  induction ts with
  | nil => rfl
  | cons t ts ih =>
    rw [dueAt_eq_totalOf] at ih ⊢
    rw [release, List.map_cons, ← release, totalOf_cons, totalOf_cons, totalOf_cons]
    by_cases hdue : (t.releaseTime.toNat : Int) ≤ now
    · have htrue : t.isDue now = true := by simpa [isDue] using hdue
      simp only [htrue, if_true, released, hp _ hdue, hdue, decide_true, UInt64.toNat_zero]
      omega
    · have hfalse : t.isDue now = false := by simpa [isDue] using hdue
      simp only [hfalse, hdue, decide_false, Bool.false_eq_true, if_false]
      omega

/-- What is paid out and what is left are what there was. -/
theorem total_release (now : Int) (ts : List Tranche) :
    dueAt now ts + total (release now ts) = total ts := by
  have := totalOf_release (p := fun _ => true) (fun time (_ : (time.toNat : Int) ≤ now) => rfl) ts
  rwa [totalOf_true, totalOf_true] at this

/-- What is left once everything due has been paid out is what was not due. -/
theorem total_release_eq (now : Int) (ts : List Tranche) :
    total (release now ts) = total (ts.filter fun t => !t.isDue now) := by
  induction ts with
  | nil => rfl
  | cons t ts ih =>
    rw [release, List.map_cons, ← release, total, ih, List.filter_cons]
    cases t.isDue now with
    | true => simp [released]
    | false => simp [total]

theorem dueAt_le_total (now : Int) (ts : List Tranche) : dueAt now ts ≤ total ts :=
  Nat.le.intro (total_release now ts)

/-- More is due at a later time. -/
theorem dueAt_mono {now later : Int} (h : now ≤ later) (ts : List Tranche) :
    dueAt now ts ≤ dueAt later ts :=
  Nat.le.intro (totalOf_release (p := fun time => (time.toNat : Int) ≤ later)
    (fun _ htime => decide_eq_true (Int.le_trans htime h)) ts)

/-- Once everything due has been paid out, nothing is due, then or earlier. -/
theorem dueAt_release_of_le {now past : Int} (h : now ≤ past) (ts : List Tranche) :
    dueAt now (release past ts) = 0 := by
  have hpast : dueAt past ts + dueAt past (release past ts) = dueAt past ts :=
    totalOf_release (p := fun time => (time.toNat : Int) ≤ past)
      (fun _ htime => decide_eq_true htime) ts
  have hnow := dueAt_mono h (release past ts)
  omega

/-- What is paid out at one time and what is paid out afterwards at another come to what is due at
the later of the two. -/
theorem dueAt_add_dueAt_release (past now : Int) (ts : List Tranche) :
    dueAt past ts + dueAt now (release past ts) = dueAt (max past now) ts := by
  rcases Int.le_total now past with h | h
  · rw [dueAt_release_of_le h, Int.max_eq_left h, Nat.add_zero]
  · rw [Int.max_eq_right h]
    exact totalOf_release (p := fun time => (time.toNat : Int) ≤ now)
      (fun _ htime => decide_eq_true (Int.le_trans htime h)) ts

/-- To pay out at one time and then at another is to pay out at the later of the two. -/
theorem release_release (past now : Int) (ts : List Tranche) :
    release now (release past ts) = release (max past now) ts := by
  rw [release, release, release, List.map_map]
  refine List.map_congr_left fun t _ => ?_
  have hmax : t.isDue (max past now) = (t.isDue past || t.isDue now) := by
    rw [isDue, isDue, isDue, ← Bool.decide_or]
    exact decide_eq_decide.2 (by omega)
  rw [Function.comp_apply, hmax]
  cases t.isDue past with
  | true =>
    rw [if_pos rfl, Bool.true_or, if_pos rfl]
    split
    · rfl
    · rfl
  | false => rfl

/-- Where nothing is due, nothing is paid out. -/
theorem release_of_dueAt_eq_zero {now : Int} {ts : List Tranche} (h : dueAt now ts = 0) :
    release now ts = ts := by
  induction ts with
  | nil => rfl
  | cons t ts ih =>
    rw [dueAt_eq_totalOf, totalOf_cons] at h
    have hrest : release now ts = ts := ih (Nat.eq_zero_of_add_eq_zero_left h)
    rw [release, List.map_cons, ← release, hrest]
    split
    · rename_i hdue
      have htime : (t.releaseTime.toNat : Int) ≤ now := of_decide_eq_true hdue
      have hamount : t.amount = 0 := by
        rw [if_pos (decide_eq_true htime)] at h
        exact UInt64.toNat_inj.1 (Nat.eq_zero_of_add_eq_zero_right h)
      rw [released, ← hamount]
    · rfl

/-- A tranche at its place after a payout. -/
theorem getElem?_release (now : Int) {ts : List Tranche} {i : Nat} {t : Tranche}
    (h : ts[i]? = some t) :
    (release now ts)[i]? = some (if t.isDue now then t.released else t) := by
  rw [release, List.getElem?_map, h]
  rfl

end Tranche

/-! ## 2. One moment in the life of a contract -/

/-- The account of `vesting` holds the record of a contract that has been set up. -/
structure Ledger.Holds (l : Ledger) (host : Host) (vesting : Key) : Prop where
  owner : (l.account vesting).owner = host.program
  initialized : Record.isInitialized (l.account vesting).data = true

namespace Ledger.Holds

variable {l l' : Ledger} {host host' : Host} {vesting : Key}

theorem long (h : l.Holds host vesting) : 65 ≤ (l.account vesting).data.length :=
  (Record.isInitialized_iff.1 h.initialized).1

/-- There is an account that holds a record. -/
theorem ne_empty (h : l.Holds host vesting) : l.account vesting ≠ .empty := by
  intro hempty
  have hlong := h.long
  rw [hempty] at hlong
  exact absurd hlong (by decide)

theorem congr (h : l.Holds host vesting) (hhost : host.program = host'.program)
    (hsame : l.account vesting = l'.account vesting) : l'.Holds host' vesting := by
  refine ⟨?_, ?_⟩
  · rw [← hsame, ← hhost]
    exact h.owner
  · rw [← hsame]
    exact h.initialized

end Ledger.Holds

/-- The tranches in the record of a contract. -/
def Ledger.tranches (l : Ledger) (vesting : Key) : List Tranche :=
  Record.tranches (l.account vesting).data

namespace Moment

/-- The moment pays out what is due to the contract `vesting`. -/
def Unlocks (m : Moment) (vesting : Key) : Prop :=
  m.Succeeds ∧ ∃ seeds : Seeds, m.Orders (.unlock seeds) ∧
    m.host.derive seeds.bytes m.host.program = .ok vesting

/-- The seeds of the contract that an order asks to unlock. -/
def unlockSeeds? (m : Moment) : Option Seeds :=
  match Command.decode false m.order.data with
  | .ok (.unlock seeds) => some seeds
  | _ => none

theorem unlockSeeds?_eq_some_iff {m : Moment} {seeds : Seeds} :
    m.unlockSeeds? = some seeds ↔ m.Orders (.unlock seeds) := by
  rw [unlockSeeds?, Orders]
  split
  · rename_i seeds' h
    rw [h, Option.some.injEq, Except.ok.injEq, Command.unlock.injEq]
  · rename_i h
    refine iff_of_false (by simp) (h seeds)

instance (m : Moment) (vesting : Key) : Decidable (m.Unlocks vesting) :=
  decidable_of_iff (m.Succeeds ∧ ∃ seeds ∈ m.unlockSeeds?,
      m.host.derive seeds.bytes m.host.program = .ok vesting) <| by
    simp only [Unlocks, Option.mem_def, unlockSeeds?_eq_some_iff]

/-- The moment hands `n` tokens to one transfer from `source` to `destination`. -/
structure Hands (m : Moment) (source destination : Key) (n : Nat) : Prop where
  /-- They are the argument of the transfer. -/
  asked : ∃ authority seeds vesting draft report, m.plan? = some
    (.payment Key.tokenProgram source destination authority seeds n vesting draft report)
  /-- They are moved once, and no others are. -/
  logged : m.log.filter Event.isMove
    = if source = destination then [] else [.moved n source destination]
  /-- The one account has lost them, and the other has gained them. -/
  moved : source ≠ destination → m.before.HandsOver m.after source destination n
  /-- No other account holds more than before, or less. -/
  others : ∀ k, (source ≠ destination → k ≠ source ∧ k ≠ destination) →
    (m.after.account k).balance = (m.before.account k).balance

theorem Hands.handed_eq {m : Moment} {source destination : Key} {n : Nat}
    (h : m.Hands source destination n) : m.handed = n := by
  obtain ⟨authority, seeds, vesting, draft, report, hplan⟩ := h.asked
  rw [handed, hplan]
  rfl

/-- What a moment may do to the record of a contract that has been set up: pay out what is due if it
unlocks the contract, and nothing to the tranches otherwise. -/
structure Continues (m : Moment) (vesting : Key) : Prop where
  holds : m.after.Holds m.host vesting
  length_eq : (m.after.account vesting).data.length = (m.before.account vesting).data.length
  cases : m.Unlocks vesting ∧
      m.after.tranches vesting = Tranche.release m.host.clock (m.before.tranches vesting) ∧
      (∃ escrow target, m.order.keys[3]? = some escrow ∧ m.order.keys[4]? = some target ∧
        m.Hands escrow target (Tranche.dueAt m.host.clock (m.before.tranches vesting))) ∨
    ¬ m.Unlocks vesting ∧ m.after.tranches vesting = m.before.tranches vesting

variable {m : Moment} {c : Command} {vesting : Key}

/-- An order is one command and no other. -/
theorem Orders.unique {c' : Command} (h : m.Orders c) (h' : m.Orders c') : c = c' :=
  Except.ok.inj (h.symm.trans h')

/-- A record that is left alone goes on as it was. -/
theorem Continues.of_same (hholds : m.before.Holds m.host vesting) (hunlock : ¬ m.Unlocks vesting)
    (howner : (m.after.account vesting).owner = (m.before.account vesting).owner)
    (hdata : (m.after.account vesting).data = (m.before.account vesting).data) :
    m.Continues vesting := by
  refine ⟨⟨?_, ?_⟩, by rw [hdata], Or.inr ⟨hunlock, ?_⟩⟩
  · rw [howner]
    exact hholds.owner
  · rw [hdata]
    exact hholds.initialized
  · rw [Ledger.tranches, hdata, Ledger.tranches]

/-- A record that is written over goes on as its new bytes say. -/
theorem Continues.of_storing (hholds : m.before.Holds m.host vesting) {data : Bytes}
    (hafter : m.after.account vesting = (m.before.account vesting).storing data)
    (hlength : data.length = (m.before.account vesting).data.length)
    (hinitialized : Record.isInitialized data
      = Record.isInitialized (m.before.account vesting).data)
    (hcases : m.Unlocks vesting ∧
        Record.tranches data = Tranche.release m.host.clock (m.before.tranches vesting) ∧
        (∃ escrow target, m.order.keys[3]? = some escrow ∧ m.order.keys[4]? = some target ∧
          m.Hands escrow target (Tranche.dueAt m.host.clock (m.before.tranches vesting))) ∨
      ¬ m.Unlocks vesting ∧ Record.tranches data = m.before.tranches vesting) :
    m.Continues vesting := by
  have hdata : (m.after.account vesting).data = data := by
    rw [hafter]
    rfl
  refine ⟨⟨?_, ?_⟩, ?_, ?_⟩
  · rw [hafter]
    exact hholds.owner
  · rw [hdata, hinitialized]
    exact hholds.initialized
  · rw [hdata, hlength]
  · rw [Ledger.tranches, hdata]
    exact hcases

/-- A payout hands what is due to one transfer. -/
theorem hands_of_payout {seeds : Seeds} {escrow destination : Key} {header : Header}
    {debtor creditor : TokenAccount}
    (h : Engine.Payout m.host m.order.signers m.order.keys seeds m.before vesting escrow destination
      header debtor creditor)
    (hafter : m.after = m.before.settled escrow destination debtor creditor
      (Record.vestedAt m.host.clock (m.before.account vesting).data) vesting
      (Record.paidOut m.host.clock (m.before.account vesting).data))
    (hplan : ∃ draft report, m.plan? = some (.payment Key.tokenProgram escrow destination vesting
      (some seeds.bytes) (Record.vestedAt m.host.clock (m.before.account vesting).data) vesting
      draft report))
    (hmoves : m.log.filter Event.isMove = if escrow = destination then []
      else [.moved (Record.vestedAt m.host.clock (m.before.account vesting).data) escrow
        destination])
    (hrecord : (m.before.account vesting).owner ≠ Key.tokenProgram) :
    m.Hands escrow destination (Tranche.dueAt m.host.clock (m.before.tranches vesting)) := by
  have hapart {k : Key} (hk : (m.before.account k).owner = Key.tokenProgram) : k ≠ vesting := by
    rintro rfl
    exact hrecord hk
  refine ⟨?_, hmoves, fun hne => ?_, fun k hk => ?_⟩
  · obtain ⟨draft, report, hplan⟩ := hplan
    exact ⟨_, _, _, draft, report, hplan⟩
  · rw [hafter]
    exact (h.permitted.handsOver hne).congr
      (Ledger.account_settled_of_ne _ _ _ _ _ (hapart h.permitted.source_owner))
      (Ledger.account_settled_of_ne _ _ _ _ _ (hapart h.permitted.destination_owner))
  · rw [hafter, h.permitted.balance_settled _ hrecord]
    by_cases hne : escrow = destination
    · rw [Ledger.move_self _ _ _ _ hne]
    · rw [Ledger.account_move_of_ne _ _ _ _ (hk hne).1 (hk hne).2]

/-- **The step.** -/
theorem Effect.record_after (h : m.Effect c) (hc : m.Orders c) (hsucceeds : m.Succeeds)
    (hprogram : m.host.program ≠ Key.tokenProgram) (hholds : m.before.Holds m.host vesting) :
    m.Continues vesting := by
  have hrecord : (m.before.account vesting).owner ≠ Key.tokenProgram := by
    rw [hholds.owner]
    exact hprogram
  have hother : (∀ seeds, c ≠ .unlock seeds) → ¬ m.Unlocks vesting := by
    rintro hne ⟨-, seeds, horders, -⟩
    exact hne seeds (hc.unique horders)
  cases h with
  | @opened seeds count payer target h hafter =>
    have hne : vesting ≠ target := h.openable.ne_target hholds.ne_empty
    obtain ⟨n, hn, -⟩ := Ledger.account_of_opened hafter hne
    refine .of_same hholds (hother (by simp)) ?_ ?_
    · rw [hn]
      rfl
    · rw [hn]
      rfl
  | @funded seeds mint destination tranches target escrow sourceOwner source debtor creditor h
      hafter =>
    have hne : vesting ≠ target := by
      rintro rfl
      have hfresh := h.fresh
      rw [hholds.initialized] at hfresh
      cases hfresh
    have hsame : m.after.account vesting = m.before.account vesting := by
      rw [hafter, h.permitted.account_settled_other _ hne hrecord]
    refine .of_same hholds (hother (by simp)) ?_ ?_
    · rw [hsame]
    · rw [hsame]
  | @paid seeds target escrow destination header debtor creditor h hafter hplan hmoves =>
    by_cases hv : vesting = target
    · subst hv
      have hsame := h.permitted.account_settled_record
        (Record.paidOut m.host.clock (m.before.account vesting).data) hrecord
      rw [← hafter] at hsame
      refine .of_storing hholds hsame (Record.length_paidOut _ h.long)
        (Record.isInitialized_paidOut _ h.long)
        (Or.inl ⟨⟨hsucceeds, seeds, hc, h.address⟩, Record.tranches_paidOut _ h.long, ?_⟩)
      exact ⟨escrow, destination, h.escrow_at, h.destination_at,
        hands_of_payout h hafter hplan hmoves hrecord⟩
    · have hunlock : ¬ m.Unlocks vesting := by
        rintro ⟨-, seeds', horders, haddress⟩
        cases hc.unique horders
        exact hv (Except.ok.inj (haddress.symm.trans h.address))
      have hsame : m.after.account vesting = m.before.account vesting := by
        rw [hafter, h.permitted.account_settled_other _ hv hrecord]
      refine .of_same hholds hunlock ?_ ?_
      · rw [hsame]
      · rw [hsame]
  | @redirected seeds target current new owner header token h hafter =>
    have hunlock : ¬ m.Unlocks vesting := hother (by simp)
    have hsame := m.before.account_rewritten target
      (Record.writeDestination new (m.before.account target).data) vesting
    rw [← hafter] at hsame
    by_cases hv : vesting = target
    · subst hv
      rw [if_pos rfl] at hsame
      have hlong : 32 ≤ (m.before.account vesting).data.length := Nat.le_trans (by decide) h.long
      exact .of_storing hholds hsame (Record.length_writeDestination _ hlong)
        (Record.isInitialized_writeDestination _ h.long)
        (Or.inr ⟨hunlock, Record.tranches_writeDestination _ h.long⟩)
    · rw [if_neg hv] at hsame
      refine .of_same hholds hunlock ?_ ?_
      · rw [hsame]
      · rw [hsame]
  | idle hafter =>
    refine .of_same hholds (hother (by simp)) ?_ ?_
    · rw [hafter]
    · rw [hafter]

/-- **The first step.**  A contract that is set up holds the tranches it is set up with. -/
theorem Succeeds.founds (hsucceeds : m.Succeeds)
    (hprogram : m.host.program ≠ Key.tokenProgram) {seeds : Seeds} {mint destination : Key}
    {ts : List Tranche} (hcreate : m.Orders (.create seeds mint destination ts))
    (hderive : m.host.derive seeds.bytes m.host.program = .ok vesting) :
    m.after.Holds m.host vesting ∧ m.after.tranches vesting = ts ∧
      (m.after.account vesting).data.length = Record.length ts.length ∧
      Tranche.total ts ≤ maxU64 := by
  obtain ⟨c, hc, heffect⟩ := hsucceeds.effect
  cases hc.unique hcreate
  cases heffect with
  | @funded _ _ _ _ target escrow sourceOwner source debtor creditor h hafter =>
    obtain rfl : target = vesting := Except.ok.inj (h.address.symm.trans hderive)
    have hsame := h.permitted.account_settled_record
      (Record.founded ⟨destination, mint, true⟩ ts (m.before.account target).data)
      (by rw [h.record_owner]; exact hprogram)
    rw [← hafter] at hsame
    have hdata : (m.after.account target).data
        = Record.founded ⟨destination, mint, true⟩ ts (m.before.account target).data := by
      rw [hsame]
      rfl
    refine ⟨⟨?_, ?_⟩, ?_, ?_, h.total_le⟩
    · rw [hsame]
      exact h.record_owner
    · rw [hdata, Record.isInitialized_founded _ h.record_length]
    · rw [Ledger.tranches, hdata, Record.tranches_founded _ h.record_length]
    · rw [hdata, Record.length_founded _ h.record_length]

/-- A tranche after a moment is what it was, or has been paid out by an unlock that came in time. -/
theorem Continues.tranche (h : m.Continues vesting) {i : Nat} {t : Tranche}
    (ht : (m.before.tranches vesting)[i]? = some t) :
    (m.after.tranches vesting)[i]? = some t ∨
      (m.after.tranches vesting)[i]? = some t.released ∧ m.Unlocks vesting ∧
        t.isDue m.host.clock = true := by
  rcases h.cases with ⟨hunlocks, htranches, -⟩ | ⟨-, htranches⟩
  · rw [htranches, Tranche.getElem?_release _ ht]
    cases hdue : t.isDue m.host.clock with
    | true => exact Or.inr ⟨rfl, hunlocks, rfl⟩
    | false => exact Or.inl rfl
  · rw [htranches]
    exact Or.inl ht

end Moment

/-! ## 3. Runs -/

/-- What the payouts of a contract have handed to transfers in the course of some moments. -/
def Moment.handedIn (vesting : Key) (ms : List Moment) : Nat :=
  ((ms.filter fun m => m.Unlocks vesting).map Moment.handed).sum

theorem Moment.handedIn_cons (vesting : Key) (m : Moment) (ms : List Moment) :
    handedIn vesting (m :: ms)
      = (if m.Unlocks vesting then m.handed else 0) + handedIn vesting ms := by
  unfold handedIn
  rw [List.filter_cons]
  by_cases h : m.Unlocks vesting
  · rw [if_pos (decide_eq_true h), if_pos h, List.map_cons, List.sum_cons]
  · rw [if_neg (by rwa [decide_eq_true_iff]), if_neg h, Nat.zero_add]

namespace Linked

variable {l l' : Ledger} {ms : List Moment} {host : Host} {vesting : Key}

/-- A contract that has been set up is never set up again, dropped or taken over. -/
theorem continues (h : Linked l ms l') (hhost : ∀ m ∈ ms, m.host.Alike host)
    (hprogram : host.program ≠ Key.tokenProgram) (hholds : l.Holds host vesting) :
    ∀ m ∈ ms, m.Continues vesting := by
  have hstep (m : Moment) (hm : m ∈ ms) (hsucceeds : m.Succeeds)
      (hbefore : m.before.Holds host vesting) : m.Continues vesting := by
    obtain ⟨c, hc, heffect⟩ := hsucceeds.effect
    refine heffect.record_after hc hsucceeds ?_ (hbefore.congr (hhost m hm).1.symm rfl)
    rw [(hhost m hm).1]
    exact hprogram
  obtain ⟨hall, -⟩ := h.keeps (P := (Ledger.Holds · host vesting))
    (fun l₁ l₂ hagrees hl => hl.congr rfl (hagrees vesting)) hholds
    fun m hm hsucceeds hbefore =>
      (hstep m hm hsucceeds hbefore).holds.congr (hhost m hm).1 rfl
  intro m hm
  obtain ⟨hsucceeds, hbefore⟩ := hall m hm
  exact hstep m hm hsucceeds hbefore

theorem length_data (h : Linked l ms l') (hcontinues : ∀ m ∈ ms, m.Continues vesting) :
    (l'.account vesting).data.length = (l.account vesting).data.length := by
  induction h with
  | nil hagrees => rw [hagrees vesting]
  | cons hagrees _ _ ih =>
    rw [ih fun m hm => hcontinues m (List.mem_cons_of_mem _ hm), hagrees vesting]
    exact (hcontinues _ List.mem_cons_self).length_eq

/-- **One tranche.**  It is what it was, or it has been paid out by an unlock that came in time. -/
theorem tranche (h : Linked l ms l') (hcontinues : ∀ m ∈ ms, m.Continues vesting) {i : Nat}
    {t : Tranche} (ht : (l.tranches vesting)[i]? = some t) :
    (l'.tranches vesting)[i]? = some t ∨
      (l'.tranches vesting)[i]? = some t.released ∧
        ∃ m ∈ ms, m.Unlocks vesting ∧ t.isDue m.host.clock = true := by
  induction h generalizing t with
  | nil hagrees =>
    left
    rw [Ledger.tranches, ← hagrees vesting]
    exact ht
  | @cons l l' m ms hagrees _ _ ih =>
    rw [Ledger.tranches, hagrees vesting] at ht
    have hrest : ∀ m' ∈ ms, m'.Continues vesting :=
      fun m' hm' => hcontinues m' (List.mem_cons_of_mem _ hm')
    rcases (hcontinues m List.mem_cons_self).tranche ht with hsame | ⟨hpaid, hunlocks, hdue⟩
    · rcases ih hrest hsame with hl | ⟨hl, m', hm', hlater⟩
      · exact Or.inl hl
      · exact Or.inr ⟨hl, m', List.mem_cons_of_mem _ hm', hlater⟩
    · right
      refine ⟨?_, m, List.mem_cons_self, hunlocks, hdue⟩
      rcases ih hrest hpaid with hl | ⟨hl, -⟩
      · exact hl
      · exact hl

/-- **The accounts.**  What has been paid out and what is left add up to what there was, also among
the tranches whose times satisfy `p`, as long as `p` holds of the times that were due whenever
anything was paid out. -/
theorem accounts (h : Linked l ms l') (hcontinues : ∀ m ∈ ms, m.Continues vesting)
    {p : UInt64 → Bool}
    (hp : ∀ m ∈ ms, m.Unlocks vesting →
      ∀ time : UInt64, (time.toNat : Int) ≤ m.host.clock → p time = true) :
    Moment.handedIn vesting ms + Tranche.totalOf p (l'.tranches vesting)
      = Tranche.totalOf p (l.tranches vesting) := by
  induction h with
  | nil hagrees =>
    rw [Moment.handedIn, List.filter_nil, List.map_nil, List.sum_nil, Nat.zero_add,
      Ledger.tranches, Ledger.tranches, hagrees vesting]
  | @cons l l' m ms hagrees _ _ ih =>
    have ih := ih (fun m' hm' => hcontinues m' (List.mem_cons_of_mem _ hm'))
      fun m' hm' => hp m' (List.mem_cons_of_mem _ hm')
    have hstep : (if m.Unlocks vesting then m.handed else 0)
        + Tranche.totalOf p (m.after.tranches vesting)
          = Tranche.totalOf p (m.before.tranches vesting) := by
      rcases (hcontinues m List.mem_cons_self).cases with
        ⟨hunlocks, htranches, escrow, target, -, -, hhands⟩ | ⟨hunlocks, htranches⟩
      · rw [if_pos hunlocks, htranches, hhands.handed_eq]
        exact Tranche.totalOf_release (hp m List.mem_cons_self hunlocks) _
      · rw [if_neg hunlocks, htranches, Nat.zero_add]
    have hbefore : l.tranches vesting = m.before.tranches vesting := by
      rw [Ledger.tranches, hagrees vesting, Ledger.tranches]
    rw [Moment.handedIn_cons, hbefore]
    omega

end Linked

/-- The contract `vesting` had the tranches `ts`, and the moments `later` have led to the ledger
`final`: every tranche has been released once at most, in full, and not before its time. -/
structure ReleasedOnce (vesting : Key) (ts : List Tranche) (later : List Moment) (final : Ledger) :
    Prop where
  /-- The record has the length that it had. -/
  length_data : (final.account vesting).data.length = Record.length ts.length
  /-- There are as many tranches. -/
  count : (final.tranches vesting).length = ts.length
  /-- Each is as it was, or nothing is left of it since an unlock that came in time. -/
  tranche : ∀ (i : Nat) (t : Tranche), ts[i]? = some t →
    (final.tranches vesting)[i]? = some t ∨
      (final.tranches vesting)[i]? = some t.released ∧
        ∃ n ∈ later, n.Unlocks vesting ∧ t.isDue n.host.clock = true
  /-- No moment but an unlock that comes in time changes a tranche. -/
  change : ∀ n ∈ later, ∀ (i : Nat) (t : Tranche), (n.before.tranches vesting)[i]? = some t →
    (n.after.tranches vesting)[i]? = some t ∨
      (n.after.tranches vesting)[i]? = some t.released ∧
        n.Unlocks vesting ∧ t.isDue n.host.clock = true
  /-- An unlock hands something to one transfer, out of the escrow that it names. -/
  handed : ∀ n ∈ later, n.Unlocks vesting →
    ∃ escrow target, n.order.keys[3]? = some escrow ∧ n.order.keys[4]? = some target ∧
      n.Hands escrow target n.handed
  /-- What the unlocks have handed to transfers and what is left are what there was. -/
  sum_eq : Moment.handedIn vesting later + Tranche.total (final.tranches vesting)
    = Tranche.total ts
  /-- No more has been handed out than was due at the latest clock of any unlock. -/
  in_time : ∀ latest : Int, (∀ n ∈ later, n.Unlocks vesting → n.host.clock ≤ latest) →
    Moment.handedIn vesting later ≤ Tranche.dueAt latest ts
  /-- The sum fits in 64 bits. -/
  fits : Moment.handedIn vesting later ≤ maxU64

/-- **No tranche is released early, twice or partly.**  In a run, let `m` be a moment that sets up
the contract `vesting` with the tranches `ts`, and let `later` be what follows.  The run may end
anywhere. -/
theorem Bank.tranches_released_once (b : Bank) (hprogram : b.host.program ≠ Key.tokenProgram)
    {steps : List Bank.Step} {past later : List Moment} {m : Moment}
    (htrail : b.trail steps = past ++ m :: later) {seeds : Seeds} {mint destination vesting : Key}
    {ts : List Tranche} (hcreate : m.Orders (.create seeds mint destination ts))
    (hderive : m.host.derive seeds.bytes m.host.program = .ok vesting) :
    ReleasedOnce vesting ts later (b.run steps).ledger := by
  obtain ⟨hsucceeds, hlater, hhost⟩ := from_moment htrail
  have hm := hhost m List.mem_cons_self
  obtain ⟨hholds, hfounds, hlength, htotal⟩ :=
    hsucceeds.founds (by rwa [hm.1]) hcreate hderive
  have hcontinues : ∀ n ∈ later, n.Continues vesting :=
    hlater.continues (fun n hn => hhost n (List.mem_cons_of_mem _ hn)) hprogram
      (hholds.congr hm.1 rfl)
  have haccounts : Moment.handedIn vesting later
      + Tranche.total ((b.run steps).ledger.tranches vesting) = Tranche.total ts := by
    have := hlater.accounts hcontinues (p := fun _ => true) fun _ _ _ _ _ => rfl
    rwa [hfounds, Tranche.totalOf_true, Tranche.totalOf_true] at this
  have hdata : ((b.run steps).ledger.account vesting).data.length = Record.length ts.length :=
    (hlater.length_data hcontinues).trans hlength
  refine ⟨hdata, ?_, ?_, ?_, ?_, haccounts, ?_, ?_⟩
  · rw [Ledger.tranches, Record.length_tranches, Record.capacity, hdata, Record.length]
    omega
  · intro i t ht
    rw [← hfounds] at ht
    exact hlater.tranche hcontinues ht
  · exact fun n hn i t ht => (hcontinues n hn).tranche ht
  · intro n hn hunlocks
    rcases (hcontinues n hn).cases with
      ⟨-, -, escrow, target, hescrow, htarget, hhands⟩ | ⟨hnot, -⟩
    · refine ⟨escrow, target, hescrow, htarget, ?_⟩
      rw [hhands.handed_eq]
      exact hhands
    · exact absurd hunlocks hnot
  · intro latest hlatest
    have := hlater.accounts hcontinues (p := fun time => (time.toNat : Int) ≤ latest)
      fun n hn hunlocks time htime =>
        decide_eq_true (Int.le_trans htime (hlatest n hn hunlocks))
    rw [hfounds] at this
    exact Nat.le.intro this
  · omega

/-- The first of two tranches is paid out, thirty tokens of a hundred. -/
theorem Bank.first_tranche_released_once :
    ReleasedOnce Sample.vesting Sample.tranches (Sample.founded.trail Sample.rest)
        (Sample.bank.run (.call (.process Sample.create) :: Sample.rest)).ledger ∧
      Moment.handedIn Sample.vesting (Sample.founded.trail Sample.rest) = 30 :=
  ⟨tranches_released_once Sample.bank Sample.program_ne Sample.trail Sample.orders_create rfl,
    by decide +kernel⟩

end Vesting
