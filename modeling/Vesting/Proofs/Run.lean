/-
# Runs

A bank is called again and again, and its clock may be set to anything in between.  A `Moment` is
one instruction at work: the host and the ledger it meets, and the order it carries out.  The
moments of a call are those that the bank comes to (`Bank.Call.moments`), and the trail of a run is
made of the moments of the calls that went through (`Bank.trail`): the others leave no trace.

Two facts make the moments worth having.

* `Bank.Call.run_ok`, `Bank.Call.run_error`: a call that goes through leaves the ledger of its last
  moment without the empty accounts, and any other call leaves the bank as it was.  Both rest on
  `Engine.plain_process`: no instruction sees what earlier ones have logged.
* `Bank.linked_trail`: along the trail every moment meets the accounts that the one before has left.

So a property of accounts that one moment keeps is kept by whole runs (`Linked.keeps`), and a
property of ledgers that one moment keeps is kept by calls (`Bank.Call.keeps`).
-/
import Vesting.Bank
import Vesting.Proofs.Commands
import Vesting.Proofs.Confinement

namespace Vesting

/-! ## 1. Orders and calls -/

/-- Bytes for a program, the accounts that go with them, and who has signed. -/
structure Order where
  program : Key
  keys : List Key
  data : Bytes
  signers : List Key

/-- What an instruction orders, with the authority of its own signers. -/
def Instruction.order (ix : Instruction) : Order := ⟨ix.program, ix.keys, ix.data, ix.signers⟩

/-- Carries out an order. -/
def Order.carry (host : Host) (o : Order) : Act Unit :=
  Bank.invoke host o.program o.keys o.data o.signers

/-- **An order stays with its keys.** -/
theorem Order.confined_carry {host : Host} {F : Fault → Prop} {l l' : Ledger} (hF : host.FailsBy F)
    (o : Order) (hl : l.AgreeOn o.keys l') :
    (o.carry host).Confined o.keys l l' F fun _ => True :=
  (Act.inspects_require _ (hF.rejected _)).bind_confined hl fun _ _ =>
    Engine.confined_process hF hl o.signers o.data

/-- What a bank can be called to do. -/
inductive Bank.Call
  /-- Raw command bytes, as a transaction of their own. -/
  | process (order : Order)
  /-- Instructions, as one transaction that `signers` have signed. -/
  | transaction (ixs : List Instruction) (signers : List Key)

namespace Bank.Call

def run (b : Bank) : Bank.Call → Outcome Unit
  | process o => b.process o.program o.keys o.data o.signers
  | transaction ixs signers => b.processTransaction ixs signers

/-- Who has signed the call. -/
def signed : Bank.Call → List Key
  | process o => o.signers
  | transaction _ signers => signers

/-- The orders that the bank takes up.  There are none if a signature is missing. -/
def orders : Bank.Call → List Order
  | process o => [o]
  | transaction ixs signers =>
    match Bank.missingSignature? ixs signers with
    | some _ => []
    | none => ixs.map Instruction.order

end Bank.Call

/-! ## 2. Moments -/

/-- An order about to be carried out. -/
structure Moment where
  host : Host
  order : Order
  before : Ledger

namespace Moment

/-- The order at work. -/
def exec (m : Moment) : Except Fault Unit × World := (m.order.carry m.host).exec ⟨m.before, []⟩

def result (m : Moment) : Except Fault Unit := m.exec.1

/-- The ledger that the order leaves, whatever its result. -/
def after (m : Moment) : Ledger := m.exec.2.ledger

/-- What the order has logged, the latest first. -/
def log (m : Moment) : List Event := m.exec.2.log

/-- The order is carried out. -/
def Succeeds (m : Moment) : Prop := m.result = .ok ()

instance (m : Moment) : Decidable m.Succeeds := inferInstanceAs (Decidable (_ = _))

/-- The moments that orders come to, one behind the other, up to the first that fails. -/
def sequence (host : Host) : Ledger → List Order → List Moment
  | _, [] => []
  | l, o :: os =>
    let m : Moment := ⟨host, o, l⟩
    m :: match m.result with
      | .ok () => sequence host m.after os
      | .error _ => []

/-- The ledger behind the last moment. -/
def last (l : Ledger) (ms : List Moment) : Ledger := ms.foldl (fun _ m => m.after) l

end Moment

/-- The moments that a call comes to, whether it goes through or not. -/
def Bank.Call.moments (b : Bank) (c : Bank.Call) : List Moment :=
  Moment.sequence b.host b.ledger c.orders

/-! ## 3. Calls that are made one after the other -/

/-- What may happen to a bank. -/
inductive Bank.Step
  /-- The clock is set, to any value. -/
  | clock (now : Int)
  | call (c : Bank.Call)

namespace Bank.Step

def run (b : Bank) : Bank.Step → Bank
  | clock now => b.atClock now
  | call c => (c.run b).bank

/-- The moments that count: those of a call that goes through. -/
def trail (b : Bank) : Bank.Step → List Moment
  | clock _ => []
  | call c =>
    match (c.run b).result with
    | .ok () => c.moments b
    | .error _ => []

end Bank.Step

namespace Bank

/-- The bank after a run. -/
def run (b : Bank) : List Bank.Step → Bank
  | [] => b
  | s :: rest => (s.run b).run rest

/-- The moments of a run that count. -/
def trail (b : Bank) : List Bank.Step → List Moment
  | [] => []
  | s :: rest => s.trail b ++ (s.run b).trail rest

end Bank

/-! ## 4. Moments and commands -/

namespace Moment

variable {m : Moment}

theorem plain_carry (host : Host) (o : Order) : Act.Plain (o.carry host) :=
  .bind (.require _ _) fun _ => Engine.plain_process host o.signers o.keys o.data

/-- What an order does to a ledger does not depend on what has been logged. -/
theorem exec_carry (m : Moment) (log : List Event) :
    (m.order.carry m.host).exec ⟨m.before, log⟩ = (m.result, ⟨m.after, m.log ++ log⟩) :=
  (plain_carry m.host m.order).exec_log m.before log

/-- **An order that is carried out is a command for the program that runs here.** -/
theorem Succeeds.command (h : m.Succeeds) :
    m.order.program = m.host.program ∧
      ∃ c, Command.decode false m.order.data = .ok c ∧
        (Engine.perform m.host m.order.signers m.order.keys c).Yields
          ⟨m.before, [.started c.kind]⟩ () ⟨m.after, m.log⟩ := by
  have hy : (m.order.carry m.host).Yields ⟨m.before, []⟩ () ⟨m.after, m.log⟩ :=
    Prod.ext h rfl
  obtain ⟨hprogram, hy⟩ := Act.yields_require_bind.1 hy
  exact ⟨hprogram, Engine.yields_process.1 hy⟩

/-- **An order that is not carried out leaves the ledger as it was.** -/
theorem after_eq_before (h : ¬ m.Succeeds) : m.after = m.before := by
  have hatomic : (m.order.carry m.host).Atomic ⟨m.before, []⟩ :=
    (m.order.confined_carry m.host.failsBy_anyhow fun _ _ => rfl).atomic
  cases hr : m.result with
  | ok u => exact absurd hr h
  | error why => exact hatomic why ⟨m.after, m.log⟩ (Prod.ext hr rfl)

/-! ## 5. The moments of a call -/

theorem sequence_of_succeeds {host : Host} {l : Ledger} {o : Order}
    (h : (⟨host, o, l⟩ : Moment).Succeeds) (os : List Order) :
    sequence host l (o :: os)
      = ⟨host, o, l⟩ :: sequence host (Moment.after ⟨host, o, l⟩) os := by
  have hr : Moment.result ⟨host, o, l⟩ = .ok () := h
  rw [sequence, hr]

theorem sequence_of_error {host : Host} {l : Ledger} {o : Order} {why : Fault}
    (h : (⟨host, o, l⟩ : Moment).result = .error why) (os : List Order) :
    sequence host l (o :: os) = [⟨host, o, l⟩] := by
  rw [sequence, h]

theorem mem_sequence {host : Host} {os : List Order} {l : Ledger} {m : Moment}
    (h : m ∈ sequence host l os) : m.host = host ∧ m.order ∈ os := by
  induction os generalizing l with
  | nil => cases h
  | cons o os ih =>
    rw [sequence] at h
    rcases List.mem_cons.1 h with rfl | h
    · exact ⟨rfl, List.mem_cons_self⟩
    · split at h
      · obtain ⟨hhost, horder⟩ := ih h
        exact ⟨hhost, List.mem_cons_of_mem o horder⟩
      · cases h

/-- **Orders that are carried out one after the other.**  Every moment succeeds, and the ledger is
the one behind the last. -/
theorem yields_forM {host : Host} {os : List Order} {l : Ledger} {log : List Event} {u : PUnit}
    {w' : World} (h : Act.Yields (os.forM (Order.carry host)) ⟨l, log⟩ u w') :
    (∀ m ∈ sequence host l os, m.Succeeds) ∧ w'.ledger = last l (sequence host l os) := by
  induction os generalizing l log with
  | nil =>
    cases h
    exact ⟨List.forall_mem_nil _, rfl⟩
  | cons o os ih =>
    obtain ⟨u₁, w₁, hfirst, hrest⟩ := Act.yields_bind.1 h
    have hm : (Except.ok u₁, w₁) = _ := hfirst.symm.trans (exec_carry ⟨host, o, l⟩ log)
    obtain ⟨hresult, hw₁⟩ := Prod.ext_iff.1 hm
    have hsucceeds : (⟨host, o, l⟩ : Moment).Succeeds := hresult.symm
    simp only at hw₁
    subst hw₁
    obtain ⟨hall, hlast⟩ := ih hrest
    rw [sequence_of_succeeds hsucceeds]
    refine ⟨?_, hlast⟩
    intro m hmem
    rcases List.mem_cons.1 hmem with rfl | hmem
    · exact hsucceeds
    · exact hall m hmem

/-- **What breaks orders off breaks off one of them.** -/
theorem breaks_forM {host : Host} {os : List Order} {l : Ledger} {log : List Event} {why : Fault}
    {w' : World} (h : Act.Breaks (os.forM (Order.carry host)) ⟨l, log⟩ why w') :
    ∃ m ∈ sequence host l os, m.result = .error why := by
  induction os generalizing l log with
  | nil => cases h
  | cons o os ih =>
    rcases Act.breaks_bind.1 h with hfirst | ⟨u₁, w₁, hfirst, hrest⟩
    · have hm : (Except.error why, w') = _ := hfirst.symm.trans (exec_carry ⟨host, o, l⟩ log)
      have hresult : (⟨host, o, l⟩ : Moment).result = .error why := (Prod.ext_iff.1 hm).1.symm
      exact ⟨_, by rw [sequence_of_error hresult]; exact List.mem_singleton_self _, hresult⟩
    · have hm : (Except.ok u₁, w₁) = _ := hfirst.symm.trans (exec_carry ⟨host, o, l⟩ log)
      obtain ⟨hresult, hw₁⟩ := Prod.ext_iff.1 hm
      simp only at hw₁
      subst hw₁
      obtain ⟨m, hmem, hwhy⟩ := ih hrest
      refine ⟨m, ?_, hwhy⟩
      rw [sequence_of_succeeds hresult.symm]
      exact List.mem_cons_of_mem _ hmem

/-- A property of ledgers that every successful moment keeps holds before each moment, and in the
end. -/
theorem sequence_keeps {P : Ledger → Prop} {host : Host} {os : List Order} {l : Ledger}
    (hP : P l)
    (hstep : ∀ m ∈ sequence host l os, m.Succeeds → P m.before → P m.after) :
    (∀ m ∈ sequence host l os, P m.before) ∧ P (last l (sequence host l os)) := by
  induction os generalizing l with
  | nil => exact ⟨List.forall_mem_nil _, hP⟩
  | cons o os ih =>
    cases hr : (⟨host, o, l⟩ : Moment).result with
    | ok u =>
      have hsucceeds : (⟨host, o, l⟩ : Moment).Succeeds := hr
      rw [sequence_of_succeeds hsucceeds] at hstep ⊢
      have hafter : P (Moment.after ⟨host, o, l⟩) :=
        hstep _ List.mem_cons_self hsucceeds hP
      obtain ⟨hbefore, hlast⟩ := ih hafter fun m hm => hstep m (List.mem_cons_of_mem _ hm)
      refine ⟨?_, hlast⟩
      intro m hm
      rcases List.mem_cons.1 hm with rfl | hm
      · exact hP
      · exact hbefore m hm
    | error why =>
      have hfails : ¬ (⟨host, o, l⟩ : Moment).Succeeds := by
        intro hs
        cases hr.symm.trans hs
      rw [sequence_of_error hr]
      refine ⟨?_, ?_⟩
      · intro m hm
        rw [List.mem_singleton.1 hm]
        exact hP
      · show P (Moment.after ⟨host, o, l⟩)
        rw [after_eq_before hfails]
        exact hP

end Moment

namespace Bank

theorem transact_ok {b : Bank} {act : Act Unit} (h : (b.transact act).result = .ok ()) :
    ∃ w, act.Yields ⟨b.ledger, []⟩ () w ∧
      (b.transact act).bank = { b with ledger := w.ledger.sweep } := by
  unfold transact at h ⊢
  split at h
  · rename_i w hw
    exact ⟨w, hw, rfl⟩
  · cases h

theorem transact_error {b : Bank} {act : Act Unit} {why : Fault}
    (h : (b.transact act).result = .error why) :
    (∃ w, act.Breaks ⟨b.ledger, []⟩ why w) ∧ (b.transact act).bank = b := by
  unfold transact at h ⊢
  split at h
  · cases h
  · rename_i why' w hw
    cases h
    exact ⟨⟨w, hw⟩, rfl⟩

end Bank

namespace Bank.Call

variable {b : Bank} {c : Bank.Call}

theorem orders_of_missing {ixs : List Instruction} {signers : List Key} {key : Key}
    (h : Bank.missingSignature? ixs signers = some key) :
    (transaction ixs signers).orders = [] := by
  simp only [orders, h]

theorem orders_of_signed {ixs : List Instruction} {signers : List Key}
    (h : Bank.missingSignature? ixs signers = none) :
    (transaction ixs signers).orders = ixs.map Instruction.order := by
  simp only [orders, h]

/-- To perform an instruction is to carry out its order. -/
theorem forM_perform (host : Host) (ixs : List Instruction) :
    ixs.forM (Bank.perform host) = (ixs.map Instruction.order).forM (Order.carry host) := by
  induction ixs with
  | nil => rfl
  | cons ix ixs ih =>
    show (Bank.perform host ix >>= fun _ => ixs.forM (Bank.perform host)) = _
    rw [ih]
    rfl

/-- A call is a transaction of the orders that the bank takes up, unless a signature is missing. -/
theorem run_eq (b : Bank) (c : Bank.Call) :
    c.run b = b.transact (c.orders.forM (Order.carry b.host)) ∨
      ∃ key, c.run b = ⟨.error (.rejected (.missingSignature key)), b, []⟩ := by
  cases c with
  | process o =>
    left
    show b.transact (o.carry b.host) = b.transact (o.carry b.host >>= fun _ => pure ())
    rw [bind_pure_unit]
  | transaction ixs signers =>
    show b.processTransaction ixs signers = _ ∨ ∃ key, b.processTransaction ixs signers = _
    cases hmissing : Bank.missingSignature? ixs signers with
    | some key =>
      right
      exact ⟨key, by rw [Bank.processTransaction, hmissing]⟩
    | none =>
      left
      rw [Bank.processTransaction, hmissing, orders_of_signed hmissing, ← forM_perform]

/-- **A call that goes through.**  All of its moments succeed, and the bank is left with the ledger
behind the last of them, without the empty accounts. -/
theorem run_ok (h : (c.run b).result = .ok ()) :
    (∀ m ∈ c.moments b, m.Succeeds) ∧
      (c.run b).bank = { b with ledger := (Moment.last b.ledger (c.moments b)).sweep } := by
  rcases run_eq b c with hc | ⟨key, hc⟩
  · rw [hc] at h ⊢
    obtain ⟨w, hy, hbank⟩ := Bank.transact_ok h
    obtain ⟨hall, hlast⟩ := Moment.yields_forM hy
    refine ⟨hall, ?_⟩
    rw [hbank, hlast]
    rfl
  · rw [hc] at h
    cases h

/-- **A call that fails.**  The bank is as it was, and the fault is that of one of the moments,
unless a signature is missing. -/
theorem run_error {why : Fault} (h : (c.run b).result = .error why) :
    (c.run b).bank = b ∧
      ((∃ key, why = .rejected (.missingSignature key)) ∨
        ∃ m ∈ c.moments b, m.result = .error why) := by
  rcases run_eq b c with hc | ⟨key, hc⟩
  · rw [hc] at h ⊢
    obtain ⟨⟨w, hb⟩, hbank⟩ := Bank.transact_error h
    exact ⟨hbank, Or.inr (Moment.breaks_forM hb)⟩
  · rw [hc] at h ⊢
    cases h
    exact ⟨rfl, Or.inl ⟨key, rfl⟩⟩

theorem host_run (b : Bank) (c : Bank.Call) : (c.run b).bank.host = b.host := by
  cases hr : (c.run b).result with
  | ok u => rw [(run_ok hr).2]
  | error why => rw [(run_error hr).1]

theorem host_of_mem_moments {m : Moment} (h : m ∈ c.moments b) : m.host = b.host :=
  (Moment.mem_sequence h).1

/-- Raw bytes make one moment. -/
theorem moments_process (b : Bank) (o : Order) :
    (process o).moments b = [⟨b.host, o, b.ledger⟩] := by
  show Moment.sequence b.host b.ledger [o] = [⟨b.host, o, b.ledger⟩]
  rw [Moment.sequence]
  split
  · rfl
  · rfl

/-- **Every moment of a call has the signers of its own order, and they have signed the call.** -/
theorem signers_subset {m : Moment} (h : m ∈ c.moments b) :
    ∀ k ∈ m.order.signers, k ∈ c.signed := by
  have horder := (Moment.mem_sequence h).2
  cases c with
  | process o =>
    rw [List.mem_singleton.1 horder]
    exact fun k hk => hk
  | transaction ixs signers =>
    cases hmissing : Bank.missingSignature? ixs signers with
    | some key =>
      rw [orders_of_missing hmissing] at horder
      cases horder
    | none =>
      rw [orders_of_signed hmissing] at horder
      obtain ⟨ix, hix, hm⟩ := List.mem_map.1 horder
      intro k hk
      rw [← hm] at hk
      have hall := List.find?_eq_none.1 hmissing k (List.mem_flatMap.2 ⟨ix, hix, hk⟩)
      have hsigned : k ∈ signers := by simpa using hall
      exact hsigned

/-- **What moments keep, calls keep.** -/
theorem keeps {P : Ledger → Prop} (hP : P b.ledger) (hsweep : ∀ l, P l → P l.sweep)
    (hstep : ∀ m ∈ c.moments b, m.Succeeds → P m.before → P m.after) :
    (∀ m ∈ c.moments b, P m.before) ∧ P (c.run b).bank.ledger := by
  obtain ⟨hbefore, hlast⟩ := Moment.sequence_keeps hP hstep
  refine ⟨hbefore, ?_⟩
  cases hr : (c.run b).result with
  | ok u =>
    rw [(run_ok hr).2]
    exact hsweep _ hlast
  | error why =>
    rw [(run_error hr).1]
    exact hP

end Bank.Call

/-! ## 6. The trail of a run -/

/-- Hosts that differ in their clocks at most. -/
def Host.Alike (host host' : Host) : Prop :=
  host.program = host'.program ∧ host.derive = host'.derive

theorem Host.Alike.symm {h₁ h₂ : Host} (h : h₁.Alike h₂) : h₂.Alike h₁ := ⟨h.1.symm, h.2.symm⟩

theorem Host.Alike.trans {h₁ h₂ h₃ : Host} (h : h₁.Alike h₂) (h' : h₂.Alike h₃) : h₁.Alike h₃ :=
  ⟨h.1.trans h'.1, h.2.trans h'.2⟩

/-- The ledgers hold the same accounts. -/
def Ledger.Agrees (l l' : Ledger) : Prop := ∀ k, l.account k = l'.account k

theorem Ledger.agrees_sweep (l : Ledger) : l.Agrees l.sweep := fun k => (l.account_sweep k).symm

/-- An account that is not empty is stored. -/
theorem Ledger.get?_of_ne_empty {l : Ledger} {k : Key} (h : l.account k ≠ .empty) :
    l.get? k = some (l.account k) := by
  unfold account at h ⊢
  cases hget : l.get? k with
  | none =>
    rw [hget] at h
    exact absurd rfl h
  | some a => rfl

/-- A ledger that has been swept stores its accounts, except those that are empty. -/
theorem Ledger.get?_sweep (l : Ledger) (k : Key) :
    l.sweep.get? k = if l.account k = .empty then none else some (l.account k) := by
  rw [sweep, get?_filter, account]
  cases l.get? k with
  | none => rfl
  | some a =>
    by_cases ha : a.isEmpty = true
    · rw [Option.getD_some, if_pos (Account.isEmpty_iff.1 ha)]
      simp [Option.filter, ha]
    · rw [Option.getD_some, if_neg (mt Account.isEmpty_iff.2 ha)]
      simp [Option.filter, ha]

/-- Ledgers that hold the same accounts are the same maps once they have been swept. -/
theorem Ledger.Agrees.get?_sweep {l l' : Ledger} (h : l.Agrees l') (k : Key) :
    l.sweep.get? k = l'.sweep.get? k := by
  rw [Ledger.get?_sweep, Ledger.get?_sweep, h k]

/-- Successful moments that lead from one ledger to another, each of which meets the accounts that
the one before has left. -/
inductive Linked : Ledger → List Moment → Ledger → Prop
  | nil {l l' : Ledger} (h : l.Agrees l') : Linked l [] l'
  | cons {l l' : Ledger} {m : Moment} {ms : List Moment} (h : l.Agrees m.before)
      (hm : m.Succeeds) (rest : Linked m.after ms l') : Linked l (m :: ms) l'

namespace Linked

variable {l l' l'' : Ledger} {m : Moment} {ms past later : List Moment}

theorem agrees_left (hl : l''.Agrees l) (h : Linked l ms l') : Linked l'' ms l' := by
  cases h with
  | nil h => exact .nil fun k => (hl k).trans (h k)
  | cons h hm rest => exact .cons (fun k => (hl k).trans (h k)) hm rest

/-- Where no moment lies between two ledgers, they hold the same accounts. -/
theorem agrees (h : Linked l [] l') : l.Agrees l' := by
  cases h with
  | nil h => exact h

theorem append (h : Linked l past l') (h' : Linked l' later l'') :
    Linked l (past ++ later) l'' := by
  induction h with
  | nil h => exact h'.agrees_left h
  | cons h hm _ ih => exact .cons h hm (ih h')

/-- What follows a moment starts from the ledger that the moment leaves. -/
theorem behind (h : Linked l (past ++ m :: later) l') : m.Succeeds ∧ Linked m.after later l' := by
  induction past generalizing l with
  | nil =>
    cases h with
    | cons _ hm rest => exact ⟨hm, rest⟩
  | cons m₀ past ih =>
    cases h with
    | cons _ _ rest => exact ih rest

theorem sequence {host : Host} {os : List Order} (h : ∀ m ∈ Moment.sequence host l os, m.Succeeds) :
    Linked l (Moment.sequence host l os) (Moment.last l (Moment.sequence host l os)) := by
  induction os generalizing l with
  | nil => exact .nil fun _ => rfl
  | cons o os ih =>
    have hm : (⟨host, o, l⟩ : Moment).Succeeds := by
      refine h _ ?_
      rw [Moment.sequence]
      exact List.mem_cons_self
    rw [Moment.sequence_of_succeeds hm] at h ⊢
    exact .cons (fun _ => rfl) hm (ih fun m' hm' => h m' (List.mem_cons_of_mem _ hm'))

/-- **What moments keep, runs keep.**  A property of accounts that every successful moment keeps
holds before each moment, and in the end. -/
theorem keeps {P : Ledger → Prop} (hagrees : ∀ l₁ l₂, l₁.Agrees l₂ → P l₁ → P l₂)
    (h : Linked l ms l') (hP : P l)
    (hstep : ∀ m ∈ ms, m.Succeeds → P m.before → P m.after) :
    (∀ m ∈ ms, m.Succeeds ∧ P m.before) ∧ P l' := by
  induction h with
  | nil h => exact ⟨List.forall_mem_nil _, hagrees _ _ h hP⟩
  | cons h hm _ ih =>
    have hbefore := hagrees _ _ h hP
    have hafter := hstep _ List.mem_cons_self hm hbefore
    obtain ⟨hall, hlast⟩ := ih hafter fun m' hm' => hstep m' (List.mem_cons_of_mem _ hm')
    refine ⟨?_, hlast⟩
    intro m' hm'
    rcases List.mem_cons.1 hm' with rfl | hm'
    · exact ⟨hm, hbefore⟩
    · exact hall m' hm'

end Linked

namespace Bank

/-- **The trail of a run leads from its first ledger to its last.** -/
theorem linked_trail (b : Bank) (steps : List Bank.Step) :
    Linked b.ledger (b.trail steps) (b.run steps).ledger := by
  induction steps generalizing b with
  | nil => exact .nil fun _ => rfl
  | cons s steps ih =>
    have hstep : Linked b.ledger (s.trail b) (s.run b).ledger := by
      cases s with
      | clock now => exact .nil fun _ => rfl
      | call c =>
        show Linked b.ledger (Bank.Step.trail b (.call c)) (c.run b).bank.ledger
        cases hr : (c.run b).result with
        | ok u =>
          obtain ⟨hall, hbank⟩ := Bank.Call.run_ok hr
          have hlinked := (Linked.sequence hall).append (.nil (Ledger.agrees_sweep _))
          rw [List.append_nil] at hlinked
          rw [Bank.Step.trail, hr, hbank]
          exact hlinked
        | error why =>
          rw [Bank.Step.trail, hr, (Bank.Call.run_error hr).1]
          exact .nil fun _ => rfl
    exact hstep.append (ih _)

/-- One run may go on where another has ended. -/
theorem run_append (b : Bank) (steps more : List Bank.Step) :
    b.run (steps ++ more) = (b.run steps).run more := by
  induction steps generalizing b with
  | nil => rfl
  | cons s steps ih => exact ih (s.run b)

/-- The trail of a run goes on where another run has ended. -/
theorem trail_append (b : Bank) (steps more : List Bank.Step) :
    b.trail (steps ++ more) = b.trail steps ++ (b.run steps).trail more := by
  induction steps generalizing b with
  | nil => rfl
  | cons s steps ih =>
    show s.trail b ++ (s.run b).trail (steps ++ more) = _
    rw [ih, ← List.append_assoc]
    rfl

/-- An order that goes through is the last moment of the run that ends with it. -/
theorem mem_trail_process (b : Bank) (steps : List Bank.Step) (o : Order)
    (hok : ((Call.process o).run (b.run steps)).result = .ok ()) :
    ⟨(b.run steps).host, o, (b.run steps).ledger⟩ ∈ b.trail (steps ++ [.call (.process o)]) := by
  rw [trail_append]
  refine List.mem_append_right _ (List.mem_append_left _ ?_)
  rw [Bank.Step.trail, hok, Call.moments_process]
  exact List.mem_singleton_self _

/-- A run changes the clock of the host at most. -/
theorem host_run (b : Bank) (steps : List Bank.Step) : (b.run steps).host.Alike b.host := by
  induction steps generalizing b with
  | nil => exact ⟨rfl, rfl⟩
  | cons s steps ih =>
    have hs : (s.run b).host.Alike b.host := by
      cases s with
      | clock now => exact ⟨rfl, rfl⟩
      | call c =>
        show (c.run b).bank.host.Alike b.host
        rw [Bank.Call.host_run]
        exact ⟨rfl, rfl⟩
    exact (ih (s.run b)).trans hs

/-- All moments of a run meet the same program and the same derivation. -/
theorem host_of_mem_trail {b : Bank} {steps : List Bank.Step} {m : Moment} (h : m ∈ b.trail steps) :
    m.host.Alike b.host := by
  induction steps generalizing b with
  | nil => cases h
  | cons s steps ih =>
    rcases List.mem_append.1 h with h | h
    · cases s with
      | clock now => cases h
      | call c =>
        rw [Bank.Step.trail] at h
        split at h
        · rw [Bank.Call.host_of_mem_moments h]
          exact ⟨rfl, rfl⟩
        · cases h
    · exact (ih h).trans (host_run b [s])

theorem program_ne_of_mem_trail {b : Bank} {steps : List Bank.Step} {m : Moment} {program : Key}
    (hprogram : b.host.program ≠ program) (h : m ∈ b.trail steps) : m.host.program ≠ program := by
  rw [(host_of_mem_trail h).1]
  exact hprogram

/-- **What moments keep on their own host, runs keep.**  The property may look at the host, but not
at its clock. -/
theorem trail_keeps {P : Host → Ledger → Prop} {b : Bank} {steps : List Bank.Step}
    (hcongr : ∀ {host host' l l'}, host.Alike host' → l.Agrees l' → P host l → P host' l')
    (hP : P b.host b.ledger)
    (hstep : ∀ m ∈ b.trail steps, m.Succeeds → P m.host m.before → P m.host m.after) :
    (∀ m ∈ b.trail steps, m.Succeeds ∧ P m.host m.before) ∧ P b.host (b.run steps).ledger := by
  obtain ⟨hall, hlast⟩ := (b.linked_trail steps).keeps (P := P b.host)
    (fun _ _ hagrees => hcongr ⟨rfl, rfl⟩ hagrees) hP fun m hm hsucceeds hbefore => by
      have halike := host_of_mem_trail hm
      have hafter := hstep m hm hsucceeds (hcongr halike.symm (fun _ => rfl) hbefore)
      exact hcongr halike (fun _ => rfl) hafter
  refine ⟨fun m hm => ⟨(hall m hm).1, ?_⟩, hlast⟩
  exact hcongr (host_of_mem_trail hm).symm (fun _ => rfl) (hall m hm).2

/-- What is known of a run from one of its moments on: the moment succeeds, what follows starts
from the ledger that it leaves, and the host stays but for its clock. -/
theorem from_moment {b : Bank} {steps : List Bank.Step} {past later : List Moment} {m : Moment}
    (htrail : b.trail steps = past ++ m :: later) :
    m.Succeeds ∧ Linked m.after later (b.run steps).ledger ∧
      ∀ n ∈ m :: later, n.host.Alike b.host := by
  have hlinked := b.linked_trail steps
  rw [htrail] at hlinked
  obtain ⟨hsucceeds, hlater⟩ := hlinked.behind
  refine ⟨hsucceeds, hlater, ?_⟩
  intro n hn
  have hmem : n ∈ b.trail steps := by
    rw [htrail]
    exact List.mem_append_right _ hn
  exact host_of_mem_trail hmem

end Bank
end Vesting
