/-
# Transactions compose

Two lists of instructions may be run as one transaction or as two, one after the other: the one goes
through exactly if the two do, and then it leaves the same ledger (`Bank.transactions_compose`).

The ledgers on the way are not the same.  Between the two transactions empty accounts are dropped,
and within the one they stay.  What makes up for this is that commands ask for accounts only
(`Act.Plain`), and that an account that is not there counts as an empty one: on ledgers that hold
the same accounts an act has the same result, logs the same events and leaves the same accounts
(`Act.Plain.exec_alike`).  What is stored without need is dropped in the end.
-/
import Vesting.Proofs.Effect

namespace Vesting

/-! ## 1. Worlds with the same accounts -/

/-- Worlds in which the same accounts are there and the same events have happened. -/
structure World.Alike (w w' : World) : Prop where
  agrees : w.ledger.Agrees w'.ledger
  log_eq : w.log = w'.log

theorem Ledger.Agrees.insert {l l' : Ledger} (h : l.Agrees l') (key : Key) (a : Account) :
    (l.insert key a).Agrees (l'.insert key a) := by
  intro k
  rw [account_insert, account_insert, h k]

namespace Act

variable {α : Type}

/-- **An act does the same wherever the same accounts are there.** -/
theorem Plain.exec_alike {act : Act α} (h : Plain act) {w w' : World} (hw : w.Alike w') :
    (act.exec w).1 = (act.exec w').1 ∧ (act.exec w).2.Alike (act.exec w').2 := by
  induction h generalizing w w' with
  | pure a => exact ⟨rfl, hw⟩
  | fail why => exact ⟨rfl, hw⟩
  | note es =>
    refine ⟨rfl, hw.agrees, ?_⟩
    show es.reverse ++ w.log = es.reverse ++ w'.log
    rw [hw.log_eq]
  | account key =>
    refine ⟨?_, hw⟩
    show Except.ok (w.ledger.account key) = Except.ok (w'.ledger.account key)
    rw [hw.agrees key]
  | store key a => exact ⟨rfl, hw.agrees.insert key a, hw.log_eq⟩
  | @bind _ _ x f _ _ ihx ihf =>
    obtain ⟨hresult, hleft⟩ := ihx hw
    rw [exec_bind, exec_bind]
    revert hresult hleft
    rcases x.exec w with ⟨r, w₁⟩
    rcases x.exec w' with ⟨r', w₁'⟩
    rintro ⟨⟩ hleft
    cases r with
    | ok a => exact ihf a hleft
    | error why => exact ⟨rfl, hleft⟩
  | @handle _ x f _ _ ihx ihf =>
    obtain ⟨hresult, hleft⟩ := ihx hw
    rw [exec_tryCatch, exec_tryCatch]
    revert hresult hleft
    rcases x.exec w with ⟨r, w₁⟩
    rcases x.exec w' with ⟨r', w₁'⟩
    rintro ⟨⟩ hleft
    cases r with
    | ok a => exact ⟨rfl, hleft⟩
    | error why => exact ihf why hleft

/-- What has been logged before makes no difference either. -/
theorem Plain.exec_agrees {act : Act α} (h : Plain act) {l l' : Ledger} (hl : l.Agrees l')
    (log : List Event) :
    (act.exec ⟨l, log⟩).1 = (act.exec ⟨l', []⟩).1 ∧
      (act.exec ⟨l, log⟩).2.ledger.Agrees (act.exec ⟨l', []⟩).2.ledger := by
  rw [h.exec_log l log]
  have hstart : World.Alike ⟨l, []⟩ ⟨l', []⟩ := ⟨hl, rfl⟩
  obtain ⟨hresult, hleft⟩ := h.exec_alike hstart
  exact ⟨hresult, hleft.agrees⟩

end Act

/-! ## 2. Transactions -/

namespace Bank

variable {b : Bank} {act : Act Unit}

/-- An act that goes through leaves its ledger without the empty accounts. -/
theorem transact_of_yields {w : World} (h : act.Yields ⟨b.ledger, []⟩ () w) :
    b.transact act = ⟨.ok (), { b with ledger := w.ledger.sweep }, w.log.reverse⟩ := by
  have hw : act.run.run ⟨b.ledger, []⟩ = (.ok (), w) := h
  unfold transact
  rw [hw]

/-- An act that is broken off leaves the bank as it was. -/
theorem transact_of_breaks {why : Fault} {w : World} (h : act.Breaks ⟨b.ledger, []⟩ why w) :
    b.transact act = ⟨.error why, b, w.log.reverse⟩ := by
  have hw : act.run.run ⟨b.ledger, []⟩ = (.error why, w) := h
  unfold transact
  rw [hw]

/-- **An act may be split into two transactions.** -/
theorem transact_bind {first second : Act Unit} (hsecond : Act.Plain second) :
    ((b.transact (first >>= fun _ => second)).result = .ok () ↔
      (b.transact first).result = .ok () ∧
        ((b.transact first).bank.transact second).result = .ok ()) ∧
    ((b.transact (first >>= fun _ => second)).result = .ok () → ∀ k,
      (b.transact (first >>= fun _ => second)).bank.ledger.get? k
        = ((b.transact first).bank.transact second).bank.ledger.get? k) := by
  rcases hfirst : first.exec ⟨b.ledger, []⟩ with ⟨r, w⟩
  have hboth := Act.exec_bind first (fun _ => second) ⟨b.ledger, []⟩
  rw [hfirst] at hboth
  cases r with
  | error why =>
    rw [transact_of_breaks hfirst, transact_of_breaks hboth]
    simp
  | ok u =>
    have hboth : (first >>= fun _ => second).exec ⟨b.ledger, []⟩ = second.exec w := hboth
    -- the second act meets what the first has left, with the empty accounts or without them
    obtain ⟨hresult, hagrees⟩ := hsecond.exec_agrees w.ledger.agrees_sweep w.log
    rw [transact_of_yields hfirst]
    rcases hsplit : second.exec ⟨w.ledger.sweep, []⟩ with ⟨r₂, w₂⟩
    rcases hwhole : second.exec w with ⟨r₁, w₁⟩
    have hwhole' : second.exec ⟨w.ledger, w.log⟩ = (r₁, w₁) := hwhole
    rw [hsplit, hwhole'] at hresult hagrees
    obtain rfl : r₁ = r₂ := hresult
    rw [hwhole] at hboth
    cases r₁ with
    | error why =>
      rw [transact_of_breaks hboth, transact_of_breaks (b := { b with ledger := w.ledger.sweep })
        hsplit]
      simp
    | ok v =>
      rw [transact_of_yields hboth, transact_of_yields (b := { b with ledger := w.ledger.sweep })
        hsplit]
      exact ⟨by simp, fun _ k => Ledger.Agrees.get?_sweep hagrees k⟩

/-! ## 3. Commands handed to the bank -/

section Command

open Act

variable {host : Host} {program : Key} {signers keys : List Key} {data : Bytes} {c : Command}
  {l : Ledger} {log : List Event} {w : World}

/-- Bytes that hold a command are carried out as the entry does it. -/
theorem exec_invoke (hprogram : program = host.program)
    (hdecode : Command.decode false data = .ok c) (l : Ledger) (log : List Event) :
    (invoke host program keys data signers).exec ⟨l, log⟩ =
      let done := (Engine.perform host signers keys c).exec ⟨l, .started c.kind :: log⟩
      (done.1, ⟨done.2.ledger, Engine.refusals done.1 ++ done.2.log⟩) := by
  unfold invoke
  rw [exec_bind_of_yields (a := ()) (yields_require.2 ⟨hprogram, rfl⟩),
    Engine.exec_process hdecode]

/-- A command that goes through goes through when its bytes are handed to its program. -/
theorem yields_invoke (hprogram : program = host.program)
    (hdecode : Command.decode false data = .ok c)
    (h : (Engine.perform host signers keys c).Yields ⟨l, .started c.kind :: log⟩ () w) :
    (invoke host program keys data signers).Yields ⟨l, log⟩ () w := by
  unfold Yields at h
  rw [Yields, exec_invoke hprogram hdecode, h]
  rfl

/-- A command that is refused is refused when its bytes are handed to its program. -/
theorem breaks_invoke (hprogram : program = host.program)
    (hdecode : Command.decode false data = .ok c) {r : Rejection}
    (h : (Engine.perform host signers keys c).Breaks ⟨l, .started c.kind :: log⟩ (.rejected r)
      w) :
    (invoke host program keys data signers).Breaks ⟨l, log⟩ (.rejected r)
      ⟨w.ledger, .refused r :: w.log⟩ := by
  unfold Breaks at h
  rw [Breaks, exec_invoke hprogram hdecode, h]
  rfl

end Command

/-! ## 4. Signatures -/

section Signatures

variable {signers : List Key}

theorem missingSignature?_append (xs ys : List Instruction) (signers : List Key) :
    missingSignature? (xs ++ ys) signers
      = (missingSignature? xs signers).or (missingSignature? ys signers) := by
  rw [missingSignature?, List.flatMap_append, List.find?_append]
  rfl

theorem processTransaction_of_missing (b : Bank) {ixs : List Instruction} {key : Key}
    (h : missingSignature? ixs signers = some key) :
    b.processTransaction ixs signers = ⟨.error (.rejected (.missingSignature key)), b, []⟩ := by
  rw [processTransaction, h]

theorem processTransaction_of_signed (b : Bank) {ixs : List Instruction}
    (h : missingSignature? ixs signers = none) :
    b.processTransaction ixs signers = b.transact (ixs.forM (perform b.host)) := by
  rw [processTransaction, h]

/-- No signature is missing where all signers have signed. -/
theorem missingSignature?_of_subset {ixs : List Instruction}
    (h : ∀ ix ∈ ixs, ∀ k ∈ ix.signers, k ∈ signers) : missingSignature? ixs signers = none := by
  refine List.find?_eq_none.2 fun k hk => ?_
  obtain ⟨ix, hix, hk⟩ := List.mem_flatMap.1 hk
  simpa using h ix hix k hk

end Signatures

/-- A transaction does not change the host. -/
theorem host_processTransaction (b : Bank) (ixs : List Instruction) (signers : List Key) :
    (b.processTransaction ixs signers).bank.host = b.host :=
  Call.host_run b (.transaction ixs signers)

/-- Two lists of instructions are performed one behind the other. -/
theorem forM_append (host : Host) (xs ys : List Instruction) :
    (xs ++ ys).forM (perform host)
      = xs.forM (perform host) >>= fun _ => ys.forM (perform host) :=
  List.forM_append

/-- Instructions are put together from events, faults and accounts. -/
theorem plain_forM (host : Host) (ixs : List Instruction) :
    Act.Plain (ixs.forM (perform host)) := by
  induction ixs with
  | nil => exact .pure _
  | cons ix ixs ih => exact .bind (Moment.plain_carry host ix.order) fun _ => ih

/-- **A transaction may be split in two.**  Signatures are asked for before anything is done, so
where one is missing both ways stop: the one transaction at once, the two at the first that needs
the signature. -/
theorem processTransaction_append (b : Bank) (xs ys : List Instruction) (signers : List Key) :
    ((b.processTransaction (xs ++ ys) signers).result = .ok () ↔
      (b.processTransaction xs signers).result = .ok () ∧
        ((b.processTransaction xs signers).bank.processTransaction ys signers).result = .ok ()) ∧
    ((b.processTransaction (xs ++ ys) signers).result = .ok () → ∀ k,
      (b.processTransaction (xs ++ ys) signers).bank.ledger.get? k
        = ((b.processTransaction xs signers).bank.processTransaction ys
            signers).bank.ledger.get? k) := by
  have happend := missingSignature?_append xs ys signers
  cases hxs : missingSignature? xs signers with
  | some key =>
    rw [hxs, Option.some_or] at happend
    rw [processTransaction_of_missing _ happend, processTransaction_of_missing _ hxs]
    simp
  | none =>
    rw [hxs, Option.none_or] at happend
    cases hys : missingSignature? ys signers with
    | some key =>
      rw [hys] at happend
      rw [processTransaction_of_missing _ happend, processTransaction_of_missing _ hys]
      simp
    | none =>
      rw [hys] at happend
      have hhost := b.host_processTransaction xs signers
      rw [processTransaction_of_signed _ happend, processTransaction_of_signed _ hys, hhost,
        processTransaction_of_signed _ hxs, forM_append]
      exact transact_bind (plain_forM b.host ys)

/-- Two instructions are performed one behind the other. -/
theorem processTransaction_pair (b : Bank) {first second : Instruction} {signers : List Key}
    (h : missingSignature? [first, second] signers = none) :
    b.processTransaction [first, second] signers
      = b.transact (perform b.host first >>= fun _ => perform b.host second) := by
  rw [processTransaction_of_signed b h]
  show b.transact (perform b.host first >>= fun _ => perform b.host second >>= fun _ => pure ()) = _
  simp only [bind_pure_unit]

/-- A single instruction is a transaction of its own. -/
theorem processTransaction_singleton (b : Bank) {ix : Instruction} {signers : List Key}
    (h : ∀ k ∈ ix.signers, k ∈ signers) :
    b.processTransaction [ix] signers = b.process ix.program ix.keys ix.data ix.signers := by
  have hsigned : missingSignature? [ix] signers = none := by
    refine missingSignature?_of_subset fun ix' hix' => ?_
    rw [List.mem_singleton.1 hix']
    exact h
  rw [processTransaction_of_signed b hsigned]
  show b.transact (perform b.host ix >>= fun _ => pure ()) = b.transact (perform b.host ix)
  rw [bind_pure_unit]

/-- **Transactions compose.**  Two lists of instructions go through as one transaction exactly if
they do as two, one after the other, and then the ledger is the same map.  A transaction that fails
leaves the bank as it was.  And an instruction whose signers have all signed is a transaction just
as its bytes are when they are handed to the bank with its own signers. -/
theorem transactions_compose (b : Bank) (xs ys : List Instruction) (signers : List Key) :
    let first := b.processTransaction xs signers
    let second := first.bank.processTransaction ys signers
    let both := b.processTransaction (xs ++ ys) signers
    (both.result = .ok () ↔ first.result = .ok () ∧ second.result = .ok ()) ∧
      (both.result = .ok () → ∀ k, both.bank.ledger.get? k = second.bank.ledger.get? k) ∧
      (∀ why, both.result = .error why → both.bank = b) ∧
      ∀ ix : Instruction, (∀ k ∈ ix.signers, k ∈ signers) →
        b.processTransaction [ix] signers = b.process ix.program ix.keys ix.data ix.signers := by
  intro first second both
  have hsplit : (both.result = .ok () ↔ first.result = .ok () ∧ second.result = .ok ()) ∧
      (both.result = .ok () → ∀ k, both.bank.ledger.get? k = second.bank.ledger.get? k) :=
    b.processTransaction_append xs ys signers
  exact ⟨hsplit.1, hsplit.2,
    fun _ hwhy => (Call.run_error (c := .transaction (xs ++ ys) signers) hwhy).1,
    fun _ => b.processTransaction_singleton⟩

/-- A contract is set up and paid out of in one transaction or in two; it cannot be set up twice in
one; and to set it up alone is to hand its bytes to the bank. -/
theorem setup_and_payout_compose :
    let b := Sample.bank.atClock 15
    let setup := Instruction.create Sample.program Sample.vesting Sample.escrow Sample.sourceOwner
      Sample.source Sample.destination Sample.mint Sample.tranches Sample.seeds
    let payout := Instruction.unlock Sample.program Sample.vesting Sample.escrow Sample.destination
      Sample.seeds
    let signers := [Sample.sourceOwner]
    (∀ k, (b.processTransaction ([setup] ++ [payout]) signers).bank.ledger.get? k
      = ((b.processTransaction [setup] signers).bank.processTransaction [payout]
          signers).bank.ledger.get? k) ∧
      (b.processTransaction ([setup] ++ [setup]) signers).bank = b ∧
      b.processTransaction [setup] signers
        = b.process setup.program setup.keys setup.data setup.signers := by
  intro b setup payout signers
  obtain ⟨-, hequal, -, -⟩ := transactions_compose b [setup] [payout] signers
  obtain ⟨-, -, hundone, halone⟩ := transactions_compose b [setup] [setup] signers
  have hpaid : (b.processTransaction ([setup] ++ [payout]) signers).result = .ok () := by
    decide +kernel
  have htwice : (b.processTransaction ([setup] ++ [setup]) signers).result
      = .error (.rejected .alreadyInitialized) := by
    decide +kernel
  have hsigned : ∀ k ∈ setup.signers, k ∈ signers := by
    decide +kernel
  exact ⟨hequal hpaid, hundone _ htwice, halone setup hsigned⟩

end Bank
end Vesting
