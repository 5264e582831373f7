/-
# Calls are local to the accounts they name

A call names its accounts by their keys.  The bank works on the ledger as a whole: it restores it
after a failure and drops all empty accounts after a success.  Neither lets one account show in
another, since an account that is not there counts as an empty one.  So what holds of an order
(`Order.confined_carry`) holds of a call: what it comes to depends on the accounts that it names,
and no other account changes, except that empty ones go (`Bank.calls_local`).  It follows that calls
without a common key may change places.
-/
import Vesting.Proofs.Composition

namespace Vesting

variable {F : Fault → Prop} {keys : List Key}

/-! ## 1. Transactions -/

/-- The outcomes have the same result, the same events and the same accounts under `keys`. -/
structure Outcome.AlikeOn (keys : List Key) (out out' : Outcome Unit) : Prop where
  result_eq : out.result = out'.result
  log_eq : out.log = out'.log
  agree : out.bank.ledger.AgreeOn keys out'.bank.ledger

namespace Bank

variable {b b' : Bank} {act : Act Unit}

/-- What a transaction comes to depends on the accounts that its act stays with. -/
theorem transact_alikeOn (hl : b.ledger.AgreeOn keys b'.ledger)
    (h : act.Confined keys b.ledger b'.ledger F fun _ => True) :
    (b.transact act).AlikeOn keys (b'.transact act) := by
  obtain ⟨r, m, m', log, hr, hr', hstays⟩ := h []
  cases r with
  | ok u =>
    rw [transact_of_yields hr, transact_of_yields hr']
    exact ⟨rfl, rfl, hstays.agree.sweep⟩
  | error why =>
    rw [transact_of_breaks hr, transact_of_breaks hr']
    exact ⟨rfl, rfl, hl⟩

/-- A transaction leaves every other account, unless it is empty. -/
theorem get?_transact_off (h : act.Confined keys b.ledger b.ledger F fun _ => True) {k : Key}
    (hk : k ∉ keys) :
    ((b.transact act).result = .ok () →
      (b.transact act).bank.ledger.get? k = (b.ledger.get? k).filter fun a => !a.isEmpty) ∧
    ∀ why, (b.transact act).result = .error why →
      (b.transact act).bank.ledger.get? k = b.ledger.get? k := by
  obtain ⟨r, m, m', log, hr, -, hstays⟩ := h []
  cases r with
  | ok u =>
    rw [transact_of_yields hr]
    refine ⟨fun _ => ?_, fun _ hwhy => absurd hwhy (by simp)⟩
    show m.sweep.get? k = _
    rw [Ledger.sweep, Ledger.get?_filter, hstays.off k hk]
  | error why =>
    rw [transact_of_breaks hr]
    exact ⟨fun hok => absurd hok (by simp), fun _ _ => rfl⟩

/-! ## 2. Calls -/

/-- The calls of orders that agree on the host and on the accounts of the order. -/
theorem process_alikeOn (o : Order) (hhost : b'.host = b.host)
    (hl : b.ledger.AgreeOn o.keys b'.ledger) :
    ((Call.process o).run b).AlikeOn o.keys ((Call.process o).run b') := by
  have hconfined := o.confined_carry b.host.failsBy_anyhow hl
  have hb' : (Call.process o).run b' = b'.transact (o.carry b.host) := by
    rw [← hhost]
    rfl
  rw [hb']
  exact transact_alikeOn hl hconfined

theorem get?_process_off (b : Bank) (o : Order) {k : Key} (hk : k ∉ o.keys) :
    (((Call.process o).run b).result = .ok () →
      ((Call.process o).run b).bank.ledger.get? k
        = (b.ledger.get? k).filter fun a => !a.isEmpty) ∧
    ∀ why, ((Call.process o).run b).result = .error why →
      ((Call.process o).run b).bank.ledger.get? k = b.ledger.get? k :=
  get?_transact_off (o.confined_carry b.host.failsBy_anyhow fun _ _ => rfl) hk

/-- So a call leaves the accounts of all other keys. -/
theorem account_process_off (b : Bank) (o : Order) {k : Key} (hk : k ∉ o.keys) :
    ((Call.process o).run b).bank.ledger.account k = b.ledger.account k := by
  obtain ⟨hok, herror⟩ := b.get?_process_off o hk
  cases hr : ((Call.process o).run b).result with
  | ok u =>
    rw [Ledger.account, hok hr, ← Ledger.get?_filter fun _ a => !a.isEmpty]
    exact Ledger.account_sweep b.ledger k
  | error why => rw [Ledger.account, herror why hr, Ledger.account]

/-- **A call meets what it would have met without the other.** -/
theorem process_alikeOn_behind (b : Bank) {o o' : Order} (h : ∀ k ∈ o.keys, k ∉ o'.keys) :
    ((Call.process o').run b).AlikeOn o'.keys
      ((Call.process o').run ((Call.process o).run b).bank) := by
  refine process_alikeOn o' (Call.host_run b (.process o)) fun k hk => ?_
  exact (b.account_process_off o fun hk' => h k hk' hk).symm

/-- **Calls are local to the accounts they name.**  On banks with the same host that agree on the
keys of an order, the order comes to the same result, logs the same events and leaves the same
accounts under its keys.  Every other account stays, but that empty ones are dropped after a
success.  So two orders without a common key may change places: each comes to what it would have
come to alone, and in the end the same accounts are there. -/
theorem calls_local (b : Bank) (o : Order) :
    (∀ b' : Bank, b'.host = b.host → b.ledger.AgreeOn o.keys b'.ledger →
      ((Call.process o).run b).AlikeOn o.keys ((Call.process o).run b')) ∧
    (∀ k, k ∉ o.keys →
      (((Call.process o).run b).result = .ok () →
        ((Call.process o).run b).bank.ledger.get? k
          = (b.ledger.get? k).filter fun a => !a.isEmpty) ∧
      ∀ why, ((Call.process o).run b).result = .error why →
        ((Call.process o).run b).bank.ledger.get? k = b.ledger.get? k) ∧
    ∀ o' : Order, (∀ k ∈ o.keys, k ∉ o'.keys) →
      let first := (Call.process o).run b
      let second := (Call.process o').run first.bank
      let second' := (Call.process o').run b
      let first' := (Call.process o).run second'.bank
      first.result = first'.result ∧ second.result = second'.result ∧
        second.bank.ledger.Agrees first'.bank.ledger := by
  refine ⟨fun _ hhost hl => process_alikeOn o hhost hl, fun _ hk => b.get?_process_off o hk, ?_⟩
  intro o' hdisjoint first second second' first'
  have hfirst : first.AlikeOn o.keys first' :=
    b.process_alikeOn_behind fun k hk' hk => hdisjoint k hk hk'
  have hsecond : second'.AlikeOn o'.keys second := b.process_alikeOn_behind hdisjoint
  refine ⟨hfirst.result_eq, hsecond.result_eq.symm, fun k => ?_⟩
  by_cases hk' : k ∈ o'.keys
  · -- the second order has written last, or the first has not come near
    have hk : k ∉ o.keys := fun hk => hdisjoint k hk hk'
    rw [← hsecond.agree k hk', second'.bank.account_process_off o hk]
  · have hleft : second.bank.ledger.account k = first.bank.ledger.account k :=
      first.bank.account_process_off o' hk'
    rw [hleft]
    by_cases hk : k ∈ o.keys
    · exact hfirst.agree k hk
    · have hstays : first.bank.ledger.account k = b.ledger.account k := b.account_process_off o hk
      rw [hstays, second'.bank.account_process_off o hk, b.account_process_off o' hk']

end Bank

namespace Sample

def sponsor : Key := key 12
def newcomer : Key := key 13

/-- Other seeds lead to another contract, which the sponsor can afford. -/
def shared : Bank :=
  let derive : Address.Derivation := fun data _ =>
    .ok (if data = seeds.bytes then vesting else newcomer)
  let host := { bank.host with derive }
  { bank with host }.addAccount sponsor { lamports := 2000000 }

/-- The same bank with an account more. -/
def visited : Bank := shared.addAccount newcomer { lamports := 1 }

/-- Makes room for the other contract. -/
def settle : Order where
  program := program
  keys := [Key.systemProgram, Key.rentSysvar, sponsor, newcomer]
  data := (Command.init ⟨List.replicate 32 14, List.length_replicate⟩ 1).encode
  signers := [sponsor]

end Sample

/-- A contract is set up while room is made for another: the order makes no difference, nor does an
account that neither of them names. -/
theorem Bank.calls_local_setup :
    ((Call.process Sample.create).run Sample.shared).result = .ok () ∧
      ((Call.process Sample.settle).run Sample.shared).result = .ok () ∧
      ((Call.process Sample.settle).run
          ((Call.process Sample.create).run Sample.shared).bank).bank.ledger.Agrees
        ((Call.process Sample.create).run
          ((Call.process Sample.settle).run Sample.shared).bank).bank.ledger ∧
      ((Call.process Sample.create).run Sample.shared).AlikeOn Sample.create.keys
        ((Call.process Sample.create).run Sample.visited) ∧
      ((Call.process Sample.create).run Sample.shared).bank.ledger.get? Sample.sponsor
        = some { lamports := 2000000 } := by
  obtain ⟨halike, hoff, hplaces⟩ := calls_local Sample.shared Sample.create
  have hsetup : ((Call.process Sample.create).run Sample.shared).result = .ok () := by
    decide +kernel
  have hsettle : ((Call.process Sample.settle).run Sample.shared).result = .ok () := by
    decide +kernel
  have hdisjoint : ∀ k ∈ Sample.create.keys, k ∉ Sample.settle.keys := by decide +kernel
  have hagree : ∀ k ∈ Sample.create.keys,
      Sample.shared.ledger.account k = Sample.visited.ledger.account k := by
    decide +kernel
  have hstored : Sample.shared.ledger.get? Sample.sponsor = some { lamports := 2000000 } := by
    decide +kernel
  obtain ⟨-, -, hplaced⟩ := hplaces Sample.settle hdisjoint
  refine ⟨hsetup, hsettle, hplaced, halike Sample.visited rfl hagree, ?_⟩
  rw [(hoff Sample.sponsor (by decide +kernel)).1 hsetup, hstored]
  rfl

end Vesting
