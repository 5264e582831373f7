/-
# What a successful moment does

A moment that succeeds carries out one command, so there are five things it can have done, and
`Moment.Effect` lists them with everything that the command has checked and with the ledger that it
leaves (`Moment.Succeeds.effect`).  Every invariant of runs is proved by cases on it.

The first such facts are about owners.  An account that is there keeps its owner, and one that is
opened belongs to the program that runs here (`Moment.Effect.owner_after`).  So a ledger in which no
token account sits at an address of the program stays like this (`Ledger.Clean`,
`Moment.clean_after`).
-/
import Vesting.Proofs.Run

namespace Vesting

open Engine

/-! ## 1. Five effects -/

/-- The bytes of the order are those of a command. -/
def Moment.Orders (m : Moment) (c : Command) : Prop :=
  Command.decode false m.order.data = .ok c

instance (m : Moment) (c : Command) : Decidable (m.Orders c) :=
  inferInstanceAs (Decidable (_ = _))

/-- What an order has decided on, if its checks have let it. -/
def Moment.plan? (m : Moment) : Option Plan :=
  match Command.decode false m.order.data with
  | .ok c =>
    ((plan m.host m.order.signers m.order.keys c).exec ⟨m.before, [.started c.kind]⟩).1.toOption
  | .error _ => none

/-- The tokens that a plan hands to the transfer. -/
def Plan.handed : Plan → Nat
  | .payment _ _ _ _ _ total .. => total
  | _ => 0

/-- The tokens that a moment hands to the transfer. -/
def Moment.handed (m : Moment) : Nat := m.plan?.elim 0 Plan.handed

/-- Tokens have been moved. -/
def Event.isMove : Event → Bool
  | .moved .. => true
  | _ => false

/-- What a moment has done, command by command. -/
inductive Moment.Effect (m : Moment) : Command → Prop
  | opened {seeds : Seeds} {count : UInt32} {payer vesting : Key}
      (h : Opening m.host m.order.signers m.order.keys seeds count m.before payer vesting)
      (hafter : m.after = m.before.opened payer vesting m.host.program
        (Host.minimumBalance (Record.length count.toNat)) (Record.length count.toNat)) :
      Effect m (.init seeds count)
  | funded {seeds : Seeds} {mint destination : Key} {tranches : List Tranche}
      {vesting escrow sourceOwner source : Key} {debtor creditor : TokenAccount}
      (h : Funding m.host m.order.signers m.order.keys seeds tranches m.before vesting escrow
        sourceOwner source debtor creditor)
      (hafter : m.after = m.before.settled source escrow debtor creditor (Tranche.total tranches)
        vesting (Record.founded ⟨destination, mint, true⟩ tranches
          (m.before.account vesting).data)) :
      Effect m (.create seeds mint destination tranches)
  | paid {seeds : Seeds} {vesting escrow destination : Key} {header : Header}
      {debtor creditor : TokenAccount}
      (h : Payout m.host m.order.signers m.order.keys seeds m.before vesting escrow destination
        header debtor creditor)
      (hafter : m.after = m.before.settled escrow destination debtor creditor
        (Record.vestedAt m.host.clock (m.before.account vesting).data) vesting
        (Record.paidOut m.host.clock (m.before.account vesting).data))
      (hplan : ∃ draft report, m.plan? = some (.payment Key.tokenProgram escrow destination vesting
        (some seeds.bytes) (Record.vestedAt m.host.clock (m.before.account vesting).data) vesting
        draft report))
      (hmoves : m.log.filter Event.isMove = if escrow = destination then []
        else [.moved (Record.vestedAt m.host.clock (m.before.account vesting).data) escrow
          destination]) :
      Effect m (.unlock seeds)
  | redirected {seeds : Seeds} {vesting current target owner : Key} {header : Header}
      {token : TokenAccount}
      (h : Redirection m.host m.order.signers m.order.keys seeds m.before vesting current target
        owner header token)
      (hafter : m.after = m.before.rewritten vesting
        (Record.writeDestination target (m.before.account vesting).data)) :
      Effect m (.changeDestination seeds)
  | idle {number : UInt32} (hafter : m.after = m.before) : Effect m (.empty number)

namespace Moment

variable {m : Moment}

/-- The plan of a moment is the one that its command yields. -/
theorem Orders.plan? {c : Command} {p : Plan} {w : World} (h : m.Orders c)
    (hplan : (plan m.host m.order.signers m.order.keys c).Yields ⟨m.before, [.started c.kind]⟩ p
      w) : m.plan? = some p := by
  have hresult : ((plan m.host m.order.signers m.order.keys c).exec
      ⟨m.before, [.started c.kind]⟩).1 = .ok p := congrArg Prod.fst hplan
  rw [Moment.plan?, show Command.decode false m.order.data = .ok c from h]
  dsimp only
  rw [hresult]
  rfl

/-- **A moment that succeeds has one of the five effects.** -/
theorem Succeeds.effect (h : m.Succeeds) :
    ∃ c, m.Orders c ∧ m.Effect c := by
  obtain ⟨-, c, hdecode, hy⟩ := h.command
  have horders : m.Orders c := hdecode
  refine ⟨c, horders, ?_⟩
  cases c with
  | init seeds count =>
    obtain ⟨payer, vesting, hopening, hw⟩ := init_yields hy
    exact .opened hopening (World.mk.inj hw).1
  | create seeds mint destination tranches =>
    obtain ⟨vesting, escrow, sourceOwner, source, debtor, creditor, hfunding, -, hw⟩ :=
      create_yields hy
    exact .funded hfunding (World.mk.inj hw).1
  | unlock seeds =>
    obtain ⟨vesting, escrow, destination, header, debtor, creditor, hpayout, hplan, hw⟩ :=
      unlock_yields hy
    obtain ⟨hafter, hlog⟩ := World.mk.inj hw
    refine .paid hpayout hafter ⟨_, _, horders.plan? hplan⟩ ?_
    have hseen (ts : List Tranche) :
        (ts.map (.trancheSeen m.host.clock)).reverse.filter Event.isMove = [] := by
      simp [Event.isMove]
    rw [hlog]
    by_cases hsame : escrow = destination
    · rw [if_pos hsame, if_pos hsame]
      simp [hseen, Event.isMove]
    · rw [if_neg hsame, if_neg hsame]
      simp [List.filter_cons, hseen, Event.isMove]
  | changeDestination seeds =>
    obtain ⟨vesting, current, target, owner, header, token, hredirection, hw⟩ :=
      changeDestination_yields hy
    exact .redirected hredirection (World.mk.inj hw).1
  | empty number => exact .idle (World.mk.inj (Act.yields_note.1 hy)).1

/-! ## 2. Owners -/

/-- An account keeps its owner, unless there was none and the program opens one. -/
theorem Effect.owner_after {c : Command} (h : m.Effect c) (k : Key) :
    (m.after.account k).owner = (m.before.account k).owner ∨
      m.before.account k = .empty ∧ (m.after.account k).owner = m.host.program := by
  cases h with
  | @opened seeds count payer vesting h hafter =>
    by_cases hk : k = vesting
    · right
      subst hk
      rw [hafter, Ledger.account_opened, if_pos rfl]
      exact ⟨h.openable.fresh, rfl⟩
    · left
      obtain ⟨n, hn, -⟩ := Ledger.account_of_opened hafter hk
      rw [hn]
      rfl
  | funded h hafter =>
    left
    rw [hafter, Ledger.owner_settled]
  | paid h hafter =>
    left
    rw [hafter, Ledger.owner_settled]
  | redirected h hafter =>
    left
    rw [hafter, Ledger.owner_rewritten]
  | idle hafter =>
    left
    rw [hafter]

end Moment

/-- A key that the program can sign for: some seeds lead to it. -/
def Host.Derivable (host : Host) (key : Key) : Prop :=
  ∃ seeds : Seeds, host.derive seeds.bytes host.program = .ok key

theorem Host.Alike.derivable {host host' : Host} (h : host.Alike host') {key : Key} :
    host.Derivable key ↔ host'.Derivable key := by
  unfold Derivable
  rw [h.1, h.2]

/-- No token account sits at an address that the program can sign for. -/
def Ledger.Clean (host : Host) (l : Ledger) : Prop :=
  ∀ k, host.Derivable k → (l.account k).owner ≠ Key.tokenProgram

theorem Ledger.Clean.sweep {host : Host} {l : Ledger} (h : l.Clean host) : l.sweep.Clean host := by
  intro k hk
  rw [l.account_sweep]
  exact h k hk

theorem Ledger.Clean.congr {host host' : Host} (hhost : host.Alike host') {l : Ledger} :
    l.Clean host ↔ l.Clean host' := by
  unfold Clean
  simp only [hhost.derivable]

/-- **A clean ledger stays clean.** -/
theorem Moment.clean_after {m : Moment} (hprogram : m.host.program ≠ Key.tokenProgram)
    (h : m.Succeeds) (hclean : m.before.Clean m.host) : m.after.Clean m.host := by
  obtain ⟨c, -, heffect⟩ := h.effect
  intro k hk
  rcases heffect.owner_after k with howner | ⟨-, howner⟩
  · rw [howner]
    exact hclean k hk
  · rw [howner]
    exact hprogram

/-- Every moment of a call meets a clean ledger if the call does. -/
theorem Bank.Call.clean_before {b : Bank} {c : Bank.Call}
    (hprogram : b.host.program ≠ Key.tokenProgram) (hclean : b.ledger.Clean b.host) :
    ∀ m ∈ c.moments b, m.before.Clean m.host := by
  have hall := (keeps (P := Ledger.Clean b.host) (c := c) hclean (fun _ h => h.sweep) ?_).1
  · intro m hm
    rw [host_of_mem_moments hm]
    exact hall m hm
  · intro m hm hsucceeds h
    rw [← host_of_mem_moments hm] at h hprogram ⊢
    exact m.clean_after hprogram hsucceeds h

/-- A run keeps a clean ledger clean. -/
theorem Bank.clean_run {b : Bank} (hprogram : b.host.program ≠ Key.tokenProgram)
    (hclean : b.ledger.Clean b.host) (steps : List Bank.Step) :
    (b.run steps).ledger.Clean (b.run steps).host := by
  rw [Ledger.Clean.congr (b.host_run steps)]
  refine ((b.linked_trail steps).keeps (P := Ledger.Clean b.host) ?_ hclean ?_).2
  · intro l₁ l₂ hagrees h k hk
    rw [← hagrees k]
    exact h k hk
  · intro m hm hsucceeds h
    have hhost := host_of_mem_trail hm
    rw [← Ledger.Clean.congr hhost] at h ⊢
    refine m.clean_after ?_ hsucceeds h
    rw [hhost.1]
    exact hprogram

/-! ## 3. A small bank

One contract with two tranches, on a bank where all seeds lead to that contract. -/

namespace Sample

def key (n : UInt8) : Key := ⟨List.replicate 32 n, List.length_replicate⟩

def program : Key := key 9
def vesting : Key := key 1
def escrow : Key := key 2
def source : Key := key 3
def sourceOwner : Key := key 4
def destination : Key := key 5
def mint : Key := key 8
def seeds : Seeds := ⟨List.replicate 32 7, List.length_replicate⟩
def tranches : List Tranche := [⟨10, 30⟩, ⟨20, 70⟩]

/-- The record has been opened, and the source holds what the tranches come to. -/
def bank : Bank :=
  let start : Bank := { host := { program, derive := fun _ _ => .ok vesting } }
  let opened := start.addAccount vesting
    ⟨program, 1350240, List.replicate (Record.length tranches.length) 0⟩
  let funded := opened.addTokenAccount source { mint, owner := sourceOwner, amount := 100 }
  let waiting := funded.addTokenAccount escrow { mint, owner := vesting, amount := 0 }
  waiting.addTokenAccount destination { mint, owner := key 6, amount := 0 }

/-- Sets up the contract. -/
def create : Order where
  program := program
  keys := [Key.tokenProgram, vesting, escrow, sourceOwner, source]
  data := (Command.create seeds mint destination tranches).encode
  signers := [sourceOwner]

/-- Pays out what is due. -/
def unlock : Order where
  program := program
  keys := [Key.tokenProgram, Key.clockSysvar, vesting, escrow, destination]
  data := (Command.unlock seeds).encode
  signers := []

/-- The bank once the contract has been set up. -/
def founded : Bank := bank.run [.call (.process create)]

/-- What happens next: the first tranche falls due and is paid out. -/
def rest : List Bank.Step := [.clock 15, .call (.process unlock)]

/-- The order to pay out, about to be carried out. -/
def payout : Moment :=
  let due := bank.run [.call (.process create), .clock 15]
  ⟨due.host, unlock, due.ledger⟩

theorem program_ne : bank.host.program ≠ Key.tokenProgram := by decide +kernel

theorem derivable_iff {k : Key} : bank.host.Derivable k ↔ k = vesting := by
  constructor
  · rintro ⟨_, h⟩
    exact (Except.ok.inj h).symm
  · rintro rfl
    exact ⟨seeds, rfl⟩

theorem clean : bank.ledger.Clean bank.host := by
  intro k hk
  rw [derivable_iff] at hk
  subst hk
  decide +kernel

theorem trail {later : List Bank.Step} : bank.trail (.call (.process create) :: later)
    = [] ++ ⟨bank.host, create, bank.ledger⟩ :: founded.trail later := by
  have hcreated : ((Bank.Call.process create).run bank).result = .ok () := by decide +kernel
  rw [Bank.trail, Bank.Step.trail, hcreated, Bank.Call.moments_process, founded, Bank.run, Bank.run,
    List.singleton_append, List.nil_append]

theorem orders_create : (⟨bank.host, create, bank.ledger⟩ : Moment).Orders
    (.create seeds mint destination tranches) := by
  decide +kernel

end Sample
end Vesting
