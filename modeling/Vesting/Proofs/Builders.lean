/-
# Builders and engine agree

The order of the accounts in an instruction is written down twice, by the builders and by the
commands, and so is who has to sign.  `Bank.builders_agree` says that both have the same in mind: to
send an instruction that a builder has made is to call its command with the builder's arguments in
the roles of the same name, and such a call is never refused because an account is missing, a
signature is missing, or a program or a sysvar is the wrong one.

There are three steps.

* The accounts that a builder lays out, taken in the order of the roles, are its arguments
  (`Builder.seat_keys`).  That is the whole argument for the order.
* The bytes that it writes hold the command, so the entry adds nothing but its two log entries
  (`Bank.process_encode`).
* The refusals are found by a walk through each command (`Engine.apt_performAs`).  A derivation may
  refuse in its own words, and these are passed on; for the usual one there are none.

The three instructions of a new contract fit together (`Instruction.createBundle_eq_ok`).  The
first makes room for exactly the record that the third writes.  The second goes to another
program, so what it opens is read as that program reads it (`Instruction.opened?`), and not as it
has been built.
-/
import Vesting.Instruction.Bundle
import Vesting.Proofs.Composition
import Vesting.Proofs.Header
import Vesting.Proofs.Roles
import Vesting.Proofs.Wire

namespace Vesting

open Act

/-! ## 1. Builders and their arguments -/

/-- A builder with its arguments.  Programs and sysvars are the usual ones. -/
inductive Builder
  | init (payer vesting : Key) (seeds : Seeds) (count : UInt32)
  | create (vesting escrow sourceOwner source destination mint : Key) (tranches : List Tranche)
      (seeds : Seeds)
  | unlock (vesting escrow destination : Key) (seeds : Seeds)
  | changeDestination (vesting owner current target : Key) (seeds : Seeds)

namespace Builder

/-- The instruction that is built. -/
def build (program : Key) : Builder → Instruction
  | init payer vesting seeds count => .init program payer vesting seeds count
  | create vesting escrow sourceOwner source destination mint tranches seeds =>
    .create program vesting escrow sourceOwner source destination mint tranches seeds
  | unlock vesting escrow destination seeds => .unlock program vesting escrow destination seeds
  | changeDestination vesting owner current target seeds =>
    .changeDestination program vesting owner current target seeds

/-- The command that is meant. -/
def command : Builder → Command
  | init _ _ seeds count => .init seeds count
  | create _ _ _ _ destination mint tranches seeds => .create seeds mint destination tranches
  | unlock _ _ _ seeds => .unlock seeds
  | changeDestination _ _ _ _ seeds => .changeDestination seeds

/-- The arguments in the roles of the same name. -/
def parts : Builder → Parts
  | init payer vesting _ _ => fun
    | .systemProgram => some Key.systemProgram
    | .rentSysvar => some Key.rentSysvar
    | .payer => some payer
    | .vesting => some vesting
    | _ => none
  | create vesting escrow sourceOwner source _ _ _ _ => fun
    | .tokenProgram => some Key.tokenProgram
    | .vesting => some vesting
    | .escrow => some escrow
    | .sourceOwner => some sourceOwner
    | .source => some source
    | _ => none
  | unlock vesting escrow destination _ => fun
    | .tokenProgram => some Key.tokenProgram
    | .clockSysvar => some Key.clockSysvar
    | .vesting => some vesting
    | .escrow => some escrow
    | .destination => some destination
    | _ => none
  | changeDestination vesting owner current target _ => fun
    | .vesting => some vesting
    | .currentDestination => some current
    | .currentOwner => some owner
    | .newDestination => some target
    | _ => none

/-- The seeds among the arguments. -/
def seeds : Builder → Seeds
  | init _ _ seeds _ | create _ _ _ _ _ _ _ seeds | unlock _ _ _ seeds
  | changeDestination _ _ _ _ seeds => seeds

variable (q : Builder) (program : Key)

theorem program_build : (q.build program).program = program := by
  cases q <;> rfl

theorem data_build : (q.build program).data = q.command.encode := by
  cases q <;> rfl

/-- **The accounts stand in the order of their roles.** -/
theorem seat_keys :
    ∀ role ∈ q.command.kind.roles,
      q.command.kind.seat (q.build program).keys role = q.parts role := by
  cases q with
  | init payer vesting seeds count =>
    simp only [command, Command.kind, Command.Kind.roles, List.forall_mem_cons]
    exact ⟨rfl, rfl, rfl, rfl, List.forall_mem_nil _⟩
  | create vesting escrow sourceOwner source destination mint tranches seeds =>
    simp only [command, Command.kind, Command.Kind.roles, List.forall_mem_cons]
    exact ⟨rfl, rfl, rfl, rfl, rfl, List.forall_mem_nil _⟩
  | unlock vesting escrow destination seeds =>
    simp only [command, Command.kind, Command.Kind.roles, List.forall_mem_cons]
    exact ⟨rfl, rfl, rfl, rfl, rfl, List.forall_mem_nil _⟩
  | changeDestination vesting owner current target seeds =>
    simp only [command, Command.kind, Command.Kind.roles, List.forall_mem_cons]
    exact ⟨rfl, rfl, rfl, rfl, List.forall_mem_nil _⟩

/-- What is built is the command for the arguments. -/
theorem perform_keys (host : Host) (signers : List Key) :
    Engine.perform host signers (q.build program).keys q.command
      = Engine.performAs host signers q.parts q.command := by
  rw [Engine.perform_eq_performAs]
  exact Engine.performAs_congr host signers (q.seat_keys program)

end Builder

/-! ## 2. What the entry adds -/

/-- The outcome of a command as the entry tells it: it announces the command, and logs a refusal
behind it. -/
def Outcome.told (o : Outcome Unit) (kind : Command.Kind) : Outcome Unit :=
  ⟨o.result, o.bank, .started kind :: (o.log ++ Engine.refusals o.result)⟩

namespace Bank

/-- **To hand the bytes of a command to the bank is to call the command.** -/
theorem process_encode (b : Bank) (keys signers : List Key) (c : Command) :
    b.process b.host.program keys c.encode signers
      = (b.transact (Engine.perform b.host signers keys c)).told c.kind := by
  have hinvoke : (invoke b.host b.host.program keys c.encode signers).exec ⟨b.ledger, []⟩ = _ :=
    exec_invoke rfl (Command.decode_encode false c) b.ledger []
  rw [(Engine.plain_perform b.host signers keys c).exec_log b.ledger [.started c.kind]] at hinvoke
  rcases hcall : (Engine.perform b.host signers keys c).exec ⟨b.ledger, []⟩ with ⟨r, w⟩
  rw [hcall] at hinvoke
  cases r with
  | ok u =>
    rw [process, transact_of_yields hinvoke, transact_of_yields hcall]
    simp [Outcome.told, Engine.refusals]
  | error why =>
    rw [process, transact_of_breaks hinvoke, transact_of_breaks hcall]
    cases why with
    | rejected r => simp [Outcome.told, Engine.refusals]
    | _ => simp [Outcome.told, Engine.refusals]

/-- **To send what a builder has made is to call its command.** -/
theorem processTransaction_build (b : Bank) (q : Builder) {signers : List Key}
    (hsigners : ∀ k ∈ (q.build b.host.program).signers, k ∈ signers) :
    b.processTransaction [q.build b.host.program] signers
      = (b.transact (Engine.performAs b.host (q.build b.host.program).signers q.parts
          q.command)).told q.command.kind := by
  rw [b.processTransaction_singleton hsigners, q.program_build, q.data_build, b.process_encode,
    q.perform_keys]

end Bank

/-! ## 3. Refusals that do not occur -/

namespace Rejection

/-- The accounts of a command, or its signers, are not laid out as they should be: an account is
missing, a signature is missing, or a program or a sysvar is not the one it should be. -/
def Miswired : Rejection → Prop
  | missingAccount _ => True
  | missingSignature _ | sourceUnsigned | destinationUnsigned | payerUnsigned _ | newUnsigned _
  | transferUnsigned _ => True
  | notLoaded _ | wrongSystemProgram | wrongRentSysvar | wrongClockSysvar | wrongTokenProgram
  | unknownTokenProgram _ => True
  | _ => False

/-- Two classes of refusals hold nothing else. -/
theorem miswired_of_code {r : Rejection}
    (h : r.code = .missingAccount ∨ r.code = .missingRequiredSignature) : r.Miswired := by
  cases r <;> simp [code, Miswired] at h ⊢

/-- Bytes that do not decode are another matter. -/
theorem not_miswired_of_code {r : Rejection}
    (h : r.code = .invalidAccountData ∨ r.code = .tooShort ∨ r.code = .invalidBoolean) :
    ¬ r.Miswired := by
  cases r <;> simp [code, Miswired] at h ⊢

end Rejection

/-- The fault is no refusal for which a builder is to blame; only the derivation may refuse in such
words. -/
def Fault.Apt (host : Host) (seeds : Seeds) (why : Fault) : Prop :=
  ∀ r, why = .rejected r → r.Miswired →
    host.derive seeds.bytes host.program = .error (.rejected r) ∧ r.code ≠ .invalidArgument

namespace Fault

variable {host : Host} {seeds : Seeds}

theorem apt_of_not_miswired {r : Rejection} (h : ¬ r.Miswired) :
    Apt host seeds (.rejected r) := by
  intro r' hr'
  cases hr'
  exact fun hmiswired => absurd hmiswired h

theorem apt_of_unpack {data : Bytes} {why : Fault} (h : TokenAccount.unpack data = .error why) :
    why.Apt host seeds := by
  obtain ⟨r, rfl, hr⟩ := TokenAccount.unpack_error h
  exact apt_of_not_miswired (Rejection.not_miswired_of_code (Or.inl hr))

theorem apt_of_header {data : Bytes} {why : Fault} (h : Record.header data = .error why) :
    why.Apt host seeds := by
  obtain ⟨r, rfl, hr⟩ := Record.header_error h
  exact apt_of_not_miswired (Rejection.not_miswired_of_code (Or.inr hr))

/-- A derivation that refuses in its own words is to blame itself. -/
theorem apt_of_derive {why : Fault} (h : host.derive seeds.bytes host.program = .error why)
    (hcode : ∀ r, why = .rejected r → r.code ≠ .invalidArgument) : why.Apt host seeds := by
  rintro r rfl -
  exact ⟨h, hcode r rfl⟩

end Fault

namespace Act

/-- Whatever breaks the act off on `w`, no builder is to blame. -/
def Apt {α : Type} (act : Act α) (host : Host) (seeds : Seeds) (w : World) : Prop :=
  act.BreaksOnly w fun why _ => why.Apt host seeds

end Act

section Walks

variable {host : Host} {signers : List Key} {seeds : Seeds} {who : Parts} {w : World}

namespace Act

theorem apt_demand_bind {p : Prop} [Decidable p] {r : Rejection} {f : Unit → Act Unit}
    (h : ¬ r.Miswired) (hf : p → (f ()).Apt host seeds w) :
    (demand p r >>= f).Apt host seeds w :=
  breaksOnly_demand_bind (fun _ => Fault.apt_of_not_miswired h) hf

/-- A check that passes refuses nothing. -/
theorem apt_demand_bind_of {p : Prop} [Decidable p] {r : Rejection} {f : Unit → Act Unit}
    (h : p) (hf : (f ()).Apt host seeds w) : (demand p r >>= f).Apt host seeds w :=
  breaksOnly_bind_of_yields (yields_of_demand h) hf

end Act

namespace Host

theorem apt_createAccount {payer target owner : Key} {lamports : Int} {size : Nat}
    (hpayer : payer ∈ signers) (htarget : host.derive seeds.bytes host.program = .ok target) :
    (host.createAccount signers payer target lamports size owner (some seeds.bytes)).Apt host
      seeds w := by
  have hsigned := signedFor_of_derive signers htarget
  unfold createAccount
  refine breaksOnly_require_bind (fun h => absurd hpayer h) fun _ => ?_
  refine breaksOnly_bind_of_yields (yields_orFail.2 ⟨hsigned, rfl⟩) ?_
  refine breaksOnly_require_bind (fun h => absurd rfl h) fun _ => ?_
  refine breaksOnly_bind_of_yields (yields_account.2 ⟨rfl, rfl⟩) ?_
  refine breaksOnly_require_bind (fun _ => Fault.apt_of_not_miswired id) fun _ => ?_
  refine breaksOnly_require_bind (fun _ => Fault.apt_of_not_miswired id) fun hsize => ?_
  refine breaksOnly_bind_of_yields (yields_account.2 ⟨rfl, rfl⟩) ?_
  refine breaksOnly_require_bind (fun _ => Fault.apt_of_not_miswired id) fun _ => ?_
  have hroom : Bytes.checkSize (size : Int) = .ok () := checkSize_of_le (by exact_mod_cast hsize)
  refine Sure.breaksOnly ?_ _ _
  refine (sure_store _ _).bind fun _ => (sure_account _).bind fun _ => ?_
  refine (sure_store _ _).bind fun _ => (sure_orFail hroom).bind fun _ => ?_
  exact (sure_store _ _).bind fun _ => sure_note _

theorem apt_transfer {source destination authority : Key} {presented : Option Bytes}
    {amount : Int} (hsigned : host.signedFor signers authority presented = .ok true) :
    (host.transfer signers Key.tokenProgram source destination authority presented amount).Apt host
      seeds w := by
  intro why w' hb
  cases transfer_breaks _ _ _ _ _ _ _ _ _ why w' hb with
  | program h => exact absurd rfl h
  | bytes h => exact Fault.apt_of_unpack h
  | signature h => cases hsigned.symm.trans h
  | unsigned h => cases hsigned.symm.trans h
  | number => exact fun r hr => by cases hr
  | _ => exact Fault.apt_of_not_miswired id

end Host

namespace Engine

theorem ask_bind {β : Type} {role : Role} {key : Key} (h : who role = some key)
    (f : Key → Act β) : (ask who role >>= f) = f key := by
  rw [ask, h]
  exact pure_bind key f

theorem apt_checkAddress_bind {vesting : Key} {f : Unit → Act Unit}
    (hf : host.derive seeds.bytes host.program = .ok vesting → (f ()).Apt host seeds w) :
    (checkAddress host seeds vesting >>= f).Apt host seeds w :=
  breaksOnly_checkAddress_bind (Fault.apt_of_not_miswired id)
    (fun _ => Fault.apt_of_not_miswired id) (fun _ => Fault.apt_of_derive) hf

theorem apt_tokenAccount_bind {role : Role} {key : Key} {f : TokenAccount → Act Unit}
    (hf : ∀ t, (f t).Apt host seeds w) : (tokenAccount role key >>= f).Apt host seeds w :=
  breaksOnly_tokenAccount_bind (fun _ => Fault.apt_of_not_miswired id) fun t _ => hf t

theorem apt_performAs_init {count : UInt32} {payer vesting : Key}
    (hsystem : who .systemProgram = some Key.systemProgram)
    (hrent : who .rentSysvar = some Key.rentSysvar) (hpayer : who .payer = some payer)
    (hvesting : who .vesting = some vesting) (hsigned : payer ∈ signers) :
    (performAs host signers who (.init seeds count)).Apt host seeds w := by
  simp only [performAs, planBy, planInit, bind_assoc, pure_bind, Plan.carry_opening]
  rw [ask_bind hsystem, ask_bind hrent, ask_bind hpayer, ask_bind hvesting]
  refine apt_demand_bind_of rfl ?_
  refine apt_demand_bind_of rfl ?_
  refine apt_checkAddress_bind fun haddress => ?_
  refine breaksOnly_bind_of_yields (a := ()) (yields_note.2 rfl) ?_
  exact Host.apt_createAccount hsigned haddress

theorem apt_performAs_create {mint destination vesting escrow sourceOwner source : Key}
    {tranches : List Tranche} (htokens : who .tokenProgram = some Key.tokenProgram)
    (hvesting : who .vesting = some vesting) (hescrow : who .escrow = some escrow)
    (howner : who .sourceOwner = some sourceOwner) (hsource : who .source = some source)
    (hsigned : sourceOwner ∈ signers) :
    (performAs host signers who (.create seeds mint destination tranches)).Apt host seeds w := by
  simp only [performAs, planBy, planCreate, bind_assoc, pure_bind, Plan.carry_payment]
  rw [ask_bind htokens, ask_bind hvesting, ask_bind hescrow, ask_bind howner, ask_bind hsource]
  refine apt_checkAddress_bind fun haddress => ?_
  refine apt_demand_bind_of hsigned ?_
  refine breaksOnly_bind_of_yields (yields_account.2 ⟨rfl, rfl⟩) ?_
  refine apt_demand_bind id fun _ => ?_
  refine apt_demand_bind id fun _ => ?_
  refine apt_tokenAccount_bind fun held => ?_
  refine apt_demand_bind id fun _ => ?_
  refine apt_demand_bind id fun _ => ?_
  refine apt_demand_bind id fun _ => ?_
  refine apt_demand_bind id fun hlength => ?_
  refine apt_demand_bind id fun _ => ?_
  refine apt_tokenAccount_bind fun paying => ?_
  refine apt_demand_bind id fun _ => ?_
  simp only [Record.writeTranches_writeHeader _ hlength]
  refine BreaksOnly.bind (Host.apt_transfer (Host.signedFor_of_mem hsigned none)) fun _ _ _ => ?_
  refine Sure.breaksOnly ?_ _ _
  exact (sure_storeBehind _ _ _ _).bind fun _ => (sure_orFail rfl).bind fun _ => sure_note _

theorem apt_performAs_unlock {vesting escrow destination : Key}
    (htokens : who .tokenProgram = some Key.tokenProgram)
    (hclock : who .clockSysvar = some Key.clockSysvar) (hvesting : who .vesting = some vesting)
    (hescrow : who .escrow = some escrow) (hdestination : who .destination = some destination) :
    (performAs host signers who (.unlock seeds)).Apt host seeds w := by
  simp only [performAs, planBy, planUnlock, bind_assoc, pure_bind, Plan.carry_payment]
  rw [ask_bind htokens, ask_bind hclock, ask_bind hvesting, ask_bind hescrow,
    ask_bind hdestination]
  refine apt_checkAddress_bind fun haddress => ?_
  refine apt_demand_bind_of rfl ?_
  refine breaksOnly_bind_of_yields (yields_account.2 ⟨rfl, rfl⟩) ?_
  refine apt_demand_bind id fun hlong => ?_
  refine breaksOnly_orFail_bind (fun _ => Fault.apt_of_header) fun header _ => ?_
  refine apt_demand_bind id fun _ => ?_
  refine apt_tokenAccount_bind fun held => ?_
  refine apt_demand_bind id fun _ => ?_
  refine apt_demand_bind_of rfl ?_
  refine breaksOnly_bind_of_yields (a := ()) (yields_noteAll.2 rfl) ?_
  refine apt_demand_bind id fun _ => ?_
  refine breaksOnly_bind_of_yields (a := ()) (yields_note.2 rfl) ?_
  simp only [Record.writeTranches_release _ hlong]
  -- the contract does not sign, its seeds do
  have hsigned := Host.signedFor_of_derive signers haddress
  refine BreaksOnly.bind (Host.apt_transfer hsigned) fun _ _ _ => ?_
  refine Sure.breaksOnly ?_ _ _
  exact (sure_storeBehind _ _ _ _).bind fun _ => (sure_orFail rfl).bind fun _ => sure_note _

theorem apt_performAs_changeDestination {vesting current owner target : Key}
    (hvesting : who .vesting = some vesting) (hcurrent : who .currentDestination = some current)
    (howner : who .currentOwner = some owner) (htarget : who .newDestination = some target)
    (hsigned : owner ∈ signers) :
    (performAs host signers who (.changeDestination seeds)).Apt host seeds w := by
  simp only [performAs, planBy, planChangeDestination, bind_assoc, pure_bind, Plan.carry_writing]
  rw [ask_bind hvesting, ask_bind hcurrent, ask_bind howner, ask_bind htarget]
  refine breaksOnly_bind_of_yields (yields_account.2 ⟨rfl, rfl⟩) ?_
  refine apt_demand_bind id fun _ => ?_
  refine apt_checkAddress_bind fun _ => ?_
  refine breaksOnly_orFail_bind (fun _ => Fault.apt_of_header) fun header _ => ?_
  refine apt_demand_bind id fun _ => ?_
  refine apt_demand_bind_of hsigned ?_
  refine apt_tokenAccount_bind fun token => ?_
  refine apt_demand_bind id fun _ => ?_
  refine Sure.breaksOnly ?_ _ _
  exact (sure_storeRecord _ _).bind fun _ => sure_note _

/-- **No builder is to blame for a refusal of its command.** -/
theorem apt_performAs (q : Builder) (program : Key) :
    (performAs host (q.build program).signers q.parts q.command).Apt host q.seeds w := by
  cases q with
  | init payer vesting seeds count =>
    exact apt_performAs_init rfl rfl rfl rfl List.mem_cons_self
  | create vesting escrow sourceOwner source destination mint tranches seeds =>
    exact apt_performAs_create rfl rfl rfl rfl rfl List.mem_cons_self
  | unlock vesting escrow destination seeds =>
    exact apt_performAs_unlock rfl rfl rfl rfl rfl
  | changeDestination vesting owner current target seeds =>
    exact apt_performAs_changeDestination rfl rfl rfl rfl List.mem_cons_self

end Engine
end Walks

/-! ## 4. The instructions of a new contract -/

namespace Bank

/-- A transaction that goes through has been signed by all who had to. -/
theorem signers_of_ok {b : Bank} {ix : Instruction} {signers : List Key}
    (h : (b.processTransaction [ix] signers).result = .ok ()) : ∀ k ∈ ix.signers, k ∈ signers := by
  cases hmissing : missingSignature? [ix] signers with
  | some key =>
    rw [b.processTransaction_of_missing hmissing] at h
    cases h
  | none =>
    intro k hk
    have hall := List.find?_eq_none.1 hmissing k (by simpa using hk)
    simpa using hall

/-- A builder's instruction that goes through is a command that goes through. -/
theorem yields_of_build {b : Bank} {q : Builder} {signers : List Key}
    (h : (b.processTransaction [q.build b.host.program] signers).result = .ok ()) :
    ∃ w, (Engine.perform b.host (q.build b.host.program).signers (q.build b.host.program).keys
        q.command).Yields ⟨b.ledger, []⟩ () w ∧
      (b.processTransaction [q.build b.host.program] signers).bank
        = { b with ledger := w.ledger.sweep } := by
  have hsent := b.processTransaction_build q (signers_of_ok h)
  rw [hsent] at h ⊢
  rw [q.perform_keys]
  exact transact_ok h

/-- The record that is opened has room for as many tranches as were asked for. -/
theorem length_opened {b : Bank} {payer vesting : Key} {seeds : Seeds} {count : UInt32}
    {signers : List Key}
    (h : (b.processTransaction [(Builder.init payer vesting seeds count).build b.host.program]
      signers).result = .ok ()) :
    (((b.processTransaction [(Builder.init payer vesting seeds count).build b.host.program]
      signers).bank.ledger.account vesting).data).length = Record.length count.toNat := by
  obtain ⟨w, hy, hbank⟩ := yields_of_build h
  obtain ⟨payer', vesting', hopening, rfl⟩ := Engine.init_yields hy
  obtain rfl : vesting = vesting' := Option.some.inj hopening.vesting_at
  rw [hbank, Ledger.account_sweep, Ledger.account_opened, if_pos rfl]
  exact List.length_replicate

/-- A contract that is set up has found a record with room for its tranches. -/
theorem length_of_create {b : Bank} {vesting escrow sourceOwner source destination mint : Key}
    {tranches : List Tranche} {seeds : Seeds} {signers : List Key}
    (h : (b.processTransaction [(Builder.create vesting escrow sourceOwner source destination mint
      tranches seeds).build b.host.program] signers).result = .ok ()) :
    (b.ledger.account vesting).data.length = Record.length tranches.length := by
  obtain ⟨w, hy, -⟩ := yields_of_build h
  obtain ⟨vesting', _, _, _, _, _, hfunding, -, -⟩ := Engine.create_yields hy
  obtain rfl : vesting = vesting' := Option.some.inj hfunding.vesting_at
  exact hfunding.record_length

end Bank

/-! ## 5. The account that a bundle opens -/

namespace Instruction

/-- The account that an instruction opens, read as the associated-token program reads it: without
bytes, and with six accounts or more in the order of funder, account, wallet, mint, system program
and token program.  The account is to be the one that goes with the wallet and the mint. -/
def opened? (ix : Instruction) : Option Key :=
  match ix.accounts with
  | funder :: account :: wallet :: mint :: systemProgram :: tokenProgram :: _ =>
    if ix.program = Key.associatedTokenProgram ∧ ix.data = [] ∧
        (funder.signer ∧ funder.writable) ∧ account.writable ∧
        systemProgram.key = Key.systemProgram ∧ tokenProgram.key = Key.tokenProgram ∧
        Address.associated wallet.key mint.key = .ok account.key
      then some account.key else none
  | _ => none

variable {program payer sourceOwner source destination wallet mint vesting account : Key}
  {tranches : List Tranche} {seeds : Seeds}

/-- The program opens what the builder has worked out. -/
theorem opened?_openAssociated {ix : Instruction} (h : openAssociated payer wallet mint = .ok ix)
    (haccount : Address.associated wallet mint = .ok account) :
    ix.opened? = some account ∧ ix.signers = [payer] := by
  refine ⟨?_, signers_openAssociated h⟩
  rw [openAssociated] at h
  obtain ⟨account', haccount', h⟩ := bind_eq_ok_iff.1 h
  obtain rfl : account' = account := Except.ok.inj (haccount'.symm.trans haccount)
  obtain rfl := Except.ok.inj h
  simp only [opened?, haccount, and_self, if_true]

/-- What a bundle is made of. -/
theorem createBundle_eq_ok {ixs : List Instruction}
    (h : createBundle program payer sourceOwner source destination mint tranches seeds vesting
      = .ok ixs) :
    ∃ escrow count middle, Address.associated vesting mint = .ok escrow ∧
      count.toNat = tranches.length ∧ openAssociated payer vesting mint = .ok middle ∧
      ixs = [init program payer vesting seeds count, middle,
        create program vesting escrow sourceOwner source destination mint tranches seeds] := by
  rw [createBundle] at h
  obtain ⟨escrow, hescrow, h⟩ := bind_eq_ok_iff.1 h
  obtain ⟨count, hcount, h⟩ := bind_eq_ok_iff.1 h
  obtain ⟨middle, hmiddle, h⟩ := bind_eq_ok_iff.1 h
  exact ⟨escrow, count, middle, hescrow, Word32.toNat_of_ofInt hcount, hmiddle,
    (Except.ok.inj h).symm⟩

end Instruction

/-! ## 6. The contract between builders and engine -/

/-- **Builders and engine agree.**  Let an instruction be built for the program of a bank, and let
whoever has to sign have signed.  To send it is to call its command with the builder's arguments
in the roles of the same name: the result, the bank and the events are the same, but for the two
that the entry adds.  It is not refused for a missing account, a missing signature or a wrong
program or sysvar, unless the derivation of addresses refuses in these words itself; a lawful one
never does, and so the usual one does not.

The first and the third instruction of a new contract are built with the same seeds and for the same
vesting account.  The one leaves a record of just the length that the other asks for.  The second is
signed by the payer alone, and what it opens, as its program reads it, is the escrow of the third:
the account that goes with the contract and the mint. -/
theorem Bank.builders_agree (b : Bank) (q : Builder) {signers : List Key}
    (hsigners : ∀ k ∈ (q.build b.host.program).signers, k ∈ signers) :
    let ix := q.build b.host.program
    let sent := b.processTransaction [ix] signers
    let called := b.transact (Engine.performAs b.host ix.signers q.parts q.command)
    (sent.result = called.result ∧ sent.bank = called.bank ∧
      sent.log = .started q.command.kind :: (called.log ++ Engine.refusals called.result)) ∧
    (∀ r, sent.result = .error (.rejected r) →
      r.code = .missingAccount ∨ r.code = .missingRequiredSignature ∨ r.Miswired →
      b.host.derive q.seeds.bytes b.host.program = .error (.rejected r) ∧
        ¬ Address.Lawful b.host.derive ∧ b.host.derive ≠ Address.derive) ∧
    ∀ payer sourceOwner source destination mint tranches seeds vesting ixs,
      Instruction.createBundle b.host.program payer sourceOwner source destination mint tranches
        seeds vesting = .ok ixs →
      ∃ escrow count middle,
        let opening := (Builder.init payer vesting seeds count).build b.host.program
        let setup := (Builder.create vesting escrow sourceOwner source destination mint tranches
          seeds).build b.host.program
        ixs = [opening, middle, setup] ∧
          middle.opened? = some escrow ∧ setup.keys[2]? = some escrow ∧
          Address.associated vesting mint = .ok escrow ∧ middle.signers = [payer] ∧
          (∀ signed, (b.processTransaction [opening] signed).result = .ok () →
            ((b.processTransaction [opening] signed).bank.ledger.account vesting).data.length
              = Record.length tranches.length) ∧
          ∀ signed, (b.processTransaction [setup] signed).result = .ok () →
            (b.ledger.account vesting).data.length = Record.length tranches.length := by
  intro ix sent called
  have hsent : sent = called.told q.command.kind := b.processTransaction_build q hsigners
  refine ⟨?_, ?_, ?_⟩
  · rw [hsent]
    exact ⟨rfl, rfl, rfl⟩
  · intro r hr hcode
    have hmiswired : r.Miswired := by
      rcases hcode with h | h | h
      · exact Rejection.miswired_of_code (Or.inl h)
      · exact Rejection.miswired_of_code (Or.inr h)
      · exact h
    rw [hsent] at hr
    obtain ⟨⟨w, hb⟩, -⟩ := transact_error hr
    obtain ⟨hderive, hown⟩ := Engine.apt_performAs q b.host.program _ w hb r rfl hmiswired
    have hlawless : ¬ Address.Lawful b.host.derive := by
      intro hlawful
      obtain ⟨r', hr', hargument⟩ := hlawful _ _ _ hderive
      cases hr'
      exact hown hargument
    refine ⟨hderive, hlawless, fun husual => hlawless ?_⟩
    rw [husual]
    exact Address.lawful_derive
  · intro payer sourceOwner source destination mint tranches seeds vesting ixs hixs
    obtain ⟨escrow, count, middle, hescrow, hcount, hmiddle, rfl⟩ :=
      Instruction.createBundle_eq_ok hixs
    obtain ⟨hopened, hpayer⟩ := Instruction.opened?_openAssociated hmiddle hescrow
    refine ⟨escrow, count, middle, rfl, hopened, rfl, hescrow, hpayer, fun signed h => ?_,
      fun signed => length_of_create⟩
    rw [length_opened h, hcount]

/-- The builder that sets up the contract of the small bank. -/
def Sample.setup : Builder :=
  .create vesting escrow sourceOwner source destination mint tranches seeds

/-- The call of its command sets up a contract, and the bundle for it has an escrow. -/
theorem Bank.builders_agree_create :
    (∀ k ∈ (Sample.setup.build Sample.bank.host.program).signers, k ∈ [Sample.sourceOwner]) ∧
      (Sample.bank.transact (Engine.performAs Sample.bank.host
        (Sample.setup.build Sample.bank.host.program).signers Sample.setup.parts
        Sample.setup.command)).result = .ok () ∧
      ∃ ixs escrow middle,
        Instruction.createBundle Sample.bank.host.program (Sample.key 7) Sample.sourceOwner
          Sample.source Sample.destination Sample.mint Sample.tranches Sample.seeds Sample.vesting
          = .ok ixs ∧
        ixs.length = 3 ∧ ixs[1]? = some middle ∧ middle.opened? = some escrow ∧
        Address.associated Sample.vesting Sample.mint = .ok escrow := by
  have hsigners : ∀ k ∈ (Sample.setup.build Sample.bank.host.program).signers,
      k ∈ [Sample.sourceOwner] := by
    decide +kernel
  have hsent : (Sample.bank.processTransaction [Sample.setup.build Sample.bank.host.program]
      [Sample.sourceOwner]).result = .ok () := by
    decide +kernel
  have hbuilt : (Instruction.createBundle Sample.bank.host.program (Sample.key 7)
      Sample.sourceOwner Sample.source Sample.destination Sample.mint Sample.tranches Sample.seeds
      Sample.vesting).toOption.isSome = true := by
    decide +kernel
  obtain ⟨⟨hresult, -⟩, -, hbundle⟩ := builders_agree Sample.bank Sample.setup hsigners
  refine ⟨hsigners, ?_, ?_⟩
  · rw [← hresult]
    exact hsent
  · cases hixs : Instruction.createBundle Sample.bank.host.program (Sample.key 7)
        Sample.sourceOwner Sample.source Sample.destination Sample.mint Sample.tranches
        Sample.seeds Sample.vesting with
    | error why =>
      rw [hixs] at hbuilt
      cases hbuilt
    | ok ixs =>
      obtain ⟨escrow, count, middle, hshape, hopened, -, hescrow, -⟩ :=
        hbundle _ _ _ _ _ _ _ _ _ hixs
      refine ⟨ixs, escrow, middle, rfl, ?_, ?_, hopened, hescrow⟩
      · rw [hshape]
        rfl
      · rw [hshape]
        rfl

end Vesting
