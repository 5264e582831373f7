/-
# What the commands do

Every command checks first and changes the ledger last.  So a command that goes through has passed
all of its checks.  What it has checked is a structure for each command,

* `Opening` for the command that makes room for a contract,
* `Funding` for the one that sets it up,
* `Payout` for the one that pays out what is due,
* `Redirection` for the one that names another destination,

and beside it stands the world that the command leaves, event by event (`init_yields`,
`create_yields`, `unlock_yields`, `changeDestination_yields`).  Whatever is said about runs later is
read off these four.
-/
import Vesting.Proofs.Plan

namespace Vesting.Engine

open Act Host

variable {host : Host} {signers accounts : List Key} {seeds : Seeds} {w w' : World} {u : Unit}

/-! ## 1. The parts of a command -/

section Parts

theorem yields_pick {position : Nat} {role : Role} {k : Key} (h : accounts[position]? = some k) :
    (pick accounts position role).Yields w k w := by
  rw [pick, h]
  rfl

theorem yields_checkAddress {vesting : Key}
    (h : host.derive seeds.bytes host.program = .ok vesting) :
    (checkAddress host seeds vesting).Yields w () w := by
  rw [checkAddress, h]
  exact yields_demand.2 ⟨rfl, rfl⟩

theorem yields_tokenAccount {role : Role} {key : Key} {t : TokenAccount}
    (h : TokenAccount.unpack (w.ledger.account key).data = .ok t) :
    (tokenAccount role key).Yields w t w := by
  rw [tokenAccount, yields_account_bind, h]
  rfl

variable {β : Type} {b : β}

theorem yields_pick_bind {position : Nat} {role : Role} {f : Key → Act β} :
    (pick accounts position role >>= f).Yields w b w' ↔
      ∃ k, accounts[position]? = some k ∧ (f k).Yields w b w' := by
  unfold pick
  cases accounts[position]? with
  | none => simp [yields_bind]
  | some k => simp

theorem yields_checkAddress_bind {vesting : Key} {f : Unit → Act β} :
    (checkAddress host seeds vesting >>= f).Yields w b w' ↔
      host.derive seeds.bytes host.program = .ok vesting ∧ (f ()).Yields w b w' := by
  unfold checkAddress
  split
  · rename_i address h
    rw [yields_demand_bind, h, Except.ok.injEq]
  · rename_i why h
    split
    · simp [yields_bind, h]
    · simp [yields_bind, h]
  · rename_i h
    simp [yields_bind, h]

theorem yields_tokenAccount_bind {role : Role} {key : Key} {f : TokenAccount → Act β} :
    (tokenAccount role key >>= f).Yields w b w' ↔
      ∃ t, TokenAccount.unpack (w.ledger.account key).data = .ok t ∧ (f t).Yields w b w' := by
  unfold tokenAccount
  rw [bind_assoc, yields_account_bind]
  cases TokenAccount.unpack (w.ledger.account key).data with
  | ok t => simp
  | error why =>
    cases why with
    | rejected r =>
      by_cases hr : r.code = .invalidAccountData
      · simp [yields_bind, hr]
      · simp [yields_bind, hr]
    | _ => simp [yields_bind]

theorem yields_storeRecord_bind {vesting : Key} {data : Bytes} {f : Unit → Act β} :
    (storeRecord vesting data >>= f).Yields w b w' ↔
      (f ()).Yields ⟨w.ledger.rewritten vesting data, w.log⟩ b w' := by
  unfold storeRecord
  rw [bind_assoc, yields_account_bind, yields_store_bind]
  exact Iff.rfl

theorem yields_storeBehind_bind {l : Ledger} {log : List Event} {source destination : Key}
    {debtor creditor : TokenAccount} {n : Nat} {vesting : Key} {data : Bytes}
    {f : Unit → Act β} :
    (storeBehind vesting source destination data >>= f).Yields
        ⟨l.move source destination debtor creditor n, log⟩ b w' ↔
      (f ()).Yields ⟨l.settled source destination debtor creditor n vesting data, log⟩ b w' :=
  yields_bind_of_yields (yields_storeBehind l log vesting source destination debtor creditor n data)

/-! What can break a part off. -/

variable {P : Fault → Prop}

theorem breaksOnly_pick_bind {position : Nat} {role : Role} {f : Key → Act β}
    (h : P (.rejected (.missingAccount role)))
    (hf : ∀ k, accounts[position]? = some k → (f k).BreaksOnly w fun why _ => P why) :
    (pick accounts position role >>= f).BreaksOnly w fun why _ => P why := by
  unfold pick
  cases hk : accounts[position]? with
  | none => exact breaksOnly_refuse_bind h
  | some k => exact breaksOnly_bind_of_yields (yields_pure.2 ⟨rfl, rfl⟩) (hf k hk)

theorem breaksOnly_checkAddress_bind {vesting : Key} {f : Unit → Act β}
    (hmismatch : P (.rejected .addressMismatch))
    (hbad : ∀ r, P (.rejected (.badSeeds r)))
    (hother : ∀ why, host.derive seeds.bytes host.program = .error why →
      (∀ r, why = .rejected r → r.code ≠ .invalidArgument) → P why)
    (hf : host.derive seeds.bytes host.program = .ok vesting →
      (f ()).BreaksOnly w fun why _ => P why) :
    (checkAddress host seeds vesting >>= f).BreaksOnly w fun why _ => P why := by
  unfold checkAddress
  split
  · rename_i address h
    refine breaksOnly_demand_bind (fun _ => hmismatch) fun haddress => hf ?_
    rw [h, haddress]
  · rename_i r h
    split
    · exact breaksOnly_refuse_bind (hbad r)
    · rename_i hcode
      refine breaksOnly_fail_bind (hother _ h fun r' hr' => ?_)
      obtain rfl := Fault.rejected.inj hr'
      exact hcode
  · rename_i why hnot h
    exact breaksOnly_fail_bind (hother _ h fun r hr => absurd hr (hnot r))

theorem breaksOnly_tokenAccount_bind {role : Role} {key : Key} {f : TokenAccount → Act β}
    (h : ∀ r, P (.rejected (.notTokenAccount role r)))
    (hf : ∀ t, TokenAccount.unpack (w.ledger.account key).data = .ok t →
      (f t).BreaksOnly w fun why _ => P why) :
    (tokenAccount role key >>= f).BreaksOnly w fun why _ => P why := by
  unfold tokenAccount
  rw [bind_assoc]
  refine breaksOnly_bind_of_yields (yields_account.2 ⟨rfl, rfl⟩) ?_
  cases ht : TokenAccount.unpack (w.ledger.account key).data with
  | ok t => exact breaksOnly_bind_of_yields (yields_pure.2 ⟨rfl, rfl⟩) (hf t ht)
  | error why =>
    obtain ⟨r, rfl, hr⟩ := TokenAccount.unpack_error ht
    simp only [if_pos hr]
    exact breaksOnly_refuse_bind (h r)

end Parts

/-! ## 2. Making room for a contract -/

/-- Everything that making room for `count` tranches asks for. -/
structure Opening (host : Host) (signers accounts : List Key) (seeds : Seeds) (count : UInt32)
    (l : Ledger) (payer vesting : Key) : Prop where
  payer_at : accounts[2]? = some payer
  vesting_at : accounts[3]? = some vesting
  address : host.derive seeds.bytes host.program = .ok vesting
  openable : Openable host signers payer vesting (minimumBalance (Record.length count.toNat))
    (Record.length count.toNat) (some seeds.bytes) l

theorem init_yields {count : UInt32}
    (h : (init host signers accounts seeds count).Yields w u w') :
    ∃ payer vesting, Opening host signers accounts seeds count w.ledger payer vesting ∧
      let size := Record.length count.toNat
      w' = ⟨w.ledger.opened payer vesting host.program (minimumBalance size) size,
        .opened vesting size (minimumBalance size) ::
          .opening vesting size (minimumBalance size) :: w.log⟩ := by
  simp only [init, perform, plan, planBy, planInit, bind_assoc, pure_bind, Plan.carry_opening,
    yields_pick_bind, yields_demand_bind, yields_checkAddress_bind, yields_note_bind] at h
  obtain ⟨-, -, -, -, payer, hpayer, vesting, hvesting, -, -, haddress, h⟩ := h
  obtain ⟨hopenable, rfl⟩ := createAccount_yields h
  exact ⟨payer, vesting, ⟨hpayer, hvesting, haddress, hopenable⟩, rfl⟩

/-- **Room is made where an account may be opened.** -/
theorem Opening.yields_init {count : UInt32} {payer vesting : Key}
    (h : Opening host signers accounts seeds count w.ledger payer vesting)
    (hsystem : accounts[0]? = some Key.systemProgram)
    (hrent : accounts[1]? = some Key.rentSysvar) :
    ∃ log, (init host signers accounts seeds count).Yields w ()
      ⟨w.ledger.opened payer vesting host.program
        (minimumBalance (Record.length count.toNat)) (Record.length count.toNat), log⟩ := by
  have hcreate (log : List Event) := Openable.yields_createAccount (w := ⟨w.ledger, log⟩)
    h.openable host.program
  simp only [init, perform, plan, planBy, planInit, bind_assoc, pure_bind, Plan.carry_opening,
    yields_pick_bind, yields_demand_bind, yields_checkAddress_bind, yields_note_bind]
  exact ⟨_, _, hsystem, _, hrent, payer, h.payer_at, vesting, h.vesting_at, rfl, rfl, h.address,
    hcreate _⟩

/-! ## 3. Setting a contract up -/

/-- Everything that setting up a contract with `tranches` asks for. -/
structure Funding (host : Host) (signers accounts : List Key) (seeds : Seeds)
    (tranches : List Tranche) (l : Ledger) (vesting escrow sourceOwner source : Key)
    (debtor creditor : TokenAccount) : Prop where
  vesting_at : accounts[1]? = some vesting
  escrow_at : accounts[2]? = some escrow
  address : host.derive seeds.bytes host.program = .ok vesting
  owner_signed : sourceOwner ∈ signers
  record_owner : (l.account vesting).owner = host.program
  fresh : Record.isInitialized (l.account vesting).data = false
  escrow_owner : creditor.owner = vesting
  record_length : (l.account vesting).data.length = Record.length tranches.length
  total_le : Tranche.total tranches ≤ maxU64
  permitted : Permitted host signers Key.tokenProgram source escrow sourceOwner none
    (Tranche.total tranches) l debtor creditor

theorem create_yields {mint destination : Key} {tranches : List Tranche}
    (h : (create host signers accounts seeds mint destination tranches).Yields w u w') :
    ∃ vesting escrow sourceOwner source debtor creditor,
      Funding host signers accounts seeds tranches w.ledger vesting escrow sourceOwner source debtor
        creditor ∧
      accounts[4]? = some source ∧
      let total := Tranche.total tranches
      w' = ⟨w.ledger.settled source escrow debtor creditor total vesting
          (Record.founded ⟨destination, mint, true⟩ tranches (w.ledger.account vesting).data),
        .created vesting tranches.length total ::
          if source = escrow then w.log else .moved total source escrow :: w.log⟩ := by
  simp only [create, perform, plan, planBy, planCreate, bind_assoc, pure_bind, Plan.carry_payment,
    yields_pick_bind, yields_checkAddress_bind, yields_demand_bind, yields_account_bind,
    yields_tokenAccount_bind] at h
  obtain ⟨tokenProgram, -, vesting, hvesting, escrow, hescrow, sourceOwner, -, source, hsource,
    haddress, hsigned, howner, hfresh, held, hheld, hescrowOwner, -, -, hlength, htotal, paying,
    -, -,
    h⟩ := h
  simp only [Record.writeTranches_writeHeader _ hlength] at h
  obtain ⟨_, _, ht, h⟩ := yields_bind.1 h
  obtain ⟨debtor, creditor, hpermitted, rfl⟩ := transfer_yields ht
  obtain rfl := hpermitted.program_eq
  have hcreditor : held = creditor := by
    have := (Account.token?_eq_some_iff.1 hpermitted.creditor_eq).2
    exact Except.ok.inj (hheld.symm.trans this)
  subst hcreditor
  rw [yields_storeBehind_bind, yields_orFail_bind] at h
  obtain ⟨-, -, h⟩ := h
  rw [yields_note] at h
  refine ⟨vesting, escrow, sourceOwner, source, debtor, held, ?_, hsource, h⟩
  exact ⟨hvesting, hescrow, haddress, hsigned, howner, by simpa using hfresh, hescrowOwner, hlength,
    htotal, hpermitted⟩

/-- **Where all else allows it, the total decides.**  It has to be a number of 64 bits. -/
theorem exec_create {mint destination vesting escrow sourceOwner source : Key}
    {tranches : List Tranche} {debtor creditor : TokenAccount}
    (haddress : host.derive seeds.bytes host.program = .ok vesting)
    (hsigned : sourceOwner ∈ signers) (howner : (w.ledger.account vesting).owner = host.program)
    (hfresh : Record.isInitialized (w.ledger.account vesting).data = false)
    (hescrow : TokenAccount.unpack (w.ledger.account escrow).data = .ok creditor)
    (hescrowOwner : creditor.owner = vesting) (hdelegate : creditor.delegate = none)
    (hclose : creditor.closeAuthority = none)
    (hlength : (w.ledger.account vesting).data.length = Record.length tranches.length)
    (hpermitted : Tranche.total tranches ≤ maxU64 → Permitted host signers Key.tokenProgram source
      escrow sourceOwner none (Tranche.total tranches) w.ledger debtor creditor) :
    ∃ left, (create host signers [Key.tokenProgram, vesting, escrow, sourceOwner, source] seeds mint
        destination tranches).exec w =
      if Tranche.total tranches ≤ maxU64 then
        (.ok (), ⟨w.ledger.settled source escrow debtor creditor (Tranche.total tranches) vesting
          (Record.founded ⟨destination, mint, true⟩ tranches (w.ledger.account vesting).data),
          left⟩)
      else
        (.error (.rejected .totalOverflow), ⟨w.ledger, left⟩) := by
  simp only [create, perform, plan, planBy, planCreate, bind_assoc, pure_bind, Plan.carry_payment]
  rw [exec_bind_of_yields (yields_pick rfl), exec_bind_of_yields (yields_pick rfl),
    exec_bind_of_yields (yields_pick rfl), exec_bind_of_yields (yields_pick rfl),
    exec_bind_of_yields (yields_pick rfl), exec_bind_of_yields (yields_checkAddress haddress),
    exec_bind_of_yields (yields_of_demand hsigned),
    exec_bind_of_yields (yields_account.2 ⟨rfl, rfl⟩),
    exec_bind_of_yields (yields_of_demand howner),
    exec_bind_of_yields (yields_of_demand (by simpa using hfresh)),
    exec_bind_of_yields (yields_tokenAccount hescrow),
    exec_bind_of_yields (yields_of_demand hescrowOwner),
    exec_bind_of_yields (yields_of_demand hdelegate),
    exec_bind_of_yields (yields_of_demand hclose),
    exec_bind_of_yields (yields_of_demand hlength)]
  simp only [Record.writeTranches_writeHeader _ hlength]
  by_cases hfits : Tranche.total tranches ≤ maxU64
  · have hpermitted := hpermitted hfits
    have hsource := (Account.token?_eq_some_iff.1 hpermitted.debtor_eq).2
    simp only [if_pos hfits]
    rw [exec_bind_of_yields (yields_of_demand hfits),
      exec_bind_of_yields (yields_tokenAccount hsource),
      exec_bind_of_yields (yields_of_demand hpermitted.covered),
      exec_bind_of_yields hpermitted.yields_transfer,
      exec_bind_of_yields (yields_storeBehind _ _ _ _ _ _ _ _ _),
      exec_bind_of_yields (yields_orFail.2 ⟨rfl, rfl⟩)]
    exact ⟨_, rfl⟩
  · simp only [if_neg hfits]
    exact ⟨_, breaks_bind.2 (Or.inl (breaks_of_demand hfits))⟩

/-! ## 4. Paying out -/

/-- Everything that paying out asks for. -/
structure Payout (host : Host) (signers accounts : List Key) (seeds : Seeds) (l : Ledger)
    (vesting escrow destination : Key) (header : Header) (debtor creditor : TokenAccount) :
    Prop where
  vesting_at : accounts[2]? = some vesting
  escrow_at : accounts[3]? = some escrow
  destination_at : accounts[4]? = some destination
  address : host.derive seeds.bytes host.program = .ok vesting
  long : 65 ≤ (l.account vesting).data.length
  header_eq : Record.header (l.account vesting).data = .ok header
  destination_eq : header.destination = destination
  due : Record.vestedAt host.clock (l.account vesting).data ≠ 0
  permitted : Permitted host signers Key.tokenProgram escrow destination vesting (some seeds.bytes)
    (Record.vestedAt host.clock (l.account vesting).data) l debtor creditor

/-- What the checks of a payment have found out, and the transfer that it comes to. -/
theorem planUnlock_yields {p : Plan} (h : (planUnlock (pick accounts) host seeds).Yields w p w') :
    ∃ vesting escrow destination header held,
      (accounts[2]? = some vesting ∧ accounts[3]? = some escrow ∧
        accounts[4]? = some destination) ∧
      host.derive seeds.bytes host.program = .ok vesting ∧
      65 ≤ (w.ledger.account vesting).data.length ∧
      Record.header (w.ledger.account vesting).data = .ok header ∧
      header.destination = destination ∧
      TokenAccount.unpack (w.ledger.account escrow).data = .ok held ∧
      let record := (w.ledger.account vesting).data
      let total := Record.vestedAt host.clock record
      total ≠ 0 ∧
      p = .payment Key.tokenProgram escrow destination vesting (some seeds.bytes) total vesting
        (Record.paidOut host.clock record, .ok ()) (.released total vesting destination) ∧
      w' = ⟨w.ledger, .releasing held.amount.toNat total ::
        (((Record.tranches record).map (.trancheSeen host.clock)).reverse ++ w.log)⟩ := by
  simp only [planUnlock, yields_pick_bind, yields_checkAddress_bind, yields_demand_bind,
    yields_account_bind, yields_tokenAccount_bind, yields_orFail_bind, yields_noteAll_bind,
    yields_note_bind, yields_pure] at h
  obtain ⟨tokenProgram, -, _, -, vesting, hvesting, escrow, hescrow, destination, hposition,
    haddress, htokens, hlong, header, hheader, hdestination, held, hheld, -, -, hdue, rfl, rfl⟩ := h
  rw [Record.writeTranches_release _ hlong, htokens]
  exact ⟨vesting, escrow, destination, header, held, ⟨hvesting, hescrow, hposition⟩, haddress,
    hlong,
    hheader, hdestination, hheld, hdue, rfl, rfl⟩

theorem unlock_yields (h : (unlock host signers accounts seeds).Yields w u w') :
    ∃ vesting escrow destination header debtor creditor,
      Payout host signers accounts seeds w.ledger vesting escrow destination header debtor
        creditor ∧
      let record := (w.ledger.account vesting).data
      let total := Record.vestedAt host.clock record
      let before := .releasing debtor.amount.toNat total ::
        (((Record.tranches record).map (.trancheSeen host.clock)).reverse ++ w.log)
      (plan host signers accounts (.unlock seeds)).Yields w
        (.payment Key.tokenProgram escrow destination vesting (some seeds.bytes) total vesting
          (Record.paidOut host.clock record, .ok ()) (.released total vesting destination))
        ⟨w.ledger, before⟩ ∧
      w' = ⟨w.ledger.settled escrow destination debtor creditor total vesting
          (Record.paidOut host.clock record),
        .released total vesting destination ::
          if escrow = destination then before else .moved total escrow destination :: before⟩ := by
  obtain ⟨p, w₁, hplan, hcarry⟩ := yields_bind.1 h
  obtain ⟨vesting, escrow, destination, header, held, ⟨hvesting, hescrow, hposition⟩, haddress,
    hlong, hheader, hdestination, hheld, hdue, rfl, rfl⟩ := planUnlock_yields hplan
  rw [Plan.carry_payment] at hcarry
  obtain ⟨_, _, ht, hrest⟩ := yields_bind.1 hcarry
  obtain ⟨debtor, creditor, hpermitted, rfl⟩ := transfer_yields ht
  have hdebtor : held = debtor := by
    have := (Account.token?_eq_some_iff.1 hpermitted.debtor_eq).2
    exact Except.ok.inj (hheld.symm.trans this)
  subst hdebtor
  rw [yields_storeBehind_bind, yields_orFail_bind] at hrest
  obtain ⟨-, -, hrest⟩ := hrest
  rw [yields_note] at hrest
  refine ⟨vesting, escrow, destination, header, held, creditor, ?_, hplan, hrest⟩
  exact ⟨hvesting, hescrow, hposition, haddress, hlong, hheader, hdestination, hdue, hpermitted⟩

/-- **Where all else allows it, the clock decides.**  All checks pass up to the last: something has
to be due. -/
theorem exec_unlock {vesting escrow destination : Key} {header : Header}
    {debtor creditor : TokenAccount}
    (haddress : host.derive seeds.bytes host.program = .ok vesting)
    (hheader : Record.header (w.ledger.account vesting).data = .ok header)
    (hdestination : header.destination = destination)
    (hpermitted : Permitted host signers Key.tokenProgram escrow destination vesting
      (some seeds.bytes) (Record.vestedAt host.clock (w.ledger.account vesting).data) w.ledger
      debtor creditor) :
    ∃ left, (unlock host signers [Key.tokenProgram, Key.clockSysvar, vesting, escrow, destination]
        seeds).exec w =
      if Record.vestedAt host.clock (w.ledger.account vesting).data = 0 then
        (.error (.rejected .nothingDue), ⟨w.ledger, left⟩)
      else
        (.ok (), ⟨w.ledger.settled escrow destination debtor creditor
          (Record.vestedAt host.clock (w.ledger.account vesting).data) vesting
          (Record.paidOut host.clock (w.ledger.account vesting).data), left⟩) := by
  have hlong := Record.length_of_header hheader
  have hheld := (Account.token?_eq_some_iff.1 hpermitted.debtor_eq).2
  simp only [unlock, perform, plan, planBy, planUnlock, bind_assoc, pure_bind, Plan.carry_payment]
  -- the accounts by their position, and then the checks in the order in which they are made
  rw [exec_bind_of_yields (yields_pick rfl), exec_bind_of_yields (yields_pick rfl),
    exec_bind_of_yields (yields_pick rfl), exec_bind_of_yields (yields_pick rfl),
    exec_bind_of_yields (yields_pick rfl), exec_bind_of_yields (yields_checkAddress haddress),
    exec_bind_of_yields (yields_of_demand rfl), exec_bind_of_yields (yields_account.2 ⟨rfl, rfl⟩),
    exec_bind_of_yields (yields_of_demand hlong),
    exec_bind_of_yields (yields_orFail.2 ⟨hheader, rfl⟩),
    exec_bind_of_yields (yields_of_demand hdestination),
    exec_bind_of_yields (yields_tokenAccount hheld),
    exec_bind_of_yields (yields_of_demand hpermitted.owner_eq.symm),
    exec_bind_of_yields (yields_of_demand rfl),
    exec_bind_of_yields (a := ()) (yields_noteAll.2 rfl)]
  by_cases hdue : Record.vestedAt host.clock (w.ledger.account vesting).data = 0
  · simp only [if_pos hdue]
    exact ⟨_, breaks_bind.2 (Or.inl (breaks_of_demand (not_not.2 hdue)))⟩
  · have htransfer (log : List Event) :=
      Permitted.yields_transfer (w := ⟨w.ledger, log⟩) hpermitted
    unfold Record.vestedAt at hdue htransfer ⊢
    simp only [if_neg hdue, Record.writeTranches_release host.clock hlong]
    rw [exec_bind_of_yields (yields_of_demand hdue),
      exec_bind_of_yields (a := ()) (yields_note.2 rfl), exec_bind_of_yields (htransfer _),
      exec_bind_of_yields (yields_storeBehind _ _ _ _ _ _ _ _ _),
      exec_bind_of_yields (yields_orFail.2 ⟨rfl, rfl⟩)]
    exact ⟨_, rfl⟩

/-! ## 5. Naming another destination -/

/-- Everything that naming another destination asks for. -/
structure Redirection (host : Host) (signers accounts : List Key) (seeds : Seeds) (l : Ledger)
    (vesting current target owner : Key) (header : Header) (token : TokenAccount) : Prop where
  vesting_at : accounts[0]? = some vesting
  target_at : accounts[3]? = some target
  address : host.derive seeds.bytes host.program = .ok vesting
  long : 65 ≤ (l.account vesting).data.length
  header_eq : Record.header (l.account vesting).data = .ok header
  current_eq : header.destination = current
  owner_signed : owner ∈ signers
  token_eq : TokenAccount.unpack (l.account current).data = .ok token
  token_owner : token.owner = owner

theorem changeDestination_yields
    (h : (changeDestination host signers accounts seeds).Yields w u w') :
    ∃ vesting current target owner header token,
      Redirection host signers accounts seeds w.ledger vesting current target owner header token ∧
      w' = ⟨w.ledger.rewritten vesting
          (Record.writeDestination target (w.ledger.account vesting).data),
        .redirected current target :: w.log⟩ := by
  simp only [changeDestination, perform, plan, planBy, planChangeDestination, bind_assoc, pure_bind,
    Plan.carry_writing, yields_pick_bind, yields_checkAddress_bind, yields_demand_bind,
    yields_account_bind,
    yields_tokenAccount_bind, yields_orFail_bind, yields_storeRecord_bind, yields_note] at h
  obtain ⟨vesting, hvesting, current, -, owner, -, target, htarget, hlong, haddress, header,
    hheader, hcurrent, hsigned, token, htoken, howner, h⟩ := h
  refine ⟨vesting, current, target, owner, header, token, ?_, h⟩
  exact ⟨hvesting, htarget, haddress, hlong, hheader, hcurrent, hsigned, htoken, howner⟩

/-! ## 6. The entry -/

/-- **What is carried out is the command that was read.** -/
theorem yields_process {data : Bytes} :
    (process host signers accounts data).Yields w u w' ↔
      ∃ c, Command.decode false data = .ok c ∧
        (perform host signers accounts c).Yields ⟨w.ledger, .started c.kind :: w.log⟩ u w' := by
  unfold process
  rw [yields_tryCatch, execute, yields_orFail_bind]
  · simp only [yields_note_bind]
  · intro why w₁
    cases why with
    | rejected r => simp [yields_bind]
    | _ => simp

/-- **What breaks a command off is reported as it is.**  The handler logs a refusal and fails with
the same fault. -/
theorem breaks_process {data : Bytes} {why : Fault}
    (h : (process host signers accounts data).Breaks w why w') :
    ∃ w₁, (execute host signers accounts data).Breaks w why w₁ ∧ w₁.ledger = w'.ledger := by
  obtain ⟨why₁, w₁, hexecute, hhandler⟩ := breaks_tryCatch.1 h
  cases why₁ with
  | rejected r =>
    cases hhandler
    exact ⟨_, hexecute, rfl⟩
  | _ =>
    cases hhandler
    exact ⟨_, hexecute, rfl⟩

/-- What the entry logs behind a command. -/
def refusals : Except Fault Unit → List Event
  | .error (.rejected r) => [.refused r]
  | _ => []

/-- **The entry announces a command, has it carried out, and logs a refusal behind it.** -/
theorem exec_process {data : Bytes} {c : Command} (h : Command.decode false data = .ok c)
    (w : World) :
    (process host signers accounts data).exec w =
      let done := (perform host signers accounts c).exec ⟨w.ledger, .started c.kind :: w.log⟩
      (done.1, ⟨done.2.ledger, refusals done.1 ++ done.2.log⟩) := by
  have hexecute : (execute host signers accounts data).exec w
      = (perform host signers accounts c).exec ⟨w.ledger, .started c.kind :: w.log⟩ := by
    unfold execute
    rw [exec_bind_of_yields (yields_orFail.2 ⟨h, rfl⟩),
      exec_bind_of_yields (a := ()) (yields_note.2 rfl)]
  rw [process, exec_tryCatch, hexecute]
  rcases (perform host signers accounts c).exec ⟨w.ledger, .started c.kind :: w.log⟩ with ⟨r, w₁⟩
  cases r with
  | ok u => rfl
  | error why =>
    cases why with
    | rejected r => rfl
    | _ => rfl

/-! ## 7. Commands do not read the log -/

section Plain

theorem plain_pick (position : Nat) (role : Role) : Plain (pick accounts position role) := by
  unfold pick
  split
  · exact .pure _
  · exact .refuse _

theorem plain_checkAddress (host : Host) (seeds : Seeds) (vesting : Key) :
    Plain (checkAddress host seeds vesting) := by
  unfold checkAddress
  split
  · exact .demand _ _
  · split
    · exact .refuse _
    · exact .fail _
  · exact .fail _

theorem plain_tokenAccount (role : Role) (key : Key) : Plain (tokenAccount role key) := by
  unfold tokenAccount
  refine .bind (.account key) fun a => ?_
  split
  · exact .pure _
  · split
    · exact .refuse _
    · exact .fail _
  · exact .fail _

theorem plain_storeRecord (vesting : Key) (data : Bytes) : Plain (storeRecord vesting data) :=
  .bind (.account vesting) fun _ => .store vesting _

theorem plain_storeBehind (vesting source destination : Key) (data : Bytes) :
    Plain (storeBehind vesting source destination data) := by
  unfold storeBehind
  split
  · exact .pure ()
  · exact plain_storeRecord vesting data

variable {find : Finder} (hfind : ∀ position role, Plain (find position role)) (host : Host)
  (signers : List Key)
include hfind

theorem plain_planInit (seeds : Seeds) (count : UInt32) :
    Plain (planInit find host seeds count) := by
  unfold planInit
  refine .bind (hfind _ _) fun _ => .bind (hfind _ _) fun _ => ?_
  refine .bind (hfind _ _) fun _ => .bind (hfind _ _) fun _ => ?_
  refine .bind (.demand _ _) fun _ => .bind (.demand _ _) fun _ => ?_
  exact .bind (plain_checkAddress _ _ _) fun _ => .bind (.note_one _) fun _ => .pure _

theorem plain_planCreate (seeds : Seeds) (mint destination : Key) (tranches : List Tranche) :
    Plain (planCreate find host signers seeds mint destination tranches) := by
  unfold planCreate
  refine .bind (hfind _ _) fun _ => .bind (hfind _ _) fun _ => ?_
  refine .bind (hfind _ _) fun _ => .bind (hfind _ _) fun _ => ?_
  refine .bind (hfind _ _) fun _ => .bind (plain_checkAddress _ _ _) fun _ => ?_
  refine .bind (.demand _ _) fun _ => .bind (.account _) fun _ => ?_
  refine .bind (.demand _ _) fun _ => .bind (.demand _ _) fun _ => ?_
  refine .bind (plain_tokenAccount _ _) fun _ => .bind (.demand _ _) fun _ => ?_
  refine .bind (.demand _ _) fun _ => .bind (.demand _ _) fun _ => ?_
  refine .bind (.demand _ _) fun _ => .bind (.demand _ _) fun _ => ?_
  exact .bind (plain_tokenAccount _ _) fun _ => .bind (.demand _ _) fun _ => .pure _

theorem plain_planUnlock (seeds : Seeds) : Plain (planUnlock find host seeds) := by
  unfold planUnlock
  refine .bind (hfind _ _) fun _ => .bind (hfind _ _) fun _ => ?_
  refine .bind (hfind _ _) fun _ => .bind (hfind _ _) fun _ => ?_
  refine .bind (hfind _ _) fun _ => .bind (plain_checkAddress _ _ _) fun _ => ?_
  refine .bind (.demand _ _) fun _ => .bind (.account _) fun _ => ?_
  refine .bind (.demand _ _) fun _ => .bind (.orFail _) fun _ => ?_
  refine .bind (.demand _ _) fun _ => .bind (plain_tokenAccount _ _) fun _ => ?_
  refine .bind (.demand _ _) fun _ => .bind (.demand _ _) fun _ => ?_
  refine .bind (.note _) fun _ => .bind (.demand _ _) fun _ => ?_
  exact .bind (.note_one _) fun _ => .pure _

theorem plain_planChangeDestination (seeds : Seeds) :
    Plain (planChangeDestination find host signers seeds) := by
  unfold planChangeDestination
  refine .bind (hfind _ _) fun _ => .bind (hfind _ _) fun _ => ?_
  refine .bind (hfind _ _) fun _ => .bind (hfind _ _) fun _ => ?_
  refine .bind (.account _) fun _ => .bind (.demand _ _) fun _ => ?_
  refine .bind (plain_checkAddress _ _ _) fun _ => .bind (.orFail _) fun _ => ?_
  refine .bind (.demand _ _) fun _ => .bind (.demand _ _) fun _ => ?_
  exact .bind (plain_tokenAccount _ _) fun _ => .bind (.demand _ _) fun _ => .pure _

theorem plain_planBy (c : Command) : Plain (planBy find host signers c) := by
  cases c with
  | init seeds count => exact plain_planInit hfind host seeds count
  | create seeds mint destination tranches =>
    exact plain_planCreate hfind host signers seeds mint destination tranches
  | unlock seeds => exact plain_planUnlock hfind host seeds
  | changeDestination seeds => exact plain_planChangeDestination hfind host signers seeds
  | empty number => exact .pure _

end Plain

theorem plain_carry (host : Host) (signers : List Key) (p : Plan) :
    Plain (p.carry host signers) := by
  cases p with
  | opening =>
    rw [Plan.carry_opening]
    exact plain_createAccount _ _ _ _ _ _ _ _
  | payment =>
    rw [Plan.carry_payment]
    refine .bind (plain_transfer _ _ _ _ _ _ _ _) fun _ => ?_
    refine .bind (plain_storeBehind _ _ _ _) fun _ => ?_
    exact .bind (.orFail _) fun _ => .note_one _
  | writing =>
    rw [Plan.carry_writing]
    exact .bind (plain_storeRecord _ _) fun _ => .note_one _
  | reporting =>
    rw [Plan.carry_reporting]
    exact .note_one _

/-- **A command is put together from events, faults and accounts.** -/
theorem plain_perform (host : Host) (signers accounts : List Key) (c : Command) :
    Plain (perform host signers accounts c) :=
  .bind (plain_planBy plain_pick host signers c) fun p => plain_carry host signers p

theorem plain_process (host : Host) (signers accounts : List Key) (data : Bytes) :
    Plain (process host signers accounts data) := by
  refine .handle (.bind (.orFail _) fun c => .bind (.note_one _) fun _ => ?_) fun why => ?_
  · exact plain_perform host signers accounts c
  · cases why with
    | rejected r => exact .bind (.note_one _) fun _ => .fail _
    | _ => exact .fail _

end Vesting.Engine
