/-
# The simulation tells the truth

A simulation sets up the contract of some settings on a bank of its own and pays out of it at a
given time.  What it reports is what the settings say (`Simulation.run_truthful`): the source is
empty, the destination has what is due by then, the escrow has the rest, and the tranches due are
marked as paid.  If nothing is due the payment is refused, and the report is as true as otherwise.

One predicate goes through the play, `Stage.Tally`: which tranches the record holds, and how many
tokens the escrow and the destination have.

* Setting up ends with the total in escrow (`Stage.Proper.setUp_eq`, `Stage.Proper.tally_founded`),
  unless the total is too large for an account: then it is refused.
* A payment moves the tally on, whether it goes through or is refused (`Stage.Proper.tally_payOut`).
  A payment that is refused would have moved nothing.
* The report is read off the tally (`Stage.Tally.report_eq`).

Two facts about keys are all that the play needs (`Stage.Proper`).  The seeds lead to the account
of the contract, and five accounts are five: whoever pays for the record, the source, the
destination, the escrow and the record.  The other keys may coincide as they like, and the program
may even be the token program, so that a record cannot be told from a token account by its owner.
That no transfer touches it is then a matter of these five keys alone.
-/
import Vesting.Simulation
import Vesting.Proofs.PathIndependence

namespace Vesting

/-! ## 1. Seeds that are resolved lead to their address -/

namespace Address

variable {program key : Key}

/-- Seeds with an address lead to it. -/
theorem derive_of_create? {seeds : Seeds} (h : create? [seeds.bytes] program = some key) :
    derive seeds.bytes program = .ok key := by
  rw [derive, if_neg (not_not.2 seeds.length_bytes), h]

end Address

namespace Seeds

theorem bytes_of_ofBytes {data : Bytes} {seeds : Seeds} (h : ofBytes data = .ok seeds) :
    seeds.bytes = data := by
  unfold ofBytes at h
  split at h
  · cases h
    rfl
  · cases h

/-- The seeds of a phrase are the start of the phrase and the byte that was found for it. -/
theorem exists_of_ofPhrase {phrase : Bytes} {program vesting : Key} {seeds : Seeds}
    (h : ofPhrase phrase program = .ok (seeds, vesting)) :
    ∃ first last, start phrase = .ok first ∧
      Address.find? [first] program = some (vesting, last) ∧ seeds.bytes = first ++ [last] := by
  unfold ofPhrase at h
  -- the search is taken apart by lemmas alone: to reduce it is to compute hashes
  obtain ⟨first, hfirst, h⟩ := bind_eq_ok_iff.1 h
  cases hfind : Address.find? [first] program with
  | none =>
    rw [hfind] at h
    cases h
  | some found =>
    obtain ⟨address, last⟩ := found
    rw [hfind] at h
    obtain ⟨resolved, hbytes, h⟩ := bind_eq_ok_iff.1 h
    cases h
    exact ⟨first, last, hfirst, hfind, bytes_of_ofBytes hbytes⟩

/-- The address of a phrase is the one that its seeds lead to. -/
theorem derive_of_ofPhrase {phrase : Bytes} {program vesting : Key} {seeds : Seeds}
    (h : ofPhrase phrase program = .ok (seeds, vesting)) :
    Address.derive seeds.bytes program = .ok vesting := by
  obtain ⟨first, last, -, hfind, hbytes⟩ := exists_of_ofPhrase h
  refine Address.derive_of_create? ?_
  -- the byte is hashed behind the others, whether it counts among them or stands alone
  rw [hbytes, ← Address.create?_of_find? hfind]
  exact Address.create?_of_flatten_eq (by simp)

/-- **Seeds that are resolved lead to the address that is given with them.** -/
theorem derive_of_resolve {text : String} {program vesting : Key} {seeds : Seeds}
    (h : resolve text program = .ok (seeds, vesting)) :
    Address.derive seeds.bytes program = .ok vesting := by
  unfold resolve at h
  split at h
  · obtain ⟨found, -, h⟩ := bind_eq_ok_iff.1 h
    obtain ⟨address, hderive, h⟩ := bind_eq_ok_iff.1 h
    cases h
    exact hderive
  · exact derive_of_ofPhrase h

end Seeds

/-! ## 2. The stage at the start -/

/-- The bank reads the tokens off a token account. -/
theorem Bank.tokenBalance_of_token? {b : Bank} {k : Key} {t : TokenAccount}
    (h : (b.ledger.account k).token? = some t) : b.tokenBalance k = .ok t.amount := by
  rw [tokenBalance, Ledger.get?_of_ne_empty (Account.ne_empty_of_token? h)]
  simp only [(Account.token?_eq_some_iff.1 h).2]
  rfl

namespace Simulation

/-- What the play needs of its stage: the seeds lead to the contract, the keys of five accounts
differ, and an account may be as long as the record. -/
structure Stage.Proper (s : Stage) : Prop where
  address : Address.derive s.seeds.bytes s.program = .ok s.vesting
  distinct : [s.cast.payer, s.source, s.destination, s.cast.escrow, s.vesting].Nodup
  count_le : s.tranches.length ≤ 655355

/-- How many tokens the source, the escrow and the destination have. -/
structure Stage.Purses (s : Stage) (l : Ledger) (source escrow destination : Nat) : Prop where
  source_eq : (l.account s.source).token?
    = some (s.tokens s.cast.sourceOwner (UInt64.ofNat source))
  escrow_eq : (l.account s.cast.escrow).token? = some (s.tokens s.vesting (UInt64.ofNat escrow))
  destination_eq : (l.account s.destination).token?
    = some (s.tokens s.cast.destinationOwner (UInt64.ofNat destination))

namespace Stage

variable {s : Stage}

theorem Purses.congr {l l' : Ledger} {source escrow destination : Nat}
    (h : s.Purses l source escrow destination) (hsame : l.Agrees l') :
    s.Purses l' source escrow destination := by
  refine ⟨?_, ?_, ?_⟩
  · rw [← hsame, h.source_eq]
  · rw [← hsame, h.escrow_eq]
  · rw [← hsame, h.destination_eq]

/-- The account that stores a token account at the start. -/
def vault (token : TokenAccount) : Account :=
  ⟨Key.tokenProgram, Host.minimumBalance TokenAccount.length, token.pack⟩

/-- The program runs on a host as it comes. -/
theorem host_bank (s : Stage) : s.bank.host = { program := s.program } := rfl

/-- Every account at the start. -/
theorem account_bank (s : Stage) (k : Key) :
    s.bank.ledger.account k =
      if k = s.cast.escrow then vault (s.tokens s.vesting 0)
      else if k = s.destination then vault (s.tokens s.cast.destinationOwner 0)
      else if k = s.source then vault (s.tokens s.cast.sourceOwner s.funds)
      else if k = s.cast.payer then ⟨Key.systemProgram, purse, []⟩
      else .empty := by
  simp only [bank, Bank.addTokenAccount, Bank.addAccount, Ledger.account_insert]
  rfl

/-- A token account is read back from the account that stores it. -/
theorem token?_vault (s : Stage) (owner : Key) (amount : UInt64) :
    (vault (s.tokens owner amount)).token? = some (s.tokens owner amount) :=
  Account.token?_eq_some_iff.2 ⟨rfl, TokenAccount.unpack_pack (Or.inl rfl)⟩

@[simp] theorem isFrozen_tokens (s : Stage) (owner : Key) (amount : UInt64) :
    (s.tokens owner amount).isFrozen = false := rfl

@[simp] theorem amount_tokens (s : Stage) (owner : Key) (amount : UInt64) :
    (s.tokens owner amount).amount = amount := rfl

theorem holding_tokens (s : Stage) (owner : Key) (amount : UInt64) (n : Nat) :
    (s.tokens owner amount).holding n = s.tokens owner (UInt64.ofNat n) := rfl

section Start

variable (h : s.Proper)
include h

theorem Proper.derive_host :
    s.bank.host.derive s.seeds.bytes s.bank.host.program = .ok s.vesting := by
  rw [host_bank, ← h.address]

/-- The five keys, two by two. -/
theorem Proper.keys_ne :
    (s.cast.payer ≠ s.source ∧ s.cast.payer ≠ s.destination ∧ s.cast.payer ≠ s.cast.escrow ∧
        s.cast.payer ≠ s.vesting) ∧
      (s.source ≠ s.destination ∧ s.source ≠ s.cast.escrow ∧ s.source ≠ s.vesting) ∧
      (s.destination ≠ s.cast.escrow ∧ s.destination ≠ s.vesting) ∧ s.cast.escrow ≠ s.vesting := by
  have hdistinct := h.distinct
  simp only [List.nodup_cons, List.mem_cons, not_or, List.not_mem_nil, not_false_eq_true,
    List.nodup_nil, and_true] at hdistinct
  exact hdistinct

/-- The source has what the contract asks for, as far as an account can hold it. -/
theorem Proper.purses_bank :
    s.Purses s.bank.ledger (min (Tranche.total s.tranches) maxU64) 0 0 := by
  obtain ⟨-, ⟨hsource, hescrow, -⟩, ⟨hdestination, -⟩, -⟩ := h.keys_ne
  refine ⟨?_, ?_, ?_⟩
  · rw [account_bank, if_neg hescrow, if_neg hsource, if_pos rfl, token?_vault]
    rfl
  · rw [account_bank, if_pos rfl, token?_vault]
    rfl
  · rw [account_bank, if_neg hdestination, if_pos rfl, token?_vault]
    rfl

theorem Proper.account_bank_vesting : s.bank.ledger.account s.vesting = .empty := by
  obtain ⟨⟨-, -, -, hpayer⟩, ⟨-, -, hsource⟩, ⟨-, hdestination⟩, hescrow⟩ := h.keys_ne
  rw [account_bank, if_neg hescrow.symm, if_neg hdestination.symm, if_neg hsource.symm,
    if_neg hpayer.symm]

theorem Proper.account_bank_payer :
    s.bank.ledger.account s.cast.payer = ⟨Key.systemProgram, purse, []⟩ := by
  obtain ⟨⟨hsource, hdestination, hescrow, -⟩, -⟩ := h.keys_ne
  rw [account_bank, if_neg hescrow, if_neg hdestination, if_neg hsource, if_pos rfl]

end Start

/-! ## 3. Setting the contract up -/

/-- The length of the record. -/
def size (s : Stage) : Nat := Record.length s.tranches.length

/-- The ledger once there is room for the contract. -/
def opened (s : Stage) : Ledger :=
  s.bank.ledger.opened s.cast.payer s.vesting s.program (Host.minimumBalance s.size) s.size

/-- The ledger once the contract has been set up. -/
def founded (s : Stage) : Ledger :=
  s.opened.settled s.source s.cast.escrow (s.tokens s.cast.sourceOwner s.funds)
    (s.tokens s.vesting 0) (Tranche.total s.tranches) s.vesting
    (Record.founded ⟨s.destination, s.mint, true⟩ s.tranches (s.opened.account s.vesting).data)

theorem toNat_funds (s : Stage) (hfits : Tranche.total s.tranches ≤ maxU64) :
    s.funds.toNat = Tranche.total s.tranches := by
  rw [funds, Nat.min_eq_left hfits, Word64.toNat_ofNat_of_le hfits]

theorem account_opened_vesting (s : Stage) :
    s.opened.account s.vesting
      = ⟨s.program, Host.minimumBalance s.size, List.replicate s.size 0⟩ := by
  rw [opened, Ledger.account_opened, if_pos rfl]

section SetUp

variable (h : s.Proper)
include h

/-- The payer can afford the largest record. -/
theorem Proper.openable : Host.Openable s.bank.host [s.cast.payer] s.cast.payer s.vesting
    (Host.minimumBalance s.size) s.size (some s.seeds.bytes) s.bank.ledger := by
  have hcount := h.count_le
  have hsize : s.size ≤ Host.maxSize := by
    rw [size, Record.length, Host.maxSize]
    omega
  refine ⟨List.mem_singleton_self _, Host.signedFor_of_derive _ h.derive_host,
    h.account_bank_vesting, hsize, ?_⟩
  rw [h.account_bank_payer]
  show Host.minimumBalance s.size ≤ purse
  rw [Host.maxSize] at hsize
  rw [Host.minimumBalance, purse]
  omega

/-- Nobody's tokens pay for the record. -/
theorem Proper.purses_opened :
    s.Purses s.opened (min (Tranche.total s.tranches) maxU64) 0 0 := by
  obtain ⟨⟨hs, hd, he, -⟩, ⟨-, -, hsource⟩, ⟨-, hdestination⟩, hescrow⟩ := h.keys_ne
  have hpurses := h.purses_bank
  refine ⟨?_, ?_, ?_⟩
  · rw [opened, Ledger.account_opened, if_neg hsource, if_neg hs.symm, hpurses.source_eq]
  · rw [opened, Ledger.account_opened, if_neg hescrow, if_neg he.symm, hpurses.escrow_eq]
  · rw [opened, Ledger.account_opened, if_neg hdestination, if_neg hd.symm,
      hpurses.destination_eq]

/-- **Room is made for the contract.** -/
theorem Proper.yields_init {count : UInt32} (hcount : count.toNat = s.tranches.length) :
    ∃ log, (Bank.perform s.bank.host
        (.init s.program s.cast.payer s.vesting s.seeds count)).Yields ⟨s.bank.ledger, []⟩ ()
      ⟨s.opened, log⟩ := by
  have hopening : Engine.Opening s.bank.host [s.cast.payer]
      [Key.systemProgram, Key.rentSysvar, s.cast.payer, s.vesting] s.seeds count s.bank.ledger
      s.cast.payer s.vesting := by
    refine ⟨rfl, rfl, h.derive_host, ?_⟩
    rw [hcount]
    exact h.openable
  obtain ⟨log, hinit⟩ := Engine.Opening.yields_init
    (w := ⟨s.bank.ledger, [.started .init]⟩) hopening rfl rfl
  rw [hcount] at hinit
  exact ⟨log, Bank.yields_invoke (c := .init s.seeds count) rfl (Command.decode_encode false _)
    hinit⟩

/-- What the source has may be moved into escrow. -/
theorem Proper.permitted (hfits : Tranche.total s.tranches ≤ maxU64) :
    Host.Permitted s.bank.host [s.cast.sourceOwner] Key.tokenProgram s.source s.cast.escrow
      s.cast.sourceOwner none (Tranche.total s.tranches) s.opened
      (s.tokens s.cast.sourceOwner s.funds) (s.tokens s.vesting 0) where
  program_eq := rfl
  debtor_eq := h.purses_opened.source_eq
  creditor_eq := h.purses_opened.escrow_eq
  mint_eq := rfl
  thawed := by simp
  owner_eq := rfl
  signed := Host.signedFor_of_mem (List.mem_singleton_self _) _
  covered := Nat.le_of_eq (s.toNat_funds hfits).symm
  fits := fun _ => by
    rw [tokens, UInt64.toNat_zero, Nat.zero_add]
    exact hfits

/-- The total decides whether the contract is set up: the record is fresh and fits, and the source
has what is asked for. -/
theorem Proper.exec_create (log : List Event) :
    ∃ left, (Bank.perform s.bank.host
        (.create s.program s.vesting s.cast.escrow s.cast.sourceOwner s.source s.destination s.mint
          s.tranches s.seeds)).exec ⟨s.opened, log⟩ =
      if Tranche.total s.tranches ≤ maxU64 then (.ok (), ⟨s.founded, left⟩)
      else (.error (.rejected .totalOverflow), ⟨s.opened, left⟩) := by
  have hrecord := s.account_opened_vesting
  obtain ⟨-, hescrow⟩ := Account.token?_eq_some_iff.1 h.purses_opened.escrow_eq
  obtain ⟨left, hcreate⟩ : ∃ left, (Engine.create s.bank.host [s.cast.sourceOwner]
      [Key.tokenProgram, s.vesting, s.cast.escrow, s.cast.sourceOwner, s.source] s.seeds s.mint
      s.destination s.tranches).exec ⟨s.opened, .started .create :: log⟩ =
        if Tranche.total s.tranches ≤ maxU64 then (.ok (), ⟨s.founded, left⟩)
        else (.error (.rejected .totalOverflow), ⟨s.opened, left⟩) :=
    Engine.exec_create h.derive_host (List.mem_singleton_self _) (by rw [hrecord]; rfl)
      (by rw [hrecord]; exact Record.isInitialized_zeros _) hescrow rfl rfl rfl
      (by rw [hrecord]; exact List.length_replicate) h.permitted
  have hdecode := Command.decode_encode false (.create s.seeds s.mint s.destination s.tranches)
  by_cases hfits : Tranche.total s.tranches ≤ maxU64
  · rw [if_pos hfits] at hcreate
    simp only [if_pos hfits]
    exact ⟨_, Bank.yields_invoke rfl hdecode hcreate⟩
  · rw [if_neg hfits] at hcreate
    simp only [if_neg hfits]
    exact ⟨_, Bank.breaks_invoke rfl hdecode hcreate⟩

/-- The instructions of the opening, once the tranches have been counted. -/
theorem Proper.opening_eq :
    ∃ count : UInt32, count.toNat = s.tranches.length ∧ s.opening = .ok [
      .init s.program s.cast.payer s.vesting s.seeds count,
      .create s.program s.vesting s.cast.escrow s.cast.sourceOwner s.source s.destination s.mint
        s.tranches s.seeds] := by
  have hcount : s.tranches.length < LittleEndian.capacity 4 :=
    Nat.lt_of_le_of_lt h.count_le (by decide)
  have hword := Word32.ofInt_of_lt "number_of_schedules" hcount
  refine ⟨_, Word32.toNat_of_ofInt hword, ?_⟩
  rw [opening, hword]
  rfl

/-- **Setting up goes through, unless the total is too large.**  Then the bank is as it was. -/
theorem Proper.setUp_eq :
    ∃ left, s.setUp =
      if Tranche.total s.tranches ≤ maxU64 then
        ⟨.ok (), { s.bank with ledger := s.founded.sweep }, left⟩
      else ⟨.error (.rejected .totalOverflow), s.bank, left⟩ := by
  obtain ⟨count, hcount, hopening⟩ := h.opening_eq
  obtain ⟨log, hinit⟩ := h.yields_init hcount
  obtain ⟨left, hcreate⟩ := h.exec_create log
  have hsigned : Bank.missingSignature? [
      .init s.program s.cast.payer s.vesting s.seeds count,
      .create s.program s.vesting s.cast.escrow s.cast.sourceOwner s.source s.destination s.mint
        s.tranches s.seeds] [s.cast.payer, s.cast.sourceOwner] = none := by
    refine Bank.missingSignature?_of_subset fun ix hix k hk => ?_
    simp only [List.mem_cons, List.not_mem_nil, or_false] at hix
    rcases hix with rfl | rfl
    · cases List.mem_singleton.1 hk
      exact List.mem_cons_self
    · cases List.mem_singleton.1 hk
      exact List.mem_cons_of_mem _ (List.mem_singleton_self _)
  have hboth := Bank.processTransaction_pair s.bank hsigned
  have hexec := Act.exec_bind_of_yields (f := fun _ => Bank.perform s.bank.host (.create s.program
    s.vesting s.cast.escrow s.cast.sourceOwner s.source s.destination s.mint s.tranches s.seeds))
    hinit
  rw [setUp, hopening]
  by_cases hfits : Tranche.total s.tranches ≤ maxU64
  · simp only [if_pos hfits] at hcreate ⊢
    exact ⟨_, hboth.trans (Bank.transact_of_yields (hexec.trans hcreate))⟩
  · simp only [if_neg hfits] at hcreate ⊢
    exact ⟨_, hboth.trans (Bank.transact_of_breaks (hexec.trans hcreate))⟩

end SetUp

/-! ## 4. What is left on the stage -/

/-- The contract has been set up with tranches that come to `ts` by now.  The source is empty, the
escrow has what is locked, the destination has what has been paid, and one account has room for both
together. -/
structure Tally (s : Stage) (l : Ledger) (ts : List Tranche) (paid : Nat) : Prop where
  header_eq : Record.header (l.account s.vesting).data = .ok ⟨s.destination, s.mint, true⟩
  tranches_eq : Record.tranches (l.account s.vesting).data = ts
  purses : s.Purses l 0 (Tranche.total ts) paid
  fits : paid + Tranche.total ts ≤ maxU64

theorem Tally.congr {l l' : Ledger} {ts : List Tranche} {paid : Nat} (h : s.Tally l ts paid)
    (hsame : l.Agrees l') : s.Tally l' ts paid where
  header_eq := by rw [← hsame, h.header_eq]
  tranches_eq := by rw [← hsame, h.tranches_eq]
  purses := h.purses.congr hsame
  fits := h.fits

/-- **What is left is reported.** -/
theorem Tally.report_eq {b : Bank} {ts : List Tranche} {paid : Nat} (h : s.Tally b.ledger ts paid)
    (time : Int) (refusal : Option Rejection) :
    s.report b time refusal = .ok {
      address := s.vesting, seeds := s.seeds, time, refusal, source := 0,
      escrow := UInt64.ofNat (Tranche.total ts), destination := UInt64.ofNat paid,
      tranches := ts } := by
  have hrecord : b.ledger.account s.vesting ≠ .empty := by
    intro hempty
    have hlong := Record.length_of_header h.header_eq
    rw [hempty] at hlong
    exact absurd hlong (by decide)
  rw [report, Ledger.get?_of_ne_empty hrecord, Bank.tokenBalance_of_token? h.purses.source_eq,
    Bank.tokenBalance_of_token? h.purses.escrow_eq,
    Bank.tokenBalance_of_token? h.purses.destination_eq, ← h.tranches_eq]
  rfl

/-- What is due may be moved out of escrow. -/
theorem Tally.permitted {host : Host} {l : Ledger} {ts : List Tranche} {paid : Nat}
    (htally : s.Tally l ts paid)
    (hderive : host.derive s.seeds.bytes host.program = .ok s.vesting) (time : Int) :
    Host.Permitted host [] Key.tokenProgram s.cast.escrow s.destination s.vesting
      (some s.seeds.bytes) (Tranche.dueAt time ts) l
      (s.tokens s.vesting (UInt64.ofNat (Tranche.total ts)))
      (s.tokens s.cast.destinationOwner (UInt64.ofNat paid)) := by
  have hdue := Tranche.dueAt_le_total time ts
  have hfits := htally.fits
  refine ⟨rfl, htally.purses.escrow_eq, htally.purses.destination_eq, rfl, by simp, rfl,
    Host.signedFor_of_derive _ hderive, ?_, fun _ => ?_⟩
  · rw [amount_tokens, Word64.toNat_ofNat_of_le (by omega)]
    exact hdue
  · rw [amount_tokens, Word64.toNat_ofNat_of_le (by omega)]
    omega

section Play

variable (h : s.Proper)
include h

/-- **Setting up leaves all tranches open.** -/
theorem Proper.tally_founded (hfits : Tranche.total s.tranches ≤ maxU64) :
    s.Tally s.founded s.tranches 0 := by
  obtain ⟨-, ⟨hsd, hse, hsv⟩, ⟨hde, hdv⟩, hev⟩ := h.keys_ne
  have hpermitted := h.permitted hfits
  have hpurses := h.purses_opened
  have hlength : (s.opened.account s.vesting).data.length = Record.length s.tranches.length := by
    rw [account_opened_vesting]
    exact List.length_replicate
  have hdisplaced := Engine.not_displaced_of_ne hsv hev
  have hrecord : (s.founded.account s.vesting).data
      = Record.founded ⟨s.destination, s.mint, true⟩ s.tranches
          (s.opened.account s.vesting).data := by
    rw [founded, Ledger.account_settled_of_not_displaced _ _ _ _ _ hdisplaced]
    rfl
  constructor
  case header_eq => rw [hrecord, Record.header_founded _ hlength]
  case tranches_eq => rw [hrecord, Record.tranches_founded _ hlength]
  case fits => rwa [Nat.zero_add]
  case purses =>
    refine ⟨?_, ?_, ?_⟩
    · rw [founded, Ledger.account_settled_of_ne _ _ _ _ _ hsv, hpermitted.token?_move_source hse,
        holding_tokens, amount_tokens, s.toNat_funds hfits, Nat.sub_self]
    · rw [founded, Ledger.account_settled_of_ne _ _ _ _ _ hev,
        hpermitted.token?_move_destination hse, holding_tokens, amount_tokens, UInt64.toNat_zero,
        Nat.zero_add]
    · rw [founded, Ledger.account_settled_of_ne _ _ _ _ _ hdv,
        Ledger.account_move_of_ne _ _ _ _ hsd.symm hde, hpurses.destination_eq]

/-- **What is due goes from the escrow to the destination.** -/
theorem Proper.tally_settled {host : Host} {l : Ledger} {ts : List Tranche} {paid : Nat}
    (htally : s.Tally l ts paid) {debtor creditor : TokenAccount} (time : Int)
    (hpermitted : Host.Permitted host [] Key.tokenProgram s.cast.escrow s.destination s.vesting
      (some s.seeds.bytes) (Tranche.dueAt time ts) l debtor creditor) :
    s.Tally (l.settled s.cast.escrow s.destination debtor creditor (Tranche.dueAt time ts) s.vesting
      (Record.paidOut time (l.account s.vesting).data)) (Tranche.release time ts)
      (paid + Tranche.dueAt time ts) := by
  obtain ⟨-, ⟨hsd, hse, hsv⟩, ⟨hde, hdv⟩, hev⟩ := h.keys_ne
  have hlong := Record.length_of_header htally.header_eq
  have hrelease := Tranche.total_release time ts
  have hfits := htally.fits
  cases hpermitted.debtor_eq.symm.trans htally.purses.escrow_eq
  cases hpermitted.creditor_eq.symm.trans htally.purses.destination_eq
  have hdisplaced := Engine.not_displaced_of_ne hev hdv
  have hrecord := l.account_settled_of_not_displaced
    (s.tokens s.vesting (UInt64.ofNat (Tranche.total ts)))
    (s.tokens s.cast.destinationOwner (UInt64.ofNat paid)) (Tranche.dueAt time ts)
    (Record.paidOut time (l.account s.vesting).data) hdisplaced
  constructor
  case header_eq =>
    rw [hrecord]
    exact (Record.header_paidOut time hlong).2 htally.header_eq
  case tranches_eq =>
    rw [hrecord]
    show Record.tranches (Record.paidOut time _) = _
    rw [Record.tranches_paidOut time hlong, htally.tranches_eq]
  case fits => omega
  case purses =>
    refine ⟨?_, ?_, ?_⟩
    · rw [Ledger.account_settled_of_ne _ _ _ _ _ hsv, Ledger.account_move_of_ne _ _ _ _ hse hsd,
        htally.purses.source_eq]
    · rw [Ledger.account_settled_of_ne _ _ _ _ _ hev, hpermitted.token?_move_source hde.symm,
        holding_tokens, amount_tokens, Word64.toNat_ofNat_of_le (by omega), ← hrelease,
        Nat.add_sub_cancel_left]
    · rw [Ledger.account_settled_of_ne _ _ _ _ _ hdv,
        hpermitted.token?_move_destination hde.symm, holding_tokens, amount_tokens,
        Word64.toNat_ofNat_of_le (by omega)]

/-- **A payment goes through if anything is due, and what is due is paid either way.** -/
theorem Proper.tally_payOut {b : Bank} (hhost : b.host = s.bank.host) {ts : List Tranche}
    {paid : Nat} (htally : s.Tally b.ledger ts paid) (time : Int) :
    let attempt := s.payOut b time
    (attempt.result
        = if Tranche.dueAt time ts = 0 then .error (.rejected .nothingDue) else .ok ()) ∧
      s.Tally attempt.bank.ledger (Tranche.release time ts) (paid + Tranche.dueAt time ts) := by
  intro attempt
  have hderive : (b.atClock time).host.derive s.seeds.bytes (b.atClock time).host.program
      = .ok s.vesting := by
    rw [← h.derive_host, ← hhost]
    rfl
  have hprogram : s.program = (b.atClock time).host.program := by
    rw [Bank.atClock, hhost]
    rfl
  have hvested : Record.vestedAt (b.atClock time).host.clock (b.ledger.account s.vesting).data
      = Tranche.dueAt time ts := by
    rw [Record.vestedAt, htally.tranches_eq]
    rfl
  have hpermitted := htally.permitted hderive time
  obtain ⟨left, hunlock⟩ := Engine.exec_unlock (w := ⟨b.ledger, [.started .unlock]⟩) hderive
    htally.header_eq (Eq.refl s.destination) (hvested ▸ hpermitted)
  rw [hvested] at hunlock
  have hdecode := Command.decode_encode false (.unlock s.seeds)
  have hattempt : attempt = _ := Bank.Payable.attempt_eq (b.atClock time) []
  by_cases hdue : Tranche.dueAt time ts = 0
  · -- nothing is due, and so nothing is released either
    rw [if_pos hdue] at hunlock
    have hinvoke := Bank.breaks_invoke hprogram hdecode hunlock
    rw [hattempt, Bank.transact_of_breaks (b := b.atClock time) hinvoke, if_pos hdue, hdue,
      Tranche.release_of_dueAt_eq_zero hdue]
    exact ⟨rfl, htally⟩
  · rw [if_neg hdue] at hunlock
    have hinvoke := Bank.yields_invoke hprogram hdecode hunlock
    rw [hattempt, Bank.transact_of_yields (b := b.atClock time) hinvoke, if_neg hdue]
    exact ⟨rfl, (h.tally_settled htally time hpermitted).congr (Ledger.agrees_sweep _)⟩

end Play

end Stage
end Simulation

/-! ## 5. The play -/

/-- The simulation of a contract up to a time says what its tranches say: those that are due have
been paid out and are marked so, the others are in escrow, and nothing is left at the source.  A
payment of nothing has been refused. -/
structure Simulation.Truthful (sim : Simulation) (seeds : Seeds) (vesting : Key)
    (tranches : List Tranche) (time : Int) : Prop where
  address_eq : sim.address = vesting
  seeds_eq : sim.seeds = seeds
  time_eq : sim.time = time
  source_eq : sim.source.toNat = 0
  destination_eq : sim.destination.toNat
    = Tranche.total (tranches.filter fun t => t.releaseTime.toNat ≤ time)
  escrow_eq : sim.escrow.toNat
    = Tranche.total (tranches.filter fun t => ¬ t.releaseTime.toNat ≤ time)
  tranches_eq : sim.tranches
    = tranches.map fun t => if t.releaseTime.toNat ≤ time then { t with amount := 0 } else t
  refusal_eq : sim.refusal = if 0 < sim.destination.toNat then none else some .nothingDue

namespace Simulation

/-- The stage of a contract whose seed is resolved is set, and the play can begin. -/
theorem Stage.exists_of {cast : Cast} {program vesting : Key} {contract : ContractSettings}
    {text : String} {seeds : Seeds} (hseed : contract.seed = some text)
    (hresolve : Seeds.resolve text program = .ok (seeds, vesting))
    (hsome : 1 ≤ contract.tranches.length) (hcount : contract.tranches.length ≤ 655355)
    (hdistinct : [cast.payer, contract.source.getD cast.source,
      contract.destination.getD cast.destination, cast.escrow, vesting].Nodup) :
    ∃ s, Stage.of cast program contract = .ok s ∧ s.Proper ∧ s.seeds = seeds ∧
      s.vesting = vesting ∧ s.tranches = contract.tranches := by
  have hempty : ¬ contract.tranches.isEmpty = true := by
    simpa using List.ne_nil_of_length_pos hsome
  let s : Stage := {
    program, seeds, vesting, cast
    mint := contract.mint.getD cast.mint
    source := contract.source.getD cast.source
    destination := contract.destination.getD cast.destination
    tranches := contract.tranches }
  have hstage : Stage.of cast program contract = .ok s := by
    rw [Stage.of, hseed]
    simp only [if_neg hempty, hresolve]
    rfl
  exact ⟨s, hstage, ⟨Seeds.derive_of_resolve hresolve, hdistinct, hcount⟩, rfl, rfl, rfl⟩

/-- What the stage comes to at a time. -/
def Stage.finale (s : Stage) (time : Int) : Simulation where
  address := s.vesting
  seeds := s.seeds
  time := time
  refusal := if Tranche.dueAt time s.tranches = 0 then some .nothingDue else none
  source := 0
  escrow := UInt64.ofNat (Tranche.total (Tranche.release time s.tranches))
  destination := UInt64.ofNat (Tranche.dueAt time s.tranches)
  tranches := Tranche.release time s.tranches

theorem Stage.truthful_finale (s : Stage) (hfits : Tranche.total s.tranches ≤ maxU64)
    (time : Int) : (s.finale time).Truthful s.seeds s.vesting s.tranches time := by
  have hrelease := Tranche.total_release time s.tranches
  have hdue : (s.finale time).destination.toNat = Tranche.dueAt time s.tranches :=
    Word64.toNat_ofNat_of_le (by omega)
  constructor
  case address_eq => rfl
  case seeds_eq => rfl
  case time_eq => rfl
  case source_eq => rfl
  case destination_eq => exact hdue
  case escrow_eq =>
    rw [finale, Word64.toNat_ofNat_of_le (by omega), Tranche.total_release_eq]
    simp only [Tranche.isDue, decide_not]
  case tranches_eq =>
    simp only [finale, Tranche.release, Tranche.isDue, decide_eq_true_eq, Tranche.released]
  case refusal_eq =>
    rw [hdue]
    simp only [finale, Nat.pos_iff_ne_zero, ite_not]

/-- **A play comes to its finale, unless the total is too large for an account.** -/
theorem Stage.Proper.run_eq {s : Stage} (h : s.Proper) {cast : Cast} {program : Key}
    {contract : ContractSettings} (hstage : Stage.of cast program contract = .ok s) (time : Int) :
    (run cast program contract time).1 =
      if Tranche.total s.tranches ≤ maxU64 then .ok (s.finale time)
      else .error (.rejected .totalOverflow) := by
  obtain ⟨left, hsetUp⟩ := h.setUp_eq
  by_cases hfits : Tranche.total s.tranches ≤ maxU64
  · rw [if_pos hfits] at hsetUp ⊢
    have htally := (h.tally_founded hfits).congr (Ledger.agrees_sweep _)
    obtain ⟨hresult, hafter⟩ := h.tally_payOut
      (b := { s.bank with ledger := s.founded.sweep }) rfl htally time
    rw [Nat.zero_add] at hafter
    have hrefusal : refusal? (if Tranche.dueAt time s.tranches = 0 then
        .error (.rejected .nothingDue) else .ok ())
          = .ok (if Tranche.dueAt time s.tranches = 0 then some .nothingDue else none) := by
      split
      · rfl
      · rfl
    simp only [run, hstage, hsetUp, hresult, hrefusal]
    exact hafter.report_eq time _
  · rw [if_neg hfits] at hsetUp ⊢
    simp only [run, hstage, hsetUp]

/-- **The simulation tells the truth.** -/
theorem run_truthful (cast : Cast) (program : Key) (contract : ContractSettings) (time : Int)
    {text : String} {seeds : Seeds} {vesting : Key} (hseed : contract.seed = some text)
    (hresolve : Seeds.resolve text program = .ok (seeds, vesting))
    (hsome : 1 ≤ contract.tranches.length) (hcount : contract.tranches.length ≤ 655355)
    (hdistinct : [cast.payer, contract.source.getD cast.source,
      contract.destination.getD cast.destination, cast.escrow, vesting].Nodup) :
    (maxU64 < Tranche.total contract.tranches →
      (run cast program contract time).1 = .error (.rejected .totalOverflow) ∧
        Rejection.totalOverflow.code = .invalidInstructionData) ∧
    (Tranche.total contract.tranches ≤ maxU64 →
      ∃ sim, (run cast program contract time).1 = .ok sim ∧
        sim.Truthful seeds vesting contract.tranches time) := by
  obtain ⟨s, hstage, hproper, rfl, rfl, htranches⟩ :=
    Stage.exists_of hseed hresolve hsome hcount hdistinct
  have hrun := hproper.run_eq hstage time
  rw [← htranches]
  constructor
  · intro hover
    rw [if_neg (Nat.not_le.2 hover)] at hrun
    exact ⟨hrun, rfl⟩
  · intro hfits
    rw [if_pos hfits] at hrun
    exact ⟨_, hrun, s.truthful_finale hfits time⟩

end Simulation

namespace Sample

/-- Every key that a simulation may have to draw. -/
def cast : Cast where
  payer := key 10
  sourceOwner := sourceOwner
  destinationOwner := key 6
  mint := mint
  source := source
  destination := destination
  escrow := escrow

def zeros : Seeds := ⟨Key.zero.bytes, Key.zero.length_bytes⟩

/-- The address of the seeds of zeros. -/
def home : Key := (Address.create? [zeros.bytes] program).getD Key.zero

/-- Two tranches for a destination of one's own choice. -/
def contract : ContractSettings where
  seed := some "0000000000000000000000000000000000000000000000000000000000000000"
  destination := some (key 11)
  tranches := tranches

end Sample

/-- Between the two tranches, thirty tokens of a hundred have been paid out. -/
theorem Simulation.run_truthful_between :
    ∃ sim, (run Sample.cast Sample.program Sample.contract 15).1 = .ok sim ∧
      sim.Truthful Sample.zeros Sample.home Sample.tranches 15 ∧
      sim.source.toNat = 0 ∧ sim.destination.toNat = 30 ∧ sim.escrow.toNat = 70 ∧
      sim.tranches = [⟨10, 0⟩, ⟨20, 70⟩] ∧ sim.refusal = none := by
  have hresolve : Seeds.resolve "0000000000000000000000000000000000000000000000000000000000000000"
      Sample.program = .ok (Sample.zeros, Sample.home) := by
    decide +kernel
  have hdistinct : [Sample.cast.payer, Sample.contract.source.getD Sample.cast.source,
      Sample.contract.destination.getD Sample.cast.destination, Sample.cast.escrow,
      Sample.home].Nodup := by
    decide +kernel
  obtain ⟨-, hfits⟩ := run_truthful Sample.cast Sample.program Sample.contract 15 rfl hresolve
    (by decide) (by decide) hdistinct
  obtain ⟨sim, hrun, htruthful⟩ := hfits (by decide)
  have hpaid : sim.destination.toNat = 30 := htruthful.destination_eq
  refine ⟨sim, hrun, htruthful, htruthful.source_eq, hpaid, htruthful.escrow_eq,
    htruthful.tranches_eq, ?_⟩
  rw [htruthful.refusal_eq, hpaid]
  rfl

end Vesting
