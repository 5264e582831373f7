/-
# Which destinations strand a contract

Both commands that reach into a contract look at its stored destination.  To pay out, the
destination has to be a token account of the right mint, and to name another one, somebody has to
own the account that is there.  So a contract whose destination is no token account is out of reach,
and what it holds is lost (`Bank.stranded_for_good`).

The command that names a destination does not look at it, and any key will do
(`Bank.redirect_may_strand`).  If those who give it see to it that they name a token account of the
right mint, the contract stays within reach, in every run (`Moment.redirect_keeps_reach`):

* a token account stays one, and is frozen by nobody (`Moment.Effect.takes_after`);
* so the stored destination takes tokens before and after each moment (`Ledger.Reaches.after`);
* and a destination like this stands in the way of neither command, as long as there is room for
  what is due (`Ledger.Reaches.withinReach`).
-/
import Vesting.Proofs.Composition
import Vesting.Proofs.Consent
import Vesting.Proofs.Delivery
import Vesting.Proofs.Payment

namespace Vesting

open Act Engine

/-! ## 1. Destinations that take tokens -/

/-- The account takes tokens of the mint: it is a token account of that mint, and not frozen. -/
def Ledger.Takes (l : Ledger) (key mint : Key) : Prop :=
  ∃ t, (l.account key).token? = some t ∧ t.mint = mint ∧ t.isFrozen = false

/-- The contract `vesting` has been set up, and its destination takes tokens of the mint. -/
structure Ledger.Reaches (l : Ledger) (vesting destination mint : Key) : Prop where
  terms : ∃ named times, l.Terms vesting destination named times
  takes : l.Takes destination mint

theorem Ledger.Takes.congr {l l' : Ledger} {key mint : Key} (h : l.Takes key mint)
    (hsame : l.account key = l'.account key) : l'.Takes key mint := by
  unfold Takes
  rw [← hsame]
  exact h

theorem Ledger.Reaches.congr {l l' : Ledger} {vesting destination mint : Key}
    (h : l.Reaches vesting destination mint) (hagrees : l.Agrees l') :
    l'.Reaches vesting destination mint := by
  obtain ⟨named, times, hterms⟩ := h.terms
  refine ⟨⟨named, times, hterms.congr ?_⟩, h.takes.congr (hagrees destination)⟩
  rw [hagrees vesting]

namespace Moment

variable {m : Moment} {c : Command}

/-- **An account that takes tokens goes on taking them.** -/
theorem Effect.takes_after (h : m.Effect c) (hclean : m.before.Clean m.host) {key mint : Key}
    (htakes : m.before.Takes key mint) : m.after.Takes key mint := by
  obtain ⟨t, ht, hmint, hthawed⟩ := htakes
  -- on a clean ledger no command writes a record over a token account
  have hne {record : Key} {seeds : Seeds}
      (hderive : m.host.derive seeds.bytes m.host.program = .ok record) : key ≠ record := by
    rintro rfl
    exact hclean key ⟨seeds, hderive⟩ (Account.token?_eq_some_iff.1 ht).1
  cases h with
  | opened h hafter =>
    obtain ⟨n, hn, -⟩ := Ledger.account_of_opened hafter (hne h.address)
    rw [Ledger.Takes, hn]
    exact ⟨t, ht, hmint, hthawed⟩
  | funded h hafter =>
    obtain ⟨n, hn⟩ := h.permitted.token?_move ht
    rw [Ledger.Takes, hafter, Ledger.account_settled_of_ne _ _ _ _ _ (hne h.address)]
    exact ⟨t.holding n, hn, hmint, hthawed⟩
  | paid h hafter =>
    obtain ⟨n, hn⟩ := h.permitted.token?_move ht
    rw [Ledger.Takes, hafter, Ledger.account_settled_of_ne _ _ _ _ _ (hne h.address)]
    exact ⟨t.holding n, hn, hmint, hthawed⟩
  | redirected h hafter =>
    rw [Ledger.Takes, hafter, Ledger.account_rewritten, if_neg (hne h.address)]
    exact ⟨t, ht, hmint, hthawed⟩
  | idle hafter =>
    rw [hafter]
    exact ⟨t, ht, hmint, hthawed⟩

/-- **A destination that is named is the one that is stored**, and takes tokens if it did before. -/
theorem Performs.reaches_after {seeds : Seeds} {vesting current target mint : Key}
    (h : m.Performs (.changeDestination seeds) vesting)
    (hrecord : ¬ (m.before.account vesting).TokenShaped) {named : Key} {times : List UInt64}
    (hterms : m.before.Terms vesting current named times)
    (htarget : m.order.keys[3]? = some target) (htakes : m.before.Takes target mint) :
    m.after.Reaches vesting target mint := by
  obtain ⟨hsucceeds, horders, _, hseeds, hderive⟩ := h
  cases hseeds
  obtain ⟨hheader, htimes⟩ := Ledger.Terms.iff_header.1 hterms
  obtain ⟨c, hc, heffect⟩ := hsucceeds.effect
  cases hc.unique horders
  cases heffect with
  | @redirected _ found _ target' _ _ _ h hafter =>
    obtain rfl : found = vesting := Except.ok.inj (h.address.symm.trans hderive)
    obtain rfl : target' = target := Option.some.inj (h.target_at.symm.trans htarget)
    -- a record is no token account, so it has not been named itself
    have hne : target' ≠ found := by
      rintro rfl
      obtain ⟨t, ht, -⟩ := htakes
      exact hrecord (Account.tokenShaped_of_token ht)
    have hwritten : m.after.account found = (m.before.account found).storing
        (Record.writeDestination target' (m.before.account found).data) := by
      rw [hafter, Ledger.account_rewritten, if_pos rfl]
    have hkept : m.before.account target' = m.after.account target' := by
      rw [hafter, Ledger.account_rewritten, if_neg hne]
    refine ⟨⟨named, times, .of_storing hwritten ?_ ?_⟩, htakes.congr hkept⟩
    · exact Record.header_writeDestination target' hheader
    · rw [Record.tranches_writeDestination _ h.long]
      exact htimes

/-- If the moment names a destination for the contract `vesting`, one that takes tokens of the
mint. -/
def NamesTaker (m : Moment) (vesting mint : Key) : Prop :=
  ∀ seeds target, m.Performs (.changeDestination seeds) vesting →
    m.order.keys[3]? = some target → m.before.Takes target mint

end Moment

/-- **The step.**  The destination stays within reach, be it the old one or one that is named. -/
theorem Ledger.Reaches.after {m : Moment} {vesting current mint : Key}
    (h : m.before.Reaches vesting current mint) (hsucceeds : m.Succeeds)
    (hprogram : m.host.program ≠ Key.tokenProgram) (hholds : m.before.Holds m.host vesting)
    (hclean : m.before.Clean m.host) (hnamed : m.NamesTaker vesting mint) :
    ∃ destination, m.after.Reaches vesting destination mint := by
  obtain ⟨named, times, hterms⟩ := h.terms
  obtain ⟨c, -, heffect⟩ := hsucceeds.effect
  rcases hterms.after hsucceeds hprogram hholds with ⟨hafter, -⟩ | ⟨target, hafter, hto⟩
  · exact ⟨current, ⟨named, times, hafter⟩, heffect.takes_after hclean h.takes⟩
  · obtain ⟨seeds, hperforms⟩ := hto.performs
    have htakes := hnamed seeds target hperforms hto.target_at
    exact ⟨target, ⟨named, times, hafter⟩, heffect.takes_after hclean htakes⟩

/-! ## 2. Within reach -/

/-- `escrow` is a token account of the contract `vesting` that can pay `n` tokens of the mint. -/
def Ledger.Provides (l : Ledger) (escrow vesting mint : Key) (n : Nat) : Prop :=
  ∃ held, (l.account escrow).token? = some held ∧ held.owner = vesting ∧ held.mint = mint ∧
    held.isFrozen = false ∧ n ≤ held.amount.toNat

namespace Engine

variable {host : Host} {signers rest : List Key} {seeds : Seeds} {w : World}
  {vesting destination : Key}

/-- The owner of the stored destination may name any other. -/
theorem yields_changeDestination {header : Header} {t : TokenAccount}
    (haddress : host.derive seeds.bytes host.program = .ok vesting)
    (hheader : Record.header (w.ledger.account vesting).data = .ok header)
    (hdestination : header.destination = destination)
    (ht : (w.ledger.account destination).token? = some t) (hsigned : t.owner ∈ signers)
    (target : Key) :
    ∃ w', (changeDestination host signers (vesting :: destination :: t.owner :: target :: rest)
      seeds).Yields w () w' := by
  have hunpack := (Account.token?_eq_some_iff.1 ht).2
  simp only [changeDestination, perform, plan, planBy, planChangeDestination, bind_assoc, pure_bind,
    Plan.carry_writing, yields_pick_bind, yields_checkAddress_bind, yields_demand_bind,
    yields_account_bind,
    yields_tokenAccount_bind, yields_orFail_bind, yields_storeRecord_bind, yields_note]
  exact ⟨_, vesting, rfl, destination, rfl, t.owner, rfl, target, rfl,
    Record.length_of_header hheader, haddress, header, hheader, hdestination, hsigned, t, hunpack,
    rfl, rfl⟩

/-- **Whether a payment is made is up to its transfer**, if the accounts are the right ones and
something is due. -/
theorem unlock_yields_iff {escrow : Key} {header : Header}
    (haddress : host.derive seeds.bytes host.program = .ok vesting)
    (hheader : Record.header (w.ledger.account vesting).data = .ok header)
    (hdestination : header.destination = destination)
    (hdue : Record.vestedAt host.clock (w.ledger.account vesting).data ≠ 0) :
    (∃ w', (unlock host signers
      (Key.tokenProgram :: Key.clockSysvar :: vesting :: escrow :: destination :: rest)
        seeds).Yields w () w') ↔
      ∃ debtor creditor, Host.Permitted host signers Key.tokenProgram escrow destination vesting
        (some seeds.bytes) (Record.vestedAt host.clock (w.ledger.account vesting).data) w.ledger
        debtor creditor := by
  constructor
  · rintro ⟨w', h⟩
    obtain ⟨_, _, _, _, debtor, creditor, hpayout, -⟩ := unlock_yields h
    cases hpayout.vesting_at
    cases hpayout.escrow_at
    cases hpayout.destination_at
    exact ⟨debtor, creditor, hpayout.permitted⟩
  · rintro ⟨debtor, creditor, hpermitted⟩
    have hheld := (Account.token?_eq_some_iff.1 hpermitted.debtor_eq).2
    have hpresented : Presented host
        (Key.tokenProgram :: Key.clockSysvar :: vesting :: escrow :: destination :: rest) seeds
        w.ledger vesting escrow destination debtor :=
      ⟨⟨rest, rfl⟩, haddress, ⟨header, hheader, hdestination⟩, hheld, hpermitted.owner_eq.symm⟩
    obtain ⟨_, _, _, held, log, hsame, hexec⟩ :=
      (unlock_checked host signers _ seeds w).of_clear hpresented.clear
    obtain ⟨_, heq⟩ := hsame.accounts_eq
    cases heq
    obtain ⟨w', hpaid⟩ := yields_payDue (w := ⟨w.ledger, log⟩) hdue hpermitted
    exact ⟨w', hexec.trans hpaid⟩

end Engine

/-- A call with the bytes of a command goes through if the command does. -/
theorem Bank.result_process_iff (b : Bank) (keys signers : List Key) (c : Command) :
    ((Call.process ⟨b.host.program, keys, c.encode, signers⟩).run b).result = .ok () ↔
      ∃ w', (Engine.perform b.host signers keys c).Yields ⟨b.ledger, [.started c.kind]⟩ () w' := by
  have hdecode := Command.decode_encode false c
  constructor
  · intro hok
    obtain ⟨hall, -⟩ := Call.run_ok hok
    rw [Call.moments_process] at hall
    obtain ⟨-, c', hc', hyields⟩ := (hall _ (List.mem_singleton_self _)).command
    cases hdecode.symm.trans hc'
    exact ⟨_, hyields⟩
  · rintro ⟨w', hyields⟩
    show (b.transact (Bank.invoke b.host b.host.program keys c.encode signers)).result = .ok ()
    rw [Bank.transact_of_yields (Bank.yields_invoke rfl hdecode hyields)]

/-- The contract `vesting` is within reach. -/
structure Bank.WithinReach (b : Bank) (vesting destination mint : Key) (t : TokenAccount) :
    Prop where
  /-- At the stored destination there is a token account of the mint, which is not frozen. -/
  stored : (b.ledger.account vesting).data.take 32 = destination.bytes
  token_eq : (b.ledger.account destination).token? = some t
  mint_eq : t.mint = mint
  thawed : t.isFrozen = false
  /-- With the signature of its owner, any other destination may be named. -/
  redirectable : ∀ (seeds : Seeds) (signers rest : List Key) (target : Key),
    b.host.derive seeds.bytes b.host.program = .ok vesting → t.owner ∈ signers →
      ((Call.process ⟨b.host.program, vesting :: destination :: t.owner :: target :: rest,
        (Command.changeDestination seeds).encode, signers⟩).run b).result = .ok ()
  /-- What is due is paid, if the escrow provides it and there is room for it. -/
  payable : ∀ (seeds : Seeds) (signers rest : List Key) (escrow : Key),
    b.host.derive seeds.bytes b.host.program = .ok vesting →
      let due := Tranche.dueAt b.host.clock (b.ledger.tranches vesting)
      due ≠ 0 →
        (((Call.process ⟨b.host.program,
            Key.tokenProgram :: Key.clockSysvar :: vesting :: escrow :: destination :: rest,
            (Command.unlock seeds).encode, signers⟩).run b).result = .ok () ↔
          b.ledger.Provides escrow vesting mint due ∧
            (escrow ≠ destination → t.amount.toNat + due ≤ maxU64))

/-- **A destination that takes tokens stands in nobody's way.** -/
theorem Ledger.Reaches.withinReach {b : Bank} {vesting destination mint : Key}
    (h : b.ledger.Reaches vesting destination mint) :
    ∃ t, b.WithinReach vesting destination mint t := by
  obtain ⟨⟨named, times, hterms⟩, t, ht, hmint, hthawed⟩ := h
  obtain ⟨hheader, -⟩ := Ledger.Terms.iff_header.1 hterms
  refine ⟨t, Record.take_of_header hheader, ht, hmint, hthawed, ?_, ?_⟩
  · intro seeds signers rest target haddress hsigned
    refine (b.result_process_iff _ signers (.changeDestination seeds)).2 ?_
    exact yields_changeDestination (w := ⟨b.ledger, _⟩) haddress hheader rfl ht hsigned target
  · intro seeds signers rest escrow haddress due hdue
    refine (b.result_process_iff _ signers (.unlock seeds)).trans ?_
    refine (unlock_yields_iff (w := ⟨b.ledger, _⟩) haddress hheader rfl hdue).trans ?_
    constructor
    · rintro ⟨debtor, creditor, hpermitted⟩
      cases ht.symm.trans hpermitted.creditor_eq
      refine ⟨⟨debtor, hpermitted.debtor_eq, hpermitted.owner_eq.symm,
        hpermitted.mint_eq.trans hmint, ?_, hpermitted.covered⟩, hpermitted.fits⟩
      simpa using (not_or.1 hpermitted.thawed).1
    · rintro ⟨⟨held, hheld, howner, hsame, hloose, hcovered⟩, hroom⟩
      exact ⟨held, t, rfl, hheld, ht, hsame.trans hmint.symm, by simp [hloose, hthawed],
        howner.symm, Host.signedFor_of_derive signers haddress, hcovered, hroom⟩

/-! ## 3. Runs -/

namespace Ledger

variable {l l' : Ledger} {host host' : Host} {vesting mint : Key}

/-- All is in order with the contract `vesting`: it has been set up, on a clean ledger, and its
destination takes tokens of the mint. -/
structure InOrder (l : Ledger) (host : Host) (vesting mint : Key) : Prop where
  holds : l.Holds host vesting
  clean : l.Clean host
  reaches : ∃ destination, l.Reaches vesting destination mint

theorem InOrder.congr (h : l.InOrder host vesting mint) (hhost : host.Alike host')
    (hagrees : l.Agrees l') : l'.InOrder host' vesting mint := by
  obtain ⟨destination, hreaches⟩ := h.reaches
  refine ⟨h.holds.congr hhost.1 (hagrees vesting), ?_, destination, hreaches.congr hagrees⟩
  rw [← Ledger.Clean.congr hhost]
  intro k hk
  rw [← hagrees k]
  exact h.clean k hk

end Ledger

namespace Moment

variable {m : Moment} {vesting mint : Key}

/-- **The step within reach.**  All stays in order. -/
theorem Succeeds.inOrder_after (hsucceeds : m.Succeeds)
    (hprogram : m.host.program ≠ Key.tokenProgram) (h : m.before.InOrder m.host vesting mint)
    (hnamed : m.NamesTaker vesting mint) : m.after.InOrder m.host vesting mint := by
  obtain ⟨current, hreaches⟩ := h.reaches
  obtain ⟨c, hc, heffect⟩ := hsucceeds.effect
  exact ⟨(heffect.record_after hc hsucceeds hprogram h.holds).holds,
    m.clean_after hprogram hsucceeds h.clean,
    hreaches.after hsucceeds hprogram h.holds h.clean hnamed⟩

end Moment

namespace Bank

/-- **A contract stays within reach unless it is taken out of reach.**  On a bank where all is in
order with a contract, let a run name none but such destinations for it as take tokens of the mint.
Wherever the run ends, the contract is within reach. -/
theorem stays_within_reach (b : Bank) (hprogram : b.host.program ≠ Key.tokenProgram)
    {vesting mint : Key} (hstart : b.ledger.InOrder b.host vesting mint) (steps : List Bank.Step)
    (hnamed : ∀ m ∈ b.trail steps, m.NamesTaker vesting mint) :
    ∃ destination t, (b.run steps).WithinReach vesting destination mint t := by
  obtain ⟨-, hlast⟩ := trail_keeps (P := fun host l => l.InOrder host vesting mint)
    (fun hhost hagrees h => h.congr hhost hagrees) hstart fun m hm hsucceeds hbefore =>
      hsucceeds.inOrder_after (program_ne_of_mem_trail hprogram hm) hbefore (hnamed m hm)
  obtain ⟨destination, hreaches⟩ := hlast.reaches
  exact ⟨destination, hreaches.withinReach⟩

end Bank

/-- **Who names a token account keeps the contract within reach.**  Let the moment `m` name a
destination for a contract that has been set up, and let that be an account which takes tokens of
the mint.  It is the stored destination then, and on any bank with this ledger, at any time, the
contract is within reach.  There it stays, wherever a run goes that names none but such destinations
for it. -/
theorem Moment.redirect_keeps_reach {m : Moment} {seeds : Seeds} {vesting current target mint : Key}
    (hperforms : m.Performs (.changeDestination seeds) vesting)
    (hrecord : ¬ (m.before.account vesting).TokenShaped) {named : Key} {times : List UInt64}
    (hterms : m.before.Terms vesting current named times)
    (htarget : m.order.keys[3]? = some target) (htakes : m.before.Takes target mint) {b : Bank}
    (hb : m.after.Agrees b.ledger) :
    (∃ t, b.WithinReach vesting target mint t) ∧
      (b.host.program ≠ Key.tokenProgram → b.ledger.Holds b.host vesting →
        b.ledger.Clean b.host → ∀ steps, (∀ n ∈ b.trail steps, n.NamesTaker vesting mint) →
          ∃ destination t, (b.run steps).WithinReach vesting destination mint t) := by
  have hafter := (hperforms.reaches_after hrecord hterms htarget htakes).congr hb
  refine ⟨hafter.withinReach, fun hprogram hholds hclean steps hnamed => ?_⟩
  exact b.stays_within_reach hprogram ⟨hholds, hclean, target, hafter⟩ steps hnamed

namespace Sample

/-- The bank with a token account for the heir. -/
def heirBank : Bank := bank.addTokenAccount heir { mint, owner := key 12, amount := 0 }

/-- The bank once the contract has been set up. -/
def family : Bank := heirBank.run [.call (.process create)]

/-- What there is once the contract has been set up. -/
theorem family_shows : family.host.program ≠ Key.tokenProgram ∧
    (family.ledger.account vesting).owner = family.host.program ∧
    Record.isInitialized (family.ledger.account vesting).data = true ∧
    Record.header (family.ledger.account vesting).data = .ok ⟨destination, mint, true⟩ ∧
    (family.ledger.tranches vesting).map Tranche.releaseTime = [10, 20] ∧
    (family.ledger.account destination).token? = some { mint, owner := key 6, amount := 0 } ∧
    (family.ledger.account heir).token? = some { mint, owner := key 12, amount := 0 } := by
  decide +kernel

theorem family_program : family.host.program ≠ Key.tokenProgram := family_shows.1

theorem family_terms : family.ledger.Terms vesting destination mint [10, 20] := by
  obtain ⟨-, -, -, hheader, htimes, -⟩ := family_shows
  exact Ledger.Terms.iff_header.2 ⟨hheader, htimes⟩

theorem family_inOrder : family.ledger.InOrder family.host vesting mint := by
  obtain ⟨-, howner, hinitialized, -, -, htoken, -⟩ := family_shows
  have hprogram : heirBank.host.program ≠ Key.tokenProgram := by decide +kernel
  have hclean : heirBank.ledger.Clean heirBank.host := by
    intro k hk
    obtain rfl := derivable_iff.1 hk
    decide +kernel
  exact ⟨⟨howner, hinitialized⟩, Bank.clean_run hprogram hclean [.call (.process create)],
    destination, ⟨mint, [10, 20], family_terms⟩, _, htoken, rfl, rfl⟩

/-- The order to name the heir, about to be carried out. -/
def handover : Moment := ⟨family.host, redirect, family.ledger⟩

/-- The bank behind it. -/
def inherited : Bank := family.run [.call (.process redirect)]

/-- The order is carried out, and the contract is still there. -/
theorem handover_shows : handover.result = .ok () ∧
    handover.Orders (.changeDestination seeds) ∧
    handover.host.derive seeds.bytes handover.host.program = .ok vesting ∧
    ((Bank.Call.process redirect).run family).result = .ok () ∧
    (inherited.ledger.account vesting).owner = inherited.host.program ∧
    Record.isInitialized (inherited.ledger.account vesting).data = true := by
  decide +kernel

theorem handover_terms : handover.before.Terms vesting destination mint [10, 20] := by
  simp only [handover]
  exact family_terms

theorem handover_performs : handover.Performs (.changeDestination seeds) vesting := by
  obtain ⟨hresult, horders, hderive, -⟩ := handover_shows
  exact ⟨hresult, horders, seeds, rfl, hderive⟩

theorem handover_takes : handover.before.Takes heir mint := by
  obtain ⟨-, -, -, -, -, -, hheir⟩ := family_shows
  simp only [handover]
  exact ⟨_, hheir, rfl, rfl⟩

theorem handover_agrees : handover.after.Agrees inherited.ledger := by
  obtain ⟨-, -, -, hok, -⟩ := handover_shows
  have htrail : family.trail [.call (.process redirect)] = [] ++ handover :: [] := by
    rw [Bank.trail, Bank.Step.trail, hok, Bank.Call.moments_process]
    rfl
  rw [inherited]
  exact (Bank.from_moment htrail).2.1.agrees

theorem inherited_holds : inherited.ledger.Holds inherited.host vesting := by
  obtain ⟨-, -, -, -, howner, hinitialized⟩ := handover_shows
  exact ⟨howner, hinitialized⟩

theorem inherited_clean : inherited.ledger.Clean inherited.host :=
  Bank.clean_run family_program family_inOrder.clean [.call (.process redirect)]

end Sample

/-- The heir is named, and the contract is within reach, now and once the first tranche is due. -/
theorem Moment.redirect_keeps_reach_heir :
    Sample.handover.Performs (.changeDestination Sample.seeds) Sample.vesting ∧
      ¬ (Sample.handover.before.account Sample.vesting).TokenShaped ∧
      Sample.handover.before.Terms Sample.vesting Sample.destination Sample.mint [10, 20] ∧
      Sample.handover.before.Takes Sample.heir Sample.mint ∧
      Sample.handover.after.Agrees Sample.inherited.ledger ∧
      (∃ t, Sample.inherited.WithinReach Sample.vesting Sample.heir Sample.mint t) ∧
      ∃ destination t, (Sample.inherited.run [.clock 15]).WithinReach Sample.vesting destination
        Sample.mint t := by
  have hrecord : ¬ (Sample.handover.before.account Sample.vesting).TokenShaped := by
    decide +kernel
  have hprogram : Sample.inherited.host.program ≠ Key.tokenProgram := by decide +kernel
  obtain ⟨hnow, hlater⟩ := redirect_keeps_reach Sample.handover_performs hrecord
    Sample.handover_terms rfl Sample.handover_takes Sample.handover_agrees
  refine ⟨Sample.handover_performs, hrecord, Sample.handover_terms, Sample.handover_takes,
    Sample.handover_agrees, hnow, ?_⟩
  exact hlater hprogram Sample.inherited_holds Sample.inherited_clean [.clock 15]
    fun _ hn => nomatch hn

/-! ## 4. Out of reach -/

namespace Ledger

variable {l l' : Ledger} {host host' : Host} {vesting mint : Key}

/-- A contract that has been set up, and has no token account for a destination: what is there has
not the length of one. -/
structure Stranded (l : Ledger) (host : Host) (vesting : Key) : Prop where
  holds : l.Holds host vesting
  destination : ∃ destination mint times, l.Terms vesting destination mint times ∧
    (l.account destination).data.length ≠ TokenAccount.length

theorem Stranded.congr (h : l.Stranded host vesting) (hhost : host.Alike host')
    (hagrees : l.Agrees l') : l'.Stranded host' vesting := by
  obtain ⟨destination, mint, times, hterms, hlength⟩ := h.destination
  refine ⟨h.holds.congr hhost.1 (hagrees vesting), destination, mint, times, hterms.congr ?_, ?_⟩
  · rw [hagrees vesting]
  · rw [← hagrees destination]
    exact hlength

theorem Stranded.not_reaches (h : l.Stranded host vesting) (destination : Key) :
    ¬ l.Reaches vesting destination mint := by
  rintro ⟨⟨named, times, hterms⟩, t, ht, -⟩
  obtain ⟨destination', named', times', hterms', hlength⟩ := h.destination
  cases (Terms.iff_header.1 hterms).1.symm.trans (Terms.iff_header.1 hterms').1
  exact hlength (Account.tokenShaped_of_token ht).2

end Ledger

/-- **The step out of reach.**  Nothing is done for the contract. -/
theorem Moment.Succeeds.stranded_after {m : Moment} {vesting : Key} (hsucceeds : m.Succeeds)
    (hprogram : m.host.program ≠ Key.tokenProgram) (h : m.before.Stranded m.host vesting) :
    m.after.Stranded m.host vesting ∧ ∀ c, ¬ m.Performs c vesting := by
  obtain ⟨destination, mint, times, hterms, hlength⟩ := h.destination
  obtain ⟨hheader, -⟩ := Ledger.Terms.iff_header.1 hterms
  obtain ⟨c, hc, heffect⟩ := hsucceeds.effect
  have hholds := (heffect.record_after hc hsucceeds hprogram h.holds).holds
  have hrecord : (m.before.account vesting).owner ≠ Key.tokenProgram := by
    rw [h.holds.owner]
    exact hprogram
  cases heffect.touch hc hrecord with
  | kept hother hafter =>
    refine ⟨⟨hholds, destination, mint, times, hterms.congr ?_, ?_⟩, hother⟩
    · rw [hafter]
      rfl
    · rcases heffect.length_after destination with hkept | ⟨-, n, hopened⟩
      · rw [hkept]
        exact hlength
      · rw [hopened]
        exact Record.length_ne n
  | opened h' => exact absurd h'.openable.fresh h.holds.ne_empty
  | founded h' =>
    have hfresh := h'.fresh
    rw [h.holds.initialized] at hfresh
    cases hfresh
  | paid h' =>
    cases h'.header_eq.symm.trans hheader
    cases h'.destination_eq
    exact absurd (Account.tokenShaped_of_token h'.permitted.creditor_eq).2 hlength
  | redirected h' =>
    cases h'.header_eq.symm.trans hheader
    cases h'.current_eq
    exact absurd (TokenAccount.length_of_unpack h'.token_eq) hlength

namespace Bank

/-- **A contract that is out of reach stays there.**  No run does anything for it. -/
theorem stranded_for_good (b : Bank) (hprogram : b.host.program ≠ Key.tokenProgram)
    {vesting : Key} (hstart : b.ledger.Stranded b.host vesting) (steps : List Bank.Step) :
    (∀ m ∈ b.trail steps, ∀ c, ¬ m.Performs c vesting) ∧
      (b.run steps).ledger.Stranded b.host vesting := by
  obtain ⟨hall, hlast⟩ := trail_keeps (P := fun host l => l.Stranded host vesting)
    (fun hhost hagrees h => h.congr hhost hagrees) hstart fun m hm hsucceeds hbefore =>
      (hsucceeds.stranded_after (program_ne_of_mem_trail hprogram hm) hbefore).1
  refine ⟨fun m hm => ?_, hlast⟩
  obtain ⟨hsucceeds, hbefore⟩ := hall m hm
  exact (hsucceeds.stranded_after (program_ne_of_mem_trail hprogram hm) hbefore).2

end Bank

namespace Sample

/-- The owner of the destination names a key at which there is nothing. -/
def misdirect : Order := { redirect with keys := [vesting, destination, key 6, key 13] }

theorem misdirect_strands : ((Bank.Call.process misdirect).run family).bank.ledger.Stranded
    family.host vesting := by
  have hrecord :
      (((Bank.Call.process misdirect).run family).bank.ledger.account vesting).owner
        = family.host.program ∧
      Record.isInitialized
        (((Bank.Call.process misdirect).run family).bank.ledger.account vesting).data = true ∧
      Record.header (((Bank.Call.process misdirect).run family).bank.ledger.account vesting).data
        = .ok ⟨key 13, mint, true⟩ ∧
      (((Bank.Call.process misdirect).run family).bank.ledger.tranches vesting).map
        Tranche.releaseTime = [10, 20] ∧
      (((Bank.Call.process misdirect).run family).bank.ledger.account (key 13)).data.length
        ≠ TokenAccount.length := by
    decide +kernel
  obtain ⟨howner, hinitialized, hheader, htimes, hlength⟩ := hrecord
  exact ⟨⟨howner, hinitialized⟩, key 13, mint, [10, 20],
    Ledger.Terms.iff_header.2 ⟨hheader, htimes⟩, hlength⟩

end Sample

/-- **The command that names a destination does not look at it.**  All is in order with a contract,
and then its destination is no token account. -/
theorem Bank.redirect_may_strand :
    ¬ ∀ (b : Bank) (o : Order) (seeds : Seeds) (vesting mint escrow : Key) (held : TokenAccount),
      b.host.program ≠ Key.tokenProgram → b.ledger.InOrder b.host vesting mint →
      (b.ledger.account escrow).token? = some held → held.owner = vesting → held.mint = mint →
      Command.decode false o.data = .ok (.changeDestination seeds) →
      b.host.derive seeds.bytes b.host.program = .ok vesting →
      ((Call.process o).run b).result = .ok () →
      ∃ destination, ((Call.process o).run b).bank.ledger.Reaches vesting destination mint := by
  intro hclaim
  have hdone : (Sample.family.ledger.account Sample.escrow).token?
        = some { mint := Sample.mint, owner := Sample.vesting, amount := 100 } ∧
      Sample.family.host.derive Sample.seeds.bytes Sample.family.host.program
        = .ok Sample.vesting ∧
      ((Call.process Sample.misdirect).run Sample.family).result = .ok () := by
    decide +kernel
  obtain ⟨hheld, hderive, hok⟩ := hdone
  obtain ⟨destination, hreaches⟩ := hclaim Sample.family Sample.misdirect Sample.seeds _ _ _ _
    Sample.family_program Sample.family_inOrder hheld rfl rfl (by decide +kernel) hderive hok
  exact Sample.misdirect_strands.not_reaches destination hreaches

end Vesting
