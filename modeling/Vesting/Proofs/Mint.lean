/-
# The mint of a contract

The header of a contract says of which mint its tokens are, and a client looks for the escrow there:
it derives the token account from the header's mint (`Client.sendUnlock`).  This module asks where
the header's mint comes from.

There are three mints in play when a contract is set up.  Two of them belong to the accounts between
which the tokens move, and the transfer sees to it that they are the same.  The third is a field of
the command, and that is the one which is written into the record.  Nobody compares it with the
other two (`Engine.create_yields_any_mint`).  So the record names the mint of its tokens exactly if
the command did (`Bank.mint_of_record`), and a contract may be set up that names another
(`Bank.mint_of_record_unchecked`).
-/
import Vesting.Proofs.Atomicity
import Vesting.Proofs.Composition
import Vesting.Proofs.LifeCycle

namespace Vesting

open Act Engine

/-! ## 1. The mint of the command -/

/-- **No check looks at the mint that the command names.**  Where a contract is set up, one that
names another mint is set up as well. -/
theorem Engine.create_yields_any_mint {host : Host} {signers accounts : List Key} {seeds : Seeds}
    {mint destination : Key} {tranches : List Tranche} {w w' : World} {u : Unit}
    (h : (create host signers accounts seeds mint destination tranches).Yields w u w')
    (other : Key) :
    ∃ w'', (create host signers accounts seeds other destination tranches).Yields w () w'' := by
  simp only [create, perform, plan, planBy, planCreate, bind_assoc, pure_bind, Plan.carry_payment,
    yields_pick_bind, yields_checkAddress_bind, yields_demand_bind, yields_account_bind,
    yields_tokenAccount_bind] at h ⊢
  obtain ⟨tokenProgram, htokenProgram, vesting, hvesting, escrow, hescrow, sourceOwner,
    hsourceOwner,
    source, hsource, haddress, hsigned, howner, hfresh, held, hheld, hescrowOwner,
    hdelegate, hclose,
    hlength, htotal, paying, hpaying, hcovered, h⟩ := h
  obtain ⟨_, w₁, htransfer, -⟩ := yields_bind.1 h
  -- behind the transfer nothing fails, whatever header is written
  let draft := Record.writeTranches tranches
    (Record.writeHeader ⟨destination, other, true⟩ (w.ledger.account vesting).data)
  let p : Plan := .payment tokenProgram source escrow sourceOwner none (Tranche.total tranches)
    vesting draft (.created vesting tranches.length (Tranche.total tranches))
  have hfits : p.Fits w.ledger := by
    have hdraft : draft = (Record.founded ⟨destination, other, true⟩ tranches _, .ok ()) :=
      Record.writeTranches_writeHeader _ hlength
    show draft.2 = .ok () ∧ draft.1.length = (w.ledger.account vesting).data.length
    rw [hdraft]
    exact ⟨rfl, (Record.length_founded _ hlength).trans hlength.symm⟩
  obtain ⟨_, w₂, hrest⟩ := p.finish_sure hfits w₁
  exact ⟨w₂, tokenProgram, htokenProgram, vesting, hvesting, escrow, hescrow, sourceOwner,
    hsourceOwner, source, hsource, haddress, hsigned, howner, hfresh, held, hheld, hescrowOwner,
    hdelegate, hclose, hlength, htotal, paying, hpaying, hcovered,
    yields_bind.2 ⟨_, w₁, htransfer, hrest⟩⟩

/-! ## 2. The mint of the record -/

namespace Engine.Funding

variable {host : Host} {signers accounts : List Key} {seeds : Seeds} {tranches : List Tranche}
  {l : Ledger} {vesting escrow sourceOwner source : Key} {debtor creditor : TokenAccount}
  (h : Funding host signers accounts seeds tranches l vesting escrow sourceOwner source debtor
    creditor)
include h

/-- A record that is set up is too long or too short to be a token account. -/
theorem ne_of_token {k : Key} {t : TokenAccount} (ht : (l.account k).token? = some t) :
    vesting ≠ k := by
  rintro rfl
  have hlength := TokenAccount.length_of_unpack (Account.token?_eq_some_iff.1 ht).2
  exact Record.length_ne _ (h.record_length.symm.trans hlength)

/-- So the transfer that funds it leaves it alone. -/
theorem not_displaced : ¬ Displaced vesting source escrow :=
  not_displaced_of_ne (h.ne_of_token h.permitted.debtor_eq).symm
    (h.ne_of_token h.permitted.creditor_eq).symm

/-- The header of a contract once it has been set up. -/
theorem header_settled (mint destination : Key) (n : Nat) :
    Record.header ((l.settled source escrow debtor creditor n vesting
        (Record.founded ⟨destination, mint, true⟩ tranches (l.account vesting).data)).account
          vesting).data
      = .ok ⟨destination, mint, true⟩ := by
  rw [Ledger.account_settled_of_not_displaced _ _ _ _ _ h.not_displaced]
  exact Record.header_founded _ h.record_length

/-- A token account that was there keeps its mint. -/
theorem token_settled (data : Bytes) {k : Key} {t : TokenAccount}
    (ht : (l.account k).token? = some t) :
    ∃ t', ((l.settled source escrow debtor creditor (Tranche.total tranches) vesting data).account
        k).token? = some t' ∧ t'.mint = t.mint := by
  obtain ⟨m, hm⟩ := h.permitted.token?_move ht
  rw [Ledger.account_settled_of_ne _ _ _ _ _ (h.ne_of_token ht).symm]
  exact ⟨_, hm, rfl⟩

end Engine.Funding

/-! ## 3. What the bank lets through -/

namespace Bank

/-- **The record names the mint that the command names.**  The two accounts between which the tokens
have moved are of one mint, before and after, so that is the mint of the record exactly if the
command has named it.  The same bytes with another mint in them would have gone through as well. -/
theorem mint_of_record (b : Bank) (o : Order) {seeds : Seeds} {mint destination : Key}
    {tranches : List Tranche}
    (hcreate : Command.decode false o.data = .ok (.create seeds mint destination tranches))
    (hok : ((Call.process o).run b).result = .ok ()) :
    let after := ((Call.process o).run b).bank.ledger
    (∃ vesting escrow source debtor creditor debtor' creditor' header,
      (o.keys[1]? = some vesting ∧ o.keys[2]? = some escrow ∧ o.keys[4]? = some source) ∧
      ((b.ledger.account source).token? = some debtor ∧
        (b.ledger.account escrow).token? = some creditor) ∧
      ((after.account source).token? = some debtor' ∧
        (after.account escrow).token? = some creditor') ∧
      (creditor.mint = debtor.mint ∧ debtor'.mint = debtor.mint ∧ creditor'.mint = debtor.mint) ∧
      Record.header (after.account vesting).data = .ok header ∧
      header.mint = mint ∧ (header.mint = debtor.mint ↔ mint = debtor.mint)) ∧
    ∀ data other, Command.decode false data = .ok (.create seeds other destination tranches) →
      ((Call.process { o with data }).run b).result = .ok () := by
  obtain ⟨hall, hbank⟩ := Call.run_ok hok
  rw [Call.moments_process] at hall hbank
  obtain ⟨hprogram, c, hdecode, hy⟩ := (hall _ (List.mem_singleton_self _)).command
  obtain rfl : c = .create seeds mint destination tranches :=
    Except.ok.inj (hdecode.symm.trans hcreate)
  have hswept (k : Key) : ((Call.process o).run b).bank.ledger.account k
      = (Moment.after ⟨b.host, o, b.ledger⟩).account k := by
    rw [hbank]
    exact Ledger.account_sweep _ k
  intro after
  refine ⟨?_, fun data other hdata => ?_⟩
  · obtain ⟨vesting, escrow, sourceOwner, source, debtor, creditor, h, hsource, hw⟩ :=
      create_yields hy
    obtain ⟨hafter, -⟩ := World.mk.inj hw
    obtain ⟨debtor', hdebtor', hdebtor⟩ := h.token_settled _ h.permitted.debtor_eq
    obtain ⟨creditor', hcreditor', hcreditor⟩ := h.token_settled _ h.permitted.creditor_eq
    have hheader := h.header_settled mint destination (Tranche.total tranches)
    have hmint := h.permitted.mint_eq.symm
    rw [← hafter, ← hswept] at hdebtor' hcreditor' hheader
    exact ⟨vesting, escrow, source, debtor, creditor, debtor', creditor', ⟨destination, mint, true⟩,
      ⟨h.vesting_at, h.escrow_at, hsource⟩, ⟨h.permitted.debtor_eq, h.permitted.creditor_eq⟩,
      ⟨hdebtor', hcreditor'⟩, ⟨hmint, hdebtor, hcreditor.trans hmint⟩, hheader, rfl, Iff.rfl⟩
  · obtain ⟨w, hother⟩ := create_yields_any_mint hy other
    have hcarry : (Order.carry b.host { o with data }).Yields ⟨b.ledger, []⟩ () w :=
      yields_require_bind.2 ⟨hprogram, yields_process.2 ⟨_, hdata, hother⟩⟩
    show (b.transact (Order.carry b.host { o with data })).result = .ok ()
    rw [transact_of_yields hcarry]

end Bank

namespace Sample

/-- Sets up the contract, and names a mint of which it holds no tokens. -/
def misname : Order :=
  { create with data := (Command.create seeds (key 10) destination tranches).encode }

theorem decode_misname :
    Command.decode false misname.data = .ok (.create seeds (key 10) destination tranches) := by
  decide +kernel

theorem misname_succeeds : ((Bank.Call.process misname).run bank).result = .ok () := by
  decide +kernel

end Sample

/-- A contract is set up whose record names another mint than its tokens have, just as it is set up
with their mint. -/
theorem Bank.mint_of_record_misnamed :
    let after := ((Call.process Sample.misname).run Sample.bank).bank.ledger
    (∃ vesting source debtor header, Sample.misname.keys[1]? = some vesting ∧
      Sample.misname.keys[4]? = some source ∧
      (Sample.bank.ledger.account source).token? = some debtor ∧
      Record.header (after.account vesting).data = .ok header ∧
      header.mint = Sample.key 10 ∧ (header.mint = debtor.mint ↔ Sample.key 10 = debtor.mint)) ∧
    ((Call.process { Sample.misname with data := Sample.create.data }).run Sample.bank).result
      = .ok () := by
  obtain ⟨⟨vesting, _, source, debtor, _, _, _, header, ⟨hvesting, -, hsource⟩, ⟨hdebtor, -⟩, -, -,
    hheader, hmint⟩, hother⟩ :=
    mint_of_record Sample.bank Sample.misname Sample.decode_misname Sample.misname_succeeds
  refine ⟨⟨vesting, source, debtor, header, hvesting, hsource, hdebtor, hheader, hmint⟩, ?_⟩
  exact hother Sample.create.data Sample.mint (by decide +kernel)

/-- **The record need not name the mint of its tokens.** -/
theorem Bank.mint_of_record_unchecked :
    ¬ ∀ (b : Bank) (o : Order) (seeds : Seeds) (mint destination vesting source : Key)
        (tranches : List Tranche) (debtor : TokenAccount) (header : Header),
      Command.decode false o.data = .ok (.create seeds mint destination tranches) →
      ((Call.process o).run b).result = .ok () →
      o.keys[1]? = some vesting → o.keys[4]? = some source →
      (b.ledger.account source).token? = some debtor →
      Record.header (((Call.process o).run b).bank.ledger.account vesting).data = .ok header →
      header.mint = debtor.mint := by
  intro hclaim
  have hdebtor : (Sample.bank.ledger.account Sample.source).token?
      = some { mint := Sample.mint, owner := Sample.sourceOwner, amount := 100 } := by
    decide +kernel
  have hheader : Record.header
      (((Call.process Sample.misname).run Sample.bank).bank.ledger.account Sample.vesting).data
        = .ok ⟨Sample.destination, Sample.key 10, true⟩ := by
    decide +kernel
  have hmint := hclaim Sample.bank Sample.misname _ _ _ _ _ _ _ _ Sample.decode_misname
    Sample.misname_succeeds rfl rfl hdebtor hheader
  revert hmint
  decide +kernel

end Vesting
