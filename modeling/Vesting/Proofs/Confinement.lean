/-
# Commands stay with their accounts

A command is given keys, and nothing else of the ledger matters: what it comes to depends on the
accounts of these keys, it changes no other account, and if it fails it changes none at all.
`Act.Confined` says all of this at once, on two ledgers that agree on the keys and may differ
everywhere else.  An act is confined if its parts are: to look is confined to what is looked at
(`Inspects.confined`), and to store an account is confined to its key (`confined_store`).

What comes in front decides which rule puts two parts together.  Behind an inspection anything may
follow, and it may fail, since nothing has changed so far (`Inspects.bind_confined`).  Behind a
store nothing may fail any more (`Confined.bind`).  So the walk through a command shows where its
last check stands; it is made along its plan, its host and its record, once for the faults that
there may be, for the accounts that count and for the accounts that change.
-/
import Vesting.Proofs.Plan

namespace Vesting

variable {α β : Type} {F : Fault → Prop} {keys : List Key}

/-! ## 1. Ledgers that agree on some keys -/

namespace Ledger

/-- The ledgers hold the same accounts under `keys`; one that is not there counts as empty. -/
def AgreeOn (keys : List Key) (l l' : Ledger) : Prop := ∀ k ∈ keys, l.account k = l'.account k

/-- The ledgers are the same away from `keys`, entry by entry. -/
def SameOff (keys : List Key) (l l' : Ledger) : Prop := ∀ k, k ∉ keys → l.get? k = l'.get? k

variable {l l' l'' : Ledger}

theorem SameOff.refl (keys : List Key) (l : Ledger) : SameOff keys l l := fun _ _ => rfl

theorem SameOff.trans (h : SameOff keys l l') (h' : SameOff keys l' l'') : SameOff keys l l'' :=
  fun k hk => (h k hk).trans (h' k hk)

theorem AgreeOn.insert (h : l.AgreeOn keys l') (key : Key) (a : Account) :
    (l.insert key a).AgreeOn keys (l'.insert key a) := by
  intro k hk
  rw [account_insert, account_insert, h k hk]

theorem sameOff_insert {key : Key} (h : key ∈ keys) (l : Ledger) (a : Account) :
    (l.insert key a).SameOff keys l := by
  intro k hk
  rw [get?_insert, if_neg]
  rintro rfl
  exact hk h

theorem AgreeOn.sweep (h : l.AgreeOn keys l') : l.sweep.AgreeOn keys l'.sweep := by
  intro k hk
  rw [account_sweep, account_sweep, h k hk]

end Ledger

/-! ## 2. Confined acts -/

namespace Act

/-- What an act that stays with `keys` makes of two ledgers, `m` of `l` and `m'` of `l'`. -/
structure Stays (keys : List Key) (l l' m m' : Ledger) (F : Fault → Prop) (Q : α → Prop)
    (r : Except Fault α) : Prop where
  agree : m.AgreeOn keys m'
  off : m.SameOff keys l
  off' : m'.SameOff keys l'
  /-- If the act fails, both ledgers are what they were. -/
  unchanged : ∀ why, r = .error why → m = l ∧ m' = l'
  meets : Meets F Q r

/-- On `l` and on `l'` the act comes to the same result, logs the same events and leaves the same
accounts under `keys`.  It leaves everything else as it was, and everything if it fails; `F` holds
of a fault, and `Q` of a value. -/
def Confined (act : Act α) (keys : List Key) (l l' : Ledger) (F : Fault → Prop) (Q : α → Prop) :
    Prop :=
  ∀ log, ∃ r m m' more, act.exec ⟨l, log⟩ = (r, ⟨m, more⟩) ∧
    act.exec ⟨l', log⟩ = (r, ⟨m', more⟩) ∧ Stays keys l l' m m' F Q r

variable {l l' : Ledger} {P Q : α → Prop} {R : β → Prop}

/-- Where nothing changes, two ledgers go on to agree. -/
theorem Stays.of_agree (hl : l.AgreeOn keys l') {r : Except Fault α} (hr : Meets F Q r) :
    Stays keys l l' l l' F Q r :=
  ⟨hl, .refl keys l, .refl keys l', fun _ _ => ⟨rfl, rfl⟩, hr⟩

/-- To look is to stay with what is looked at. -/
theorem Inspects.confined {act : Act α} (h : act.Inspects l l' F Q) (hl : l.AgreeOn keys l') :
    act.Confined keys l l' F Q := by
  intro log
  obtain ⟨r, more, hr, hr', hQ⟩ := h log
  exact ⟨r, l, l', more, hr, hr', .of_agree hl hQ⟩

theorem confined_store (hl : l.AgreeOn keys l') {key : Key} (hkey : key ∈ keys) (a : Account) :
    (store key a).Confined keys l l' F fun _ => True := by
  refine fun log => ⟨.ok (), l.insert key a, l'.insert key a, log, rfl, rfl, ?_⟩
  refine ⟨hl.insert key a, Ledger.sameOff_insert hkey l a, Ledger.sameOff_insert hkey l' a, ?_,
    trivial⟩
  intro why hwhy
  cases hwhy

/-- **Behind an act that may change accounts, nothing may fail.** -/
theorem Confined.bind {x : Act α} {f : α → Act β} (hx : x.Confined keys l l' F P)
    (hf : ∀ a m m', P a → m.AgreeOn keys m' → (f a).Confined keys m m' (fun _ => False) R) :
    (x >>= f).Confined keys l l' F R := by
  intro log
  obtain ⟨r, m, m', more, h, h', hx⟩ := hx log
  rw [exec_bind, exec_bind, h, h']
  cases r with
  | error why => exact ⟨.error why, m, m', more, rfl, rfl, hx.agree, hx.off, hx.off',
      fun _ _ => hx.unchanged why rfl, hx.meets⟩
  | ok a =>
    obtain ⟨r₂, n, n', more₂, h₂, h₂', hf⟩ := hf a m m' hx.meets hx.agree more
    cases r₂ with
    | error why => exact hf.meets.elim
    | ok b =>
      refine ⟨.ok b, n, n', more₂, h₂, h₂', hf.agree, hf.off.trans hx.off, hf.off'.trans hx.off',
        ?_,
        hf.meets⟩
      intro why hwhy
      cases hwhy

/-- **Behind an inspection the ledgers are still the same two.** -/
theorem Inspects.bind_confined {x : Act α} {f : α → Act β} (hx : x.Inspects l l' F P)
    (hl : l.AgreeOn keys l') (hf : ∀ a, P a → (f a).Confined keys l l' F R) :
    (x >>= f).Confined keys l l' F R := by
  intro log
  obtain ⟨r, more, h, h', hr⟩ := hx log
  rw [exec_bind, exec_bind, h, h']
  cases r with
  | ok a => exact hf a hr more
  | error why => exact ⟨.error why, l, l', more, rfl, rfl, .of_agree hl hr⟩

/-- What a handler meets are the ledgers that the act has met. -/
theorem Confined.handle {x : Act α} {f : Fault → Act α} (hx : x.Confined keys l l' F Q)
    (hf : ∀ why, F why → (f why).Confined keys l l' F Q) :
    (tryCatch x f : Act α).Confined keys l l' F Q := by
  intro log
  obtain ⟨r, m, m', more, h, h', hx⟩ := hx log
  rw [exec_tryCatch, exec_tryCatch, h, h']
  cases r with
  | ok a => exact ⟨.ok a, m, m', more, rfl, rfl, hx⟩
  | error why =>
    obtain ⟨rfl, rfl⟩ := hx.unchanged why rfl
    exact hf why hx.meets more

/-- A confined act that is broken off leaves the ledger as it found it. -/
theorem Confined.atomic {act : Act α} {w : World}
    (h : act.Confined keys w.ledger w.ledger F Q) : act.Atomic w := by
  intro why w' hb
  obtain ⟨r, m, m', more, hr, -, hstays⟩ := h w.log
  have hw : (r, World.mk m more) = (.error why, w') := hr.symm.trans hb
  cases hw
  exact (hstays.unchanged why rfl).1

end Act

/-! ## 3. What the host does -/

namespace Host

open Act

variable {host : Host} {l l' : Ledger}

/-- **Opening an account touches the payer and the new account.** -/
theorem confined_createAccount (hF : host.FailsBy F) (hl : l.AgreeOn keys l') {payer target : Key}
    (hpayer : payer ∈ keys) (htarget : target ∈ keys) (signers : List Key) (lamports : Int)
    (size : Nat) (owner : Key) (seeds : Option Bytes) :
    (host.createAccount signers payer target lamports size owner seeds).Confined keys l l' F
      fun _ => True := by
  unfold createAccount
  refine (inspects_require _ (hF.rejected _)).bind_confined hl fun _ _ => ?_
  refine (inspects_orFail fun _ => hF.signedFor _ _ _).bind_confined hl fun signed _ => ?_
  refine (inspects_require _ (hF.rejected _)).bind_confined hl fun _ _ => ?_
  refine (inspects_account (hl target htarget)).bind_confined hl fun there _ => ?_
  refine (inspects_require _ (hF.rejected _)).bind_confined hl fun _ _ => ?_
  refine (inspects_require _ (hF.rejected _)).bind_confined hl fun _ hsize => ?_
  refine (inspects_account (hl payer hpayer)).bind_confined hl fun paying _ => ?_
  refine (inspects_require _ (hF.rejected _)).bind_confined hl fun _ _ => ?_
  have hmade : Bytes.checkSize size = .ok () := checkSize_of_le (by exact_mod_cast hsize)
  refine (confined_store hl hpayer _).bind fun _ m m' _ hm => ?_
  refine (inspects_account (hm target htarget)).bind_confined hm fun given _ => ?_
  refine (confined_store hm htarget _).bind fun _ m m' _ hm => ?_
  refine (inspects_orFail fun _ hwhy => ?_).bind_confined hm fun _ _ => ?_
  · rw [hmade] at hwhy
    cases hwhy
  · refine (confined_store hm htarget _).bind fun _ m m' _ hm => ?_
    exact (inspects_note _).confined hm

/-- **A transfer touches its source and its destination.** -/
theorem confined_transfer (hF : host.FailsBy F) (hl : l.AgreeOn keys l') {source destination : Key}
    (hsource : source ∈ keys) (hdestination : destination ∈ keys) (signers : List Key)
    (tokenProgram authority : Key) (seeds : Option Bytes) (n : Nat) :
    (host.transfer signers tokenProgram source destination authority seeds n).Confined keys l l' F
      fun _ => True := by
  have hunpack (data : Bytes) (why : Fault) (h : TokenAccount.unpack data = .error why) :
      F why := by
    obtain ⟨r, rfl, -⟩ := TokenAccount.unpack_error h
    exact hF.rejected r
  unfold transfer
  refine (inspects_require _ (hF.rejected _)).bind_confined hl fun _ _ => ?_
  refine (inspects_account (hl source hsource)).bind_confined hl fun sourceAccount _ => ?_
  refine (inspects_account (hl destination hdestination)).bind_confined hl
    fun destinationAccount _ => ?_
  refine (inspects_require _ (hF.rejected _)).bind_confined hl fun _ _ => ?_
  refine (inspects_require _ (hF.rejected _)).bind_confined hl fun _ _ => ?_
  refine (inspects_orFail (hunpack _)).bind_confined hl fun debtor _ => ?_
  refine (inspects_orFail (hunpack _)).bind_confined hl fun creditor _ => ?_
  refine (inspects_require _ (hF.rejected _)).bind_confined hl fun _ _ => ?_
  refine (inspects_require _ (hF.rejected _)).bind_confined hl fun _ _ => ?_
  refine (inspects_require _ (hF.rejected _)).bind_confined hl fun _ _ => ?_
  refine (inspects_orFail fun _ => hF.signedFor _ _ _).bind_confined hl fun signed _ => ?_
  refine (inspects_require _ (hF.rejected _)).bind_confined hl fun _ _ => ?_
  refine (inspects_require _ (hF.rejected _)).bind_confined hl fun _ hcovered => ?_
  split
  · refine (inspects_require _ (hF.rejected _)).bind_confined hl fun _ hfits => ?_
    -- both amounts are numbers of 64 bits: the one is covered, the other fits
    have hdebited := debtor.withAmount_sub (n := n) (by exact_mod_cast hcovered)
    have hcredited := creditor.withAmount_add (n := n) (by exact_mod_cast hfits)
    rw [hdebited, hcredited]
    refine (inspects_pure trivial).bind_confined (P := fun _ => True) hl fun debited _ => ?_
    refine (inspects_pure trivial).bind_confined (P := fun _ => True) hl fun credited _ => ?_
    refine (confined_store hl hsource _).bind fun _ m m' _ hm => ?_
    refine (confined_store hm hdestination _).bind fun _ m m' _ hm => ?_
    exact (inspects_note _).confined hm
  · exact (inspects_pure trivial).confined hl

end Host

/-! ## 4. Commands -/

namespace Engine

open Act

variable {l l' : Ledger}

theorem confined_storeRecord (hl : l.AgreeOn keys l') {vesting : Key} (hvesting : vesting ∈ keys)
    (data : Bytes) : (storeRecord vesting data).Confined keys l l' F fun _ => True :=
  (inspects_account (hl vesting hvesting)).bind_confined hl fun _ _ => confined_store hl hvesting _

theorem confined_storeBehind (hl : l.AgreeOn keys l') {vesting : Key} (hvesting : vesting ∈ keys)
    (source destination : Key) (data : Bytes) :
    (storeBehind vesting source destination data).Confined keys l l' F fun _ => True := by
  unfold storeBehind
  split
  · exact (inspects_pure trivial).confined hl
  · exact confined_storeRecord hl hvesting data

end Engine

namespace Plan

open Act Engine

variable {l l' : Ledger} {p : Plan}

theorem confined_ask {host : Host} (hF : host.FailsBy F) (hl : l.AgreeOn keys l')
    (hp : p.Within keys) (signers : List Key) :
    (p.ask host signers).Confined keys l l' F fun _ => True := by
  cases p with
  | opening =>
    obtain ⟨hpayer, hvesting⟩ := hp
    exact Host.confined_createAccount hF hl hpayer hvesting signers _ _ _ _
  | payment =>
    obtain ⟨hsource, hdestination, -⟩ := hp
    exact Host.confined_transfer hF hl hsource hdestination signers _ _ _ _
  | writing => exact (inspects_pure trivial).confined hl
  | reporting => exact (inspects_pure trivial).confined hl

theorem confined_finish {l₀ : Ledger} (hl : l.AgreeOn keys l') (hp : p.Within keys)
    (hfits : p.Fits l₀) : p.finish.Confined keys l l' F fun _ => True := by
  cases p with
  | opening => exact (inspects_pure trivial).confined hl
  | payment =>
    obtain ⟨-, -, hvesting⟩ := hp
    refine (confined_storeBehind hl hvesting _ _ _).bind fun _ m m' _ hm => ?_
    refine (inspects_orFail fun _ hwhy => ?_).bind_confined hm fun _ _ => ?_
    · cases hfits.1.symm.trans hwhy
    · exact (inspects_note _).confined hm
  | writing =>
    refine (confined_storeRecord hl hp _).bind fun _ m m' _ hm => ?_
    exact (inspects_note _).confined hm
  | reporting => exact (inspects_note _).confined hl

end Plan

namespace Engine

open Act

variable {host : Host} {l l' : Ledger}

/-- **A command stays with the accounts that it is given.** -/
theorem confined_perform (hF : host.FailsBy F) (hl : l.AgreeOn keys l') (signers : List Key)
    (c : Command) : (perform host signers keys c).Confined keys l l' F fun _ => True := by
  rw [perform_eq_plan]
  refine (inspects_plan hF hl signers c).bind_confined hl fun p hp => ?_
  refine (p.confined_ask hF hl hp.within signers).bind fun _ m m' _ hm => ?_
  exact p.confined_finish hm hp.within hp.fits

theorem confined_process (hF : host.FailsBy F) (hl : l.AgreeOn keys l') (signers : List Key)
    (data : Bytes) : (process host signers keys data).Confined keys l l' F fun _ => True := by
  have hexecute : (execute host signers keys data).Confined keys l l' F fun _ => True := by
    refine (inspects_decode hF data).bind_confined hl fun c _ => ?_
    refine (inspects_note _).bind_confined hl fun _ _ => ?_
    exact confined_perform hF hl signers c
  refine hexecute.handle fun why hwhy => ?_
  cases why with
  | rejected r =>
    refine (inspects_note _).bind_confined hl fun _ _ => ?_
    exact (inspects_fail hwhy).confined hl
  | _ => exact (inspects_fail hwhy).confined hl

/-- **A refused command leaves the ledger as it was.** -/
theorem process_atomic (host : Host) (signers accounts : List Key) (data : Bytes) (w : World) :
    (process host signers accounts data).Atomic w :=
  (confined_process host.failsBy_anyhow (fun _ _ => rfl) signers data).atomic

end Engine

end Vesting
