/-
# The first hurdle that stands decides

A command makes its checks one behind the other, and the first that fails decides how it ends.  A
`Hurdle` is a check seen from that side: the condition that stands in the way, and the faults that
the act ends in there.  `Act.Decided` reads a list of hurdles from the front.  If one stands and
none before it does, the act is broken off by a fault of that hurdle, and the ledger is as it was.
If none stands, the list is silent, and something else has the last word: mostly that the act goes
through, and what it leaves (`Act.Leaves`).

A list of hurdles says more than the structure of what a successful command has checked
(`Engine.Funding` and its siblings): it leaves no case open, and it says which fault wins where
several checks fail at once.  The rules of section 2 follow an act line by line, and sections 3 and
4 apply them to what the commands have in common: their accounts, the address of the contract, and
the transfer.
-/
import Vesting.Proofs.Commands

namespace Vesting

open Act

/-! ## 1. Hurdles -/

/-- The fault is a refusal of a class. -/
def Fault.Refuses (c : Code) (why : Fault) : Prop := ∃ r, why = .rejected r ∧ r.code = c

/-- A fault refuses in one class only. -/
theorem Fault.Refuses.unique {c c' : Code} {why : Fault} (h : why.Refuses c) (h' : why.Refuses c') :
    c = c' := by
  obtain ⟨r, rfl, rfl⟩ := h
  obtain ⟨r', hr', rfl⟩ := h'
  cases hr'
  rfl

/-- Where a record is long enough for a header, what is wrong with the header is its flag. -/
theorem Record.refuses_of_header {data : Bytes} (h : 65 ≤ data.length) {why : Fault}
    (hwhy : Record.header data = .error why) : why.Refuses .invalidBoolean := by
  rw [header_eq_read h] at hwhy
  obtain ⟨b, rfl⟩ := Header.read_error hwhy
  exact ⟨_, rfl, rfl⟩

/-- What may stand in the way of an act: the condition on which it does, and the faults that the
act ends in then. -/
structure Hurdle where
  stands : Prop
  ends : Fault → Prop

/-- A hurdle where the act is refused. -/
def Hurdle.refusal (p : Prop) (c : Code) : Hurdle := ⟨p, Fault.Refuses c⟩

@[simp] theorem Hurdle.stands_refusal {p : Prop} {c : Code} : (refusal p c).stands ↔ p := Iff.rfl

namespace Act

variable {α β : Type}

/-- The act has gone through, with a value and a ledger as `Q` says. -/
def Leaves (Q : α → Ledger → Prop) (out : Except Fault α × World) : Prop :=
  ∃ a w', out = (.ok a, w') ∧ Q a w'.ledger

/-- **The first hurdle that stands decides.**  The act is broken off there and leaves the ledger as
it found it; where no hurdle stands, it comes to what `K` says. -/
def Decided (act : Act α) (w : World) (K : Except Fault α × World → Prop) : List Hurdle → Prop
  | [] => K (act.exec w)
  | h :: hs =>
    (h.stands → ∃ why w', act.Breaks w why w' ∧ h.ends why ∧ w'.ledger = w.ledger) ∧
      (¬ h.stands → act.Decided w K hs)

/-! ## 2. From line to line -/

section Rules

variable {w w₁ : World} {P : α → Ledger → Prop} {K : Except Fault β × World → Prop} {h : Hurdle}
  {hs : List Hurdle} {r : Rejection}

/-- Nothing counts but what an act comes to. -/
theorem Decided.of_exec {x y : Act β} (hy : y.Decided w₁ K hs) (hexec : x.exec w = y.exec w₁)
    (hsame : w₁.ledger = w.ledger) : x.Decided w K hs := by
  induction hs with
  | nil =>
    show K (x.exec w)
    rw [hexec]
    exact hy
  | cons h hs ih =>
    refine ⟨fun hstands => ?_, fun hclear => ih (hy.2 hclear)⟩
    obtain ⟨why, w', hbreaks, hends, hledger⟩ := hy.1 hstands
    exact ⟨why, w', hexec.trans hbreaks, hends, hledger.trans hsame⟩

/-- Where no hurdle stands, the last word is had. -/
theorem Decided.of_clear {act : Act β} (hact : act.Decided w K hs) (hclear : ∀ h ∈ hs, ¬ h.stands) :
    K (act.exec w) := by
  induction hs with
  | nil => exact hact
  | cons h hs ih =>
    exact ih (hact.2 (hclear h List.mem_cons_self)) fun k hk => hclear k (List.mem_cons_of_mem _ hk)

/-- Either the last word is had, or the act is broken off at a hurdle that stands. -/
theorem Decided.cases {act : Act β} (hact : act.Decided w K hs) :
    K (act.exec w) ∨ ∃ h ∈ hs, h.stands ∧
      ∃ why w', act.Breaks w why w' ∧ h.ends why ∧ w'.ledger = w.ledger := by
  induction hs with
  | nil => exact .inl hact
  | cons h hs ih =>
    by_cases hstands : h.stands
    · exact .inr ⟨h, List.mem_cons_self, hstands, hact.1 hstands⟩
    · rcases ih (hact.2 hstands) with hlast | ⟨k, hk, hbroken⟩
      · exact .inl hlast
      · exact .inr ⟨k, List.mem_cons_of_mem _ hk, hbroken⟩

/-- Broken off, the act has left the ledger as it found it. -/
theorem Decided.atomic {act : Act α} (hact : act.Decided w (Leaves P) hs) : act.Atomic w := by
  intro why w' hbreaks
  rcases hact.cases with ⟨_, _, hyields, -⟩ | ⟨_, _, _, _, _, hbreaks', -, hledger⟩
  · cases hyields.symm.trans hbreaks
  · cases hbreaks'.symm.trans hbreaks
    exact hledger

/-- **An act goes through exactly if no hurdle stands.** -/
theorem Decided.yields_iff {act : Act α} (hact : act.Decided w (Leaves P) hs) :
    (∃ a w', act.Yields w a w') ↔ ∀ h ∈ hs, ¬ h.stands := by
  constructor
  · rintro ⟨a, w', hyields⟩
    induction hs with
    | nil => exact fun h hmem => nomatch hmem
    | cons h hs ih =>
      have hclear : ¬ h.stands := fun hstands => by
        obtain ⟨why, w₂, hbreaks, -⟩ := hact.1 hstands
        cases hyields.symm.trans hbreaks
      exact List.forall_mem_cons.2 ⟨hclear, ih (hact.2 hclear)⟩
  · intro hclear
    obtain ⟨a, w', hyields, -⟩ := hact.of_clear hclear
    exact ⟨a, w', hyields⟩

/-- Where no hurdle stands, something else may be said. -/
theorem Decided.imp {act : Act β} {K' : Except Fault β × World → Prop} (hact : act.Decided w K hs)
    (himp : K (act.exec w) → K' (act.exec w)) : act.Decided w K' hs := by
  induction hs with
  | nil => exact himp hact
  | cons h hs ih => exact ⟨hact.1, fun hclear => ih (hact.2 hclear)⟩

/-- A hurdle that is known not to stand may be left out. -/
theorem Decided.drop {act : Act β} (hact : act.Decided w K (h :: hs)) (hclear : ¬ h.stands) :
    act.Decided w K hs := hact.2 hclear

/-- The hurdle in front may be put in other words, and so may what comes once it is passed. -/
theorem Decided.recast {act : Act β} {K' : Except Fault β × World → Prop} {h' : Hurdle}
    {hs' : List Hurdle} (hact : act.Decided w K (h :: hs)) (hstands : h'.stands ↔ h.stands)
    (hends : ∀ why, h.ends why → h'.ends why)
    (hrest : ¬ h.stands → act.Decided w K hs → act.Decided w K' hs') :
    act.Decided w K' (h' :: hs') := by
  refine ⟨fun hstanding => ?_, fun hclear => ?_⟩
  · obtain ⟨why, w', hbreaks, hwhy, hledger⟩ := hact.1 (hstands.1 hstanding)
    exact ⟨why, w', hbreaks, hends why hwhy, hledger⟩
  · have hclear := mt hstands.2 hclear
    exact hrest hclear (hact.2 hclear)

/-- The hurdle in front stays as it is. -/
theorem Decided.keep {act : Act β} {K' : Except Fault β × World → Prop} {hs' : List Hurdle}
    (hact : act.Decided w K (h :: hs))
    (hrest : ¬ h.stands → act.Decided w K hs → act.Decided w K' hs') :
    act.Decided w K' (h :: hs') :=
  hact.recast Iff.rfl (fun _ hwhy => hwhy) hrest

/-- A part that goes through and leaves the ledger alone is no hurdle. -/
theorem Decided.bind_of_yields {x : Act α} {f : α → Act β} {a : α} (hx : x.Yields w a w₁)
    (hsame : w₁.ledger = w.ledger) (hf : (f a).Decided w₁ K hs) : (x >>= f).Decided w K hs :=
  hf.of_exec (exec_bind_of_yields hx) hsame

/-- Behind a part that has gone through, the rest has the last word. -/
theorem Decided.bind_of_leaves {x : Act α} {f : α → Act β} (hx : x.Decided w (Leaves P) hs)
    (hf : ∀ a w', x.Yields w a w' → P a w'.ledger → K ((f a).exec w')) :
    (x >>= f).Decided w K hs := by
  induction hs with
  | nil =>
    obtain ⟨a, w', hyields, hP⟩ := hx
    show K ((x >>= f).exec w)
    rw [exec_bind_of_yields hyields]
    exact hf a w' hyields hP
  | cons h hs ih =>
    refine ⟨fun hstands => ?_, fun hclear => ih (hx.2 hclear)⟩
    obtain ⟨why, w', hbreaks, hrest⟩ := hx.1 hstands
    exact ⟨why, w', breaks_bind.2 (.inl hbreaks), hrest⟩

/-- An act that is broken off at the hurdle in front. -/
theorem Decided.of_breaks {act : Act β} {why : Fault} (hbreaks : act.Breaks w why w₁)
    (hsame : w₁.ledger = w.ledger) (hstands : h.stands) (hends : h.ends why) :
    act.Decided w K (h :: hs) :=
  ⟨fun _ => ⟨why, w₁, hbreaks, hends, hsame⟩, fun hclear => absurd hstands hclear⟩

/-- A hurdle that does not stand is passed. -/
theorem Decided.pass {act : Act β} (hclear : ¬ h.stands) (hrest : act.Decided w K hs) :
    act.Decided w K (h :: hs) :=
  ⟨fun hstands => absurd hstands hclear, fun _ => hrest⟩

variable {p : Prop} [Decidable p] {f : Unit → Act β}

/-- A check that is one of several behind the hurdle in front. -/
theorem Decided.demand_part (hfails : ¬ p → h.stands ∧ h.ends (.rejected r))
    (hf : p → (f ()).Decided w K (h :: hs)) : (demand p r >>= f).Decided w K (h :: hs) := by
  by_cases hp : p
  · exact .bind_of_yields (yields_of_demand hp) rfl (hf hp)
  · obtain ⟨hstands, hends⟩ := hfails hp
    exact .of_breaks (breaks_bind.2 (.inl (breaks_of_demand hp))) rfl hstands hends

variable {q : Prop} {c : Code}

/-- A check that is the hurdle in front. -/
theorem Decided.demand (hq : q ↔ ¬ p) (hcode : r.code = c) (hf : p → (f ()).Decided w K hs) :
    (demand p r >>= f).Decided w K (.refusal q c :: hs) := by
  refine .demand_part (fun hp => ⟨hq.2 hp, r, rfl, hcode⟩) fun hp => ?_
  exact .pass (fun hstands => hq.1 hstands hp) (hf hp)

/-- The same for a check without a word in the log. -/
theorem Decided.require (hq : q ↔ ¬ p) (hcode : r.code = c) (hf : p → (f ()).Decided w K hs) :
    (require p r >>= f).Decided w K (.refusal q c :: hs) := by
  by_cases hp : p
  · refine .pass (fun hstands => hq.1 hstands hp) ?_
    exact .bind_of_yields (yields_require.2 ⟨hp, rfl⟩) rfl (hf hp)
  · have hbreaks : (Act.require p r).Breaks w (.rejected r) w := by
      rw [Act.require, if_neg hp]
      rfl
    exact .of_breaks (breaks_bind.2 (.inl hbreaks)) rfl (hq.2 hp) ⟨r, rfl, hcode⟩

/-- A result that may be a fault, and the hurdle that this is. -/
theorem Decided.orFail {x : Except Fault α} {f : α → Act β} (hstands : h.stands ↔ ∀ a, x ≠ .ok a)
    (hends : ∀ why, x = .error why → h.ends why) (hf : ∀ a, x = .ok a → (f a).Decided w K hs) :
    (orFail x >>= f).Decided w K (h :: hs) := by
  cases x with
  | ok a =>
    refine .pass (fun hstanding => hstands.1 hstanding a rfl) ?_
    exact .bind_of_yields (yields_orFail.2 ⟨rfl, rfl⟩) rfl (hf a rfl)
  | error why =>
    refine .of_breaks (breaks_bind.2 (.inl rfl)) rfl (hstands.2 fun a ha => ?_) (hends why rfl)
    cases ha

/-- Hurdles that end alike count as one. -/
theorem Decided.merge {act : Act β} {E : Fault → Prop} (hact : act.Decided w K hs)
    (hends : ∀ h ∈ hs, h.stands → ∀ why, h.ends why → E why) :
    act.Decided w K [⟨∃ h ∈ hs, h.stands, E⟩] := by
  induction hs with
  | nil =>
    refine .pass ?_ hact
    rintro ⟨h, hmem, -⟩
    cases hmem
  | cons h hs ih =>
    by_cases hstands : h.stands
    · obtain ⟨why, w', hbreaks, hwhy, hledger⟩ := hact.1 hstands
      exact .of_breaks hbreaks hledger ⟨h, List.mem_cons_self, hstands⟩
        (hends h List.mem_cons_self hstands why hwhy)
    · obtain ⟨hsome, hnone⟩ := ih (hact.2 hstands) fun k hk => hends k (List.mem_cons_of_mem _ hk)
      refine ⟨?_, fun hclear => hnone ?_⟩
      · rintro ⟨k, hk, hkstands⟩
        rcases List.mem_cons.1 hk with rfl | hk
        · exact absurd hkstands hstands
        · exact hsome ⟨k, hk, hkstands⟩
      · rintro ⟨k, hk, hkstands⟩
        exact hclear ⟨k, List.mem_cons_of_mem _ hk, hkstands⟩

end Rules

end Act

/-! ## 3. The accounts and the address of a command -/

namespace Engine

variable {host : Host} {accounts : List Key} {seeds : Seeds} {vesting : Key} {w : World}
  {β : Type} {K : Except Fault β × World → Prop} {hs : List Hurdle}

/-- Fewer accounts than a command takes. -/
def fewerThan (n : Nat) (accounts : List Key) : Hurdle :=
  .refusal (accounts.length < n) .missingAccount

theorem decided_pick {position n : Nat} {role : Role} {f : Key → Act β} (hposition : position < n)
    (hf : ∀ k, accounts[position]? = some k → (f k).Decided w K (fewerThan n accounts :: hs)) :
    (pick accounts position role >>= f).Decided w K (fewerThan n accounts :: hs) := by
  cases hk : accounts[position]? with
  | some k => exact .bind_of_yields (yields_pick hk) rfl (hf k hk)
  | none =>
    have hfew : accounts.length < n :=
      Nat.lt_of_le_of_lt (List.getElem?_eq_none_iff.1 hk) hposition
    have hbreaks : (pick accounts position role).Breaks w (.rejected (.missingAccount role))
        ⟨w.ledger, .failed (.missingAccount role) :: w.log⟩ := by
      rw [pick, hk]
      rfl
    exact .of_breaks (breaks_bind.2 (.inl hbreaks)) rfl hfew ⟨_, rfl, rfl⟩

/-- Four accounts that have been picked stand in front. -/
theorem eq_of_four_picks {a b c d : Key} (ha : accounts[0]? = some a) (hb : accounts[1]? = some b)
    (hc : accounts[2]? = some c) (hd : accounts[3]? = some d) :
    ∃ rest, accounts = a :: b :: c :: d :: rest := by
  rcases accounts with _ | ⟨a', _ | ⟨b', _ | ⟨c', _ | ⟨d', rest⟩⟩⟩⟩
  case cons.cons.cons.cons =>
    cases ha
    cases hb
    cases hc
    cases hd
    exact ⟨rest, rfl⟩
  all_goals cases hd

/-- And so do five. -/
theorem eq_of_picks {a b c d e : Key} (ha : accounts[0]? = some a) (hb : accounts[1]? = some b)
    (hc : accounts[2]? = some c) (hd : accounts[3]? = some d) (he : accounts[4]? = some e) :
    ∃ rest, accounts = a :: b :: c :: d :: e :: rest := by
  obtain ⟨_ | ⟨e', rest⟩, rfl⟩ := eq_of_four_picks ha hb hc hd
  · cases he
  · cases he
    exact ⟨rest, rfl⟩

/-- The seeds of a command lead elsewhere, or nowhere.  A derivation that fails in a way of its
own, and not because the seeds have no address, is not answered for. -/
def addressHurdles (host : Host) (seeds : Seeds) (vesting : Key) : List Hurdle :=
  [⟨∃ why, host.derive seeds.bytes host.program = .error why ∧ ¬ why.Refuses .invalidArgument,
    fun why => host.derive seeds.bytes host.program = .error why⟩,
   .refusal (host.derive seeds.bytes host.program ≠ .ok vesting) .invalidArgument]

theorem decided_checkAddress {f : Unit → Act β}
    (hf : host.derive seeds.bytes host.program = .ok vesting → (f ()).Decided w K hs) :
    (checkAddress host seeds vesting >>= f).Decided w K
      (addressHurdles host seeds vesting ++ hs) := by
  unfold checkAddress addressHurdles
  cases hderive : host.derive seeds.bytes host.program with
  | ok address =>
    refine .pass (by simp) ?_
    exact .demand (by simp) rfl fun haddress => hf (by rw [hderive, haddress])
  | error why =>
    by_cases hwhy : why.Refuses .invalidArgument
    · obtain ⟨r, rfl, hcode⟩ := hwhy
      refine .pass (by simp [Fault.Refuses, hcode]) ?_
      simp only [if_pos hcode]
      exact .of_breaks (breaks_bind.2 (.inl rfl)) rfl (fun hok => nomatch hok) ⟨_, rfl, rfl⟩
    · cases why with
      | rejected r =>
        have hcode : r.code ≠ .invalidArgument := fun hcode => hwhy ⟨r, rfl, hcode⟩
        simp only [if_neg hcode]
        exact .of_breaks (breaks_bind.2 (.inl rfl)) rfl ⟨_, rfl, hwhy⟩ rfl
      | _ => exact .of_breaks (breaks_bind.2 (.inl rfl)) rfl ⟨_, rfl, hwhy⟩ rfl

/-- The bytes of an account are no token account. -/
def notToken (l : Ledger) (key : Key) : Hurdle :=
  .refusal (∀ t, TokenAccount.unpack (l.account key).data ≠ .ok t) .invalidAccountData

theorem decided_tokenAccount {role : Role} {key : Key} {f : TokenAccount → Act β}
    (hf : ∀ t, TokenAccount.unpack (w.ledger.account key).data = .ok t → (f t).Decided w K hs) :
    (tokenAccount role key >>= f).Decided w K (notToken w.ledger key :: hs) := by
  cases ht : TokenAccount.unpack (w.ledger.account key).data with
  | ok t =>
    refine .pass (fun hnone => hnone t ht) ?_
    exact .bind_of_yields (yields_tokenAccount ht) rfl (hf t ht)
  | error why =>
    obtain ⟨r, rfl, hcode⟩ := TokenAccount.unpack_error ht
    have hbreaks : (tokenAccount role key).Breaks w (.rejected (.notTokenAccount role r))
        ⟨w.ledger, .failed (.notTokenAccount role r) :: w.log⟩ := by
      unfold tokenAccount
      rw [Breaks, exec_bind_of_yields (yields_account.2 ⟨rfl, rfl⟩), ht]
      simp only [if_pos hcode]
      rfl
    refine .of_breaks (breaks_bind.2 (.inl hbreaks)) rfl (fun t hok => ?_) ⟨_, rfl, rfl⟩
    cases ht.symm.trans hok

end Engine

/-! ## 4. The hurdles of a transfer -/

/-- What is so of the token account under a key, if there is one. -/
def Ledger.Shows (l : Ledger) (key : Key) (p : TokenAccount → Prop) : Prop :=
  ∃ t, TokenAccount.unpack (l.account key).data = .ok t ∧ p t

theorem Ledger.shows_iff {l : Ledger} {key : Key} {t : TokenAccount}
    (ht : TokenAccount.unpack (l.account key).data = .ok t) {p : TokenAccount → Prop} :
    l.Shows key p ↔ p t := by
  constructor
  · rintro ⟨t', ht', hp⟩
    cases ht.symm.trans ht'
    exact hp
  · intro hp
    exact ⟨t, ht, hp⟩

/-- What is so between the token accounts under two keys, if both are there. -/
def Ledger.Between (l : Ledger) (source destination : Key)
    (p : TokenAccount → TokenAccount → Prop) : Prop :=
  l.Shows source fun debtor => l.Shows destination fun creditor => p debtor creditor

theorem Ledger.between_iff {l : Ledger} {source destination : Key} {debtor creditor : TokenAccount}
    (hdebtor : TokenAccount.unpack (l.account source).data = .ok debtor)
    (hcreditor : TokenAccount.unpack (l.account destination).data = .ok creditor)
    {p : TokenAccount → TokenAccount → Prop} :
    l.Between source destination p ↔ p debtor creditor :=
  (shows_iff hdebtor).trans (shows_iff hcreditor)

namespace Host

/-- What may stand in the way of a transfer of `n` tokens, in the order in which it is met. -/
def transferHurdles (host : Host) (signers : List Key)
    (tokenProgram source destination authority : Key) (seeds : Option Bytes) (n : Nat)
    (l : Ledger) : List Hurdle :=
  let signed := host.signedFor signers authority seeds
  [.refusal (tokenProgram ≠ Key.tokenProgram) .hostError,
   .refusal ((l.account source).owner ≠ Key.tokenProgram) .hostError,
   .refusal ((l.account destination).owner ≠ Key.tokenProgram) .hostError,
   Engine.notToken l source,
   Engine.notToken l destination,
   .refusal (l.Between source destination fun d c => d.mint ≠ c.mint) .hostError,
   .refusal (l.Between source destination fun d c => d.isFrozen ∨ c.isFrozen) .hostError,
   .refusal (l.Shows source fun d => authority ≠ d.owner) .hostError,
   ⟨∀ b, signed ≠ .ok b, fun why => signed = .error why⟩,
   .refusal (signed = .ok false) .hostError,
   .refusal (l.Shows source fun d => d.amount.toNat < n) .hostError,
   .refusal (source ≠ destination ∧ l.Shows destination fun c => maxU64 < c.amount.toNat + n)
     .hostError]

/-- **A transfer is decided by its first hurdle that stands, and moves the tokens if none does.** -/
theorem transfer_decided (host : Host) (signers : List Key)
    (tokenProgram source destination authority : Key) (seeds : Option Bytes) (n : Nat)
    (w : World) :
    (host.transfer signers tokenProgram source destination authority seeds n).Decided w
      (Leaves fun _ l' => ∃ debtor creditor,
        Permitted host signers tokenProgram source destination authority seeds n w.ledger debtor
          creditor ∧
        l' = w.ledger.move source destination debtor creditor n)
      (host.transferHurdles signers tokenProgram source destination authority seeds n
        w.ledger) := by
  have hunpack {data : Bytes} (why : Fault) (h : TokenAccount.unpack data = .error why) :
      why.Refuses .invalidAccountData := TokenAccount.unpack_error h
  unfold transfer transferHurdles
  refine .require Iff.rfl rfl fun hprogram => ?_
  refine .bind_of_yields (yields_account.2 ⟨rfl, rfl⟩) rfl ?_
  refine .bind_of_yields (yields_account.2 ⟨rfl, rfl⟩) rfl ?_
  refine .require Iff.rfl rfl fun hsource => ?_
  refine .require Iff.rfl rfl fun hdestination => ?_
  refine .orFail Iff.rfl hunpack fun debtor hdebtor => ?_
  refine .orFail Iff.rfl hunpack fun creditor hcreditor => ?_
  refine .require (Ledger.between_iff hdebtor hcreditor) rfl fun hmint => ?_
  refine .require ((Ledger.between_iff hdebtor hcreditor).trans not_not.symm) rfl fun hthawed => ?_
  refine .require (Ledger.shows_iff hdebtor) rfl fun howner => ?_
  refine .orFail Iff.rfl (fun _ hwhy => hwhy) fun signed hsigned => ?_
  refine .require (by simp [hsigned]) rfl fun htrue => ?_
  rw [htrue] at hsigned
  refine .require ((Ledger.shows_iff hdebtor).trans (by omega)) rfl fun hcovered => ?_
  have hcovered : n ≤ debtor.amount.toNat := by exact_mod_cast hcovered
  have hpermitted (hfits : source ≠ destination → creditor.amount.toNat + n ≤ maxU64) :
      Permitted host signers tokenProgram source destination authority seeds n w.ledger debtor
        creditor :=
    ⟨hprogram, Account.token?_eq_some_iff.2 ⟨hsource, hdebtor⟩,
      Account.token?_eq_some_iff.2 ⟨hdestination, hcreditor⟩, hmint, hthawed, howner, hsigned,
      hcovered, hfits⟩
  by_cases hne : source = destination
  · rw [if_neg (not_not.2 hne)]
    refine .pass (fun hfull => hfull.1 hne) ?_
    refine ⟨(), w, rfl, debtor, creditor, hpermitted (absurd hne), ?_⟩
    exact (w.ledger.move_self debtor creditor n hne).symm
  · rw [if_pos hne]
    have hfull : (source ≠ destination ∧ w.ledger.Shows destination fun c =>
        maxU64 < c.amount.toNat + n) ↔ ¬ (creditor.amount.toNat + n : Int) ≤ maxU64 := by
      rw [and_iff_right hne, Ledger.shows_iff hcreditor]
      omega
    refine .require hfull rfl fun hfits => ?_
    have hfits : creditor.amount.toNat + n ≤ maxU64 := by exact_mod_cast hfits
    refine ⟨(), ⟨w.ledger.move source destination debtor creditor n,
      .moved n source destination :: w.log⟩, ?_, debtor, creditor, hpermitted fun _ => hfits, rfl⟩
    show Act.Yields _ w () _
    rw [Ledger.move, if_neg hne]
    simp only [yields_orFail_bind, yields_store_bind, yields_note]
    exact ⟨_, debtor.withAmount_sub hcovered, _, creditor.withAmount_add hfits, rfl⟩

/-- Where it is known who has signed, a transfer is refused by the host, or because one of the two
accounts is no token account. -/
theorem ends_of_transferHurdles {host : Host} {signers : List Key}
    {tokenProgram source destination authority : Key} {seeds : Option Bytes} {n : Nat} {l : Ledger}
    {signed : Bool} {E : Fault → Prop} (hhost : ∀ why, why.Refuses .hostError → E why)
    (hsource : (Engine.notToken l source).stands → ∀ why, why.Refuses .invalidAccountData → E why)
    (hdestination : (Engine.notToken l destination).stands →
      ∀ why, why.Refuses .invalidAccountData → E why)
    (hsigned : host.signedFor signers authority seeds = .ok signed) :
    ∀ h ∈ host.transferHurdles signers tokenProgram source destination authority seeds n l,
      h.stands → ∀ why, h.ends why → E why := by
  have hrefused (p : Prop) : (Hurdle.refusal p .hostError).stands →
      ∀ why, (Hurdle.refusal p .hostError).ends why → E why := fun _ => hhost
  unfold transferHurdles
  simp only [List.forall_mem_cons]
  exact ⟨hrefused _, hrefused _, hrefused _, hsource, hdestination, hrefused _, hrefused _,
    hrefused _, fun hnone => absurd hsigned (hnone _), hrefused _, hrefused _, hrefused _,
    fun _ hmem => nomatch hmem⟩

end Host

/-- What a command does behind its transfer: it writes its record and reports. -/
theorem Engine.yields_settle (l : Ledger) (log : List Event) (source destination : Key)
    (debtor creditor : TokenAccount) (n : Nat) (vesting : Key) (data : Bytes) (e : Event) :
    Act.Yields (do storeBehind vesting source destination data; orFail (.ok ()); note e)
      ⟨l.move source destination debtor creditor n, log⟩ ()
      ⟨l.settled source destination debtor creditor n vesting data, e :: log⟩ :=
  yields_storeBehind_bind.2 (yields_orFail_bind.2 ⟨(), rfl, yields_note.2 rfl⟩)

end Vesting
