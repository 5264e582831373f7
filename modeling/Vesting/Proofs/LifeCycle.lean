/-
# The life of a record

An address that the program can sign for goes through three phases: there is no account; there is
one that the program owns, with room for `n` tranches and nothing but zeros in it; the contract has
been set up.  Making room leads from the first to the second, setting up leads from the second to
the third, and nothing else leads anywhere (`Moment.Passes`).

Paying out and naming another destination check neither who owns the account nor whether the
contract has been set up.  They succeed in the third phase only, for reasons that lie in the ledger.

* Nothing is due to a record of zeros (`Record.vestedAt_zeros`), so nothing can be paid out.
* A record of zeros names the key of all zeros as its destination, and no token account is ever
  there.  Transfers do not put one there, and a record that is opened there has the wrong length:
  no record is as long as a token account.

`Ledger.Orderly` is the invariant: every such address is in a phase, and the account of the zero key
is no token account.
-/
import Vesting.Proofs.Header
import Vesting.Proofs.Touch

namespace Vesting

/-! ## 1. Records of zeros -/

theorem LittleEndian.decode_zeros (n : Nat) : decode (List.replicate n 0) = 0 := by
  induction n with
  | zero => rfl
  | succ n ih => rw [List.replicate_succ, decode, ih, UInt8.toNat_zero]

namespace Tranche

theorem amount_read_zeros (n : Nat) : (read (List.replicate n 0)).amount = 0 := by
  rw [read, List.drop_replicate, List.take_replicate, List.take_replicate]
  simp only [LittleEndian.decode_zeros]
  rfl

theorem total_zeros (count n : Nat) : total (readMany count (List.replicate n 0)) = 0 := by
  induction count generalizing n with
  | zero => rfl
  | succ count ih =>
    rw [readMany_succ, total, amount_read_zeros, List.drop_replicate, ih, UInt64.toNat_zero]

end Tranche

/-- Nothing is due to a record of zeros. -/
theorem Record.vestedAt_zeros (now : Int) (n : Nat) : vestedAt now (List.replicate n 0) = 0 := by
  have htotal : Tranche.total (tranches (List.replicate n 0)) = 0 := by
    rw [tranches, List.drop_replicate, Tranche.total_zeros]
  exact Nat.le_zero.1 (htotal ▸ Tranche.dueAt_le_total now _)

/-- A record of zeros names the key of all zeros. -/
theorem Record.destination_zeros {n : Nat} {h : Header}
    (hread : header (List.replicate n 0) = .ok h) : h.destination = Key.zero := by
  have hlong := length_of_header hread
  have hbytes := take_of_header hread
  rw [List.length_replicate] at hlong
  rw [List.take_replicate, Nat.min_eq_left (by omega)] at hbytes
  exact Key.mk.injEq .. ▸ hbytes.symm

theorem TokenAccount.length_of_unpack {data : Bytes} {t : TokenAccount} (h : unpack data = .ok t) :
    data.length = length :=
  (readFrom_of_unpack h).length

/-! ## 2. Phases -/

/-- How far an address has come. -/
inductive Phase
  /-- There is no account. -/
  | absent
  /-- There is room for `n` tranches, and nothing is in it. -/
  | zeroed (n : Nat)
  /-- A contract of `n` tranches has been set up. -/
  | running (n : Nat)
deriving DecidableEq

namespace Phase

/-- How long the account is. -/
def size : Phase → Nat
  | absent => 0
  | zeroed n | running n => Record.length n

/-- The flag in the account. -/
def flag? : Phase → Option UInt8
  | absent => none
  | zeroed _ => some 0
  | running _ => some 1

/-- Length and flag tell the phases apart. -/
theorem eq_of_size_of_flag {p q : Phase} (hsize : p.size = q.size) (hflag : p.flag? = q.flag?) :
    p = q := by
  cases p <;> cases q <;> simp_all [size, flag?, Record.length]

end Phase

/-- The account is that of an address in a phase. -/
def Account.InPhase (program : Key) (a : Account) : Phase → Prop
  | .absent => a = .empty
  | .zeroed n => a.owner = program ∧ a.data = List.replicate (Record.length n) 0
  | .running n => a.owner = program ∧ a.data.length = Record.length n ∧ a.data[64]? = some 1

instance (program : Key) (a : Account) : (p : Phase) → Decidable (a.InPhase program p)
  | .absent => inferInstanceAs (Decidable (_ = _))
  | .zeroed _ => inferInstanceAs (Decidable (_ ∧ _))
  | .running _ => inferInstanceAs (Decidable (_ ∧ _ ∧ _))

namespace Account.InPhase

variable {program : Key} {a : Account} {p q : Phase} {n : Nat}

theorem length_data (h : a.InPhase program p) : a.data.length = p.size := by
  cases p with
  | absent =>
    cases h
    rfl
  | zeroed n => rw [h.2, List.length_replicate, Phase.size]
  | running n => exact h.2.1

theorem flag_data (h : a.InPhase program p) : a.data[64]? = p.flag? := by
  cases p with
  | absent =>
    cases h
    rfl
  | zeroed n =>
    rw [h.2, List.getElem?_replicate, if_pos (by rw [Record.length]; omega), Phase.flag?]
  | running n => exact h.2.2

/-- **An address is in one phase only.** -/
theorem unique (hp : a.InPhase program p) (hq : a.InPhase program q) : p = q :=
  Phase.eq_of_size_of_flag (hp.length_data.symm.trans hq.length_data)
    (hp.flag_data.symm.trans hq.flag_data)

/-- An account that is there belongs to the program. -/
theorem owner_eq (h : a.InPhase program p) (hp : p ≠ .absent) : a.owner = program := by
  cases p with
  | absent => exact absurd rfl hp
  | zeroed n => exact h.1
  | running n => exact h.1

theorem owner_ne (h : a.InPhase program p) (hprogram : program ≠ Key.tokenProgram) :
    a.owner ≠ Key.tokenProgram := by
  by_cases hp : p = .absent
  · subst hp
    cases h
    exact Key.systemProgram_ne_tokenProgram
  · rw [h.owner_eq hp]
    exact hprogram

/-- A contract that has been set up is one that says so. -/
theorem running_iff : a.InPhase program (.running n) ↔
    a.owner = program ∧ a.data.length = Record.length n ∧
      Record.isInitialized a.data = true := by
  refine and_congr_right fun _ => and_congr_right fun hlength => ?_
  rw [Record.isInitialized_iff, hlength, Record.length]
  exact (and_iff_right (by omega)).symm

/-- New bytes of the same length, with the same flag, make no difference to a contract that has been
set up. -/
theorem running_storing (h : a.InPhase program (.running n)) {data : Bytes}
    (hlength : data.length = a.data.length)
    (hflag : Record.isInitialized data = Record.isInitialized a.data) :
    (a.storing data).InPhase program (.running n) := by
  obtain ⟨howner, hlen, hinitialized⟩ := running_iff.1 h
  exact running_iff.2 ⟨howner, hlength.trans hlen, hflag.trans hinitialized⟩

/-- Lamports make no difference to an account that is there. -/
theorem having {lamports : Int} (h : a.InPhase program p) (hp : p ≠ .absent) :
    (a.having lamports).InPhase program p := by
  cases p with
  | absent => exact absurd rfl hp
  | zeroed n => exact h
  | running n => exact h

end Account.InPhase

/-! ### The phase that a command asks for

Setting up checks what it needs.  Paying out and naming another destination do not, and it is the
bytes of a record of zeros that keep them from succeeding. -/

namespace Engine

variable {host : Host} {signers accounts : List Key} {seeds : Seeds} {l : Ledger} {vesting : Key}
  {program : Key} {p : Phase}

theorem Funding.zeroed {tranches : List Tranche} {escrow sourceOwner source : Key}
    {debtor creditor : TokenAccount}
    (h : Funding host signers accounts seeds tranches l vesting escrow sourceOwner source debtor
      creditor) (hp : (l.account vesting).InPhase program p) : p = .zeroed tranches.length := by
  have hlength := hp.length_data.symm.trans h.record_length
  cases p with
  | absent =>
    rw [Phase.size, Record.length] at hlength
    omega
  | zeroed n =>
    rw [Phase.size, Record.length, Record.length] at hlength
    rw [show n = tranches.length by omega]
  | running n =>
    have hinitialized := (Account.InPhase.running_iff.1 hp).2.2
    rw [h.fresh] at hinitialized
    cases hinitialized

/-- Something is due, so the record is not one of zeros. -/
theorem Payout.running {escrow destination : Key} {header : Header}
    {debtor creditor : TokenAccount}
    (h : Payout host signers accounts seeds l vesting escrow destination header debtor creditor)
    (hp : (l.account vesting).InPhase program p) : ∃ n, p = .running n := by
  cases p with
  | absent =>
    have hlong := h.long
    rw [hp.length_data, Phase.size] at hlong
    omega
  | zeroed n =>
    have hdue := h.due
    rw [hp.2, Record.vestedAt_zeros] at hdue
    exact absurd rfl hdue
  | running n => exact ⟨n, rfl⟩

/-- There is a token account at the destination, so the destination is not the key of all zeros. -/
theorem Redirection.running {current target owner : Key} {header : Header} {token : TokenAccount}
    (h : Redirection host signers accounts seeds l vesting current target owner header token)
    (hp : (l.account vesting).InPhase program p)
    (hzero : (l.account Key.zero).data.length ≠ TokenAccount.length) : ∃ n, p = .running n := by
  cases p with
  | absent =>
    have hlong := h.long
    rw [hp.length_data, Phase.size] at hlong
    omega
  | zeroed n =>
    have hheader := h.header_eq
    rw [hp.2] at hheader
    have htoken := h.token_eq
    rw [← h.current_eq, Record.destination_zeros hheader] at htoken
    exact absurd (TokenAccount.length_of_unpack htoken) hzero
  | running n => exact ⟨n, rfl⟩

end Engine

/-! ## 3. One moment -/

namespace Moment

variable {m : Moment} {c : Command} {vesting : Key} {p q : Phase}

/-- The moment sets up the contract `vesting`. -/
def Founds (m : Moment) (vesting : Key) : Prop := ∃ c, c.kind = .create ∧ m.Performs c vesting

/-- The phases between which a moment may lead. -/
inductive Passes (m : Moment) (vesting : Key) : Phase → Phase → Prop
  /-- Nothing is done for this address. -/
  | rests {p : Phase} (h : ∀ c, ¬ m.Performs c vesting) : Passes m vesting p p
  /-- Room is made. -/
  | opens {seeds : Seeds} {count : UInt32} (h : m.Performs (.init seeds count) vesting) :
      Passes m vesting .absent (.zeroed count.toNat)
  /-- The contract is set up. -/
  | founds {seeds : Seeds} {mint destination : Key} {ts : List Tranche}
      (h : m.Performs (.create seeds mint destination ts) vesting) :
      Passes m vesting (.zeroed ts.length) (.running ts.length)
  /-- Something is paid out, or another destination is named. -/
  | goesOn {c : Command} {n : Nat} (h : m.Performs c vesting)
      (hc : c.kind = .unlock ∨ c.kind = .changeDestination) :
      Passes m vesting (.running n) (.running n)

/-- **An account that is there stays, and keeps its length.** -/
theorem Passes.size_eq (h : m.Passes vesting p q) (hp : p ≠ .absent) :
    q ≠ .absent ∧ q.size = p.size := by
  cases h with
  | rests => exact ⟨hp, rfl⟩
  | opens => exact absurd rfl hp
  | founds => exact ⟨by simp, rfl⟩
  | goesOn => exact ⟨by simp, rfl⟩

/-- **What is paid out or redirected is a contract that has been set up.** -/
theorem Passes.in_use (h : m.Passes vesting p q) (hperforms : m.Performs c vesting)
    (hc : c.kind = .unlock ∨ c.kind = .changeDestination) : ∃ n, p = .running n := by
  cases h with
  | rests hother => exact absurd hperforms (hother c)
  | opens h =>
    cases h.orders.unique hperforms.orders
    simp [Command.kind] at hc
  | founds h =>
    cases h.orders.unique hperforms.orders
    simp [Command.kind] at hc
  | goesOn => exact ⟨_, rfl⟩

/-- A contract that has been set up is not set up again. -/
theorem Passes.of_running {n : Nat} (h : m.Passes vesting (.running n) q) :
    q = .running n ∧ ¬ m.Founds vesting := by
  cases h with
  | rests hother =>
    refine ⟨rfl, ?_⟩
    rintro ⟨c, -, hperforms⟩
    exact hother c hperforms
  | goesOn h hc =>
    refine ⟨rfl, ?_⟩
    rintro ⟨c', hkind, hperforms⟩
    cases h.orders.unique hperforms.orders
    rw [hkind] at hc
    simp at hc

/-- A moment that sets up a contract leaves one that has been set up. -/
theorem Passes.of_founds (h : m.Passes vesting p q) (hfounds : m.Founds vesting) :
    ∃ n, q = .running n := by
  obtain ⟨c, hkind, hperforms⟩ := hfounds
  cases h with
  | rests hother => exact absurd hperforms (hother c)
  | opens h =>
    cases h.orders.unique hperforms.orders
    cases hkind
  | founds => exact ⟨_, rfl⟩
  | goesOn => exact ⟨_, rfl⟩

/-! ## 4. Moments one after the other -/

/-- The phases through which moments lead, one after the other. -/
inductive Course (vesting : Key) : Phase → List Moment → Phase → Prop
  | nil {p : Phase} : Course vesting p [] p
  | cons {p q r : Phase} {m : Moment} {ms : List Moment} (h : m.Passes vesting p q)
      (rest : Course vesting q ms r) : Course vesting p (m :: ms) r

namespace Course

variable {ms past later : List Moment}

/-- An account that is there stays, and keeps its length. -/
theorem size_eq (h : Course vesting p ms q) (hp : p ≠ .absent) :
    q ≠ .absent ∧ q.size = p.size := by
  induction h with
  | nil => exact ⟨hp, rfl⟩
  | cons h _ ih =>
    obtain ⟨hpresent, hsize⟩ := h.size_eq hp
    obtain ⟨hlast, hlastSize⟩ := ih hpresent
    exact ⟨hlast, hlastSize.trans hsize⟩

/-- Once a contract has been set up, no moment sets it up again. -/
theorem not_founds {n : Nat} (h : Course vesting (.running n) ms q) :
    ∀ m ∈ ms, ¬ m.Founds vesting := by
  generalize hp : Phase.running n = p at h
  induction h with
  | nil => exact List.forall_mem_nil _
  | cons h _ ih =>
    subst hp
    obtain ⟨rfl, hfounds⟩ := h.of_running
    exact List.forall_mem_cons.2 ⟨hfounds, ih rfl⟩

/-- A course goes through every moment. -/
theorem behind (h : Course vesting p (past ++ m :: later) q) :
    ∃ r s, m.Passes vesting r s ∧ Course vesting s later q := by
  induction past generalizing p with
  | nil =>
    cases h with
    | cons h rest => exact ⟨_, _, h, rest⟩
  | cons m₀ past ih =>
    cases h with
    | cons _ rest => exact ih rest

end Course
end Moment

/-! ## 5. Orderly ledgers -/

/-- Every address that the program can sign for is in a phase, and the account of the zero key is no
token account. -/
structure Ledger.Orderly (l : Ledger) (host : Host) : Prop where
  phases : ∀ k, host.Derivable k → ∃ p, (l.account k).InPhase host.program p
  zero_owner : (l.account Key.zero).owner ≠ Key.tokenProgram
  zero_length : (l.account Key.zero).data.length ≠ TokenAccount.length

/-- No record is as long as a token account. -/
theorem Record.length_ne (n : Nat) : length n ≠ TokenAccount.length := by
  rw [length, TokenAccount.length]
  omega

namespace Ledger.Orderly

variable {l l' : Ledger} {host host' : Host} {m : Moment} {c : Command} {vesting : Key}

theorem congr (h : l.Orderly host) (hhost : host.Alike host') (hagrees : l.Agrees l') :
    l'.Orderly host' := by
  refine ⟨fun k hk => ?_, ?_, ?_⟩
  · rw [← hagrees k, ← hhost.1]
    exact h.phases k (hhost.derivable.2 hk)
  · rw [← hagrees]
    exact h.zero_owner
  · rw [← hagrees]
    exact h.zero_length

/-- **The step.**  A moment that succeeds leads from a phase to a phase. -/
theorem touch (h : m.before.Orderly m.host) (hsucceeds : m.Succeeds) (hc : m.Orders c)
    (hderivable : m.host.Derivable vesting) (htouch : m.Touch vesting c) :
    ∃ p q, (m.before.account vesting).InPhase m.host.program p ∧
      (m.after.account vesting).InPhase m.host.program q ∧ m.Passes vesting p q := by
  obtain ⟨p, hp⟩ := h.phases vesting hderivable
  have hperforms {seeds : Seeds} (hseeds : c.seeds? = some seeds)
      (haddress : m.host.derive seeds.bytes m.host.program = .ok vesting) :
      m.Performs c vesting := ⟨hsucceeds, hc, seeds, hseeds, haddress⟩
  cases htouch with
  | kept hother hafter hempty =>
    refine ⟨p, p, hp, ?_, .rests hother⟩
    by_cases habsent : p = .absent
    · subst habsent
      exact hempty hp
    · rw [hafter]
      exact hp.having habsent
  | @opened seeds count payer h hafter =>
    refine ⟨.absent, .zeroed count.toNat, h.openable.fresh, ?_, .opens (hperforms rfl h.address)⟩
    rw [hafter]
    exact ⟨rfl, rfl⟩
  | @founded seeds mint destination tranches escrow sourceOwner source debtor creditor h hafter =>
    obtain rfl := h.zeroed hp
    refine ⟨_, .running tranches.length, hp, ?_, .founds (hperforms rfl h.address)⟩
    rw [hafter]
    exact Account.InPhase.running_iff.2 ⟨h.record_owner, Record.length_founded _ h.record_length,
      Record.isInitialized_founded _ h.record_length⟩
  | @paid seeds escrow destination header debtor creditor h hafter =>
    obtain ⟨n, rfl⟩ := h.running hp
    refine ⟨_, _, hp, ?_, .goesOn (hperforms rfl h.address) (Or.inl rfl)⟩
    rw [hafter]
    exact hp.running_storing (Record.length_paidOut _ h.long)
      (Record.isInitialized_paidOut _ h.long)
  | @redirected seeds current target owner header token hredirection hafter =>
    have hlong := hredirection.long
    obtain ⟨n, rfl⟩ := hredirection.running hp h.zero_length
    refine ⟨_, _, hp, ?_, .goesOn (hperforms rfl hredirection.address) (Or.inr rfl)⟩
    rw [hafter]
    exact hp.running_storing (Record.length_writeDestination _ (by omega))
      (Record.isInitialized_writeDestination _ hlong)

/-- The account of the zero key stays what it is: no token account. -/
theorem zero_after (h : m.before.Orderly m.host) (hprogram : m.host.program ≠ Key.tokenProgram)
    (htouch : m.Touch Key.zero c) : (m.after.account Key.zero).owner ≠ Key.tokenProgram ∧
      (m.after.account Key.zero).data.length ≠ TokenAccount.length := by
  cases htouch with
  | kept hother hafter =>
    rw [hafter]
    exact ⟨h.zero_owner, h.zero_length⟩
  | opened _ hafter =>
    rw [hafter, List.length_replicate]
    exact ⟨hprogram, Record.length_ne _⟩
  | founded hfunding hafter =>
    rw [hafter]
    refine ⟨h.zero_owner, ?_⟩
    rw [Account.storing, Record.length_founded _ hfunding.record_length]
    exact Record.length_ne _
  | paid hpayout hafter =>
    rw [hafter]
    refine ⟨h.zero_owner, ?_⟩
    rw [Account.storing, Record.length_paidOut _ hpayout.long]
    exact h.zero_length
  | redirected hredirection hafter =>
    have hlong := hredirection.long
    rw [hafter]
    refine ⟨h.zero_owner, ?_⟩
    rw [Account.storing, Record.length_writeDestination _ (by omega)]
    exact h.zero_length

/-- **Any moment leads from a phase to a phase**, and one that fails leads nowhere. -/
theorem passes (h : m.before.Orderly m.host) (hprogram : m.host.program ≠ Key.tokenProgram)
    (hderivable : m.host.Derivable vesting) :
    ∃ p q, (m.before.account vesting).InPhase m.host.program p ∧
      (m.after.account vesting).InPhase m.host.program q ∧ m.Passes vesting p q := by
  obtain ⟨p, hp⟩ := h.phases vesting hderivable
  by_cases hsucceeds : m.Succeeds
  · obtain ⟨c, hc, heffect⟩ := hsucceeds.effect
    exact h.touch hsucceeds hc hderivable (heffect.touch hc (hp.owner_ne hprogram))
  · refine ⟨p, p, hp, ?_, .rests fun _ hperforms => hsucceeds hperforms.succeeds⟩
    rw [m.after_eq_before hsucceeds]
    exact hp

/-- **An orderly ledger stays orderly.** -/
theorem after (h : m.before.Orderly m.host) (hprogram : m.host.program ≠ Key.tokenProgram)
    (hsucceeds : m.Succeeds) : m.after.Orderly m.host := by
  obtain ⟨c, hc, heffect⟩ := hsucceeds.effect
  obtain ⟨hzeroOwner, hzeroLength⟩ := h.zero_after hprogram (heffect.touch hc h.zero_owner)
  refine ⟨fun k hk => ?_, hzeroOwner, hzeroLength⟩
  obtain ⟨-, q, -, hq, -⟩ := h.passes hprogram hk
  exact ⟨q, hq⟩

end Ledger.Orderly

/-! ## 6. Runs -/

namespace Bank

variable {b : Bank} {vesting : Key}

/-- A run keeps an orderly ledger orderly. -/
theorem orderly_run (hprogram : b.host.program ≠ Key.tokenProgram)
    (h : b.ledger.Orderly b.host) (steps : List Bank.Step) :
    (b.run steps).ledger.Orderly (b.run steps).host := by
  refine Ledger.Orderly.congr ?_ (b.host_run steps).symm fun _ => rfl
  refine ((b.linked_trail steps).keeps (P := (Ledger.Orderly · b.host)) ?_ h ?_).2
  · exact fun l₁ l₂ hagrees h => h.congr ⟨rfl, rfl⟩ hagrees
  · intro m hm hsucceeds h
    have hhost := host_of_mem_trail hm
    refine Ledger.Orderly.congr ?_ hhost fun _ => rfl
    refine (h.congr hhost.symm fun _ => rfl).after ?_ hsucceeds
    rw [hhost.1]
    exact hprogram

/-- Every moment of a call meets an orderly ledger if the call does. -/
theorem Call.orderly_before {c : Bank.Call} (hprogram : b.host.program ≠ Key.tokenProgram)
    (h : b.ledger.Orderly b.host) : ∀ m ∈ c.moments b, m.before.Orderly m.host := by
  have hall := (keeps (P := (Ledger.Orderly · b.host)) (c := c) h
    (fun l h => h.congr ⟨rfl, rfl⟩ l.agrees_sweep) ?_).1
  · intro m hm
    rw [host_of_mem_moments hm]
    exact hall m hm
  · intro m hm hsucceeds h
    rw [← host_of_mem_moments hm] at h hprogram ⊢
    exact h.after hprogram hsucceeds

/-- Between calls, an address of the program without an account is not stored at all. -/
theorem get?_run_of_empty {b : Bank} {k : Key} (hfresh : b.ledger.get? k = none)
    (steps : List Bank.Step) (hempty : (b.run steps).ledger.account k = .empty) :
    (b.run steps).ledger.get? k = none := by
  -- a call that goes through drops empty accounts, and any other leaves the ledger as it was
  have hrun : (b.run steps).ledger.get? k ≠ some .empty := by
    have hfirst : b.ledger.get? k ≠ some .empty := by
      rw [hfresh]
      simp
    clear hempty hfresh
    induction steps generalizing b with
    | nil => exact hfirst
    | cons s steps ih =>
      refine ih ?_
      cases s with
      | clock now => exact hfirst
      | call c =>
        show (c.run b).bank.ledger.get? k ≠ some .empty
        cases hr : (c.run b).result with
        | ok u =>
          rw [(Bank.Call.run_ok hr).2, Ledger.get?_sweep]
          split
          · simp
          · rename_i hstored
            exact fun hsome => hstored (Option.some.inj hsome)
        | error why =>
          rw [(Bank.Call.run_error hr).1]
          exact hfirst
  cases hget : (b.run steps).ledger.get? k with
  | none => rfl
  | some a =>
    rw [Ledger.account, hget, Option.getD_some] at hempty
    rw [hget, hempty] at hrun
    exact absurd rfl hrun

end Bank

/-- **The moments of a run lead from a phase to a phase**, one after the other. -/
theorem Linked.course {l l' : Ledger} {ms : List Moment} {host : Host} {vesting : Key}
    (h : Linked l ms l') (hhost : ∀ m ∈ ms, m.host.Alike host)
    (hprogram : host.program ≠ Key.tokenProgram) (hderivable : host.Derivable vesting)
    (horderly : l.Orderly host) {p : Phase} (hp : (l.account vesting).InPhase host.program p) :
    ∃ q, (l'.account vesting).InPhase host.program q ∧ Moment.Course vesting p ms q := by
  induction h generalizing p with
  | nil hagrees =>
    rw [hagrees vesting] at hp
    exact ⟨p, hp, .nil⟩
  | @cons l l' m ms hagrees hsucceeds _ ih =>
    have hm := hhost m List.mem_cons_self
    have hbefore : m.before.Orderly m.host := horderly.congr hm.symm hagrees
    have hprogram' : m.host.program ≠ Key.tokenProgram := by
      rw [hm.1]
      exact hprogram
    obtain ⟨p', q, hp', hq, hpasses⟩ := hbefore.passes hprogram' (hm.derivable.2 hderivable)
    rw [hagrees vesting, ← hm.1] at hp
    cases hp.unique hp'
    rw [hm.1] at hq
    have hafter : m.after.Orderly host :=
      (hbefore.after hprogram' hsucceeds).congr hm fun _ => rfl
    obtain ⟨r, hr, hcourse⟩ := ih (fun n hn => hhost n (List.mem_cons_of_mem _ hn)) hafter hq
    exact ⟨r, hr, .cons hpasses hcourse⟩

/-! ## 7. The life cycle -/

/-- The address `vesting` in a run that has taken the steps `steps` so far. -/
structure LifeCycle (b : Bank) (vesting : Key) (steps : List Bank.Step) : Prop where
  /-- It is in exactly one phase. -/
  phase : ∃! p, ((b.run steps).ledger.account vesting).InPhase b.host.program p
  /-- Without an account it is not in the ledger at all. -/
  absent : (b.run steps).ledger.account vesting = .empty →
    (b.run steps).ledger.get? vesting = none
  /-- Whatever is called next, each instruction of the call leads from a phase to a phase. -/
  passes : ∀ c : Bank.Call, ∀ m ∈ c.moments (b.run steps), ∃ p q,
    (m.before.account vesting).InPhase b.host.program p ∧
      (m.after.account vesting).InPhase b.host.program q ∧ m.Passes vesting p q
  /-- What is paid out or redirected is a contract that has been set up. -/
  in_use : ∀ c : Bank.Call, ∀ m ∈ c.moments (b.run steps), ∀ command : Command,
    command.kind = .unlock ∨ command.kind = .changeDestination → m.Performs command vesting →
      ∃ n, (m.before.account vesting).InPhase b.host.program (.running n)
  /-- Whatever is run next, its moments lead from phase to phase until the last one is reached. -/
  course : ∀ more : List Bank.Step, ∀ p q,
    ((b.run steps).ledger.account vesting).InPhase b.host.program p →
      ((b.run (steps ++ more)).ledger.account vesting).InPhase b.host.program q →
        Moment.Course vesting p ((b.run steps).trail more) q
  /-- It is set up once at most. -/
  once : ∀ past m later, b.trail steps = past ++ m :: later → m.Founds vesting →
    ∀ n ∈ later, ¬ n.Founds vesting
  /-- An account that is there keeps its owner and its length for good. -/
  kept : ∀ more : List Bank.Step, (b.run steps).ledger.account vesting ≠ .empty →
    ((b.run (steps ++ more)).ledger.account vesting).owner
        = ((b.run steps).ledger.account vesting).owner ∧
      ((b.run (steps ++ more)).ledger.account vesting).data.length
        = ((b.run steps).ledger.account vesting).data.length

/-- **The life cycle.**  On a bank that starts without an account at any address that the program
can sign for, and without one at the zero key, every such address lives through the three phases in
order, whatever is run. -/
theorem Bank.record_life_cycle (b : Bank) (hprogram : b.host.program ≠ Key.tokenProgram)
    (hfresh : ∀ k, b.host.Derivable k → b.ledger.get? k = none)
    (hzero : b.ledger.get? Key.zero = none) {vesting : Key} (hderivable : b.host.Derivable vesting)
    (steps : List Bank.Step) : LifeCycle b vesting steps := by
  have hempty {k : Key} (hk : b.ledger.get? k = none) : b.ledger.account k = .empty := by
    rw [Ledger.account, hk, Option.getD_none]
  have hstart : b.ledger.Orderly b.host := by
    refine ⟨fun k hk => ⟨.absent, hempty (hfresh k hk)⟩, ?_, ?_⟩
    · rw [hempty hzero]
      exact Key.systemProgram_ne_tokenProgram
    · rw [hempty hzero]
      decide
  have horderly (steps : List Bank.Step) : (b.run steps).ledger.Orderly b.host :=
    (orderly_run hprogram hstart steps).congr (b.host_run steps) fun _ => rfl
  have hcourse (start : List Bank.Step) (more : List Bank.Step) {p : Phase}
      (hp : ((b.run start).ledger.account vesting).InPhase b.host.program p) :
      ∃ q, ((b.run (start ++ more)).ledger.account vesting).InPhase b.host.program q ∧
        Moment.Course vesting p ((b.run start).trail more) q := by
    rw [run_append]
    refine ((b.run start).linked_trail more).course (fun m hm => ?_) hprogram hderivable
      (horderly start) hp
    exact (host_of_mem_trail hm).trans (b.host_run start)
  have hpasses (c : Bank.Call) (m : Moment) (hm : m ∈ c.moments (b.run steps)) : ∃ p q,
      (m.before.account vesting).InPhase b.host.program p ∧
        (m.after.account vesting).InPhase b.host.program q ∧ m.Passes vesting p q := by
    have halike : m.host.Alike b.host := by
      rw [Call.host_of_mem_moments hm]
      exact b.host_run steps
    have hbefore := Call.orderly_before (by rwa [(b.host_run steps).1])
      (orderly_run hprogram hstart steps) m hm
    rw [← halike.1]
    exact hbefore.passes (by rwa [halike.1]) (halike.derivable.2 hderivable)
  obtain ⟨p, hp⟩ := (horderly steps).phases vesting hderivable
  refine ⟨⟨p, hp, fun q hq => hq.unique hp⟩, get?_run_of_empty (hfresh vesting hderivable) steps,
    hpasses, ?_, ?_, ?_, ?_⟩
  · intro c m hm command hkind hperforms
    obtain ⟨p, q, hp, -, hpq⟩ := hpasses c m hm
    obtain ⟨n, rfl⟩ := hpq.in_use hperforms hkind
    exact ⟨n, hp⟩
  · intro more p q hp hq
    obtain ⟨q', hq', hleads⟩ := hcourse steps more hp
    cases hq'.unique hq
    exact hleads
  · intro past m later htrail hfounds
    obtain ⟨q, -, hleads⟩ := hcourse [] steps (p := .absent) (hempty (hfresh vesting hderivable))
    rw [Bank.run, htrail] at hleads
    obtain ⟨r, s, hm, hlater⟩ := hleads.behind
    obtain ⟨n, rfl⟩ := hm.of_founds hfounds
    exact hlater.not_founds
  · intro more hthere
    have hpresent : p ≠ .absent := by
      rintro rfl
      exact hthere hp
    obtain ⟨q, hq, hleads⟩ := hcourse steps more hp
    obtain ⟨hqpresent, hsize⟩ := hleads.size_eq hpresent
    refine ⟨?_, ?_⟩
    · rw [hq.owner_eq hqpresent, hp.owner_eq hpresent]
    · rw [hq.length_data, hp.length_data, hsize]

namespace Sample

def payer : Key := key 10

/-- The bank without any record, and with a payer who can afford one. -/
def blank : Bank :=
  let start : Bank := { host := { program, derive := fun _ _ => .ok vesting } }
  let paying := start.addAccount payer ⟨Key.systemProgram, 2000000, []⟩
  let funded := paying.addTokenAccount source { mint, owner := sourceOwner, amount := 100 }
  let waiting := funded.addTokenAccount escrow { mint, owner := vesting, amount := 0 }
  waiting.addTokenAccount destination { mint, owner := key 6, amount := 0 }

/-- Makes room for the contract. -/
def init : Order where
  program := program
  keys := [Key.systemProgram, Key.rentSysvar, payer, vesting]
  data := (Command.init seeds 2).encode
  signers := [payer]

/-- A life: room is made, the contract is set up, and the first tranche is paid out. -/
def life : List Bank.Step := .call (.process init) :: .call (.process create) :: rest

end Sample

/-- The three phases of a contract with two tranches. -/
theorem Bank.record_life_cycle_blank :
    Sample.blank.host.program ≠ Key.tokenProgram ∧
      (∀ k, Sample.blank.host.Derivable k → Sample.blank.ledger.get? k = none) ∧
      Sample.blank.ledger.get? Key.zero = none ∧
      (∀ steps, LifeCycle Sample.blank Sample.vesting steps) ∧
      (Sample.blank.ledger.account Sample.vesting).InPhase Sample.program .absent ∧
      ((Sample.blank.run (Sample.life.take 1)).ledger.account Sample.vesting).InPhase
        Sample.program (.zeroed 2) ∧
      ((Sample.blank.run Sample.life).ledger.account Sample.vesting).InPhase
        Sample.program (.running 2) := by
  have hprogram : Sample.blank.host.program ≠ Key.tokenProgram := by decide +kernel
  have hfresh : ∀ k, Sample.blank.host.Derivable k → Sample.blank.ledger.get? k = none := by
    rintro k ⟨_, hk⟩
    cases hk
    decide +kernel
  have hzero : Sample.blank.ledger.get? Key.zero = none := by decide +kernel
  refine ⟨hprogram, hfresh, hzero, fun steps => ?_, ?_, ?_, ?_⟩
  · exact record_life_cycle Sample.blank hprogram hfresh hzero ⟨Sample.seeds, rfl⟩ steps
  · decide +kernel
  · decide +kernel
  · decide +kernel

end Vesting
