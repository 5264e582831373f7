/-
# Paying out does not depend on the path

Whoever wants the tokens of a contract may try again and again, at any times and in any order.  In
the end the ledger is the one that a single attempt at the latest of these times would have left
(`Bank.unlock_path_independent`).  The argument has three parts.

* **One attempt** (`Bank.Payable.attempt_of_due`, `Bank.Payable.attempt_of_nothing_due`).  Where
  the escrow covers what is locked and the destination has room for it, an attempt fails only
  because nothing is due, and then it changes nothing.
* **Two attempts** (`Bank.Payable.attempt_attempt`).  The second pays what has fallen due since, so
  that both come to one at the later time.  If the first has failed there is nothing to undo, and
  if the second fails there is nothing to add: but an attempt that goes through writes two token
  accounts anew and drops the empty accounts, so these cases are kept apart.
* **Any number of attempts** (`Bank.Payable.run_attempts`), by induction on their times.
-/
import Vesting.Proofs.Composition
import Vesting.Proofs.Header
import Vesting.Proofs.Release

namespace Vesting

/-! ## 1. Paying out of a record twice -/

namespace Record

section

variable (past now : Int) {data : Bytes} (h : 65 ≤ data.length)
include h

/-- What is due at one time and what is due afterwards at another come to what is due at the later
of the two. -/
theorem vestedAt_add_vestedAt_paidOut :
    vestedAt past data + vestedAt now (paidOut past data) = vestedAt (max past now) data := by
  rw [vestedAt, vestedAt, tranches_paidOut past h]
  exact Tranche.dueAt_add_dueAt_release past now _

theorem paidOut_paidOut_eq :
    paidOut now (paidOut past data) = paidOut (max past now) data := by
  rw [paidOut_paidOut past h, Tranche.release_release, paidOut]

/-- If nothing has fallen due since, the record is as it would be at the later time. -/
theorem paidOut_of_nothing_due {past now : Int} (hdue : vestedAt now (paidOut past data) = 0) :
    paidOut (max past now) data = paidOut past data := by
  rw [vestedAt, tranches_paidOut past h] at hdue
  rw [paidOut, ← Tranche.release_release, Tranche.release_of_dueAt_eq_zero hdue, ← paidOut]

end
end Record

/-! ## 2. A contract that can be paid out of -/

/-- The contract `vesting` can be paid out of, whatever is due: its record names `destination`, the
account `escrow` of its own covers all that is locked, and the destination has room for it. -/
structure Bank.Payable (b : Bank) (program : Key) (seeds : Seeds) (vesting escrow destination : Key)
    (debtor creditor : TokenAccount) : Prop where
  program_eq : b.host.program = program
  address : b.host.derive seeds.bytes b.host.program = .ok vesting
  record_owner : (b.ledger.account vesting).owner ≠ Key.tokenProgram
  header : ∃ header, Record.header (b.ledger.account vesting).data = .ok header ∧
    header.destination = destination
  debtor_eq : (b.ledger.account escrow).token? = some debtor
  creditor_eq : (b.ledger.account destination).token? = some creditor
  distinct : escrow ≠ destination
  debtor_owner : debtor.owner = vesting
  mint_eq : debtor.mint = creditor.mint
  thawed : ¬ (debtor.isFrozen = true ∨ creditor.isFrozen = true)
  covered : Record.totalLocked (b.ledger.account vesting).data ≤ debtor.amount.toNat
  fits : creditor.amount.toNat + Record.totalLocked (b.ledger.account vesting).data ≤ maxU64

namespace TokenAccount

/-- The account with `n` tokens fewer. -/
def debited (t : TokenAccount) (n : Nat) : TokenAccount := t.holding (t.amount.toNat - n)

/-- The account with `n` tokens more. -/
def credited (t : TokenAccount) (n : Nat) : TokenAccount := t.holding (t.amount.toNat + n)

variable {t : TokenAccount} {n : Nat}

theorem toNat_debited : (t.debited n).amount.toNat = t.amount.toNat - n :=
  t.toNat_holding (Nat.le_trans (Nat.sub_le _ _) t.amount_le)

theorem toNat_credited (h : t.amount.toNat + n ≤ maxU64) :
    (t.credited n).amount.toNat = t.amount.toNat + n :=
  t.toNat_holding h

theorem debited_debited (m : Nat) : (t.debited n).debited m = t.debited (n + m) := by
  rw [debited, toNat_debited, Nat.sub_sub]
  rfl

theorem credited_credited (h : t.amount.toNat + n ≤ maxU64) (m : Nat) :
    (t.credited n).credited m = t.credited (n + m) := by
  rw [credited, toNat_credited h, Nat.add_assoc]
  rfl

end TokenAccount

namespace Ledger

/-- What is due to a contract at a clock value. -/
def due (l : Ledger) (vesting : Key) (now : Int) : Nat :=
  Record.vestedAt now (l.account vesting).data

/-- The ledger once everything due at a clock value has gone from `debtor` to `creditor`. -/
def paidOut (l : Ledger) (vesting escrow destination : Key) (debtor creditor : TokenAccount)
    (now : Int) : Ledger :=
  l.settled escrow destination debtor creditor (l.due vesting now) vesting
    (Record.paidOut now (l.account vesting).data)

end Ledger

namespace Bank.Payable

open Act

variable {b : Bank} {program : Key} {seeds : Seeds} {vesting escrow destination : Key}
  {debtor creditor : TokenAccount}

/-- Nobody has to sign, so that an attempt is its bytes handed to the program. -/
theorem attempt_eq (b : Bank) (signers : List Key) :
    b.processTransaction [.unlock program vesting escrow destination seeds] signers
      = b.transact (invoke b.host program
          [Key.tokenProgram, Key.clockSysvar, vesting, escrow, destination]
          (Command.unlock seeds).encode []) := by
  have hunsigned (k : Key)
      (hk : k ∈ (Instruction.unlock program vesting escrow destination seeds).signers) :
      k ∈ signers := absurd hk List.not_mem_nil
  rw [processTransaction_singleton b hunsigned, process]
  simp [Instruction.unlock, Instruction.keys, Instruction.signers]

section Checks

variable (h : b.Payable program seeds vesting escrow destination debtor creditor)
include h

theorem long : 65 ≤ (b.ledger.account vesting).data.length := by
  obtain ⟨header, hheader, -⟩ := h.header
  exact Record.length_of_header hheader

/-- Only the accounts count, and not the clock. -/
theorem congr {b' : Bank} (hhost : b.host.Alike b'.host) (hsame : b.ledger.Agrees b'.ledger) :
    b'.Payable program seeds vesting escrow destination debtor creditor where
  program_eq := by rw [← hhost.1, h.program_eq]
  address := by rw [← hhost.1, ← hhost.2, h.address]
  record_owner := by rw [← hsame vesting]; exact h.record_owner
  header := by rw [← hsame vesting]; exact h.header
  debtor_eq := by rw [← hsame escrow]; exact h.debtor_eq
  creditor_eq := by rw [← hsame destination]; exact h.creditor_eq
  distinct := h.distinct
  debtor_owner := h.debtor_owner
  mint_eq := h.mint_eq
  thawed := h.thawed
  covered := by rw [← hsame vesting]; exact h.covered
  fits := by rw [← hsame vesting]; exact h.fits

/-- What is due may be transferred, with the seeds for a signature. -/
theorem permitted (signers : List Key) (now : Int) :
    Host.Permitted b.host signers Key.tokenProgram escrow destination vesting (some seeds.bytes)
      (b.ledger.due vesting now) b.ledger debtor creditor where
  program_eq := rfl
  debtor_eq := h.debtor_eq
  creditor_eq := h.creditor_eq
  mint_eq := h.mint_eq
  thawed := h.thawed
  owner_eq := h.debtor_owner.symm
  signed := Host.signedFor_of_derive signers h.address
  covered := Nat.le_trans (Tranche.dueAt_le_total now _) h.covered
  fits := fun _ =>
    Nat.le_trans (Nat.add_le_add_left (Tranche.dueAt_le_total now _) _) h.fits

/-! ## 3. One attempt -/

/-- **The engine.**  All checks pass up to the last: something has to be due. -/
theorem exec_unlock (signers : List Key) (log : List Event) :
    ∃ left, (Engine.unlock b.host signers
        [Key.tokenProgram, Key.clockSysvar, vesting, escrow, destination] seeds).exec
        ⟨b.ledger, log⟩
      = if b.ledger.due vesting b.host.clock = 0 then
          (.error (.rejected .nothingDue), ⟨b.ledger, left⟩)
        else
          (.ok (), ⟨b.ledger.paidOut vesting escrow destination debtor creditor b.host.clock,
            left⟩) := by
  obtain ⟨header, hheader, hdestination⟩ := h.header
  exact Engine.exec_unlock (w := ⟨b.ledger, log⟩) h.address hheader hdestination
    (h.permitted signers b.host.clock)

/-- **An attempt when nothing is due.**  It is refused for that reason, and changes nothing. -/
theorem attempt_of_nothing_due (signers : List Key)
    (hdue : b.ledger.due vesting b.host.clock = 0) :
    let attempt := b.processTransaction [.unlock program vesting escrow destination seeds] signers
    attempt.result = .error (.rejected .nothingDue) ∧ attempt.bank = b := by
  obtain ⟨left, hunlock⟩ := h.exec_unlock [] [.started .unlock]
  rw [if_pos hdue] at hunlock
  have hinvoke := breaks_invoke (c := .unlock seeds) h.program_eq.symm
    (Command.decode_encode false (.unlock seeds)) hunlock
  rw [attempt_eq, transact_of_breaks hinvoke]
  exact ⟨rfl, rfl⟩

/-- **An attempt when something is due.**  It goes through and pays everything that is due. -/
theorem attempt_of_due (signers : List Key)
    (hdue : b.ledger.due vesting b.host.clock ≠ 0) :
    (b.processTransaction [.unlock program vesting escrow destination seeds] signers).bank
      = { b with
          ledger := (b.ledger.paidOut vesting escrow destination debtor creditor
            b.host.clock).sweep } := by
  obtain ⟨left, hunlock⟩ := h.exec_unlock [] [.started .unlock]
  rw [if_neg hdue] at hunlock
  have hinvoke := yields_invoke (c := .unlock seeds) h.program_eq.symm
    (Command.decode_encode false (.unlock seeds)) hunlock
  rw [attempt_eq, transact_of_yields hinvoke]

/-! ## 4. Two attempts -/

theorem escrow_ne : escrow ≠ vesting := by
  rintro rfl
  exact h.record_owner (Account.token?_eq_some_iff.1 h.debtor_eq).1

theorem destination_ne : destination ≠ vesting := by
  rintro rfl
  exact h.record_owner (Account.token?_eq_some_iff.1 h.creditor_eq).1

section Paid

variable (now : Int)

theorem account_paidOut_vesting :
    (b.ledger.paidOut vesting escrow destination debtor creditor now).account vesting
      = (b.ledger.account vesting).storing
        (Record.paidOut now (b.ledger.account vesting).data) :=
  (h.permitted [] now).account_settled_record _ h.record_owner

theorem account_paidOut_of_ne {k : Key} (hk : k ≠ vesting) :
    (b.ledger.paidOut vesting escrow destination debtor creditor now).account k
      = if k = destination then
          { b.ledger.account destination with
            data := (creditor.credited (b.ledger.due vesting now)).pack }
        else if k = escrow then
          { b.ledger.account escrow with
            data := (debtor.debited (b.ledger.due vesting now)).pack }
        else b.ledger.account k := by
  rw [Ledger.paidOut, Ledger.account_settled_of_ne _ _ _ _ _ hk,
    Ledger.account_move _ _ _ _ h.distinct]
  rfl

/-- What is left is covered, and there is room for it. -/
theorem payable_paidOut : Bank.Payable
    { b with ledger := b.ledger.paidOut vesting escrow destination debtor creditor now } program
    seeds vesting escrow destination
    (debtor.debited (b.ledger.due vesting now)) (creditor.credited (b.ledger.due vesting now)) := by
  have hvesting := h.account_paidOut_vesting now
  have hlocked : b.ledger.due vesting now
      + Record.totalLocked (Record.paidOut now (b.ledger.account vesting).data)
        = Record.totalLocked (b.ledger.account vesting).data := by
    rw [Record.totalLocked, Record.tranches_paidOut now h.long]
    exact Tranche.total_release now _
  have hcovered := h.covered
  have hfits := h.fits
  constructor
  case program_eq => exact h.program_eq
  case address => exact h.address
  case record_owner =>
    rw [hvesting]
    exact h.record_owner
  case header =>
    obtain ⟨header, hheader, hdestination⟩ := h.header
    rw [hvesting]
    exact ⟨header, (Record.header_paidOut now h.long).2 hheader, hdestination⟩
  case debtor_eq =>
    rw [h.account_paidOut_of_ne now h.escrow_ne, if_neg h.distinct, if_pos rfl]
    exact Account.token?_holding h.debtor_eq _
  case creditor_eq =>
    rw [h.account_paidOut_of_ne now h.destination_ne, if_pos rfl]
    exact Account.token?_holding h.creditor_eq _
  case distinct => exact h.distinct
  case debtor_owner => exact h.debtor_owner
  case mint_eq => exact h.mint_eq
  case thawed => exact h.thawed
  case covered =>
    rw [hvesting, TokenAccount.toNat_debited]
    show Record.totalLocked (Record.paidOut now _) ≤ _
    omega
  case fits =>
    rw [hvesting, TokenAccount.toNat_credited (by omega)]
    show _ + Record.totalLocked (Record.paidOut now _) ≤ _
    omega

end Paid

/-- The bank once everything due at a clock value has been paid out, without the empty accounts. -/
theorem payable_sweep (past : Int) : Bank.Payable
    { b with
      ledger := (b.ledger.paidOut vesting escrow destination debtor creditor past).sweep } program
    seeds vesting escrow destination
    (debtor.debited (b.ledger.due vesting past)) (creditor.credited (b.ledger.due vesting past)) :=
  (h.payable_paidOut past).congr ⟨rfl, rfl⟩ (Ledger.agrees_sweep _)

theorem data_sweep (past : Int) :
    ((b.ledger.paidOut vesting escrow destination debtor creditor past).sweep.account vesting).data
      = Record.paidOut past (b.ledger.account vesting).data := by
  rw [Ledger.account_sweep, h.account_paidOut_vesting past]
  rfl

/-- **Two payments come to one at the later time.** -/
theorem paidOut_twice (past now : Int) :
    ((b.ledger.paidOut vesting escrow destination debtor creditor past).sweep.paidOut vesting escrow
        destination (debtor.debited (b.ledger.due vesting past))
        (creditor.credited (b.ledger.due vesting past)) now).Agrees
      (b.ledger.paidOut vesting escrow destination debtor creditor (max past now)) := by
  have hthen := h.payable_sweep past
  have hrecord := hthen.account_paidOut_vesting now
  have hdata := h.data_sweep past
  have hdue : (b.ledger.paidOut vesting escrow destination debtor creditor past).sweep.due vesting
      now = Record.vestedAt now (Record.paidOut past (b.ledger.account vesting).data) := by
    rw [Ledger.due, hdata]
  have hsum := Record.vestedAt_add_vestedAt_paidOut past now h.long
  have hroom : creditor.amount.toNat + b.ledger.due vesting past ≤ maxU64 :=
    (h.permitted [] past).fits h.distinct
  intro k
  by_cases hv : k = vesting
  · subst hv
    rw [hrecord, h.account_paidOut_vesting, hdata, Record.paidOut_paidOut_eq past now h.long,
      Ledger.account_sweep, h.account_paidOut_vesting]
    rfl
  have haccount := hthen.account_paidOut_of_ne now hv
  rw [haccount, h.account_paidOut_of_ne _ hv]
  by_cases hd : k = destination
  · rw [if_pos hd, if_pos hd, hdue, TokenAccount.credited_credited hroom, Ledger.due, hsum,
      Ledger.account_sweep, h.account_paidOut_of_ne past h.destination_ne, if_pos rfl]
    rfl
  rw [if_neg hd, if_neg hd]
  by_cases he : k = escrow
  · rw [if_pos he, if_pos he, hdue, TokenAccount.debited_debited, Ledger.due, hsum,
      Ledger.account_sweep, h.account_paidOut_of_ne past h.escrow_ne, if_neg h.distinct, if_pos rfl]
    rfl
  · rw [if_neg he, if_neg he, Ledger.account_sweep, h.account_paidOut_of_ne past hv, if_neg hd,
      if_neg he]

/-- If nothing has fallen due since, one payment leaves what it would leave at the later time. -/
theorem paidOut_once {past now : Int}
    (hdue : (b.ledger.paidOut vesting escrow destination debtor creditor past).sweep.due vesting now
      = 0) :
    b.ledger.paidOut vesting escrow destination debtor creditor (max past now)
      = b.ledger.paidOut vesting escrow destination debtor creditor past := by
  rw [Ledger.due, h.data_sweep past] at hdue
  have hsum := Record.vestedAt_add_vestedAt_paidOut past now h.long
  rw [hdue, Nat.add_zero] at hsum
  rw [Ledger.paidOut, Ledger.paidOut, Ledger.due, Ledger.due, ← hsum,
    Record.paidOut_of_nothing_due h.long hdue]

end Checks

end Bank.Payable

/-- An attempt to pay out: the clock is set, and the transaction may go through or fail. -/
def Bank.attempt (payout : Instruction) (signers : List Key) (now : Int) : List Bank.Step :=
  [.clock now, .call (.transaction [payout] signers)]

namespace Bank.Payable

variable {b : Bank} {program : Key} {seeds : Seeds} {vesting escrow destination : Key}
  {debtor creditor : TokenAccount} (signers : List Key)
  (h : b.Payable program seeds vesting escrow destination debtor creditor)
include h

theorem run_of_nothing_due {now : Int} (hdue : b.ledger.due vesting now = 0) :
    b.run (attempt (.unlock program vesting escrow destination seeds) signers now)
      = b.atClock now := by
  have hclock : (b.atClock now).Payable program seeds vesting escrow destination debtor creditor :=
    h.congr ⟨rfl, rfl⟩ fun _ => rfl
  exact (hclock.attempt_of_nothing_due signers hdue).2

theorem run_of_due {now : Int} (hdue : b.ledger.due vesting now ≠ 0) :
    b.run (attempt (.unlock program vesting escrow destination seeds) signers now)
      = { b.atClock now with
          ledger := (b.ledger.paidOut vesting escrow destination debtor creditor now).sweep } := by
  have hclock : (b.atClock now).Payable program seeds vesting escrow destination debtor creditor :=
    h.congr ⟨rfl, rfl⟩ fun _ => rfl
  exact hclock.attempt_of_due signers hdue

theorem payable_run_of_due {now : Int} (hdue : b.ledger.due vesting now ≠ 0) :
    (b.run (attempt (.unlock program vesting escrow destination seeds) signers now)).Payable
      program seeds vesting escrow destination (debtor.debited (b.ledger.due vesting now))
      (creditor.credited (b.ledger.due vesting now)) := by
  rw [h.run_of_due signers hdue]
  exact (h.payable_sweep now).congr ⟨rfl, rfl⟩ fun _ => rfl

/-- A contract that can be paid out of can be paid out of again. -/
theorem payable_run (now : Int) :
    ∃ debtor creditor,
      (b.run (attempt (.unlock program vesting escrow destination seeds) signers now)).Payable
        program seeds vesting escrow destination debtor creditor := by
  by_cases hdue : b.ledger.due vesting now = 0
  · rw [h.run_of_nothing_due signers hdue]
    exact ⟨debtor, creditor, h.congr ⟨rfl, rfl⟩ fun _ => rfl⟩
  · exact ⟨_, _, h.payable_run_of_due signers hdue⟩

/-- **Two attempts come to one at the later time.** -/
theorem attempt_attempt (past now : Int) (k : Key) :
    let payout := Instruction.unlock program vesting escrow destination seeds
    ((b.run (attempt payout signers past)).run (attempt payout signers now)).ledger.get? k
      = (b.run (attempt payout signers (max past now))).ledger.get? k := by
  intro payout
  by_cases hpast : b.ledger.due vesting past = 0
  · have hfirst : b.run (attempt payout signers past) = b.atClock past :=
      h.run_of_nothing_due signers hpast
    rcases Int.le_total now past with hle | hle
    · -- neither attempt finds anything due
      have hnow : b.ledger.due vesting now = 0 := Nat.le_zero.1 (hpast ▸ Tranche.dueAt_mono hle _)
      have hsecond : b.run (attempt payout signers now) = b.atClock now :=
        h.run_of_nothing_due signers hnow
      rw [Int.max_eq_left hle, hfirst]
      show (b.run (attempt payout signers now)).ledger.get? k = _
      rw [hsecond]
      rfl
    · -- the second attempt starts where one at its time alone would start
      rw [Int.max_eq_right hle, hfirst]
      rfl
  · have hfirst := h.run_of_due signers hpast
    have hmax : b.ledger.due vesting (max past now) ≠ 0 := by
      have hle : b.ledger.due vesting past ≤ b.ledger.due vesting (max past now) :=
        Tranche.dueAt_mono (Int.le_max_left past now) _
      omega
    have hthen := h.payable_run_of_due signers hpast
    have hledger : (b.run (attempt payout signers past)).ledger
        = (b.ledger.paidOut vesting escrow destination debtor creditor past).sweep := by
      rw [hfirst]
    rw [h.run_of_due signers hmax]
    by_cases hnow : (b.run (attempt payout signers past)).ledger.due vesting now = 0
    · rw [hthen.run_of_nothing_due signers hnow]
      show (b.run (attempt payout signers past)).ledger.get? k = _
      rw [hledger] at hnow ⊢
      rw [h.paidOut_once hnow]
    · rw [hthen.run_of_due signers hnow, hledger]
      exact (h.paidOut_twice past now).get?_sweep k

/-- After an attempt nothing is due at its time or earlier. -/
theorem due_run {now latest : Int} (hle : now ≤ latest) :
    (b.run (attempt (.unlock program vesting escrow destination seeds) signers latest)).ledger.due
      vesting now = 0 := by
  by_cases hdue : b.ledger.due vesting latest = 0
  · rw [h.run_of_nothing_due signers hdue]
    exact Nat.le_zero.1 (hdue ▸ Tranche.dueAt_mono hle _)
  · rw [h.run_of_due signers hdue, Ledger.due, h.data_sweep latest, Record.vestedAt,
      Record.tranches_paidOut latest h.long]
    exact Tranche.dueAt_release_of_le hle _

/-- After an attempt the destination has everything that was due at its time. -/
theorem balance_run (now : Int) :
    ((b.run (attempt (.unlock program vesting escrow destination seeds) signers now)).ledger.account
      destination).balance = creditor.amount.toNat + b.ledger.due vesting now := by
  by_cases hdue : b.ledger.due vesting now = 0
  · rw [h.run_of_nothing_due signers hdue, hdue]
    exact Account.balance_of_token? h.creditor_eq
  · have hroom : creditor.amount.toNat + b.ledger.due vesting now ≤ maxU64 :=
      (h.permitted [] now).fits h.distinct
    have hafter := (h.payable_run_of_due signers hdue).creditor_eq
    rw [Account.balance_of_token? hafter, TokenAccount.toNat_credited hroom]

/-! ## 5. Any number of attempts -/

/-- **A run of attempts comes to one at the latest time.** -/
theorem run_attempts (t : Int) (ts : List Int) (k : Key) :
    let payout := Instruction.unlock program vesting escrow destination seeds
    (b.run ((t :: ts).flatMap (attempt payout signers))).ledger.get? k
      = (b.run (attempt payout signers (ts.foldl max t))).ledger.get? k := by
  intro payout
  induction ts generalizing b t debtor creditor with
  | nil => rfl
  | cons s ts ih =>
    obtain ⟨debtor', creditor', hthen⟩ := h.payable_run signers t
    have hlatest : (s :: ts).foldl max t = max t (ts.foldl max s) := List.foldl_assoc
    calc (b.run ((t :: s :: ts).flatMap (attempt payout signers))).ledger.get? k
        = ((b.run (attempt payout signers t)).run
            ((s :: ts).flatMap (attempt payout signers))).ledger.get? k := by
          rw [List.flatMap_cons, run_append]
      _ = ((b.run (attempt payout signers t)).run
            (attempt payout signers (ts.foldl max s))).ledger.get? k := ih hthen s
      _ = (b.run (attempt payout signers (max t (ts.foldl max s)))).ledger.get? k :=
          h.attempt_attempt signers t (ts.foldl max s) k
      _ = (b.run (attempt payout signers ((s :: ts).foldl max t))).ledger.get? k := by
          rw [hlatest]

end Bank.Payable

/-- **Paying out does not depend on the path.**  Attempts at any times, in any order, leave the
ledger that one attempt at the latest of these times would have left, with everything due by then at
the destination.  Another attempt at that time or earlier is refused, and changes nothing. -/
theorem Bank.unlock_path_independent (b : Bank) {program : Key} {seeds : Seeds}
    {vesting escrow destination : Key} {debtor creditor : TokenAccount}
    (h : b.Payable program seeds vesting escrow destination debtor creditor) (signers : List Key)
    {times : List Int} {latest : Int} (hlatest : times.max? = some latest) :
    let payout := Instruction.unlock program vesting escrow destination seeds
    let final := b.run (times.flatMap (attempt payout signers))
    (∀ k, final.ledger.get? k = (b.run (attempt payout signers latest)).ledger.get? k) ∧
      (final.ledger.account destination).balance
        = creditor.amount.toNat + b.ledger.due vesting latest ∧
      ∀ now ≤ latest,
        let again := (final.atClock now).processTransaction [payout] signers
        again.result = .error (.rejected .nothingDue) ∧
          Rejection.code .nothingDue = .invalidArgument ∧ again.bank = final.atClock now := by
  intro payout final
  have hsame (k : Key) :
      final.ledger.get? k = (b.run (attempt payout signers latest)).ledger.get? k := by
    cases times with
    | nil => cases hlatest
    | cons t ts =>
      rw [List.max?_cons', Option.some.injEq] at hlatest
      rw [← hlatest]
      exact h.run_attempts signers t ts k
  have hagrees : (b.run (attempt payout signers latest)).ledger.Agrees final.ledger := by
    intro k
    rw [Ledger.account, Ledger.account, hsame k]
  refine ⟨hsame, ?_, ?_⟩
  · rw [← hagrees destination]
    exact h.balance_run signers latest
  · intro now hnow
    obtain ⟨debtor', creditor', hpayable⟩ := h.payable_run signers latest
    have hhost : (b.run (attempt payout signers latest)).host.Alike (final.atClock now).host :=
      (b.host_run (attempt payout signers latest)).trans
        (b.host_run (times.flatMap (attempt payout signers))).symm
    have hfinal := hpayable.congr hhost hagrees
    have hdue : final.ledger.due vesting now = 0 := by
      rw [Ledger.due, ← hagrees vesting]
      exact h.due_run signers hnow
    obtain ⟨hresult, hbank⟩ := hfinal.attempt_of_nothing_due signers hdue
    exact ⟨hresult, rfl, hbank⟩

namespace Sample

/-- Once the contract has been set up, its escrow holds what it is to pay. -/
theorem payable : founded.Payable program seeds vesting escrow destination
    { mint, owner := vesting, amount := 100 } { mint, owner := key 6, amount := 0 } := by
  have hrecord : (founded.ledger.account vesting).owner = program ∧
      Record.header (founded.ledger.account vesting).data = .ok ⟨destination, mint, true⟩ ∧
      Record.totalLocked (founded.ledger.account vesting).data = 100 := by
    decide +kernel
  have htokens : (founded.ledger.account escrow).token?
        = some { mint, owner := vesting, amount := 100 } ∧
      (founded.ledger.account destination).token?
        = some { mint, owner := key 6, amount := 0 } := by
    decide +kernel
  obtain ⟨howner, hheader, hlocked⟩ := hrecord
  obtain ⟨hdebtor, hcreditor⟩ := htokens
  have hhost : founded.host.Alike bank.host := bank.host_run [.call (.process create)]
  constructor
  case program_eq => exact hhost.1
  case address => rw [hhost.2]; rfl
  case record_owner => rw [howner]; exact program_ne
  case header => exact ⟨_, hheader, rfl⟩
  case debtor_eq => exact hdebtor
  case creditor_eq => exact hcreditor
  case distinct => decide +kernel
  case debtor_owner => rfl
  case mint_eq => rfl
  case thawed => decide +kernel
  case covered => rw [hlocked]; decide
  case fits => rw [hlocked]; decide

end Sample

/-- Four attempts at various times pay both tranches, as the latest alone would have done. -/
theorem Bank.four_attempts_path_independent :
    let payout := Instruction.unlock Sample.program Sample.vesting Sample.escrow Sample.destination
      Sample.seeds
    let final := Sample.founded.run ([15, 5, 25, 20].flatMap (attempt payout []))
    (∀ k, final.ledger.get? k = (Sample.founded.run (attempt payout [] 25)).ledger.get? k) ∧
      ((final.atClock 20).processTransaction [payout] []).result
        = .error (.rejected .nothingDue) ∧
      (final.ledger.account Sample.destination).balance = 100 := by
  intro payout final
  have hlatest : [15, 5, 25, 20].max? = some (25 : Int) := by decide +kernel
  obtain ⟨hsame, -, hagain⟩ := unlock_path_independent Sample.founded Sample.payable [] hlatest
  exact ⟨hsame, (hagain 20 (by decide)).1, by decide +kernel⟩

end Vesting
