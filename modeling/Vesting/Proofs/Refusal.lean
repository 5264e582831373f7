/-
# Whatever comes in, only refusals come out

A bank takes bytes from anybody, for any accounts, and the accounts may hold anything.  What it
answers is a success or a refusal (`Rejection`), and every refusal belongs to one of three families:
bytes that do not decode, conditions that do not hold, and refusals of the ledger.  All other faults
are out of reach: no value is outside its domain, no bytes fail to fit where they are written, no
position or size is too large (`Bank.only_refusals`).

The walk that shows it has been made already.  `Order.confined_carry` leaves open which faults there
may be, as long as all refusals are among them and whatever the derivation ends in; and a lawful
derivation ends in refusals only.  That the readers make no unchecked values is in
`Vesting.Proofs.Checks`.
-/
import Vesting.Proofs.Atomicity
import Vesting.Proofs.Checks
import Vesting.Proofs.Composition

namespace Vesting

/-! ## 1. Families of refusals -/

namespace Code

/-- The class is `family`, or stands below it. -/
def IsA (c family : Code) : Prop := c = family ∨ family ∈ c.ancestors

instance (c family : Code) : Decidable (c.IsA family) := inferInstanceAs (Decidable (_ ∨ _))

/-- Bytes that do not decode, conditions that do not hold, and refusals of the ledger. -/
def families : List Code := [decodeError, validationError, hostError]

/-- Only the root of all classes is in no family. -/
theorem family_of_ne_root {c : Code} (h : c ≠ vestingError) :
    ∃ family ∈ families, c.IsA family := by
  cases c with
  | vestingError => exact absurd rfl h
  | _ => decide

end Code

theorem Rejection.code_ne_root (r : Rejection) : r.code ≠ .vestingError := by
  intro h
  cases r <;> cases h

/-- **Every refusal has a family.** -/
theorem Rejection.family (r : Rejection) : ∃ family ∈ Code.families, r.code.IsA family :=
  Code.family_of_ne_root r.code_ne_root

/-! ## 2. Faults that remain -/

/-- With a lawful derivation nothing but a refusal is left. -/
theorem Address.Lawful.failsBy {host : Host} (h : Lawful host.derive) :
    host.FailsBy fun why => ∃ r, why = .rejected r where
  rejected r := ⟨r, rfl⟩
  derive data why hwhy := by
    obtain ⟨r, rfl, -⟩ := h data host.program why hwhy
    exact ⟨r, rfl⟩

/-- The result of a transaction is that of its act. -/
theorem Bank.meets_transact {b : Bank} {act : Act Unit} {keys : List Key} {F : Fault → Prop}
    (h : act.Confined keys b.ledger b.ledger F fun _ => True) :
    Meets F (fun _ => True) (b.transact act).result := by
  obtain ⟨r, m, m', log, hr, -, hstays⟩ := h []
  cases r with
  | ok u =>
    rw [transact_of_yields hr]
    exact trivial
  | error why =>
    rw [transact_of_breaks hr]
    exact hstays.meets

/-- **Adversarial input only meets refusals.**  On any ledger, for any program, keys, bytes and
signers, and with a derivation that gives a key or refuses, a call succeeds or is refused, and the
refusal has a family.  The values that it works with are those that the checks of their constructors
let through: the fields of the command, the tranches and the token accounts that it reads, and the
tranches that it writes back. -/
theorem Bank.only_refusals (b : Bank) (hderive : Address.Lawful b.host.derive) (program : Key)
    (keys : List Key) (data : Bytes) (signers : List Key) :
    ((b.process program keys data signers).result = .ok () ∨
      ∃ r, (b.process program keys data signers).result = .error (.rejected r) ∧
        ∃ family ∈ Code.families, r.code.IsA family) ∧
    Command.decodeChecked data = Command.decode false data ∧
    (∀ record : Bytes, Tranche.readManyChecked (Record.capacity record) (record.drop 65)
      = .ok (Record.tranches record)) ∧
    (∀ t : Tranche, Tranche.ofData (.int t.releaseTime.toNat) (.int 0) = .ok t.released) ∧
    ∀ token : Bytes, TokenAccount.unpackChecked token = TokenAccount.unpack token := by
  refine ⟨?_, Command.decodeChecked_eq data, fun _ => Tranche.readManyChecked_eq _ _,
    Tranche.ofData_released, TokenAccount.unpackChecked_eq⟩
  let o : Order := ⟨program, keys, data, signers⟩
  have hmeets : Meets (fun why => ∃ r, why = .rejected r) (fun _ => True)
      (b.process program keys data signers).result :=
    meets_transact (o.confined_carry hderive.failsBy fun _ _ => rfl)
  cases hr : (b.process program keys data signers).result with
  | ok u => exact .inl rfl
  | error why =>
    rw [hr] at hmeets
    obtain ⟨r, rfl⟩ := hmeets
    exact .inr ⟨r, rfl, r.family⟩

/-- A contract that cannot be funded is refused by the ledger. -/
theorem Bank.only_refusals_mixed :
    Address.Lawful Sample.mixed.host.derive ∧
      ∃ r, (Sample.mixed.process Sample.program Sample.create.keys Sample.create.data
          Sample.create.signers).result = .error (.rejected r) ∧
        ∃ family ∈ Code.families, r.code.IsA family := by
  have hlawful : Address.Lawful Sample.mixed.host.derive := by
    intro _ _ _ h
    cases h
  have hrefused : (Sample.mixed.process Sample.program Sample.create.keys Sample.create.data
      Sample.create.signers).result = .error (.rejected .mintMismatch) := by
    decide +kernel
  refine ⟨hlawful, ?_⟩
  obtain ⟨hok | hrefusal, -⟩ := only_refusals Sample.mixed hlawful Sample.program
    Sample.create.keys Sample.create.data Sample.create.signers
  · rw [hrefused] at hok
    cases hok
  · exact hrefusal

end Vesting
