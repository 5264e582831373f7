/-
# Acts that look and do not touch

Before a command changes anything it looks: it picks its accounts, reads them, and checks one
condition after the other.  `Act.Inspects` is what all of this has in common.  On two ledgers at
once it says that the act comes to the same result and logs the same events, that both ledgers stay
as they are, what can break the act off, and what is known of a value that it yields.

Two ledgers are needed only where one run is compared with another; for a single run they are the
same.  What can break the act off is left open as a property `F` of faults, which every rejection
has to satisfy and every fault of the derivation (`Host.FailsBy`): so the walk through the checks of
a command is made once, whatever is asked of its faults.
-/
import Vesting.Engine
import Vesting.Proofs.Act
import Vesting.Proofs.Header
import Vesting.Proofs.Wire

namespace Vesting

variable {α β : Type} {F : Fault → Prop}

/-! ## 1. Results -/

/-- A result that satisfies `F` if it is a fault, and `Q` if it is a value. -/
def Meets (F : Fault → Prop) (Q : α → Prop) : Except Fault α → Prop
  | .ok a => Q a
  | .error why => F why

/-- Faults that satisfy `F`: all rejections, and what the derivation may end in. -/
structure Host.FailsBy (host : Host) (F : Fault → Prop) : Prop where
  rejected : ∀ r : Rejection, F (.rejected r)
  derive : ∀ data why, host.derive data host.program = .error why → F why

/-- Nothing is asked of the faults. -/
theorem Host.failsBy_anyhow (host : Host) : host.FailsBy fun _ => True where
  rejected _ := trivial
  derive _ _ _ := trivial

/-- Asking who has signed fails only where the derivation does. -/
theorem Host.FailsBy.signedFor {host : Host} (h : host.FailsBy F) (signers : List Key) (key : Key)
    (seeds : Option Bytes) {why : Fault} (hwhy : host.signedFor signers key seeds = .error why) :
    F why := by
  unfold Host.signedFor at hwhy
  split at hwhy
  · cases hwhy
  · split at hwhy
    · cases hwhy
    · split at hwhy
      · cases hwhy
      · split at hwhy
        · cases hwhy
        · cases hwhy
          exact h.rejected _
      · rename_i hderive
        cases hwhy
        exact h.derive _ _ hderive

/-! ## 2. Inspections -/

namespace Act

/-- On `l` and on `l'` the act comes to the same result and logs the same events, and leaves the
ledger as it is; `F` holds of a fault, and `Q` of a value. -/
def Inspects (act : Act α) (l l' : Ledger) (F : Fault → Prop) (Q : α → Prop) : Prop :=
  ∀ log, ∃ r more, act.exec ⟨l, log⟩ = (r, ⟨l, more⟩) ∧ act.exec ⟨l', log⟩ = (r, ⟨l', more⟩) ∧
    Meets F Q r

variable {l l' : Ledger} {P Q : α → Prop} {R : β → Prop} {r : Rejection}

section Primitives

theorem inspects_pure {a : α} (h : Q a) : (pure a : Act α).Inspects l l' F Q :=
  fun log => ⟨.ok a, log, rfl, rfl, h⟩

theorem inspects_fail {why : Fault} (h : F why) : (fail why : Act α).Inspects l l' F Q :=
  fun log => ⟨.error why, log, rfl, rfl, h⟩

theorem inspects_noteAll (es : List Event) : (noteAll es).Inspects l l' F fun _ => True :=
  fun log => ⟨.ok (), es.reverse ++ log, rfl, rfl, trivial⟩

theorem inspects_note (e : Event) : (note e).Inspects l l' F fun _ => True :=
  fun log => ⟨.ok (), e :: log, rfl, rfl, trivial⟩

theorem inspects_account {key : Key} (h : l.account key = l'.account key) :
    (account key).Inspects l l' F (· = l.account key) := by
  intro log
  refine ⟨.ok (l.account key), log, rfl, ?_, rfl⟩
  rw [h]
  rfl

theorem inspects_refuse (h : F (.rejected r)) : (refuse r : Act α).Inspects l l' F Q :=
  fun log => ⟨.error (.rejected r), .failed r :: log, rfl, rfl, h⟩

theorem inspects_orFail {x : Except Fault α} (h : ∀ why, x = .error why → F why) :
    (orFail x).Inspects l l' F (x = .ok ·) := by
  cases x with
  | ok a => exact inspects_pure rfl
  | error why => exact inspects_fail (h why rfl)

theorem inspects_demand (p : Prop) [Decidable p] (h : F (.rejected r)) :
    (demand p r).Inspects l l' F fun _ => p := by
  unfold demand
  split
  · rename_i hp
    exact inspects_pure hp
  · exact inspects_refuse h

theorem inspects_require (p : Prop) [Decidable p] (h : F (.rejected r)) :
    (require p r).Inspects l l' F fun _ => p := by
  unfold require
  split
  · rename_i hp
    exact inspects_pure hp
  · exact inspects_fail h

end Primitives

/-- **Inspections follow one another.**  The second may rely on what the first has found. -/
theorem Inspects.bind {x : Act α} {f : α → Act β} (hx : x.Inspects l l' F P)
    (hf : ∀ a, P a → (f a).Inspects l l' F R) : (x >>= f).Inspects l l' F R := by
  intro log
  obtain ⟨r, more, h, h', hr⟩ := hx log
  rw [exec_bind, exec_bind, h, h']
  cases r with
  | ok a => exact hf a hr more
  | error why => exact ⟨.error why, more, rfl, rfl, hr⟩

/-- A single run is an inspection of one ledger. -/
theorem Inspects.of_yields {act : Act α} {w w' : World} {a : α}
    (h : act.Inspects w.ledger w.ledger F Q) (hy : act.Yields w a w') :
    Q a ∧ w'.ledger = w.ledger := by
  obtain ⟨r, more, hr, -, hQ⟩ := h w.log
  have hw : (r, World.mk w.ledger more) = (.ok a, w') := hr.symm.trans hy
  cases hw
  exact ⟨hQ, rfl⟩

end Act

/-! ## 3. The parts of a command -/

namespace Engine

open Act

variable {host : Host} {accounts : List Key} {seeds : Seeds} {l l' : Ledger}

theorem inspects_pick (hF : host.FailsBy F) (position : Nat) (role : Role) :
    (pick accounts position role).Inspects l l' F (accounts[position]? = some ·) := by
  unfold pick
  split
  · rename_i key hkey
    exact inspects_pure hkey
  · exact inspects_refuse (hF.rejected _)

theorem inspects_checkAddress (hF : host.FailsBy F) (seeds : Seeds) (vesting : Key) :
    (checkAddress host seeds vesting).Inspects l l' F
      fun _ => host.derive seeds.bytes host.program = .ok vesting := by
  unfold checkAddress
  split
  · rename_i address haddress
    rw [haddress]
    unfold demand
    split
    · rename_i hvesting
      exact inspects_pure (congrArg Except.ok hvesting)
    · exact inspects_refuse (hF.rejected _)
  · split
    · exact inspects_refuse (hF.rejected _)
    · exact inspects_fail (hF.rejected _)
  · rename_i why hwhy
    exact inspects_fail (hF.derive _ _ hwhy)

theorem inspects_tokenAccount (hF : host.FailsBy F) (role : Role) {key : Key}
    (hkey : l.account key = l'.account key) :
    (tokenAccount role key).Inspects l l' F
      (TokenAccount.unpack (l.account key).data = .ok ·) := by
  unfold tokenAccount
  refine (inspects_account hkey).bind fun a ha => ?_
  subst ha
  split
  · rename_i token htoken
    exact inspects_pure htoken
  · split
    · exact inspects_refuse (hF.rejected _)
    · exact inspects_fail (hF.rejected _)
  · rename_i why hrejected hwhy
    obtain ⟨r, rfl, -⟩ := TokenAccount.unpack_error hwhy
    exact inspects_fail (hF.rejected r)

theorem inspects_header (hF : host.FailsBy F) (data : Bytes) :
    (orFail (Record.header data)).Inspects l l' F (Record.header data = .ok ·) := by
  refine inspects_orFail fun why hwhy => ?_
  obtain ⟨r, rfl, -⟩ := Record.header_error hwhy
  exact hF.rejected r

theorem inspects_decode (hF : host.FailsBy F) (data : Bytes) :
    (orFail (Command.decode false data)).Inspects l l' F (Command.decode false data = .ok ·) := by
  refine inspects_orFail fun why hwhy => ?_
  obtain ⟨r, rfl, -⟩ := Command.code_of_decode_error hwhy
  exact hF.rejected r

end Engine
end Vesting
