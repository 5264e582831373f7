/-
# Sessions that go through, and sessions that break off

A session is a computation on a machine that may break off.  `Session.Gives` says that it does
not, and with which value and which machine it ends.  A session in two steps goes through if both
do, one after the other, and a handler of faults is not heard of then.

What is said about all machines is of three kinds: `Session.Ensures` speaks of every value with
which a session goes through, `Session.BreaksOnly` of every fault with which it breaks off, and
`Session.Keeps` of a part of the machine that it leaves as it is in either case.
-/
import Vesting.Session

namespace Vesting.Session

variable {α β : Type} {m m' m'' : Machine} {a : α} {b : β}

/-! ## 1. One run -/

/-- On the machine `m` the session goes through with the value `a`, and leaves `m'`. -/
def Gives (s : Session α) (m : Machine) (a : α) (m' : Machine) : Prop := s.run.run m = (.ok a, m')

theorem gives_pure : (pure a : Session α).Gives m a m := rfl

theorem gives_bind {s : Session α} {f : α → Session β} (hs : s.Gives m a m')
    (hf : (f a).Gives m' b m'') : (s >>= f).Gives m b m'' := by
  unfold Gives at *
  simp only [bind, ExceptT.bind, ExceptT.run, ExceptT.mk, StateT.run, StateT.bind] at *
  rw [hs]
  exact hf

theorem gives_orFail {x : Except Fault α} (h : x = .ok a) : (orFail x).Gives m a m := by
  rw [h]
  rfl

theorem gives_tryCatch {s : Session α} (handler : Fault → Session α) (h : s.Gives m a m') :
    (tryCatch s handler : Session α).Gives m a m' := by
  unfold Gives at *
  simp only [tryCatch, tryCatchThe, MonadExceptOf.tryCatch, ExceptT.tryCatch, ExceptT.run,
    ExceptT.mk, StateT.run, bind, StateT.bind] at *
  rw [h]
  rfl

/-! ## 2. All runs -/

section Everywhere

variable {s : Session α} {f : α → Session β} {x : Except Fault α} {P : α → Prop} {Q : β → Prop}
  {E : Fault → Prop} {why : Fault}

/-- A session in two steps does the first and, if it goes through, the second. -/
theorem run_bind (s : Session α) (f : α → Session β) (m : Machine) :
    (s >>= f).run.run m = match s.run.run m with
      | (.ok a, m') => (f a).run.run m'
      | (.error why, m') => (.error why, m') := by
  simp only [bind, ExceptT.bind, ExceptT.run, ExceptT.mk, StateT.run, StateT.bind]
  cases s m with
  | mk result m' => cases result <;> rfl

theorem run_tryCatch (s : Session α) (handler : Fault → Session α) (m : Machine) :
    (tryCatch s handler : Session α).run.run m = match s.run.run m with
      | (.ok a, m') => (.ok a, m')
      | (.error why, m') => (handler why).run.run m' := by
  simp only [tryCatch, tryCatchThe, MonadExceptOf.tryCatch, ExceptT.tryCatch, ExceptT.run,
    ExceptT.mk, StateT.run, bind, StateT.bind]
  cases s m with
  | mk result m' => cases result <;> rfl

theorem run_orFail (x : Except Fault α) (m : Machine) : (orFail x).run.run m = (x, m) := by
  cases x <;> rfl

/-- What is handed over to be signed is recorded, whether it can be signed or not. -/
theorem run_sign (message : Message) (pairs : List Keypair) (m : Machine) :
    (sign message pairs).run.run m
      = (m.signer.sign message pairs, { m with signings := ⟨message, pairs⟩ :: m.signings }) :=
  run_orFail _ _

/-- Every value with which the session goes through satisfies `P`. -/
def Ensures (s : Session α) (P : α → Prop) : Prop := ∀ m a m', s.Gives m a m' → P a

theorem ensures_pure (h : P a) : (pure a : Session α).Ensures P := by
  rintro m b m' hgives
  cases hgives
  exact h

/-- The last step decides about the value. -/
theorem ensures_bind (hf : ∀ a, (f a).Ensures Q) : (s >>= f).Ensures Q := by
  intro m b m'' hgives
  rw [Gives, run_bind] at hgives
  split at hgives
  · exact hf _ _ _ _ hgives
  · cases hgives

theorem ensures_orFail (h : ∀ a, x = .ok a → P a) : (orFail x).Ensures P := by
  intro m a m' hgives
  cases x with
  | ok b =>
    cases hgives
    exact h _ rfl
  | error why => cases hgives

/-- Every fault with which the session breaks off satisfies `E`. -/
def BreaksOnly (s : Session α) (E : Fault → Prop) : Prop :=
  ∀ m why m', s.run.run m = (.error why, m') → E why

theorem breaksOnly_pure : (pure a : Session α).BreaksOnly E := by
  intro m why m' hbreaks
  cases hbreaks

theorem breaksOnly_fail (h : E why) : (fail why : Session α).BreaksOnly E := by
  rintro m why' m' hbreaks
  cases hbreaks
  exact h

theorem breaksOnly_get : (get : Session Machine).BreaksOnly E := by
  intro m why m' hbreaks
  cases hbreaks

theorem breaksOnly_call {c : Call} : (call c).BreaksOnly E := by
  intro m why m' hbreaks
  cases hbreaks

theorem breaksOnly_orFail (h : ∀ why, x = .error why → E why) : (orFail x).BreaksOnly E := by
  cases x with
  | ok a => exact breaksOnly_pure
  | error why => exact breaksOnly_fail (h _ rfl)

/-- The second step has to answer only for the values with which the first goes through. -/
theorem breaksOnly_bind_of_ensures (hs : s.BreaksOnly E) (hP : s.Ensures P)
    (hf : ∀ a, P a → (f a).BreaksOnly E) : (s >>= f).BreaksOnly E := by
  intro m why m'' hbreaks
  rw [run_bind] at hbreaks
  split at hbreaks
  · rename_i hs'
    exact hf _ (hP _ _ _ hs') _ _ _ hbreaks
  · rename_i hs'
    cases hbreaks
    exact hs _ _ _ hs'

theorem breaksOnly_bind (hs : s.BreaksOnly E) (hf : ∀ a, (f a).BreaksOnly E) :
    (s >>= f).BreaksOnly E :=
  breaksOnly_bind_of_ensures hs (fun _ _ _ _ => trivial) fun a _ => hf a

end Everywhere

/-! ## 3. What a session leaves alone -/

section Apart

variable {γ : Type} {part : Machine → γ} {s : Session α} {f : α → Session β}

/-- The session leaves a part of the machine as it is, whether it goes through or not. -/
def Keeps (s : Session α) (part : Machine → γ) : Prop := ∀ m, part (s.run.run m).2 = part m

theorem keeps_pure : (pure a : Session α).Keeps part := fun _ => rfl

theorem keeps_fail {why : Fault} : (fail why : Session α).Keeps part := fun _ => rfl

theorem keeps_get : (get : Session Machine).Keeps part := fun _ => rfl

theorem keeps_orFail {x : Except Fault α} : (orFail x).Keeps part := by
  intro m
  rw [run_orFail]

theorem keeps_bind (hs : s.Keeps part) (hf : ∀ a, (f a).Keeps part) : (s >>= f).Keeps part := by
  intro m
  have hm := hs m
  rw [run_bind]
  split
  · rename_i hrun
    rw [hf, ← hm, hrun]
  · rename_i hrun
    rw [← hm, hrun]

end Apart

end Vesting.Session
