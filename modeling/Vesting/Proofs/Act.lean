/-
# How acts run

An act either goes through, with a value, or is broken off by a fault; both ways it leaves a
world behind.  `Yields` and `Breaks` say which.  A sequence goes through if its parts do
(`yields_bind`), and it is broken off where its first part is, or behind it (`breaks_bind`), so a
command is taken apart line by line and nobody has to open the monad again.

Three properties of acts carry the theory of the commands.

* `BreaksOnly`: what a fault can be, and what it can leave behind.
* `Sure`: the act always goes through.
* `Plain`: the act is put together from events, faults and accounts.  Such an act does not care
  what has been logged before it (`Plain.exec_log`).
-/
import Vesting.Act

namespace Vesting.Act

variable {α β : Type}

/-! ## 1. Going through and being broken off -/

/-- What an act comes to on `w`: its result, and the world it leaves. -/
def exec (act : Act α) (w : World) : Except Fault α × World := act.run.run w

/-- On `w` the act goes through with the value `a`, and leaves `w'`. -/
def Yields (act : Act α) (w : World) (a : α) (w' : World) : Prop := act.exec w = (.ok a, w')

/-- On `w` the act is broken off by `why`, and leaves `w'`. -/
def Breaks (act : Act α) (w : World) (why : Fault) (w' : World) : Prop :=
  act.exec w = (.error why, w')

theorem yields_of_result {act : Act α} {w : World} {a : α} (h : (act.exec w).1 = .ok a) :
    act.Yields w a (act.exec w).2 := Prod.ext h rfl

theorem breaks_of_result {act : Act α} {w : World} {why : Fault}
    (h : (act.exec w).1 = .error why) : act.Breaks w why (act.exec w).2 := Prod.ext h rfl

theorem exec_bind (x : Act α) (f : α → Act β) (w : World) :
    (x >>= f).exec w = match x.exec w with
      | (.ok a, w') => (f a).exec w'
      | (.error why, w') => (.error why, w') := by
  simp only [exec, bind, ExceptT.bind, ExceptT.run, ExceptT.mk, StateT.run, StateT.bind]
  rcases x w with ⟨r, w'⟩
  cases r with
  | ok a => rfl
  | error why => rfl

theorem exec_tryCatch (x : Act α) (f : Fault → Act α) (w : World) :
    (tryCatch x f : Act α).exec w = match x.exec w with
      | (.ok a, w') => (.ok a, w')
      | (.error why, w') => (f why).exec w' := by
  simp only [exec, tryCatch, tryCatchThe, MonadExceptOf.tryCatch, ExceptT.tryCatch, ExceptT.run,
    ExceptT.mk, StateT.run, bind, StateT.bind]
  rcases x w with ⟨r, w'⟩
  cases r with
  | ok a => rfl
  | error why => rfl

/-- Behind a part that goes through, a sequence goes on with the rest. -/
theorem exec_bind_of_yields {x : Act α} {f : α → Act β} {w w' : World} {a : α}
    (h : x.Yields w a w') : (x >>= f).exec w = (f a).exec w' := by
  unfold Yields at h
  rw [exec_bind, h]

/-- **A sequence goes through if both parts do.** -/
theorem yields_bind {x : Act α} {f : α → Act β} {w w'' : World} {b : β} :
    (x >>= f).Yields w b w'' ↔ ∃ a w', x.Yields w a w' ∧ (f a).Yields w' b w'' := by
  unfold Yields
  rw [exec_bind]
  rcases x.exec w with ⟨r, w'⟩
  cases r with
  | ok a =>
    constructor
    · intro h
      exact ⟨a, w', rfl, h⟩
    · rintro ⟨a', w₁, h₁, h₂⟩
      cases h₁
      exact h₂
  | error why =>
    constructor
    · intro h
      cases h
    · rintro ⟨a', w₁, h₁, -⟩
      cases h₁

/-- **A sequence is broken off in its first part or in its second.** -/
theorem breaks_bind {x : Act α} {f : α → Act β} {w w'' : World} {why : Fault} :
    (x >>= f).Breaks w why w'' ↔
      x.Breaks w why w'' ∨ ∃ a w', x.Yields w a w' ∧ (f a).Breaks w' why w'' := by
  unfold Yields Breaks
  rw [exec_bind]
  rcases x.exec w with ⟨r, w'⟩
  cases r with
  | ok a =>
    constructor
    · intro h
      exact Or.inr ⟨a, w', rfl, h⟩
    · rintro (h | ⟨a', w₁, h₁, h₂⟩)
      · cases h
      · cases h₁
        exact h₂
  | error why' =>
    constructor
    · intro h
      cases h
      exact Or.inl rfl
    · rintro (h | ⟨a', w₁, h₁, -⟩)
      · cases h
        rfl
      · cases h₁

/-- A handler that always fails cannot make an act go through. -/
theorem yields_tryCatch {x : Act α} {f : Fault → Act α} {w w' : World} {a : α}
    (hf : ∀ why w₁, ¬ (f why).Yields w₁ a w') :
    (tryCatch x f : Act α).Yields w a w' ↔ x.Yields w a w' := by
  unfold Yields
  rw [exec_tryCatch]
  rcases x.exec w with ⟨r, w₁⟩
  cases r with
  | ok a' => exact Iff.rfl
  | error why =>
    constructor
    · intro h
      exact absurd h (hf why w₁)
    · intro h
      cases h

/-- What breaks a guarded act off is what its handler makes of the fault. -/
theorem breaks_tryCatch {x : Act α} {f : Fault → Act α} {w w' : World} {why : Fault} :
    (tryCatch x f : Act α).Breaks w why w' ↔
      ∃ why₁ w₁, x.Breaks w why₁ w₁ ∧ (f why₁).Breaks w₁ why w' := by
  unfold Breaks
  rw [exec_tryCatch]
  rcases x.exec w with ⟨r, w₁⟩
  cases r with
  | ok a =>
    constructor
    · intro h
      cases h
    · rintro ⟨why₁, w₂, h₁, -⟩
      cases h₁
  | error why₁ =>
    constructor
    · intro h
      exact ⟨why₁, w₁, rfl, h⟩
    · rintro ⟨why₂, w₂, h₁, h₂⟩
      cases h₁
      exact h₂

/-! ## 2. The primitives -/

section Primitives

variable {w w' : World} {u : Unit} {why : Fault} {r : Rejection}

@[simp] theorem yields_pure {a b : α} : (pure a : Act α).Yields w b w' ↔ b = a ∧ w = w' := by
  constructor
  · intro h
    cases h
    exact ⟨rfl, rfl⟩
  · rintro ⟨rfl, rfl⟩
    rfl

@[simp] theorem yields_note {e : Event} :
    (note e).Yields w u w' ↔ w' = ⟨w.ledger, e :: w.log⟩ := by
  constructor
  · intro h
    cases h
    rfl
  · rintro rfl
    rfl

@[simp] theorem yields_noteAll {es : List Event} :
    (noteAll es).Yields w u w' ↔ w' = ⟨w.ledger, es.reverse ++ w.log⟩ := by
  constructor
  · intro h
    cases h
    rfl
  · rintro rfl
    rfl

@[simp] theorem yields_account {key : Key} {a : Account} :
    (account key).Yields w a w' ↔ a = w.ledger.account key ∧ w = w' := by
  constructor
  · intro h
    cases h
    exact ⟨rfl, rfl⟩
  · rintro ⟨rfl, rfl⟩
    rfl

@[simp] theorem not_yields_fail {a : α} : ¬ (fail why : Act α).Yields w a w' := by
  intro h
  cases h

@[simp] theorem not_yields_refuse {a : α} : ¬ (refuse r : Act α).Yields w a w' := by
  intro h
  cases h

@[simp] theorem yields_orFail {x : Except Fault α} {a : α} :
    (orFail x).Yields w a w' ↔ x = .ok a ∧ w = w' := by
  cases x with
  | ok b => simp [orFail, eq_comm]
  | error why => simp [orFail]

@[simp] theorem yields_demand {p : Prop} [Decidable p] :
    (demand p r).Yields w u w' ↔ p ∧ w = w' := by
  unfold demand
  split <;> simp_all

@[simp] theorem yields_require {p : Prop} [Decidable p] :
    (require p r).Yields w u w' ↔ p ∧ w = w' := by
  unfold require
  split <;> simp_all

theorem yields_of_demand {p : Prop} [Decidable p] (h : p) : (demand p r).Yields w () w :=
  yields_demand.2 ⟨h, rfl⟩

theorem breaks_of_demand {p : Prop} [Decidable p] (h : ¬ p) :
    (demand p r).Breaks w (.rejected r) ⟨w.ledger, .failed r :: w.log⟩ := by
  rw [demand, if_neg h]
  rfl

/-! In front of a sequence the primitives leave only what has to hold for it to go on. -/

variable {f : Unit → Act β} {b : β}

theorem yields_bind_of_yields {x : Act α} {f : α → Act β} {a : α} {w₁ : World}
    (h : x.Yields w a w₁) : (x >>= f).Yields w b w' ↔ (f a).Yields w₁ b w' := by
  unfold Yields
  rw [exec_bind_of_yields h]

theorem yields_note_bind {e : Event} :
    (note e >>= f).Yields w b w' ↔ (f ()).Yields ⟨w.ledger, e :: w.log⟩ b w' :=
  yields_bind_of_yields rfl

theorem yields_noteAll_bind {es : List Event} :
    (noteAll es >>= f).Yields w b w' ↔ (f ()).Yields ⟨w.ledger, es.reverse ++ w.log⟩ b w' :=
  yields_bind_of_yields rfl

theorem yields_store_bind {key : Key} {a : Account} :
    (store key a >>= f).Yields w b w' ↔ (f ()).Yields ⟨w.ledger.insert key a, w.log⟩ b w' :=
  yields_bind_of_yields rfl

theorem yields_account_bind {key : Key} {f : Account → Act β} :
    (account key >>= f).Yields w b w' ↔ (f (w.ledger.account key)).Yields w b w' :=
  yields_bind_of_yields rfl

theorem yields_demand_bind {p : Prop} [Decidable p] :
    (demand p r >>= f).Yields w b w' ↔ p ∧ (f ()).Yields w b w' := by
  by_cases hp : p
  · rw [yields_bind_of_yields (yields_demand.2 ⟨hp, rfl⟩)]
    exact (and_iff_right hp).symm
  · simp [yields_bind, hp]

theorem yields_require_bind {p : Prop} [Decidable p] :
    (require p r >>= f).Yields w b w' ↔ p ∧ (f ()).Yields w b w' := by
  by_cases hp : p
  · rw [yields_bind_of_yields (yields_require.2 ⟨hp, rfl⟩)]
    exact (and_iff_right hp).symm
  · simp [yields_bind, hp]

theorem yields_orFail_bind {x : Except Fault α} {f : α → Act β} :
    (orFail x >>= f).Yields w b w' ↔ ∃ a, x = .ok a ∧ (f a).Yields w b w' := by
  simp only [yields_bind, yields_orFail, and_assoc, exists_and_left, exists_eq_left']

end Primitives

/-! ## 3. What breaks an act off -/

/-- What breaks the act off on `w`, and what it leaves then, satisfies `E`. -/
def BreaksOnly (act : Act α) (w : World) (E : Fault → World → Prop) : Prop :=
  ∀ why w', act.Breaks w why w' → E why w'

section BreaksOnly

variable {w : World} {r : Rejection} {E : Fault → World → Prop}

/-- In a sequence, what comes second may rely on what the first part has yielded. -/
theorem BreaksOnly.bind {x : Act α} {f : α → Act β} (hx : x.BreaksOnly w E)
    (hf : ∀ a w', x.Yields w a w' → (f a).BreaksOnly w' E) : (x >>= f).BreaksOnly w E := by
  intro why w'' h
  rcases breaks_bind.1 h with h | ⟨a, w', hy, h⟩
  · exact hx why w'' h
  · exact hf a w' hy why w'' h

theorem breaksOnly_fail {why : Fault} (h : E why w) : (fail why : Act α).BreaksOnly w E := by
  intro why' w' hb
  cases hb
  exact h

theorem breaksOnly_orFail {x : Except Fault α} (h : ∀ why, x = .error why → E why w) :
    (orFail x).BreaksOnly w E := by
  intro why w' hb
  cases x with
  | ok a => cases hb
  | error why' =>
    cases hb
    exact h why rfl

theorem breaksOnly_require {p : Prop} [Decidable p] (h : ¬ p → E (.rejected r) w) :
    (require p r).BreaksOnly w E := by
  intro why w' hb
  unfold require at hb
  split at hb
  · cases hb
  · rename_i hp
    cases hb
    exact h hp

theorem breaksOnly_refuse (h : E (.rejected r) ⟨w.ledger, .failed r :: w.log⟩) :
    (refuse r : Act α).BreaksOnly w E := by
  intro why w' hb
  cases hb
  exact h

theorem breaksOnly_demand {p : Prop} [Decidable p]
    (h : ¬ p → E (.rejected r) ⟨w.ledger, .failed r :: w.log⟩) : (demand p r).BreaksOnly w E := by
  unfold demand
  split
  · intro why w' hb
    cases hb
  · rename_i hp
    exact breaksOnly_refuse (h hp)

/-! In front of a sequence a check breaks off if it fails, and counts for the rest otherwise. -/

variable {f : Unit → Act β}

theorem breaksOnly_require_bind {p : Prop} [Decidable p] (h : ¬ p → E (.rejected r) w)
    (hf : p → (f ()).BreaksOnly w E) : (require p r >>= f).BreaksOnly w E := by
  refine (breaksOnly_require h).bind fun u w' hy => ?_
  obtain ⟨hp, rfl⟩ := yields_require.1 hy
  exact hf hp

theorem breaksOnly_demand_bind {p : Prop} [Decidable p]
    (h : ¬ p → E (.rejected r) ⟨w.ledger, .failed r :: w.log⟩) (hf : p → (f ()).BreaksOnly w E) :
    (demand p r >>= f).BreaksOnly w E := by
  refine (breaksOnly_demand h).bind fun u w' hy => ?_
  obtain ⟨hp, rfl⟩ := yields_demand.1 hy
  exact hf hp

theorem breaksOnly_orFail_bind {x : Except Fault α} {f : α → Act β}
    (h : ∀ why, x = .error why → E why w) (hf : ∀ a, x = .ok a → (f a).BreaksOnly w E) :
    (orFail x >>= f).BreaksOnly w E := by
  refine (breaksOnly_orFail h).bind fun a w' hy => ?_
  obtain ⟨ha, rfl⟩ := yields_orFail.1 hy
  exact hf a ha

/-- What is refused does not go on. -/
theorem breaksOnly_refuse_bind {f : α → Act β}
    (h : E (.rejected r) ⟨w.ledger, .failed r :: w.log⟩) :
    ((refuse r : Act α) >>= f).BreaksOnly w E :=
  (breaksOnly_refuse h).bind fun _ _ hy => absurd hy not_yields_refuse

theorem breaksOnly_fail_bind {why : Fault} {f : α → Act β} (h : E why w) :
    ((fail why : Act α) >>= f).BreaksOnly w E :=
  (breaksOnly_fail h).bind fun _ _ hy => absurd hy not_yields_fail

/-- What goes through in any case only moves the world on. -/
theorem breaksOnly_bind_of_yields {x : Act α} {f : α → Act β} {a : α} {w' : World}
    (h : x.Yields w a w') (hf : (f a).BreaksOnly w' E) : (x >>= f).BreaksOnly w E := by
  intro why w'' hb
  rcases breaks_bind.1 hb with hb | ⟨b, w₁, hy, hb⟩
  · cases h.symm.trans hb
  · cases h.symm.trans hy
    exact hf why w'' hb

end BreaksOnly

/-- The act always goes through. -/
def Sure (act : Act α) : Prop := ∀ w, ∃ a w', act.Yields w a w'

theorem sure_pure (a : α) : (pure a : Act α).Sure := fun w => ⟨a, w, rfl⟩

theorem sure_note (e : Event) : (note e).Sure := fun _ => ⟨(), _, rfl⟩

theorem sure_account (key : Key) : (account key).Sure := fun _ => ⟨_, _, rfl⟩

theorem sure_store (key : Key) (a : Account) : (store key a).Sure := fun _ => ⟨(), _, rfl⟩

theorem sure_orFail {x : Except Fault α} {a : α} (h : x = .ok a) : (orFail x).Sure := by
  subst h
  exact sure_pure a

theorem Sure.bind {x : Act α} {f : α → Act β} (hx : x.Sure) (hf : ∀ a, (f a).Sure) :
    (x >>= f).Sure := by
  intro w
  obtain ⟨a, w₁, h₁⟩ := hx w
  obtain ⟨b, w₂, h₂⟩ := hf a w₁
  exact ⟨b, w₂, yields_bind.2 ⟨a, w₁, h₁, h₂⟩⟩

/-- Nothing breaks off an act that always goes through. -/
theorem Sure.breaksOnly {act : Act α} (h : act.Sure) (w : World) (E : Fault → World → Prop) :
    act.BreaksOnly w E := by
  intro why w'' hb
  obtain ⟨a, w', hy⟩ := h w
  have : (Except.ok a, w') = (Except.error why, w'') := hy.symm.trans hb
  cases this

/-- Broken off on `w`, the act leaves the ledger as it found it. -/
def Atomic (act : Act α) (w : World) : Prop := act.BreaksOnly w fun _ w' => w'.ledger = w.ledger

/-! ## 4. Plain acts -/

/-- The act is put together from events, faults, and look-ups and stores of accounts. -/
inductive Plain : {α : Type} → Act α → Prop
  | pure {α : Type} (a : α) : Plain (pure a : Act α)
  | fail {α : Type} (why : Fault) : Plain (fail why : Act α)
  | note (es : List Event) : Plain (noteAll es)
  | account (key : Key) : Plain (account key)
  | store (key : Key) (a : Account) : Plain (store key a)
  | bind {α β : Type} {x : Act α} {f : α → Act β} :
      Plain x → (∀ a, Plain (f a)) → Plain (x >>= f)
  | handle {α : Type} {x : Act α} {f : Fault → Act α} :
      Plain x → (∀ why, Plain (f why)) → Plain (tryCatch x f)

namespace Plain

theorem note_one (e : Event) : Plain (Act.note e) := note [e]

theorem refuse (why : Rejection) : Plain (Act.refuse why : Act α) :=
  bind (note_one _) fun _ => fail _

theorem orFail (x : Except Fault α) : Plain (Act.orFail x) := by
  cases x with
  | ok a => exact pure a
  | error why => exact fail why

theorem demand (p : Prop) [Decidable p] (why : Rejection) : Plain (Act.demand p why) := by
  unfold Act.demand
  split
  · exact pure ()
  · exact refuse why

theorem require (p : Prop) [Decidable p] (why : Rejection) : Plain (Act.require p why) := by
  unfold Act.require
  split
  · exact pure ()
  · exact fail (.rejected why)

end Plain

/-- **What has been logged before makes no difference.**  Neither the result nor the ledger depends
on it, and it stays in the log as it is. -/
theorem Plain.exec_log {act : Act α} (h : Plain act) (l : Ledger)
    (log : List Event) :
    act.exec ⟨l, log⟩ = ((act.exec ⟨l, []⟩).1,
      ⟨(act.exec ⟨l, []⟩).2.ledger, (act.exec ⟨l, []⟩).2.log ++ log⟩) := by
  induction h generalizing l log with
  | pure a => rfl
  | fail why => rfl
  | note es =>
    show (Except.ok (), World.mk l (es.reverse ++ log))
      = (Except.ok (), World.mk l ((es.reverse ++ []) ++ log))
    rw [List.append_nil]
  | account key => rfl
  | store key a => rfl
  | bind _ _ ihx ihf =>
    rename_i x f _ _
    rw [exec_bind, exec_bind, ihx l log]
    rcases x.exec ⟨l, []⟩ with ⟨r, w⟩
    cases r with
    | ok a =>
      obtain ⟨l', new⟩ := w
      show (f a).exec ⟨l', new ++ log⟩ = _
      rw [ihf a l' (new ++ log)]
      show _ = (((f a).exec ⟨l', new⟩).1, World.mk ((f a).exec ⟨l', new⟩).2.ledger
        (((f a).exec ⟨l', new⟩).2.log ++ log))
      rw [ihf a l' new, List.append_assoc]
    | error why => rfl
  | handle _ _ ihx ihf =>
    rename_i x f _ _
    rw [exec_tryCatch, exec_tryCatch, ihx l log]
    rcases x.exec ⟨l, []⟩ with ⟨r, w⟩
    cases r with
    | ok a => rfl
    | error why =>
      obtain ⟨l', new⟩ := w
      show (f why).exec ⟨l', new ++ log⟩ = _
      rw [ihf why l' (new ++ log)]
      show _ = (((f why).exec ⟨l', new⟩).1, World.mk ((f why).exec ⟨l', new⟩).2.ledger
        (((f why).exec ⟨l', new⟩).2.log ++ log))
      rw [ihf why l' new, List.append_assoc]

end Vesting.Act
