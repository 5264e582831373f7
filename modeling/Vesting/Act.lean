/-
# Acts on a ledger

An `Act` reads and changes a ledger, logs events, and may be broken off by a fault.  What it has
changed and logged until then stays: whether a fault undoes the changes is for others to say.
-/
import Vesting.Ledger
import Vesting.Log
import Vesting.Fault

namespace Vesting

/-- What an act works on. -/
structure World where
  ledger : Ledger
  /-- The events so far, the latest first. -/
  log : List Event := []

/-- A computation on a ledger. -/
abbrev Act := ExceptT Fault (StateM World)

namespace Act

variable {α : Type}

/-- Logs an event. -/
def note (e : Event) : Act Unit := modify fun w => { w with log := e :: w.log }

/-- Logs events, the first one first. -/
def noteAll (es : List Event) : Act Unit := modify fun w => { w with log := es.reverse ++ w.log }

/-- Breaks off. -/
def fail (why : Fault) : Act α := throw why

/-- Goes on with a result, or breaks off. -/
def orFail : Except Fault α → Act α
  | .ok a => pure a
  | .error why => fail why

/-- Logs a condition that does not hold, and breaks off. -/
def refuse (why : Rejection) : Act α := do
  note (.failed why)
  fail (.rejected why)

/-- Refuses unless a condition holds. -/
def demand (p : Prop) [Decidable p] (why : Rejection) : Act Unit :=
  if p then pure () else refuse why

/-- Breaks off unless a condition holds, without a word in the log. -/
def require (p : Prop) [Decidable p] (why : Rejection) : Act Unit :=
  if p then pure () else fail (.rejected why)

/-- The account of a key. -/
def account (key : Key) : Act Account := return (← get).ledger.account key

/-- Stores an account. -/
def store (key : Key) (a : Account) : Act Unit :=
  modify fun w => { w with ledger := w.ledger.insert key a }

end Act
end Vesting
