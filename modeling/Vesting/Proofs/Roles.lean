/-
# Accounts by their roles

The commands find their accounts by position, and the position and the role of each stand side by
side in their definitions.  How an account is found is a parameter of these (`Engine.Finder`), so
the same commands can be given accounts by the roles that they play, and then no position counts
(`Engine.performAs`).  Which role goes with which position is said once more, and in one place: the
roles of each kind of command in order (`Command.Kind.roles`).

Both ways come to the same on every list of accounts, also on one that is too short
(`Engine.perform_eq_performAs`).  So two positions that were mixed up would show here, although
all accounts have the same type.
-/
import Vesting.Engine

namespace Vesting

open Act

/-! ## 1. Asking for roles -/

/-- Which account plays which role, as far as there is one. -/
abbrev Parts := Role → Option Key

namespace Engine

/-- The account that plays a role. -/
def ask (who : Parts) (role : Role) : Act Key :=
  match who role with
  | some key => pure key
  | none => refuse (.missingAccount role)

/-- Carries out a command for accounts in their roles, wherever they stand. -/
def performAs (host : Host) (signers : List Key) (who : Parts) (c : Command) : Act Unit := do
  (← planBy (fun _ => ask who) host signers c).carry host signers

end Engine

/-! ## 2. The order of the roles -/

/-- The roles that a command asks for, in the order in which its accounts are given. -/
def Command.Kind.roles : Command.Kind → List Role
  | .init => [.systemProgram, .rentSysvar, .payer, .vesting]
  | .create => [.tokenProgram, .vesting, .escrow, .sourceOwner, .source]
  | .unlock => [.tokenProgram, .clockSysvar, .vesting, .escrow, .destination]
  | .changeDestination => [.vesting, .currentDestination, .currentOwner, .newDestination]
  | .empty => []

/-- The roles of accounts that are given in order. -/
def Command.Kind.seat (kind : Command.Kind) (accounts : List Key) : Parts :=
  fun role => accounts[kind.roles.idxOf role]?

namespace Engine

variable (host : Host) (signers : List Key)

/-- **A command that is given accounts in order asks for their roles.** -/
theorem perform_eq_performAs (accounts : List Key) (c : Command) :
    perform host signers accounts c = performAs host signers (c.kind.seat accounts) c := by
  cases c with
  | init seeds count => rfl
  | create seeds mint destination tranches => rfl
  | unlock seeds => rfl
  | changeDestination seeds => rfl
  | empty number => rfl

/-- A command asks for its own roles only. -/
theorem performAs_congr {who who' : Parts} {c : Command}
    (h : ∀ role ∈ c.kind.roles, who role = who' role) :
    performAs host signers who c = performAs host signers who' c := by
  have hask : ∀ role ∈ c.kind.roles, ask who role = ask who' role := by
    intro role hrole
    rw [ask, ask, h role hrole]
  cases c with
  | init seeds count =>
    simp only [Command.kind, Command.Kind.roles, List.forall_mem_cons] at hask
    simp only [performAs, planBy, planInit, hask]
  | create seeds mint destination tranches =>
    simp only [Command.kind, Command.Kind.roles, List.forall_mem_cons] at hask
    simp only [performAs, planBy, planCreate, hask]
  | unlock seeds =>
    simp only [Command.kind, Command.Kind.roles, List.forall_mem_cons] at hask
    simp only [performAs, planBy, planUnlock, hask]
  | changeDestination seeds =>
    simp only [Command.kind, Command.Kind.roles, List.forall_mem_cons] at hask
    simp only [performAs, planBy, planChangeDestination, hask]
  | empty number => rfl

end Engine
end Vesting
