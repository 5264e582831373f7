/-
# What the vesting program logs

An `Event` is something worth telling about a run.  Its level, the part of the program that tells
it and its wording are functions of the event.
-/
import Vesting.Rejection
import Vesting.Tranche

namespace Vesting

/-! ## 1. Levels and sources -/

/-- How much an event matters. -/
inductive Level
  | debug
  | info
  | success
  | warning
  | error
deriving DecidableEq, Repr

namespace Level

/-- Levels as numbers, so that others fit in between. -/
def number : Level → Nat
  | debug => 10
  | info => 20
  | success => 25
  | warning => 30
  | error => 40

/-- The name of a level. -/
def name : Level → String
  | debug => "DEBUG"
  | info => "INFO"
  | success => "SUCCESS"
  | warning => "WARNING"
  | error => "ERROR"

/-- All levels, from the lowest on. -/
def all : List Level := [debug, info, success, warning, error]

/-- The names by which the least level to be told is asked for. -/
def thresholds : List (String × Int) :=
  [("CRITICAL", 50), ("FATAL", 50), ("ERROR", 40), ("WARN", 30), ("WARNING", 30), ("INFO", 20),
   ("DEBUG", 10), ("NOTSET", 0)]

/-- The least level of a name, as a number. -/
def threshold (name : String) : Except Fault Int :=
  match thresholds.lookup name with
  | some n => .ok n
  | none => .error (.invalid (.unknownLevel name))

/-- The least level to be told where `n` is asked for; zero asks for nothing, and then warnings
are told. -/
def least (n : Int) : Int := if n = 0 then warning.number else n

end Level

/-- The part of the program that tells an event. -/
inductive Source
  | engine
  | gate
  | bank
  | client
deriving DecidableEq, Repr

/-- The name under which a part of the program logs. -/
def Source.name : Source → String
  | engine => "token_vesting.processor"
  | gate => "token_vesting.entrypoint"
  | bank => "token_vesting.host"
  | client => "token_vesting.client"

/-! ## 2. Events -/

/-- Something worth telling about a run. -/
inductive Event
  /-- A command has been read. -/
  | started (kind : Command.Kind)
  /-- An empty command has arrived. -/
  | emptySeen (number : UInt32)
  /-- A record is about to be opened. -/
  | opening (record : Key) (size : Nat) (lamports : Int)
  /-- A contract has been set up. -/
  | created (record : Key) (count total : Nat)
  /-- A tranche is compared with the clock. -/
  | trancheSeen (now : Int) (tranche : Tranche)
  /-- What is due is about to be paid out. -/
  | releasing (balance total : Nat)
  /-- What is due has been paid out. -/
  | released (total : Nat) (record destination : Key)
  /-- A contract has another destination. -/
  | redirected (old new : Key)
  /-- A condition does not hold. -/
  | failed (why : Rejection)
  /-- A command has been refused. -/
  | refused (why : Rejection)
  /-- An account has been opened. -/
  | opened (account : Key) (size lamports : Int)
  /-- Tokens have been moved. -/
  | moved (amount : Int) (source destination : Key)
  /-- A cluster has confirmed a transaction. -/
  | confirmed (signature : String)
deriving DecidableEq

namespace Event

/-- How much an event matters. -/
def level : Event → Level
  | started _ | emptySeen _ | created .. | released .. | redirected .. | confirmed _ => .info
  | opening .. | trancheSeen .. | releasing .. | opened .. | moved .. => .debug
  | failed _ | refused _ => .warning

/-- Who tells an event. -/
def source : Event → Source
  | refused _ => .gate
  | opened .. | moved .. => .bank
  | confirmed _ => .client
  | _ => .engine

/-- The wording of an event. -/
def text : Event → String
  | started kind => s!"instruction: {kind.name}"
  | emptySeen number => s!"empty instruction, number is {number}"
  | opening record size lamports =>
    s!"creating vesting record {record}: {size} bytes, {lamports} lamports"
  | created record count total =>
    s!"vesting contract {record} created: {count} tranches, {total} locked"
  | trancheSeen now tranche =>
    s!"clock {now}, release time {tranche.releaseTime}, amount {tranche.amount}"
  | releasing balance total => s!"escrow balance {balance}, releasing {total}"
  | released total record destination => s!"released {total} from {record} to {destination}"
  | redirected old new => s!"destination changed from {old} to {new}"
  | failed why => why.message
  | refused why => s!"instruction rejected: {why.text}"
  | opened account size lamports => s!"created {account} ({size} bytes, {lamports} lamports)"
  | moved amount source destination =>
    s!"transferred {amount} from {source} to {destination}"
  | confirmed signature => s!"confirmed {signature}"

end Event
end Vesting
