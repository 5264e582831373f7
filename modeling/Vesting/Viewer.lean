/-
# The viewer

The viewer shows one contract: a summary, a table of its tranches and a panel of log lines.  Its
state is a value, and what happens to it are functions on that value.
-/
import Vesting.Viewer.Markup
import Vesting.Viewer.Report

namespace Vesting

/-! ## 1. The table -/

/-- What has become of a tranche. -/
inductive Status
  | released
  | unlockable
  | locked
deriving DecidableEq, Repr

/-- The word for a status. -/
def Status.text : Status → String
  | released => "released"
  | unlockable => "unlockable"
  | locked => "locked"

/-- A line of the table.  It has room for any integers, not only those that a tranche can hold. -/
structure Row where
  index : Nat
  releaseTime : Int
  amount : Int
  status : Status
deriving DecidableEq

namespace Row

/-- What has become of an amount by a time. -/
def statusOf (now releaseTime amount : Int) : Status :=
  if amount = 0 then .released
  else if releaseTime ≤ now then .unlockable
  else .locked

/-- The cells of a line. -/
def cells (r : Row) : List String :=
  [toString r.index, toString r.releaseTime, toString r.amount, r.status.text]

/-- The lines for release times and amounts. -/
def ofPairs (now : Int) (pairs : List (Int × Int)) : List Row :=
  pairs.mapIdx fun i (releaseTime, amount) =>
    ⟨i, releaseTime, amount, statusOf now releaseTime amount⟩

/-- The lines for tranches. -/
def ofTranches (now : Int) (ts : List Tranche) : List Row :=
  ofPairs now (ts.map fun t => (t.releaseTime.toNat, t.amount.toNat))

end Row

/-! ## 2. The state -/

/-- What the viewer shows, and what it goes by. -/
structure Viewer where
  /-- The settings to look at, unless it is the usual ones. -/
  settings : Option String := none
  /-- The time to look at, unless it is the present. -/
  time : Option Int := none
  /-- The least level of events that are told at all, as it was asked for. -/
  threshold : Int := Level.warning.number
  summary : String := ""
  columns : List String := []
  rows : List Row := []
  /-- The lines of the panel, the latest first. -/
  lines : List String := []
  /-- How many listeners write events to the panel. -/
  listeners : Nat := 0
  /-- The latest of them still listens. -/
  listening : Bool := false

namespace Viewer

/-- The time to look at. -/
def now (clock : Int) (v : Viewer) : Int := v.time.getD clock

/-- Adds a line to the panel. -/
def write (l : Level) (message : String) (v : Viewer) : Viewer :=
  { v with lines := Markup.line l message :: v.lines }

/-- An event is told, and matters enough for the panel. -/
def tells (v : Viewer) (e : Event) : Bool :=
  Level.least v.threshold ≤ e.level.number && Level.info.number ≤ e.level.number

/-- An event as it stands in the panel. -/
def eventText (e : Event) : String := e.source.name ++ ": " ++ e.text

/-- Every listener writes an event to the panel. -/
def hear (v : Viewer) (e : Event) : Viewer :=
  if v.tells e then
    { v with lines :=
        List.replicate v.listeners (Markup.line e.level (eventText e)) ++ v.lines }
  else v

/-- Shows release times and amounts in the table. -/
def fill (now : Int) (pairs : List (Int × Int)) (v : Viewer) : Viewer :=
  { v with rows := Row.ofPairs now pairs }

/-- Shows tranches in the table. -/
def fillTranches (now : Int) (ts : List Tranche) (v : Viewer) : Viewer :=
  { v with rows := Row.ofTranches now ts }

/-! ## 3. Summaries -/

/-- The name of something in a summary. -/
def label (name : String) : String := Markup.coloured .info (name ++ ":") ++ " "

/-- The summary where no contract is loaded. -/
def emptySummary : String := Markup.coloured .error "No contract loaded"

/-- The summary of a loaded contract. -/
def loadedSummary (now : Int) (l : Loaded) : String :=
  "\n".intercalate [
    label "address" ++ l.contract.address.text,
    label "destination" ++ l.contract.header.destination.text,
    label "mint" ++ l.contract.header.mint.text,
    label "locked" ++ toString l.contract.totalLocked ++ "  "
      ++ label s!"unlockable at {now}" ++ toString l.vested]

/-- The summary of a simulation. -/
def simulationSummary (now : Int) (s : Simulation) : String :=
  "\n".intercalate ([
    label "simulated address" ++ s.address.text,
    label "escrow" ++ toString s.escrow ++ "  " ++ label "destination" ++ toString s.destination]
    ++ (s.refusal.map fun why =>
      Markup.coloured .warning s!"unlock at {now}: {why.text}").toList)

/-! ## 4. What can happen -/

/-- Shows a loaded contract. -/
def showLoaded (now : Int) (l : Loaded) (v : Viewer) : Viewer :=
  let v := v.write .success l.message
  { v with summary := loadedSummary now l }.fillTranches now l.contract.tranches

/-- Shows why no contract could be loaded; the table stays as it is. -/
def showLoadFault (why : Fault) (v : Viewer) : Viewer :=
  let v := v.write .error why.message
  { v with summary := emptySummary }

/-- Shows a simulation. -/
def showSimulation (now : Int) (s : Simulation) (v : Viewer) : Viewer :=
  let v := v.write .success Simulation.message
  { v with summary := simulationSummary now s }.fillTranches now s.tranches

/-- Shows why a simulation failed; summary and table stay as they are. -/
def showSimulationFault (why : Fault) (v : Viewer) : Viewer := v.write .error why.message

/-- The titles of the table's columns. -/
def titles : List String := ["#", "release time", "amount", "status"]

/-- Adds the columns, and listens to events. -/
def listen (v : Viewer) : Viewer :=
  { v with columns := v.columns ++ titles, listeners := v.listeners + 1, listening := true }

/-- The latest listener stops. -/
def unmount (v : Viewer) : Viewer :=
  if v.listening then { v with listeners := v.listeners - 1, listening := false } else v

end Viewer

/-! ## 5. The viewer in a session -/

/-- A viewer and the session that it is part of. -/
structure Viewing where
  viewer : Viewer
  machine : Machine

namespace Viewing

/-- Changes the viewer. -/
def update (w : Viewing) (f : Viewer → Viewer) : Viewing := { w with viewer := f w.viewer }

/-- Runs a session; the viewer hears its events. -/
def attend {α : Type} (w : Viewing) (s : Session α) : Except Fault α × Viewing :=
  let (result, m) := s.run.run { w.machine with log := [] }
  let events := m.log.reverse
  (result, ⟨events.foldl Viewer.hear w.viewer, { m with log := m.log ++ w.machine.log }⟩)

/-- Loads the contract anew. -/
def reload (clock : Int) (w : Viewing) : Except Fault Unit × Viewing :=
  let now := w.viewer.now clock
  match w.attend (Report.load w.viewer.settings now) with
  | (.ok l, w) => (.ok (), w.update (Viewer.showLoaded now l))
  | (.error why, w) =>
    if Report.isShown why then (.ok (), w.update (Viewer.showLoadFault why)) else (.error why, w)

/-- Plays the contract through. -/
def simulate (cast : Cast) (clock : Int) (w : Viewing) : Except Fault Unit × Viewing :=
  let now := w.viewer.now clock
  match w.attend (Report.simulate cast w.viewer.settings now) with
  | (.ok s, w) => (.ok (), w.update (Viewer.showSimulation now s))
  | (.error why, w) =>
    if Report.isShown why then (.ok (), w.update (Viewer.showSimulationFault why))
    else (.error why, w)

/-- Starts the viewer. -/
def mount (clock : Int) (w : Viewing) : Except Fault Unit × Viewing :=
  (w.update Viewer.listen).reload clock

end Viewing
end Vesting
