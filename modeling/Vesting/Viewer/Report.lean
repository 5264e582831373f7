/-
# What the viewer asks for

A contract loaded from its cluster, or played through on a bank.  Faults that a user can do
something about are for the viewer to show.
-/
import Vesting.Client
import Vesting.Seeds.Phrase
import Vesting.Settings.Files
import Vesting.Simulation

namespace Vesting

open Session

/-- A contract loaded from a cluster. -/
structure Loaded where
  contract : Contract
  /-- What is due of it. -/
  vested : Nat
  rpcUrl : String

namespace Loaded

/-- A loaded contract by the names of its parts. -/
def toDatum (l : Loaded) : Datum :=
  .table (l.contract.fields ++ [("vested", .int l.vested), ("rpc_url", .text l.rpcUrl)])

/-- What to say about a loaded contract. -/
def message (l : Loaded) : String := s!"Loaded {l.contract.address.text}"

end Loaded

namespace Report

/-- The fault is shown in the viewer. -/
def isShown (why : Fault) : Bool := why.isRejection || why.isValue || why.isSystem

/-- The settings that are named, or the usual ones, and the cluster that they choose. -/
def settingsAndTarget (name : Option String) : Session (Settings × Target) := do
  let given := name.filter fun s => !s.isEmpty
  let settings ← Settings.load (Path.ofText (given.getD Settings.defaultName))
  return (settings, ← Target.resolve (some settings) {})

/-- Loads the contract of settings. -/
def load (name : Option String) (time : Int) : Session Loaded := do
  let (settings, target) ← settingsAndTarget name
  match settings.contract.seed with
  | none => fail (.invalid .seedUnset)
  | some seed =>
    let (_, address) ← orFail (Seeds.resolve seed target.program)
    call (.connect target.rpcUrl)
    let contract ← Client.fetch address
    return ⟨contract, contract.vestedAt time, target.rpcUrl⟩

/-- Plays the contract of settings through. -/
def simulate (cast : Cast) (name : Option String) (time : Int) : Session Simulation := do
  let (settings, target) ← settingsAndTarget name
  Simulation.play cast target.program settings.contract time

end Report
end Vesting
