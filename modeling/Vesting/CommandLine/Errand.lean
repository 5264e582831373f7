/-
# Sending from the command line

Every errand starts in the same way: it finds the settings, the cluster, the payer and the seeds,
and only then turns to the cluster.
-/
import Vesting.Client
import Vesting.CommandLine.Blueprint
import Vesting.Seeds.Phrase
import Vesting.Settings.Files

namespace Vesting.CommandLine

open Session

/-! ## 1. Common ground -/

/-- The settings that are named, or those in the usual place if there are any. -/
def findSettings (name : Option String) : Session (Option Settings) := do
  match given? name with
  | some name => return some (← Settings.load (Path.ofText name))
  | none =>
    let usual := Path.ofText Settings.defaultName
    if ← holds usual then return some (← Settings.load usual) else return none

/-- The name of the settings, or of the usual ones if none is given. -/
def settingsName (name : Option String) : String := (given? name).getD Settings.defaultName

/-- The seed that is given, or that of the settings. -/
def seedText (seed : Option String) (settings : Option Settings) : Except Fault String :=
  match given? seed <|> settings.bind fun s => s.contract.seed with
  | some text => .ok text
  | none => .error (.invalid .noSeed)

/-- What an errand goes by. -/
structure Context where
  settings : Option Settings
  target : Target
  payer : Keypair
  seeds : Seeds
  vesting : Key

/-- Finds what an errand goes by, and connects. -/
def Sending.context (s : Sending) : Session Context := do
  let settings ← findSettings s.settings
  let target ← Target.resolve settings s.flags
  match target.payer with
  | none => fail (.invalid .noPayer)
  | some path =>
    let payer ← Client.loadKeypair path
    let (seeds, vesting) ← orFail do Seeds.resolve (← seedText s.seed settings) target.program
    call (.connect target.rpcUrl)
    return { settings, target, payer, seeds, vesting }

/-! ## 2. Errands -/

/-- The keypair in a file that may be given, or else the payer's. -/
def keypairOr (payer : Keypair) (path : Option String) : Session Keypair :=
  match given? path with
  | some path => Client.loadKeypair path
  | none => pure payer

/-- The keys that a contract lacks, by name. -/
def missingKeys (c : ContractSettings) : List String :=
  [("mint", c.mint), ("destination", c.destination), ("source", c.source)].filterMap fun e =>
    if e.2.isNone then some e.1 else none

/-- Creates the contract of the settings. -/
def sendCreate (name : Option String) (c : Context) : Session String :=
  match c.settings with
  | none => fail (.noSettings (settingsName name))
  | some settings =>
    let contract := settings.contract
    match contract.source, contract.destination, contract.mint with
    | some source, some destination, some mint => do
      if contract.tranches.isEmpty then fail (.invalid .createSchedules)
      let owner ← keypairOr c.payer contract.sourceOwner
      Client.sendCreate c.target.program c.payer owner source destination mint contract.tranches
        c.seeds c.vesting
    | _, _, _ => fail (.invalid (.createKeys (missingKeys contract)))

/-- How many tranches to make room for: as many as given, or as many as the settings have. -/
def trancheCount (count : Option (Entry Int)) (settings : Option Settings) : Entry Int :=
  count.getD (.value ((settings.map fun s => s.contract.tranches.length).getD 0))

/-- Runs an errand and gives the signature of what was sent. -/
def Errand.run (sending : Sending) (errand : Errand) : Session String := do
  let c ← sending.context
  match errand with
  | .init count =>
    let count ← orFail (readCount "number_of_schedules" (trancheCount count c.settings))
    Client.sendInit c.target.program c.payer c.seeds c.vesting count
  | .create => sendCreate sending.settings c
  | .unlock => Client.sendUnlock c.target.program c.payer c.seeds c.vesting
  | .changeDestination owner target =>
    let owner ← keypairOr c.payer owner
    let target ← orFail (Key.read "new_destination" (.text target))
    Client.sendChangeDestination c.target.program c.payer owner target c.seeds c.vesting

end Vesting.CommandLine
