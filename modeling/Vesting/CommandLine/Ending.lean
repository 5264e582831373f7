/-
# Runs of the program

A run reads its arguments, does what they ask for and ends with a code and an output.  A value that
cannot be used, a file that is not there and a refusal end it with their wording; every other
fault breaks it off.
-/
import Vesting.CommandLine.Errand
import Vesting.Json.Printer
import Vesting.Simulation

namespace Vesting.CommandLine

open Session

/-! ## 1. Endings -/

/-- How a run ends. -/
structure Ending where
  code : Nat
  output : String := ""
  /-- The viewer is to be opened on these settings and at this time. -/
  viewer : Option (Option (Entry String) × Option (Entry Int)) := none

namespace Ending

/-- An ending that all went well with, and what there is to say. -/
def done (line : String) : Ending := { code := 0, output := line ++ "\n" }

/-- An ending with nothing done, and why. -/
def declined (line : String) : Ending := { code := 1, output := line ++ "\n" }

/-- An ending for whoever gave no proper arguments. -/
def stopped : Stop → Ending
  | .help => { code := 0 }
  | .usage => { code := 2 }

/-! ## 2. Settings -/

/-- Writes settings to start from. -/
def startSettings (path : String) (force : Bool) (program rpcUrl payer : Option String) :
    Session Ending := do
  let p := Path.ofText path
  if (← holds p) && !force then
    return .declined s!"{p.text} already exists (use --force to overwrite)"
  let program ← match given? program with
    | some text => Key.text <$> orFail (Key.read "program_id" (.text text))
    | none => pure Key.vestingProgramText
  let rpcUrl := (given? rpcUrl).getD Settings.defaultUrl
  let payer := (given? payer).getD Settings.defaultPayer
  Settings.store p (Settings.starter (.text program) (.text rpcUrl) (.text payer))
  return .done s!"Wrote {p.text}"

/-- The contract of settings, for people to read. -/
def contractSummary (c : ContractSettings) : Datum :=
  .table [
    ("seed", .ofText? c.seed), ("mint", .ofText? (c.mint.map Key.text)),
    ("destination", .ofText? (c.destination.map Key.text)),
    ("source", .ofText? (c.source.map Key.text)), ("source_owner", .ofText? c.sourceOwner),
    ("schedules", .int c.tranches.length)]

/-- Settings and what follows from them, for people to read. -/
def settingsSummary (settings : Option Settings) (target : Target) : Datum :=
  .table ([
    ("config", .ofText? (settings.map fun s => s.path.text)), ("rpc_url", .text target.rpcUrl),
    ("program_id", .text target.program.text), ("payer", .ofText? target.payer)]
    ++ (settings.map fun s => ("contract", contractSummary s.contract)).toList)

/-- Shows settings and what follows from them. -/
def showSettings (name : Option String) (flags : Target.Flags) : Session Ending := do
  let settings ← findSettings name
  let target ← Target.resolve settings flags
  return .done (Json.pretty (settingsSummary settings target))

/-- The program that is named, or that of the settings. -/
def findProgram (name program : Option String) : Session Key := do
  let target ← Target.resolve (← findSettings name) { program }
  return target.program

/-! ## 3. Seeds and commands -/

/-- Shows seeds and their address. -/
def showSeeds (text : String) (name program : Option String) : Session Ending := do
  let (seeds, address) ← orFail (Seeds.resolve text (← findProgram name program))
  return .done (Json.pretty (.table [
    ("seeds", .text (Hex.encode seeds.bytes)), ("vesting_address", .text address.text)]))

/-- The command of a blueprint; the one kind without seeds needs no program either. -/
def buildCommand (b : Blueprint) (name program : Option String) : Session Command := do
  match b.kind with
  | .empty => orFail b.empty
  | _ =>
    let text ← orFail b.seedText
    let (seeds, _) ← orFail (Seeds.resolve text (← findProgram name program))
    orFail (b.seeded seeds)

/-- The text of a command's bytes. -/
def bytesText (base64 : Bool) (data : Bytes) : String :=
  if base64 then Base64.encode data else Hex.encode data

/-- Shows the bytes of a command. -/
def encode (b : Blueprint) (base64 : Bool) (name program : Option String) : Session Ending := do
  let c ← buildCommand b name program
  return .done (bytesText base64 c.encode)

/-- Shows the command in bytes. -/
def decode (text : String) (base64 strict : Bool) : Session Ending := do
  let c ← orFail do Command.decode strict (← Command.bytesOfText base64 text)
  return .done (Json.pretty c.toDatum)

/-! ## 4. Contracts -/

/-- The contract whose bytes are in a file. -/
def contractInFile (path : String) (address : Option String) : Session Contract := do
  let data ← readBytes (Path.ofText path)
  let address ← match given? address with
    | some text => orFail (Key.read "address" (.text text))
    | none => pure Key.zero
  orFail (Contract.decode address data)

/-- The contract on a cluster. -/
def contractOnCluster (settings : Option Settings) (flags : Target.Flags)
    (seed address : Option String) : Session Contract := do
  let target ← Target.resolve settings flags
  let address ← match given? address with
    | some text => orFail (Key.read "address" (.text text))
    | none => orFail do return (← Seeds.resolve (← seedText seed settings) target.program).2
  call (.connect target.rpcUrl)
  Client.fetch address

/-- The lines about a contract. -/
def contractLines (c : Contract) : List String :=
  [s!"address:      {c.address.text}",
   s!"destination:  {c.header.destination.text}",
   s!"mint:         {c.header.mint.text}",
   "initialized:  " ++ (if c.header.initialized then "True" else "False"),
   s!"locked total: {c.totalLocked}"]
  ++ c.tranches.mapIdx fun i t => s!"  [{i}] release_time={t.releaseTime} amount={t.amount}"

/-- What a contract would pay out at a time.  No tranche can be compared with an empty time. -/
def vestedAt (c : Contract) : Entry Int → Except Fault Nat
  | .value time => .ok (c.vestedAt time)
  | .blank => if c.tranches.isEmpty then .ok 0 else .error .wrongType

/-- The field that tells what a contract would pay out at a time. -/
def vestedField (c : Contract) (time : Entry Int) : Except Fault (String × Datum) := do
  let amount ← vestedAt c time
  return ("vested_at", .table [("time", time.toDatum .int), ("amount", .int amount)])

/-- Shows a contract. -/
def showContract (name : Option String) (flags : Target.Flags) (seed address file : Option String)
    (time : Option (Entry Int)) (json : Bool) : Session Ending := do
  let settings ← findSettings name
  let c ← match given? file with
    | some path => contractInFile path address
    | none => contractOnCluster settings flags seed address
  let vested ← orFail (time.toList.mapM (vestedField c))
  if json then return .done (Json.pretty (.table (c.fields ++ vested)))
  return .done ("\n".intercalate (contractLines c))

/-- Plays a contract through.  With an empty time it is set up, but no tranche can be compared. -/
def simulate (cast : Cast) (name program : Option String) (time : Entry Int) : Session Ending := do
  let settings ← Settings.load (Path.ofText (settingsName name))
  let target ← Target.resolve (some settings) { program }
  match time with
  | .value time =>
    let s ← Simulation.play cast target.program settings.contract time
    return .done (Json.pretty s.toDatum)
  | .blank =>
    Simulation.prepare cast target.program settings.contract
    fail .wrongType

end Ending

/-! ## 5. Runs -/

/-- Does what is asked for. -/
def Request.run (cast : Cast) : Request → Session Ending
  | .startSettings path force program rpcUrl payer =>
    Ending.startSettings path force program rpcUrl payer
  | .showSettings settings flags => Ending.showSettings settings flags
  | .seeds text settings program => Ending.showSeeds text settings program
  | .encode blueprint base64 settings program =>
    Ending.encode blueprint base64 settings program
  | .decode text base64 strict => Ending.decode text base64 strict
  | .showContract settings flags seed address file time json =>
    Ending.showContract settings flags seed address file time json
  | .simulate settings program time => Ending.simulate cast settings program time
  | .send sending errand => Ending.done <$> errand.run sending
  | .view settings time => return { code := 0, viewer := some (settings, time) }

/-- The fault ends a run in good order. -/
def isReported (why : Fault) : Bool := why.isMissingFile || why.isRejection || why.isValue

/-- Runs the program on its arguments. -/
def run (cast : Cast) (args : List String) : Session Ending :=
  match Request.read args with
  | .error stop => return .stopped stop
  | .ok (request, _) =>
    tryCatch (request.run cast) fun why =>
      if isReported why then return .declined why.message else fail why

end Vesting.CommandLine
