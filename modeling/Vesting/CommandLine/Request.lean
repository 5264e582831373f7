/-
# What can be asked for

The commands of the program, each with what may be given with it.
-/
import Vesting.Command.Kind
import Vesting.CommandLine.Grammar
import Vesting.Log
import Vesting.Settings.Target

namespace Vesting.CommandLine

/-! ## 1. Requests -/

/-- What to encode. -/
structure Blueprint where
  kind : Command.Kind
  seeds : Option String := none
  number : Entry Int := .value 0
  mint : Option String := none
  destination : Option String := none
  tranches : List String := []

/-- How a request that goes to a cluster finds its contract. -/
structure Sending where
  settings : Option String := none
  flags : Target.Flags := {}
  seed : Option String := none

/-- What is sent. -/
inductive Errand
  | init (count : Option (Entry Int))
  | create
  | unlock
  | changeDestination (owner : Option String) (destination : String)

/-- What a run of the program is to do. -/
inductive Request
  /-- Write settings to start from. -/
  | startSettings (path : String) (force : Bool) (program rpcUrl payer : Option String)
  /-- Show settings and what follows from them. -/
  | showSettings (settings : Option String) (flags : Target.Flags)
  /-- Show seeds and their address. -/
  | seeds (text : String) (settings program : Option String)
  /-- Show the bytes of a command. -/
  | encode (blueprint : Blueprint) (base64 : Bool) (settings program : Option String)
  /-- Show the command in bytes. -/
  | decode (text : String) (base64 strict : Bool)
  /-- Show a contract. -/
  | showContract (settings : Option String) (flags : Target.Flags)
      (seed address file : Option String) (time : Option (Entry Int)) (json : Bool)
  /-- Play a contract through. -/
  | simulate (settings program : Option String) (time : Entry Int)
  /-- Send a command to a cluster. -/
  | send (sending : Sending) (errand : Errand)
  /-- Open the viewer. -/
  | view (settings : Option (Entry String)) (time : Option (Entry Int))

/-! ## 2. The grammar -/

/-- Where the settings are. -/
def settingsField : Field := { name := "config" }

/-- Which program it is about. -/
def programField : Field := { name := "program-id" }

/-- Who pays. -/
def payerField : Field := { name := "payer" }

/-- Which seed it is about. -/
def seedField : Field := { name := "seed" }

/-- A time. -/
def timeField : Field := { name := "at", shape := .integer }

/-- Which cluster it is about. -/
def clusterFields : List Field :=
  [settingsField, { name := "cluster", shape := .oneOf (Target.clusters.map Prod.fst) },
    { name := "rpc-url" }, programField]

/-- The word for each kind of command. -/
def kindWords : List (String × Command.Kind) :=
  [("init", .init), ("create", .create), ("unlock", .unlock),
    ("change-destination", .changeDestination), ("empty", .empty)]

/-- The commands that deal with settings. -/
def settingsGrammar : Grammar :=
  .branch {} [
    ("init", .leaf
      { marks := [{ name := "force" }],
        fields := [programField, { name := "rpc-url" }, payerField] }
      (some { name := "path", required := false })),
    ("show", .leaf { fields := clusterFields ++ [payerField] } none)]

/-- The commands that send something. -/
def sendGrammar : Grammar :=
  let common := clusterFields ++ [payerField, seedField]
  .branch {} [
    ("init", .leaf { fields := common ++ [{ name := "schedules", shape := .integer }] } none),
    ("create", .leaf { fields := common } none),
    ("unlock", .leaf { fields := common } none),
    ("change-destination",
      .leaf { fields := common ++ [{ name := "owner" }] } (some { name := "new_destination" }))]

/-- Everything that the program understands. -/
def grammar : Grammar :=
  .branch { marks := [{ name := "verbose", letter := some 'v' }] } [
    ("config", settingsGrammar),
    ("seeds", .leaf { fields := [settingsField, programField] } (some { name := "value" })),
    ("encode", .leaf
      { marks := [{ name := "base64" }],
        fields := [{ name := "seeds" }, { name := "number", shape := .integer }, { name := "mint" },
          { name := "destination" }, { name := "schedule" }, settingsField, programField] }
      (some { name := "kind", shape := .oneOf (kindWords.map Prod.fst) })),
    ("decode", .leaf { marks := [{ name := "base64" }, { name := "strict" }] }
      (some { name := "data" })),
    ("show", .leaf
      { marks := [{ name := "json" }],
        fields := clusterFields
          ++ [seedField, { name := "address" }, { name := "file" }, timeField] }
      none),
    ("simulate", .leaf { fields := [settingsField, programField, timeField] } none),
    ("send", sendGrammar),
    ("tui", .leaf { fields := [settingsField, timeField] } none)]

/-! ## 3. From arguments to requests -/

namespace Given

/-- What is given about the cluster. -/
def flags (g : Given) : Target.Flags where
  cluster := g.text? "cluster"
  rpcUrl := g.text? "rpc-url"
  program := g.text? "program-id"
  payer := g.text? "payer"

/-- What is given for sending. -/
def sending (g : Given) : Sending where
  settings := g.text? "config"
  flags := g.flags
  seed := g.text? "seed"

/-- How an option left empty reads where a text belongs. -/
def emptyText : String := "[]"

/-- What is given for encoding. -/
def blueprint (g : Given) (kind : Command.Kind) : Blueprint where
  kind := kind
  seeds := g.text? "seeds"
  number := (g.integer? "number").getD (.value 0)
  mint := g.text? "mint"
  destination := g.text? "destination"
  tranches := (g.texts "schedule").map fun e => e.toOption.getD emptyText

/-- The request that was made. -/
def request? (g : Given) : Option Request :=
  let settings := g.text? "config"
  let program := g.text? "program-id"
  match g.commands with
  | ["config", "init"] =>
    some (.startSettings ((g.text? "path").getD Settings.defaultName) (g.has "force") program
      (g.text? "rpc-url") (g.text? "payer"))
  | ["config", "show"] => some (.showSettings settings g.flags)
  | ["seeds"] => (g.text? "value").map fun text => .seeds text settings program
  | ["encode"] => do
    let kind ← kindWords.lookup (← g.text? "kind")
    some (.encode (g.blueprint kind) (g.has "base64") settings program)
  | ["decode"] => (g.text? "data").map fun text => .decode text (g.has "base64") (g.has "strict")
  | ["show"] =>
    some (.showContract settings g.flags (g.text? "seed") (g.text? "address") (g.text? "file")
      (g.integer? "at") (g.has "json"))
  | ["simulate"] => some (.simulate settings program ((g.integer? "at").getD (.value 0)))
  | ["send", "init"] => some (.send g.sending (.init (g.integer? "schedules")))
  | ["send", "create"] => some (.send g.sending .create)
  | ["send", "unlock"] => some (.send g.sending .unlock)
  | ["send", "change-destination"] =>
    (g.text? "new_destination").map fun target =>
      .send g.sending (.changeDestination (g.text? "owner") target)
  | ["tui"] => some (.view (g.lastText? "config") (g.integer? "at"))
  | _ => none

end Given

/-- The least level of the events that are to be told: the more often it is asked for, the lower. -/
def Given.threshold (g : Given) : Level :=
  match g.count "verbose" with
  | 0 => .warning
  | 1 => .info
  | _ => .debug

/-- The request in arguments, and the least level of the events to be told. -/
def Request.read (args : List String) : Except Stop (Request × Level) :=
  match grammar.read args with
  | .error stop => .error stop
  | .ok g =>
    match g.request? with
    | some request => .ok (request, g.threshold)
    | none => .error .usage

end Vesting.CommandLine
