/-
# Which cluster, program and payer

Each of the three is looked for in several places, and the first place where it is not blank
counts: the command line, the environment, the settings, the configuration of the command-line
tools, and at last a default.
-/
import Vesting.Settings
import Vesting.Text.Lines

namespace Vesting

/-- A cluster, the program on it, and who pays. -/
structure Target where
  rpcUrl : String
  program : Key
  payer : Option String
deriving DecidableEq

namespace Target

/-! ## 1. Places to look -/

/-- What the command line says. -/
structure Flags where
  cluster : Option String := none
  rpcUrl : Option String := none
  program : Option String := none
  payer : Option String := none
deriving DecidableEq

/-- The clusters that have names. -/
def clusters : List (String × String) :=
  [("localnet", Settings.defaultUrl), ("devnet", "https://api.devnet.solana.com"),
   ("mainnet", "https://api.mainnet-beta.solana.com")]

/-- The variable that names a cluster. -/
def urlVariable : String := "VESTING_RPC_URL"

/-- The variable that names a program. -/
def programVariable : String := "VESTING_PROGRAM_ID"

/-- The variable that names a payer. -/
def payerVariable : String := "VESTING_PAYER_KEYPAIR"

/-- The variables that name the tools' configuration, the first one first. -/
def toolVariables : List String := ["SOLANA_CONFIG", "SOLANA_CONFIG_FILE"]

/-- All variables that make a difference. -/
def variableNames : List String :=
  ["HOME", urlVariable, programVariable, payerVariable] ++ toolVariables

/-- A quotation mark. -/
def isQuote (c : Char) : Bool := c = '"' || c = '\''

/-- The key and the value on a line of the tools' configuration, if there are any. -/
def toolLine? (line : List Char) : Option (String × String) :=
  let line := Text.trim line
  if line.isEmpty || line.head? = some '#' then none
  else match Text.cut? ':' line with
    | none => none
    | some (key, value) =>
      let key := Text.trim key
      let value := Text.trimWhile isQuote (Text.trim value)
      if key.isEmpty then none else some (String.ofList key, String.ofList value)

/-- The entries of the tools' configuration; of those with the same key the last counts. -/
def toolEntries (text : List Char) : List (String × String) :=
  ((Text.lines text).filterMap toolLine?).foldl
    (fun entries e => Datum.setEntry e.1 e.2 entries) []

/-- Where the tools' configuration is. -/
def toolPath (env : Environment) : Except Fault Path :=
  let given (name : String) := (env.get? name).filter fun s => !s.isEmpty
  match toolVariables.findSome? given with
  | some path => .ok (Path.ofText path)
  | none => do
    let home ← (Path.ofText "~").expand env
    return home.append (Path.ofText ".config/solana/cli/config.yml")

/-! ## 2. The choice -/

/-- The first candidate that is not blank, without the blanks around it. -/
def first? (candidates : List (Option String)) : Option String :=
  candidates.findSome? fun c => c.bind Text.nonBlank?

/-- The address of a named cluster. -/
def namedUrl? (flags : Flags) : Option String := flags.cluster.bind fun name => clusters.lookup name

/-- The places where the address of the cluster is looked for. -/
def urlCandidates (env : Environment) (tools : List (String × String))
    (settings : ClusterSettings) (flags : Flags) : List (Option String) :=
  [flags.rpcUrl, namedUrl? flags, env.get? urlVariable, settings.rpcUrl,
   tools.lookup "json_rpc_url"]

/-- The places where the program is looked for. -/
def programCandidates (env : Environment) (settings : ClusterSettings) (flags : Flags) :
    List (Option String) :=
  [flags.program, env.get? programVariable, settings.program]

/-- The places where the payer is looked for. -/
def payerCandidates (env : Environment) (tools : List (String × String))
    (settings : ClusterSettings) (flags : Flags) : List (Option String) :=
  [flags.payer, env.get? payerVariable, settings.payer, tools.lookup "keypair_path"]

/-- The path of a payer, its home folder filled in. -/
def payerPath (env : Environment) : Option String → Except Fault (Option String)
  | none => .ok none
  | some s => do return some ((← (Path.ofText s).expand env).text)

/-- The name of a cluster that has no address. -/
def unknownCluster? (flags : Flags) : Option String :=
  flags.cluster.filter fun name => !name.isEmpty && (clusters.lookup name).isNone

/-- Chooses the cluster, the program and the payer. -/
def choose (env : Environment) (tools : List (String × String)) (settings : ClusterSettings)
    (flags : Flags) : Except Fault Target :=
  match unknownCluster? flags with
  | some name => .error (.invalid (.unknownCluster name))
  | none => do
    let rpcUrl := (first? (urlCandidates env tools settings flags)).getD Settings.defaultUrl
    let program :=
      (first? (programCandidates env settings flags)).getD Key.vestingProgramText
    let payer ← payerPath env (first? (payerCandidates env tools settings flags))
    return { rpcUrl, program := ← Key.read "program_id" (.text program), payer }

end Target
end Vesting
