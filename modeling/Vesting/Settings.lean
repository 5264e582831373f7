/-
# Settings

A settings file names a cluster and describes a contract.  Reading one puts everything into one
form: blanks are cut off, what is blank counts as absent, and paths become absolute, seen from the
folder that holds the file.
-/
import Vesting.Path
import Vesting.Settings.Value

namespace Vesting

/-! ## 1. The parts of settings -/

/-- How to reach a cluster. -/
structure ClusterSettings where
  rpcUrl : Option String := none
  program : Option String := none
  payer : Option String := none
deriving DecidableEq

/-- What a contract is to hold. -/
structure ContractSettings where
  seed : Option String := none
  mint : Option Key := none
  destination : Option Key := none
  source : Option Key := none
  sourceOwner : Option String := none
  tranches : List Tranche := []
deriving DecidableEq

/-- Settings and where they stand. -/
structure Settings where
  path : Path
  cluster : ClusterSettings := {}
  contract : ContractSettings := {}
deriving DecidableEq

/-- The cluster table. -/
def ClusterSettings.toDatum (c : ClusterSettings) : Datum :=
  .table (Datum.optional "rpc_url" c.rpcUrl ++ Datum.optional "program_id" c.program
    ++ Datum.optional "payer" c.payer)

/-- The contract table. -/
def ContractSettings.toDatum (c : ContractSettings) : Datum :=
  .table (Datum.optional "seed" c.seed ++ Datum.optional "mint" (c.mint.map Key.text)
    ++ Datum.optional "destination" (c.destination.map Key.text)
    ++ Datum.optional "source" (c.source.map Key.text)
    ++ Datum.optional "source_owner" c.sourceOwner)

namespace Settings

/-- The name of a settings file where none is given. -/
def defaultName : String := "vesting.toml"

/-- The cluster that is used where none is named. -/
def defaultUrl : String := "http://127.0.0.1:8899"

/-- The keypair file of whoever pays where none is named. -/
def defaultPayer : String := "~/.config/solana/id.json"

/-! ## 2. Reading -/

/-- A path in settings, seen from the folder that holds them. -/
def resolvePath (env : Environment) (settings : Path) (raw : String) : Except Fault String := do
  let p ← (Path.ofText raw).expand env
  if p.isAbsolute then return p.text
  let place ← settings.resolve env
  return (← (place.parent.append p).resolve env).text

/-- A table inside settings; what is no table counts as an empty one. -/
def section? (data : Datum) (name : String) : Datum :=
  match data.field? name with
  | some (.table entries) => .table entries
  | _ => .table []

/-- A text of the cluster table, if it is there and not blank. -/
def clusterText (table : Datum) (name : String) : Except Fault (Option String) :=
  match (table.field? name).getD .null with
  | .null => .ok none
  | .text s => .ok (Text.nonBlank? s)
  | _ => .error (.invalid (.clusterNotText name))

/-- A text of the contract table, if it is there; `why` refuses any other value. -/
def contractText (table : Datum) (name : String) (why : Invalid) : Except Fault (Option String) :=
  match (table.field? name).getD .null with
  | .null => .ok none
  | .text s => .ok (if s.isEmpty then none else some s)
  | _ => .error (.invalid why)

/-- A key of the contract table, if it is there and not empty. -/
def contractKey (table : Datum) (name : String) : Except Fault (Option Key) :=
  match (table.field? name).getD .null with
  | .null => .ok none
  | .text "" => .ok none
  | value => some <$> Key.read s!"contract.{name}" value

/-- Resolves a path that may be absent. -/
def resolvePath? (env : Environment) (settings : Path) :
    Option String → Except Fault (Option String)
  | none => .ok none
  | some raw => some <$> resolvePath env settings raw

/-- Reads the cluster table. -/
def readCluster (env : Environment) (path : Path) (table : Datum) :
    Except Fault ClusterSettings := do
  let rpcUrl ← clusterText table "rpc_url"
  let program ← clusterText table "program_id"
  let payer ← clusterText table "payer"
  return { rpcUrl, program, payer := ← resolvePath? env path payer }

/-- Reads the contract table; `schedules` stand beside it. -/
def readContract (env : Environment) (path : Path) (table schedules : Datum) :
    Except Fault ContractSettings := do
  let seed ← contractText table "seed" .seedNotText
  let owner ← contractText table "source_owner" .ownerNotPath
  let mint ← contractKey table "mint"
  let destination ← contractKey table "destination"
  let source ← contractKey table "source"
  let sourceOwner ← resolvePath? env path owner
  let tranches ← Tranche.readAll schedules
  return { seed, mint, destination, source, sourceOwner, tranches }

/-- The texts of the paths in settings. -/
def pathTexts (data : Datum) : List String :=
  let payer := clusterText (section? data "cluster") "payer"
  let owner := contractText (section? data "contract") "source_owner" .ownerNotPath
  [payer, owner].filterMap fun raw => raw.toOption.join

/-- Reads settings. -/
def read (env : Environment) (path : Path) (data : Datum) : Except Fault Settings :=
  match data with
  | .table _ => do
    let cluster ← readCluster env path (section? data "cluster")
    let contract ← readContract env path (section? data "contract")
      ((data.field? "schedules").getD .null)
    return { path, cluster, contract }
  | _ => .error .notTable

/-! ## 3. Writing -/

/-- Settings as they are written to a file. -/
def toDatum (s : Settings) : Datum :=
  .table [("cluster", s.cluster.toDatum),
    ("contract", s.contract.toDatum),
    ("schedules", .list (s.contract.tranches.map Tranche.toDatum))]

/-- Settings to start from. -/
def starter (program : Datum := .text Key.vestingProgramText)
    (rpcUrl : Datum := .text defaultUrl) (payer : Datum := .text defaultPayer) : Datum :=
  .table [
    ("cluster", .table [("rpc_url", rpcUrl), ("program_id", program), ("payer", payer)]),
    ("contract", .table [("seed", .text ""), ("mint", .text ""), ("destination", .text ""),
      ("source", .text ""), ("source_owner", payer)]),
    ("schedules", .list [])]

end Settings
end Vesting
