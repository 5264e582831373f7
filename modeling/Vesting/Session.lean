/-
# Sessions

A session works in an environment with files, a cluster and a signer.  It keeps a record of every
call that it makes to the cluster, of every message that it has signed, of every way in the file
system that it looks at, and of every event. What it has done before a fault stays done.
-/
import Vesting.FileSystem
import Vesting.Log
import Vesting.Message
import Vesting.Text.Lines

namespace Vesting

/-! ## 1. Clusters -/

/-- The bytes of an account as a cluster hands them out. -/
inductive Payload
  | raw (data : Bytes)
  | base64 (text : String)

/-- The bytes themselves. -/
def Payload.bytes : Payload → Except Fault Bytes
  | raw data => .ok data
  | base64 text =>
    match Base64.decode false text.toList with
    | .ok data => .ok data
    | .error why => .error (.invalid (.base64 why))

/-- How a cluster answers. -/
structure Cluster where
  accounts : List (Key × Payload) := []
  /-- Why the cluster does not answer questions about accounts, if it does not. -/
  failure : Option String := none
  /-- Why the cluster takes no transactions, if it does not. -/
  closed : Option String := none
  /-- The signature under which the cluster takes transactions. -/
  signature : Bytes := List.replicate 64 0

/-- A call to a cluster. -/
inductive Call
  | connect (url : String)
  | accountInfo (key : Key)
  | send (message : Message)
  | confirm (signature : String)
deriving DecidableEq

/-! ## 2. Sessions -/

/-- What a session works on. -/
structure Machine where
  env : Environment := {}
  files : FileSystem := {}
  cluster : Cluster := {}
  signer : Signer := {}
  /-- The calls so far, the latest first. -/
  calls : List Call := []
  /-- What has been handed over to be signed so far, the latest first. -/
  signings : List Signing := []
  /-- The ways from the root that have been looked at so far, the latest first. -/
  looked : List (List String) := []
  /-- The events so far, the latest first. -/
  log : List Event := []

/-- A computation in a session. -/
abbrev Session := ExceptT Fault (StateM Machine)

namespace Session

variable {α : Type}

/-- Breaks off. -/
def fail (why : Fault) : Session α := throw why

/-- Goes on with a result, or breaks off. -/
def orFail : Except Fault α → Session α
  | .ok a => pure a
  | .error why => fail why

/-- Records a call. -/
def call (c : Call) : Session Unit := modify fun m => { m with calls := c :: m.calls }

/-- Has a message signed, and records with which keypairs. -/
def sign (message : Message) (pairs : List Keypair) : Session Unit := do
  modify fun m => { m with signings := ⟨message, pairs⟩ :: m.signings }
  orFail ((← get).signer.sign message pairs)

/-- Records events, the first one first. -/
def note (es : List Event) : Session Unit := modify fun m => { m with log := es.reverse ++ m.log }

/-- What surrounds the session. -/
def env : Session Environment := return (← get).env

/-- Records that a session looks where a path leads. -/
def look (p : Path) : Session Unit :=
  modify fun m => { m with looked := p.fromRoot m.env :: m.looked }

/-! ## 3. Files -/

/-- A path leads to something.  One that the system does not take leads nowhere. -/
def holds (p : Path) : Session Bool := do
  if !p.check.isOk then return false
  look p
  let m ← get
  match m.files.holds m.env p with
  | .ok found => return found
  | .error why => fail (.file why p.text)

/-- The content of a file. -/
def readBytes (p : Path) : Session Bytes := do
  orFail p.check
  look p
  let m ← get
  match m.files.read m.env p with
  | .ok data => return data
  | .error why => fail (.file why p.text)

/-- The text of a file, with line feeds at the ends of lines. -/
def readText (p : Path) : Session (List Char) := do
  let data ← readBytes p
  match String.fromUTF8? ⟨data.toArray⟩ with
  | some s => return Text.unifyLines s.toList
  | none => fail .notUtf8

/-- Makes a folder and all that lead to it, as far as they are not there. -/
def makeFolders (p : Path) : Session Unit := do
  orFail p.check
  look p
  let m ← get
  let files ← orFail (m.files.ensureFolders m.env FileSystem.maxMissing p)
  set { m with files }

/-- Writes a file into a folder that exists. -/
def writeText (p : Path) (text : String) : Session Unit := do
  orFail p.check
  look p
  let m ← get
  match m.files.write m.env p text.toUTF8.toList with
  | .ok files => set { m with files }
  | .error why => fail (.file why p.text)

end Session
end Vesting
