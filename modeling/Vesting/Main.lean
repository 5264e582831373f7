/-
# The program

Runs are computed on a picture of the file system.  Where a run looks along a way that the picture
lacks, what is on the way is added and the run starts again; what it has written at its end is
written to the disk.  A link that leads nowhere counts as nothing.  No cluster can be reached from
here.
-/
import Std.Time.DateTime.Timestamp
import Vesting.CommandLine.Ending
import Vesting.Viewer

namespace Vesting.Program

/-! ## 1. The surroundings -/

/-- What there is to say about clusters. -/
def offline : String := "no connection to a cluster"

/-- The variables that are set, with their values. -/
def bindings : IO (List (String × String)) :=
  Target.variableNames.filterMapM fun name => do
    return (← IO.getEnv name).map fun value => (name, value)

/-- The text of a file of the system; an empty one if it cannot be read. -/
def systemText (name : String) : IO String :=
  try
    IO.FS.readFile name
  catch _ => return ""

/-- The number of the user who runs the program, as the system tells it. -/
def userNumber? (status : String) : Option String :=
  (Text.split '\n' status.toList).findSome? fun line =>
    match Text.split '\t' line with
    | ['U', 'i', 'd', ':'] :: number :: _ => some (String.ofList number)
    | _ => none

/-- What surrounds the program. -/
def environment : IO Environment := do
  let folder := (Path.ofText (toString (← IO.currentDir))).names
  let users := Environment.usersOf (← systemText "/etc/passwd")
  let number := userNumber? (← systemText "/proc/self/status")
  return {
    bindings := ← bindings
    users := users.map fun u => (u.name, u.home)
    ownHome := (users.find? fun u => some u.number = number).map Environment.User.home
    folder }

/-- A key that nobody has the secret of. -/
def freshKey : IO Key := do
  return (Key.ofBytes? (← IO.getRandomBytes 32).toList).getD Key.zero

/-- Fresh keys for a simulation. -/
def freshCast : IO Cast := do
  return ⟨← freshKey, ← freshKey, ← freshKey, ← freshKey, ← freshKey, ← freshKey, ← freshKey⟩

/-! ## 2. The disk -/

/-- The text of a place on the disk. -/
def placeText (place : List String) : String := Path.text ⟨1, place⟩

/-- What is at a place on the disk. -/
def nodeAt (place : List String) : IO (Option Node) := do
  let path := (← IO.currentDir) / placeText place
  if ← path.isDir then return some .folder
  if ← path.pathExists then return some (.file (← IO.FS.readBinFile path).toList)
  return none

/-- Where the link at a place on the disk leads, if there is one and it leads somewhere. -/
def linkAt (place : List String) : IO (Option String) := do
  let path := (← IO.currentDir) / placeText place
  try
    if (← path.symlinkMetadata).type == .symlink then
      return some (toString (← IO.FS.realPath path))
    return none
  catch _ => return none

/-- Adds what is at a place to a picture. -/
def addPlace (m : Machine) (place : List String) : IO Machine := do
  return match ← nodeAt place with
  | some node => { m with files := m.files.put place node }
  | none => m

/-- A place and all that lead to it, the shortest first. -/
def leading (place : List String) : List (List String) :=
  (List.range place.length).map fun n => place.take (n + 1)

/-- Adds what names pass on their way from a folder to a picture. -/
def explore (m : Machine) (folder : List String) : List String → IO Machine
  | [] => return m
  | name :: rest => do
    if name = ".." then explore m folder.dropLast rest
    else
      let place := folder ++ [name]
      match ← linkAt place with
      | none => explore (← addPlace m place) place rest
      | some target =>
        let names := (Path.ofText target).names
        let env := { m.env with links := (place, target) :: m.env.links }
        explore (← (leading names).foldlM addPlace { m with env }) names rest

/-- Runs until the picture lacks nothing of the ways that are looked along, and gives the picture as
well. -/
partial def settle {α : Type} (m : Machine) (known : List (List String))
    (run : Machine → α × Machine) : IO (Machine × α × Machine) := do
  let (a, after) := run m
  match after.looked.eraseDups.filter fun way => !known.contains way with
  | [] => return (m, a, after)
  | ways => settle (← ways.foldlM (fun m way => explore m [] way) m) (known ++ ways) run

/-- Writes what a run has changed. -/
def writeBack (before after : FileSystem) : IO Unit :=
  after.entries.reverse.forM fun (place, node) => do
    if before.node? place != some node then
      match node with
      | .folder => IO.FS.createDir (placeText place)
      | .file content => IO.FS.writeBinFile (placeText place) ⟨content.toArray⟩

/-! ## 3. Runs -/

/-- Tells the events of a run that reach a level. -/
def tell (threshold : Level) (events : List Event) : IO Unit :=
  events.forM fun e => do
    if threshold.number ≤ e.level.number then
      IO.eprintln (e.level.name ++ " " ++ Viewer.eventText e)

/-- The level from which on events are told. -/
def thresholdOf (args : List String) : Level :=
  match CommandLine.Request.read args with
  | .ok (_, threshold) => threshold
  | .error _ => .warning

/-- Tells a fault. -/
def tellFault (why : Fault) : IO UInt32 := do
  IO.eprintln why.message
  return 1

/-- Shows what the viewer shows at first. -/
def view (m : Machine) (settings : Option String) (time : Option Int) : IO UInt32 := do
  let clock := (← Std.Time.Timestamp.now).toSecondsSinceUnixEpoch.val
  let run (m : Machine) :=
    let (result, w) := Viewing.mount clock ⟨{ settings, time }, m⟩
    ((result, w.viewer), w.machine)
  let (_, (result, v), _) ← settle m [] run
  IO.println v.summary
  v.rows.forM fun r => IO.println ("  ".intercalate r.cells)
  v.lines.reverse.forM IO.println
  match result with
  | .ok () => return 0
  | .error why => tellFault why

/-- Runs the program on its arguments. -/
def run (args : List String) : IO UInt32 := do
  let cast ← freshCast
  let start : Machine :=
    { env := ← environment, cluster := { failure := some offline, closed := some offline } }
  let session (m : Machine) := (CommandLine.run cast args).run.run m
  let (before, result, after) ← settle start [] session
  writeBack before.files after.files
  tell (thresholdOf args) after.log.reverse
  match result with
  | .error why => tellFault why
  | .ok ending =>
    IO.print ending.output
    match ending.viewer with
    | none => return ending.code.toUInt32
    | some (_, some .blank) => tellFault .wrongType
    | some (settings, time) =>
      view start (settings.bind CommandLine.Entry.toOption)
        (time.bind CommandLine.Entry.toOption)

end Vesting.Program

/-- Runs the program. -/
def main (args : List String) : IO UInt32 := Vesting.Program.run args
