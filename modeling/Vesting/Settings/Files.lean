/-
# Settings files

Reading and writing settings, and choosing the cluster by them.
-/
import Vesting.Session
import Vesting.Settings.Target
import Vesting.Toml.Printer
import Vesting.Toml.Reader

namespace Vesting

open Session

/-- Records that a session looks where the paths in settings lead, seen from their folder. -/
def Settings.lookAround (p : Path) (data : Datum) : Session Unit := do
  if let .ok place := p.resolve (← env) then
    (Settings.pathTexts data).forM fun raw => look (place.parent.append (Path.ofText raw))

/-- Reads a settings file. -/
def Settings.load (p : Path) : Session Settings := do
  if !(← holds p) then fail (.noSettings p.text)
  let data ← orFail (Toml.read (← readText p))
  Settings.lookAround p data
  orFail (Settings.read (← env) p data)

/-- Writes a settings file, after making the folders that lead to it. -/
def Settings.store (p : Path) (data : Datum) : Session Unit := do
  makeFolders p.parent
  let text ← orFail (Toml.write data)
  writeText p text

/-- Reads the configuration of the command-line tools; a file that cannot be read counts as an
empty one. -/
def Target.loadTools : Session (List (String × String)) := do
  let p ← orFail (Target.toolPath (← env))
  let text ← tryCatch (readText p) fun why =>
    match why with
    | .file .. => pure []
    | _ => fail why
  return Target.toolEntries text

/-- Chooses the cluster, the program and the payer. -/
def Target.resolve (settings : Option Settings) (flags : Target.Flags) : Session Target := do
  let tools ← Target.loadTools
  let cluster := (settings.map Settings.cluster).getD {}
  orFail (Target.choose (← env) tools cluster flags)

end Vesting
