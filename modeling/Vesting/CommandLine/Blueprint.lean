/-
# Commands from the command line

The parts of a command as texts, and the command that they make.
-/
import Vesting.Command
import Vesting.CommandLine.Request
import Vesting.CommandLine.Value

namespace Vesting.CommandLine

/-- The word for a kind of command. -/
def wordOf (kind : Command.Kind) : String :=
  ((kindWords.find? fun e => e.2 = kind).map Prod.fst).getD ""

/-- A text, unless it is empty. -/
def given? (text : Option String) : Option String := text.filter fun s => !s.isEmpty

/-- A number of 32 bits from an option; one left empty is out of its range. -/
def readCount (field : String) (number : Entry Int) : Except Fault UInt32 :=
  Word32.ofDatum field (number.toDatum .int)

namespace Blueprint

/-- The seeds as a text, which every kind but one has. -/
def seedText (b : Blueprint) : Except Fault String :=
  match given? b.seeds with
  | some text => .ok text
  | none => .error (.invalid (.seedsOption (wordOf b.kind)))

/-- The command that creates a contract. -/
def creation (b : Blueprint) (seeds : Seeds) : Except Fault Command :=
  match given? b.mint, given? b.destination with
  | some mint, some destination => do
    let mint ← Key.read "mint" (.text mint)
    let destination ← Key.read "destination" (.text destination)
    return .create seeds mint destination (← b.tranches.mapM Tranche.ofText)
  | _, _ => .error (.invalid .createOptions)

/-- The command that has no seeds. -/
def empty (b : Blueprint) : Except Fault Command := Command.empty <$> readCount "number" b.number

/-- The command that has seeds. -/
def seeded (b : Blueprint) (seeds : Seeds) : Except Fault Command :=
  match b.kind with
  | .init => Command.init seeds <$> readCount "number_of_schedules" b.number
  | .create => b.creation seeds
  | .unlock => .ok (.unlock seeds)
  | .changeDestination => .ok (.changeDestination seeds)
  | .empty => b.empty

end Blueprint
end Vesting.CommandLine
