/-
# Reading texts piece by piece
-/
import Vesting.Fault

namespace Vesting.Text

/-- Reads something off the front of a text and gives the rest. -/
abbrev Reader (α : Type) := List Char → Except Fault (α × List Char)

/-- The text behind `front`, if it starts with that. -/
def behind? (front : String) (cs : List Char) : Option (List Char) :=
  if front.toList.isPrefixOf cs then some (cs.drop front.length) else none

end Vesting.Text
