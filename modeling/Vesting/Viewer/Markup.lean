/-
# Lines of the log panel

A line of the panel is a message in the colour of its level.  Colours are written as markup, so
what looks like markup in the message itself is escaped by a backslash in front of it.
-/
import Vesting.Log

namespace Vesting

/-! ## 1. Colours -/

namespace Level

/-- The colour of a level. -/
def colour : Level → String
  | debug => "#555e6e"
  | info => "#8892a4"
  | success => "#39ff14"
  | warning => "#ffaa00"
  | error => "#ff3366"

/-- The highest level that a number reaches; below all of them it counts as the lowest. -/
def reached (n : Int) : Level := (all.filter fun l => (l.number : Int) ≤ n).getLast?.getD debug

end Level

namespace Markup

/-! ## 2. Escapes -/

/-- A character that markup may start with behind its bracket. -/
def isTagStart (c : Char) : Bool := ('a' ≤ c && c ≤ 'z') || c = '#' || c = '/' || c = '@'

/-- A closing bracket comes before any other opening one. -/
def closes : List Char → Bool
  | [] => false
  | c :: rest => c = ']' || (c != '[' && closes rest)

/-- What stands behind an opening bracket makes markup of it. -/
def isTag : List Char → Bool
  | [] => false
  | c :: rest => isTagStart c && closes rest

/-- So many backslashes. -/
def backslashes (n : Nat) : List Char := List.replicate n '\\'

/-- Escapes markup, `pending` backslashes having just been read: in front of markup they are
doubled and one is added. -/
def escapeFrom (pending : Nat) : List Char → List Char
  | [] => backslashes pending
  | c :: rest =>
    if c = '\\' then escapeFrom (pending + 1) rest
    else if c = '[' ∧ isTag rest then backslashes (2 * pending + 1) ++ c :: escapeFrom 0 rest
    else backslashes pending ++ c :: escapeFrom 0 rest

/-- A backslash that stands alone at the end is doubled, lest it escape what comes behind it. -/
def guardEnd (cs : List Char) : List Char :=
  match cs.reverse with
  | '\\' :: '\\' :: _ => cs
  | '\\' :: _ => cs ++ ['\\']
  | _ => cs

/-- A text that shows as itself. -/
def escape (s : String) : String := String.ofList (guardEnd (escapeFrom 0 s.toList))

/-! ## 3. Coloured text -/

/-- A text in the colour of a level. -/
def coloured (l : Level) (markup : String) : String := "[" ++ l.colour ++ "]" ++ markup ++ "[/]"

/-- A line of the panel. -/
def line (l : Level) (message : String) : String := coloured l (escape message)

end Markup
end Vesting
