/-
# Writing JSON

A value is written on one line or, for people, with one entry a line and two spaces a level.  The
text is ASCII: every other character is escaped by its UTF-16 units.
-/
import Vesting.Datum
import Vesting.Text.Quoted

namespace Vesting.Json

/-! ## 1. Text -/

/-- The UTF-16 units of a character. -/
def units16 (c : Char) : List Nat :=
  let n := c.toNat
  if n < 0x10000 then [n]
  else [0xd800 + (n - 0x10000) / 0x400, 0xdc00 + (n - 0x10000) % 0x400]

/-- A character by the numbers of its units. -/
def escapeUnits (c : Char) : List Char :=
  (units16 c).flatMap fun unit => '\\' :: 'u' :: Text.hexDigits 4 unit

/-- A character inside quotes. -/
def escapeChar (c : Char) : List Char :=
  if c = '"' ∨ c = '\\' then ['\\', c]
  else if c = '\n' then ['\\', 'n']
  else if c = '\r' then ['\\', 'r']
  else if c = '\t' then ['\\', 't']
  else if c = '\x0c' then ['\\', 'f']
  else if c = '\x08' then ['\\', 'b']
  else if ' ' ≤ c ∧ c ≤ '~' then [c]
  else escapeUnits c

/-- A text in quotes. -/
def quoted (s : String) : String :=
  String.ofList ('"' :: (s.toList.flatMap escapeChar ++ ['"']))

/-! ## 2. Values -/

/-- The words for numbers without digits. -/
def realWords : List (String × String) :=
  [("nan", "NaN"), ("inf", "Infinity"), ("-inf", "-Infinity")]

/-- A number that is no integer. -/
def realText (literal : String) : String := (realWords.lookup literal).getD literal

/-- How the entries of a list or a table are set apart. -/
inductive Layout
  /-- All on one line. -/
  | oneLine
  /-- One a line, at the given depth. -/
  | indented (depth : Nat)

namespace Layout

/-- The layout of what stands inside. -/
def inner : Layout → Layout
  | oneLine => oneLine
  | indented depth => indented (depth + 1)

/-- What stands in front of the first entry, or behind the last one. -/
def gap : Layout → String
  | oneLine => ""
  | indented depth => String.ofList ('\n' :: List.replicate (2 * depth) ' ')

/-- What stands between two entries. -/
def comma : Layout → String
  | oneLine => ", "
  | indented depth => "," ++ (indented depth).gap

end Layout

/-- The entries of a list or a table between brackets. -/
def bracket (opening closing : String) (layout : Layout) (entries : List String) : String :=
  if entries.isEmpty then opening ++ closing
  else
    opening ++ layout.inner.gap ++ layout.inner.comma.intercalate entries ++ layout.gap ++ closing

mutual

/-- The text of a value. -/
def write (layout : Layout) : Datum → String
  | .null => "null"
  | .bool value => if value then "true" else "false"
  | .int value => toString value
  | .real literal => realText literal
  | .text value => quoted value
  | .moment literal => quoted literal
  | .list items => bracket "[" "]" layout (writeItems layout.inner items)
  | .table entries => bracket "\x7b" "\x7d" layout (writeEntries layout.inner entries)

/-- The texts of the items of a list. -/
def writeItems (layout : Layout) : List Datum → List String
  | [] => []
  | item :: rest => write layout item :: writeItems layout rest

/-- The texts of the entries of a table. -/
def writeEntries (layout : Layout) : List (String × Datum) → List String
  | [] => []
  | (key, value) :: rest =>
    (quoted key ++ ": " ++ write layout value) :: writeEntries layout rest

end

/-- A value on one line. -/
def line (value : Datum) : String := write .oneLine value

/-- A value for people. -/
def pretty (value : Datum) : String := write (.indented 0) value

end Vesting.Json
