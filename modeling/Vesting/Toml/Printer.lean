/-
# Writing TOML

The plain entries of a table come first, one a line, and then each table inside it under a header
of its own.  A list of tables is written as a list if each of its tables fits on a line, and under
headers otherwise.
-/
import Vesting.Datum
import Vesting.Fault
import Vesting.Text.Quoted

namespace Vesting.Toml

/-! ## 1. Strings and keys -/

/-- A character inside quotes. -/
def escapeChar (c : Char) : List Char :=
  if c = '"' ∨ c = '\\' then ['\\', c]
  else if c = '\x08' then ['\\', 'b']
  else if c = '\n' then ['\\', 'n']
  else if c = '\x0c' then ['\\', 'f']
  else if c = '\r' then ['\\', 'r']
  else if (c < ' ' ∧ c ≠ '\t') ∨ c = '\x7f' then '\\' :: 'u' :: Text.hexDigits 4 c.toNat
  else [c]

/-- A text in quotes. -/
def quoted (s : String) : String :=
  String.ofList ('"' :: (s.toList.flatMap escapeChar ++ ['"']))

/-- A key needs no quotes. -/
def isPlainKey (s : String) : Bool :=
  !s.isEmpty && s.toList.all fun c => c.isAlphanum || c = '-' || c = '_'

/-- A key, in quotes if it needs them. -/
def keyText (s : String) : String := if isPlainKey s then s else quoted s

/-! ## 2. Values -/

/-- The blanks in front of what stands `depth` levels deep. -/
def indent (depth : Nat) : String := String.ofList (List.replicate (4 * depth) ' ')

mutual

/-- A value inside a list of the given depth or behind a key. -/
def valueText (depth : Nat) : Datum → Except Fault String
  | .null => .error .wrongType
  | .bool value => .ok (if value then "true" else "false")
  | .int value => .ok (toString value)
  | .real literal => .ok literal
  | .moment literal => .ok literal
  | .text value => .ok (quoted value)
  | .list items => do
    if items.isEmpty then return "[]"
    let lines ← itemLines depth items
    return "[\n" ++ ",\n".intercalate lines ++ ",\n" ++ indent depth ++ "]"
  | .table entries => do
    if entries.isEmpty then return "\x7b\x7d"
    return "\x7b " ++ ", ".intercalate (← pairs entries) ++ " \x7d"

/-- The items of a list, each with its indent. -/
def itemLines (depth : Nat) : List Datum → Except Fault (List String)
  | [] => .ok []
  | item :: rest => do
    let text ← valueText (depth + 1) item
    return (indent (depth + 1) ++ text) :: (← itemLines depth rest)

/-- The entries of a table that is written on one line. -/
def pairs : List (String × Datum) → Except Fault (List String)
  | [] => .ok []
  | (key, value) :: rest => do
    let text ← valueText 0 value
    return (keyText key ++ " = " ++ text) :: (← pairs rest)

end

/-! ## 3. Tables -/

/-- The longest line of a list of tables. -/
def maxLine : Nat := 100

/-- A table fits on a line of a list. -/
def fits (table : Datum) : Except Fault Bool := do
  let text := indent 1 ++ (← valueText 0 table) ++ ","
  return text.length ≤ maxLine && !text.toList.contains '\n'

/-- The value is a table. -/
def isTable : Datum → Bool
  | .table _ => true
  | _ => false

/-- A list of tables that needs headers. -/
def needsHeaders (items : List Datum) : Except Fault Bool := do
  if items.isEmpty || !items.all isTable then return false
  return !(← items.allM fits)

/-- The line of an entry, unless it is written under a header. -/
def entryLine (key : String) (value : Datum) : Except Fault (List String) := do
  match value with
  | .table _ => return []
  | .list items =>
    if ← needsHeaders items then return []
    return [keyText key ++ " = " ++ (← valueText 0 value) ++ "\n"]
  | _ => return [keyText key ++ " = " ++ (← valueText 0 value) ++ "\n"]

/-- The name of a table inside another. -/
def nameIn (name key : String) : String :=
  if name.isEmpty then keyText key else name ++ "." ++ keyText key

/-- The header of a table. -/
def headerLine (name : String) (item : Bool) : String :=
  if item then "[[" ++ name ++ "]]\n" else "[" ++ name ++ "]\n"

/-- Puts a table together: its header if it needs one, its own lines, and the tables inside. -/
def assemble (name : String) (item : Bool) (lines tables : List String) : String :=
  let header := item || (!name.isEmpty && (!lines.isEmpty || tables.isEmpty))
  let own := (if header then [headerLine name item] else []) ++ lines
  "\n".intercalate ((if own.isEmpty then [] else [String.join own]) ++ tables)

mutual

/-- A table under its name; `item` says that it belongs to a list of tables. -/
def tableText (name : String) (item : Bool) : Datum → Except Fault String
  | .table entries => do
    let lines ← entries.flatMapM fun e => entryLine e.1 e.2
    let tables ← innerTables name entries
    return assemble name item lines tables
  | _ => .error .notTable

/-- The tables inside a table that have headers. -/
def innerTables (name : String) : List (String × Datum) → Except Fault (List String)
  | [] => .ok []
  | (key, .table entries) :: rest => do
    let text ← tableText (nameIn name key) false (.table entries)
    return text :: (← innerTables name rest)
  | (key, .list items) :: rest => do
    let texts ← if ← needsHeaders items then itemTables (nameIn name key) items else pure []
    return texts ++ (← innerTables name rest)
  | _ :: rest => innerTables name rest

/-- The tables of a list of tables. -/
def itemTables (name : String) : List Datum → Except Fault (List String)
  | [] => .ok []
  | item :: rest => do
    let text ← tableText name true item
    return text :: (← itemTables name rest)

end

/-- The text of a table. -/
def write (table : Datum) : Except Fault String := tableText "" false table

end Vesting.Toml
