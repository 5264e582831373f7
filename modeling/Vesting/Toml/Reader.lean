/-
# Reading TOML

A document is read statement by statement.  A statement sets a key or opens a table, and the
document remembers which tables have been opened and which values were written in one piece: the
first are not opened again and the second never change.
-/
import Vesting.Toml.Lexeme
import Vesting.Toml.Scalar

namespace Vesting.Toml

open Text (Reader behind?)

/-- The entries of a table. -/
abbrev Entries := List (String × Datum)

/-! ## 1. Tables inside tables -/

/-- Changes the table at the end of a key.  Tables on the way are made if they are not there; of a
list of tables, the last one is entered if `lists` allows it. -/
def change (lists : Bool) (f : Entries → Except Fault Entries) :
    List String → Entries → Except Fault Entries
  | [], es => f es
  | k :: ks, es =>
    match (es.lookup k).getD (.table []) with
    | .table inner => do return Datum.setEntry k (.table (← change lists f ks inner)) es
    | .list items =>
      match lists, items.getLast? with
      | true, some (.table inner) => do
        let last ← change lists f ks inner
        return Datum.setEntry k (.list (items.dropLast ++ [.table last])) es
      | _, _ => .error .notToml
    | _ => .error .notToml

/-- Adds an entry whose key is new. -/
def add (key : String) (value : Datum) (es : Entries) : Except Fault Entries :=
  if (es.lookup key).isSome then .error .notToml else .ok (es ++ [(key, value)])

/-- Adds an empty table to a list of tables, which is made if it is not there. -/
def addItem (key : String) (es : Entries) : Except Fault Entries :=
  match es.lookup key with
  | none => .ok (es ++ [(key, .list [.table []])])
  | some (.list items) => .ok (Datum.setEntry key (.list (items ++ [.table []])) es)
  | some _ => .error .notToml

/-- One of the keys is `key` or leads to it. -/
def covers (keys : List (List String)) (key : List String) : Bool :=
  keys.any fun k => k.isPrefixOf key

/-- A value that is written in one piece and has parts. -/
def hasParts : Datum → Bool
  | .list _ | .table _ => true
  | _ => false

/-- A key without its last part, and that part. -/
def splitKey (key : List String) : List String × String := (key.dropLast, key.getLastD "")

/-! ## 2. Values -/

/-- How deep values may stand inside each other: a list counts 2 and a table 3. -/
def maxDepth : Nat := 986

mutual

/-- A value; `depth` is left for what stands inside. -/
def value (fuel depth : Nat) : Reader Datum := fun cs =>
  match fuel, cs with
  | 0, _ => .error .notToml
  | fuel + 1, c :: rest =>
    if c = '"' ∨ c = '\'' then do
      let (s, rest) ← string c rest
      return (.text s, rest)
    else if c = '[' then
      if depth < 2 then .error .tooDeep
      else match skipBetween (rest.length + 1) rest with
        | .error why => .error why
        | .ok rest => items fuel (depth - 2) [] rest
    else if c = '\x7b' then
      if depth < 3 then .error .tooDeep
      else match skipGap rest with
        | '\x7d' :: rest => .ok (.table [], rest)
        | rest => inlineEntries fuel (depth - 3) [] [] rest
    else match behind? "true" cs, behind? "false" cs with
      | some rest, _ => .ok (.bool true, rest)
      | _, some rest => .ok (.bool false, rest)
      | _, _ => scalar cs
  | _, [] => .error .notToml

/-- The items of a list from the next one on; `acc` holds those in front of it, newest first. -/
def items (fuel depth : Nat) (acc : List Datum) : Reader Datum := fun cs =>
  match fuel, cs with
  | 0, _ => .error .notToml
  | _ + 1, ']' :: rest => .ok (.list acc.reverse, rest)
  | fuel + 1, cs =>
    match value fuel depth cs with
    | .error why => .error why
    | .ok (item, rest) =>
      match skipBetween (rest.length + 1) rest with
      | .error why => .error why
      | .ok (']' :: rest) => .ok (.list (item :: acc).reverse, rest)
      | .ok (',' :: rest) =>
        match skipBetween (rest.length + 1) rest with
        | .error why => .error why
        | .ok rest => items fuel depth (item :: acc) rest
      | .ok _ => .error .notToml

/-- The entries of a table on one line, behind those in `acc`; the values at the keys in `closed`
do not change any more. -/
def inlineEntries (fuel depth : Nat) (closed : List (List String)) (acc : Entries) :
    Reader Datum := fun cs =>
  match fuel with
  | 0 => .error .notToml
  | fuel + 1 =>
    match key cs with
    | .error why => .error why
    | .ok (k, '=' :: rest) =>
      match value fuel depth (skipGap rest) with
      | .error why => .error why
      | .ok (item, rest) =>
        let (parent, stem) := splitKey k
        if covers closed k then .error .notToml
        else match change false (add stem item) parent acc with
          | .error why => .error why
          | .ok acc =>
            match skipGap rest with
            | '\x7d' :: rest => .ok (.table acc, rest)
            | ',' :: rest =>
              let closed := if hasParts item then k :: closed else closed
              inlineEntries fuel depth closed acc (skipGap rest)
            | _ => .error .notToml
    | .ok _ => .error .notToml

end

/-! ## 3. Documents -/

/-- A document as far as it has been read. -/
structure Document where
  root : Entries := []
  /-- The table that is open. -/
  current : List String := []
  /-- Tables that have been opened by a statement of their own. -/
  opened : List (List String) := []
  /-- Tables that count as opened from the next such statement on. -/
  pending : List (List String) := []
  /-- Values that were written in one piece. -/
  closed : List (List String) := []

namespace Document

/-- The keys between the open table and the end of a dotted key. -/
def between (current key : List String) : List (List String) :=
  (List.range (key.length - 1)).map fun i => current ++ key.take (i + 1)

/-- Sets a key of the open table. -/
def set (d : Document) (key : List String) (item : Datum) : Except Fault Document := do
  let (parent, stem) := splitKey key
  let inner := between d.current key
  if inner.any d.opened.contains then throw .notToml
  if covers d.closed (d.current ++ parent) then throw .notToml
  let root ← change true (add stem item) (d.current ++ parent) d.root
  let closed := if hasParts item then (d.current ++ key) :: d.closed else d.closed
  return { d with root, closed, pending := inner ++ d.pending }

/-- The document once its pending tables count as opened. -/
def settle (d : Document) : Document := { d with opened := d.pending ++ d.opened, pending := [] }

/-- Opens a table. -/
def enter (d : Document) (key : List String) : Except Fault Document := do
  let d := d.settle
  if d.opened.contains key || covers d.closed key then throw .notToml
  let root ← change true .ok key d.root
  return { d with root, current := key, opened := key :: d.opened }

/-- Opens a new table at the end of a list of tables. -/
def append (d : Document) (key : List String) : Except Fault Document := do
  let d := d.settle
  if covers d.closed key then throw .notToml
  let (parent, stem) := splitKey key
  let root ← change true (addItem stem) parent d.root
  let apart (k : List String) : Bool := !key.isPrefixOf k
  return { d with
    root, current := key, opened := key :: d.opened.filter apart, closed := d.closed.filter apart }

/-- Reads a statement that opens a table. -/
def header (d : Document) : List Char → Except Fault (Document × List Char)
  | '[' :: rest => do
    let (k, rest) ← key (skipGap rest)
    let d ← d.append k
    match behind? "]]" rest with
    | some rest => return (d, rest)
    | none => throw .notToml
  | rest => do
    let (k, rest) ← key (skipGap rest)
    let d ← d.enter k
    match behind? "]" rest with
    | some rest => return (d, rest)
    | none => throw .notToml

/-- Reads a statement that sets a key. -/
def assignment (d : Document) (cs : List Char) : Except Fault (Document × List Char) := do
  let (k, rest) ← key cs
  match rest with
  | '=' :: rest =>
    let rest := skipGap rest
    let (item, rest) ← value (2 * rest.length + 2) maxDepth rest
    return (← d.set k item, rest)
  | _ => throw .notToml

/-- Reads the statement at the front of a line, if there is one. -/
def statement (d : Document) (cs : List Char) : Except Fault (Document × List Char) :=
  match cs with
  | '[' :: rest => d.header rest
  | c :: _ =>
    if isBare c ∨ c = '"' ∨ c = '\'' then d.assignment cs
    else if c = '#' ∨ c = '\n' then .ok (d, cs)
    else .error .notToml
  | [] => .ok (d, [])

/-- Reads a document line by line. -/
def readFrom (fuel : Nat) (d : Document) (cs : List Char) : Except Fault Document :=
  match fuel with
  | 0 => .error .notToml
  | fuel + 1 =>
    match d.statement (skipGap cs) with
    | .error why => .error why
    | .ok (d, rest) =>
      match skipComment (skipGap rest) with
      | .error why => .error why
      | .ok [] => .ok d
      | .ok ('\n' :: rest) => readFrom fuel d rest
      | .ok _ => .error .notToml

end Document

/-- Reads the table that a text holds. -/
def read (cs : List Char) : Except Fault Datum :=
  (fun d => .table d.root) <$> Document.readFrom (cs.length + 1) {} cs

end Vesting.Toml
