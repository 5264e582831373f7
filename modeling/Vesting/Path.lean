/-
# Paths

A path is a number of slashes at the front and the names behind them.  Empty names and single
dots mean nothing and are dropped; two dots stay until the path is resolved.  Exactly two slashes
at the front are kept, more than two count as one.

To resolve a path is to follow it from its start.  A name on the way may stand for a link, and then
the way goes on from where the link leads, so two dots behind a link lead to the folder of its
target.  Names that lead nowhere are followed all the same.

The system ends a text at U+0000, so it takes no name with that character in it.
-/
import Vesting.Fault
import Vesting.Text.Split

namespace Vesting

/-! ## 1. Where a program runs -/

/-- What surrounds a run: its variables, the home folders of users, the working folder, and the
links among the files. -/
structure Environment where
  bindings : List (String × String) := []
  /-- The home folders of users by their names, as the user table has them. -/
  users : List (String × String) := [("root", "/root")]
  /-- The home folder that the user table has for whoever runs the program. -/
  ownHome : Option String := none
  /-- The names that lead from the root to the working folder. -/
  folder : List String := []
  /-- The places of links, and the texts of their targets. -/
  links : List (List String × String) := []

namespace Environment

/-- The value of a variable. -/
def get? (env : Environment) (name : String) : Option String := env.bindings.lookup name

/-- The home folder that a name starting with a tilde stands for.  For a lone tilde the user table
is asked if the variable is not set. -/
def home? (env : Environment) (name : List Char) : Option String :=
  match name with
  | ['~'] => (env.get? "HOME").or env.ownHome
  | _ => env.users.lookup (String.ofList (name.drop 1))

/-- The target of the link at a place, if there is one. -/
def link? (env : Environment) (place : List String) : Option String := env.links.lookup place

/-- A line of a user table. -/
structure User where
  name : String
  number : String
  home : String

/-- Reads a line of a user table. -/
def User.read? (line : List Char) : Option User :=
  match Text.split ':' line with
  | [name, _, number, _, _, home, _] =>
    some ⟨String.ofList name, String.ofList number, String.ofList home⟩
  | _ => none

/-- The users of a user table. -/
def usersOf (table : String) : List User := (Text.split '\n' table.toList).filterMap User.read?

end Environment

/-! ## 2. Paths -/

/-- The way to a file. -/
structure Path where
  slashes : Nat := 0
  names : List String := []
deriving DecidableEq

namespace Path

/-- A name that takes one further down or up. -/
def isStep (name : List Char) : Bool := !name.isEmpty && name != ['.']

/-- The slashes that count at the front of a text. -/
def leading : List Char → Nat
  | '/' :: '/' :: '/' :: _ => 1
  | '/' :: '/' :: _ => 2
  | '/' :: _ => 1
  | _ => 0

/-- The path that a text names. -/
def ofText (s : String) : Path where
  slashes := leading s.toList
  names := ((Text.split '/' s.toList).filter isStep).map String.ofList

/-- The text of a path. -/
def text (p : Path) : String :=
  if p.slashes = 0 ∧ p.names = [] then "."
  else String.ofList (List.replicate p.slashes '/') ++ "/".intercalate p.names

/-- The path does not depend on a working folder. -/
def isAbsolute (p : Path) : Bool := 0 < p.slashes

/-- The folder that holds what the path names. -/
def parent (p : Path) : Path := { p with names := p.names.dropLast }

/-- The path `q`, seen from `p`. -/
def append (p q : Path) : Path := if q.isAbsolute then q else { p with names := p.names ++ q.names }

/-- A text without slashes at its end, or one slash if nothing else is left. -/
def withoutEnd (cs : List Char) : List Char :=
  let rest := (cs.reverse.dropWhile (· = '/')).reverse
  if rest.isEmpty then ['/'] else rest

/-- The system takes a name. -/
def isName (name : String) : Bool := !name.toList.contains '\x00'

/-- A path that the system takes, or else a fault. -/
def check (p : Path) : Except Fault Unit :=
  if p.names.all isName then .ok () else .error (.invalid .nullByte)

/-- Puts a home folder in the place of a leading tilde. -/
def expand (env : Environment) (p : Path) : Except Fault Path :=
  match p.slashes, p.names with
  | 0, first :: rest =>
    if first.toList.head? = some '~' then
      match env.home? first.toList with
      | none => .error (if isName first then .noHome else .invalid .nullByte)
      | some home =>
        let home := withoutEnd home.toList
        if home.head? = some '~' then .error .noHome
        else
          let start := ofText (String.ofList home)
          .ok { start with names := start.names ++ rest }
    else .ok p
  | _, _ => .ok p

/-- The names that lead from the root, double dots and links among them. -/
def fromRoot (env : Environment) (p : Path) : List String :=
  (if p.isAbsolute then [] else env.folder) ++ p.names

/-! ## 3. Links -/

/-- Follows names from a folder, where `enter` says what a place leads to.  Two dots lead back up,
but not above the root.  Where a link leads nowhere, the names behind it are left. -/
def follow (enter : List String → Except (List String) (List String)) (folder : List String) :
    List String → Except (List String) (List String)
  | [] => .ok folder
  | name :: rest =>
    if name = ".." then follow enter folder.dropLast rest
    else match enter (folder ++ [name]) with
      | .ok place => follow enter place rest
      | .error stuck => .error (stuck ++ rest)

/-- What a place leads to: a link to where its target leads, and any other place to itself.  The
links of `passed` are being followed already, so that there is no way out behind them; at most
`left` others can follow. -/
def enter (env : Environment) : (left : Nat) → (passed : List (List String)) →
    (place : List String) → Except (List String) (List String)
  | 0, _, place => if (env.link? place).isSome then .error place else .ok place
  | left + 1, passed, place =>
    match env.link? place with
    | none => .ok place
    | some target =>
      if passed.contains place then .error place
      else
        let p := ofText target
        follow (enter env left (place :: passed)) (if p.isAbsolute then [] else place.dropLast)
          p.names

/-- The absolute path without double dots and without links. -/
def resolve (env : Environment) (p : Path) : Except Fault Path := do
  p.check
  match follow (enter env env.links.length []) [] (p.fromRoot env) with
  | .ok names => return { slashes := 1, names }
  | .error stuck => throw (.linkLoop (text { slashes := 1, names := stuck }))

end Path
end Vesting
