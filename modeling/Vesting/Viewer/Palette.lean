/-
# The palette

What can be done in the viewer, found by a part of its name.
-/

namespace Vesting.Palette

/-- What can be done. -/
inductive Action
  | reload
  | simulate
  | quit
deriving DecidableEq, Repr

namespace Action

/-- The name under which an action is found. -/
def name : Action → String
  | reload => "Reload Contract"
  | simulate => "Simulate Locally"
  | quit => "Quit"

/-- All actions in their order. -/
def all : List Action := [reload, simulate, quit]

/-- The line that explains an action. -/
def help (a : Action) : String := "Run " ++ a.name

end Action

/-- An action found, and how much of its name the query left open. -/
structure Hit where
  action : Action
  /-- The characters of the name beyond the query's. -/
  left : Nat

/-- A text is a part of another. -/
def isPart (part : List Char) : List Char → Bool
  | [] => part.isEmpty
  | c :: rest => part.isPrefixOf (c :: rest) || isPart part rest

/-- The characters with small letters for capitals.  No name has letters beyond ASCII, so these
need not be told apart. -/
def small (s : String) : List Char := s.toList.map Char.toLower

/-- The action as a hit for a query, if it is one.  Without a query nothing counts as left open. -/
def hit? (query : String) (a : Action) : Option Hit :=
  if isPart (small query) (small a.name) then
    some ⟨a, if query.isEmpty then 0 else a.name.length - query.length⟩
  else none

/-- The actions whose names have the query as a part. -/
def search (query : String) : List Hit := Action.all.filterMap (hit? query)

namespace Hit

/-- The share of the name that was left open, in millionths. -/
def millionths (h : Hit) : Nat :=
  (h.left * 1000000 + h.action.name.length / 2) / h.action.name.length

/-- The score of a hit, with six decimals. -/
def scoreText (h : Hit) : String :=
  let digits := toString (h.millionths % 1000000)
  let zeros := String.ofList (List.replicate (6 - digits.length) '0')
  toString (h.millionths / 1000000) ++ "." ++ zeros ++ digits

end Hit
end Vesting.Palette
