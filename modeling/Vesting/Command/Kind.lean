/-
# The kinds of command

A command on the wire starts with a byte that names its kind; what follows has a least length.
-/

namespace Vesting.Command

/-- The five commands of the vesting program. -/
inductive Kind
  | init
  | create
  | unlock
  | changeDestination
  | empty
deriving DecidableEq, Repr

namespace Kind

/-- The byte that names a kind. -/
def tag : Kind → UInt8
  | init => 0
  | create => 1
  | unlock => 2
  | changeDestination => 3
  | empty => 4

/-- The kind that a byte names. -/
def ofTag? (b : UInt8) : Option Kind :=
  if b = 0 then some init
  else if b = 1 then some create
  else if b = 2 then some unlock
  else if b = 3 then some changeDestination
  else if b = 4 then some empty
  else none

@[simp] theorem ofTag?_tag (k : Kind) : ofTag? k.tag = some k := by
  cases k <;> rfl

/-- The name of a kind. -/
def name : Kind → String
  | init => "Init"
  | create => "Create"
  | unlock => "Unlock"
  | changeDestination => "ChangeDestination"
  | empty => "Empty"

/-- The least number of bytes behind the tag. -/
def payload : Kind → Nat
  | init => 36
  | create => 96
  | unlock => 32
  | changeDestination => 32
  | empty => 4

end Kind
end Vesting.Command
