/-
# Data of no fixed shape

What a configuration file or a message holds before anybody has checked it.  Tables keep the
order in which their entries were written.
-/

namespace Vesting

/-- A value that a file or a message may hold. -/
inductive Datum
  | null
  | bool (value : Bool)
  | int (value : Int)
  /-- A number with a fraction or an exponent, as it was written, or one that has no digits:
  `inf`, `-inf` and `nan`. -/
  | real (literal : String)
  | text (value : String)
  /-- A date, a time or both, as it was written. -/
  | moment (literal : String)
  | list (items : List Datum)
  | table (entries : List (String × Datum))

namespace Datum

instance : Inhabited Datum := ⟨null⟩

/-- The entry of a table, if the value is a table and has one. -/
def field? (key : String) : Datum → Option Datum
  | table entries => entries.lookup key
  | _ => none

/-- The entries of a table; none if the value is no table. -/
def entries : Datum → List (String × Datum)
  | table entries => entries
  | _ => []

/-- An entry that may be absent. -/
def optional (key : String) (value : Option String) : List (String × Datum) :=
  match value with
  | none => []
  | some s => [(key, text s)]

/-- A text that may be absent. -/
def ofText? : Option String → Datum
  | none => null
  | some s => text s

/-- Sets an entry: in its place if there is one, else behind the others. -/
def setEntry {α : Type} (key : String) (value : α) : List (String × α) → List (String × α)
  | [] => [(key, value)]
  | (k, v) :: rest => if k = key then (k, value) :: rest else (k, v) :: setEntry key value rest

/-- After an entry is set, looking it up gives the new value. -/
theorem lookup_setEntry_self {α : Type} (key : String) (value : α) (entries : List (String × α)) :
    (setEntry key value entries).lookup key = some value := by
  induction entries with
  | nil => simp [setEntry]
  | cons e rest ih =>
    obtain ⟨k, v⟩ := e
    by_cases h : k = key
    · simp [setEntry, h]
    · have : (key == k) = false := by simpa using fun he => h he.symm
      simp [setEntry, h, List.lookup_cons, this, ih]

end Datum
end Vesting
