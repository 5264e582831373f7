/-
# Values in settings

Numbers, keys and tranches as people write them down.  A number may be given as the text of one,
in any base that a prefix can name.
-/
import Vesting.Text.IntegerLiteral
import Vesting.Tranche

namespace Vesting

/-- The number that an integer literal denotes. -/
def readInteger (text : List Char) : Except Fault Int :=
  match Text.IntegerLiteral.parse text with
  | .ok n => .ok n
  | .error (.tooLong count) => .error (.invalid (.tooManyDigits count))
  | .error .form => .error (.invalid (.literal (String.ofList text)))

/-- A number of 64 bits from a number or from the text of one. -/
def Word64.read (field : String) : Datum → Except Fault UInt64
  | .int n => Word64.ofInt field n
  | .text s =>
    let text := Text.trim s.toList
    if text.isEmpty then .error (.invalid (.blank field))
    else do Word64.ofInt field (← readInteger text)
  | _ => .error (.invalid (.notIntegerOrText field))

/-- A key from its text. -/
def Key.read (field : String) : Datum → Except Fault Key
  | .text s =>
    match Text.nonBlank? s with
    | none => .error (.invalid (.notAddress field))
    | some text =>
      match Key.ofText? text with
      | some key => .ok key
      | none => .error (.invalid (.badAddress field s))
  | _ => .error (.invalid (.notAddress field))

namespace Tranche

/-- The tranche at a position of the schedules. -/
def readItem (index : Nat) (item : Datum) : Except Fault Tranche :=
  match item with
  | .table _ => do
    let number (field : String) : Except Fault UInt64 :=
      Word64.read s!"schedules[{index}].{field}" ((item.field? field).getD .null)
    let releaseTime ← number "release_time"
    let amount ← number "amount"
    return ⟨releaseTime, amount⟩
  | _ => .error (.invalid (.scheduleNotTable index))

/-- The tranches of schedules from a position on. -/
def readItems (index : Nat) : List Datum → Except Fault (List Tranche)
  | [] => .ok []
  | item :: rest => do
    let t ← readItem index item
    return t :: (← readItems (index + 1) rest)

/-- The tranches of schedules; where there are none, nothing needs to be written. -/
def readAll : Datum → Except Fault (List Tranche)
  | .null => .ok []
  | .list items => readItems 0 items
  | _ => .error (.invalid .schedulesNotArray)

end Tranche
end Vesting
