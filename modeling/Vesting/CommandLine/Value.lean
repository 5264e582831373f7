/-
# Values on the command line

A tranche is written with a colon between its release time and its amount.  Command data is
written in hexadecimal, with or without a mark in front, or in base 64.
-/
import Vesting.Command
import Vesting.Settings.Value
import Vesting.Text.Split

namespace Vesting

/-- The tranche that a text names. -/
def Tranche.ofText (text : String) : Except Fault Tranche :=
  match Text.cut? ':' text.toList with
  | none => .error (.invalid (.scheduleForm text))
  | some (time, amount) => do
    let releaseTime ← Word64.read "release_time" (.text (String.ofList time))
    let amount ← Word64.read "amount" (.text (String.ofList amount))
    return ⟨releaseTime, amount⟩

namespace Command

/-- A text without the mark of hexadecimal digits, whose letter has either case. -/
def withoutMark : List Char → List Char
  | '0' :: 'x' :: rest => rest
  | '0' :: 'X' :: rest => rest
  | cs => cs

/-- The bytes of a command from the text of them. -/
def bytesOfText (base64 : Bool) (text : String) : Except Fault Bytes :=
  let cs := Text.trim text.toList
  if base64 then
    match Base64.decode true cs with
    | .ok data => .ok data
    | .error why => .error (.invalid (.badBase64 why))
  else
    match Hex.decode (withoutMark cs) with
    | .ok data => .ok data
    | .error position => .error (.invalid (.badHex position))

end Command
end Vesting
