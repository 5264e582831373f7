/-
# Seeds from text

Seeds are given as 64 hexadecimal digits or as a phrase.  A phrase is cut or hashed to 31 bytes,
and the last byte is the highest one that leads to an address.
-/
import Vesting.Address
import Vesting.Bytes.Hex
import Vesting.Text.Blank

namespace Vesting.Seeds

/-- A phrase as its bytes in UTF-8. -/
def phraseBytes (phrase : String) : Bytes := phrase.toUTF8.toList

/-- The first 31 bytes of the seeds of a phrase: those of the phrase itself if it has as many,
else those of its hash. -/
def start (phrase : Bytes) : Except Fault Bytes :=
  if phrase.isEmpty then .error (.invalid .emptyPhrase)
  else if 31 ≤ phrase.length then .ok (phrase.take 31)
  else .ok ((Sha2.sha256 phrase).take 31)

/-- The seeds of a phrase and their address. -/
def ofPhrase (phrase : Bytes) (program : Key) : Except Fault (Seeds × Key) := do
  let first ← start phrase
  match Address.find? [first] program with
  | none => throw .noAddress
  | some (address, last) => return (← ofBytes (first ++ [last]), address)

/-- A text without the mark of hexadecimal digits. -/
def withoutMark : List Char → List Char
  | '0' :: 'x' :: rest => rest
  | cs => cs

/-- The text is 64 hexadecimal digits, with or without the mark `0x`. -/
def isHex (cs : List Char) : Bool :=
  let digits := withoutMark cs
  digits.length == 64 && digits.all fun c => (Hex.value? c).isSome

/-- Seeds from hexadecimal digits, white space around them aside. -/
def ofHex (text : String) : Except Fault Seeds :=
  let cs := Text.trim text.toList
  if isHex cs then
    match Hex.decode (withoutMark cs) with
    | .ok data => ofBytes data
    | .error _ => .error (.invalid .notHexSeeds)
  else
    .error (.invalid .notHexSeeds)

/-- Seeds and their address from hexadecimal digits or a phrase. -/
def resolve (text : String) (program : Key) : Except Fault (Seeds × Key) := do
  if isHex (Text.trim text.toList) then
    let seeds ← ofHex text
    return (seeds, ← Address.derive seeds.bytes program)
  else
    ofPhrase (phraseBytes (Text.trimmed text)) program

end Vesting.Seeds
