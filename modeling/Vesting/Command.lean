/-
# Commands on the wire

A command is a tag followed by its fields, with no padding.  The tranches of a new contract come
last and fill the rest; a lenient reader passes over bytes that make no whole tranche.  For the
other kinds, bytes behind the last field are passed over by every reader.
-/
import Vesting.Bytes.Hex
import Vesting.Command.Kind
import Vesting.Seeds
import Vesting.Tranche

namespace Vesting

/-- What the vesting program can be told to do. -/
inductive Command
  /-- Make room for a contract of `count` tranches. -/
  | init (seeds : Seeds) (count : UInt32)
  /-- Set up a contract and move the total of its tranches into escrow. -/
  | create (seeds : Seeds) (mint destination : Key) (tranches : List Tranche)
  /-- Pay out every tranche that is due. -/
  | unlock (seeds : Seeds)
  /-- Name another destination. -/
  | changeDestination (seeds : Seeds)
  /-- Do nothing; the number only shows that the command has arrived. -/
  | empty (number : UInt32)
deriving DecidableEq

namespace Command

/-- The kind of a command. -/
def kind : Command → Kind
  | init .. => .init
  | create .. => .create
  | unlock _ => .unlock
  | changeDestination _ => .changeDestination
  | empty _ => .empty

/-! ## 1. Writing -/

/-- The fields of a command. -/
def payload : Command → Bytes
  | init seeds count => seeds.bytes ++ LittleEndian.encode 4 count.toNat
  | create seeds mint destination tranches =>
    seeds.bytes ++ mint.bytes ++ destination.bytes ++ Tranche.packAll tranches
  | unlock seeds | changeDestination seeds => seeds.bytes
  | empty number => LittleEndian.encode 4 number.toNat

/-- The bytes of a command. -/
def encode (c : Command) : Bytes := c.kind.tag :: c.payload

/-! ## 2. Reading -/

/-- The number of 32 bits at an offset. -/
def number (data : Bytes) (offset : Nat) : UInt32 :=
  UInt32.ofNat (LittleEndian.decode ((data.drop offset).take 4))

/-- The command of a kind whose fields are in `rest`. -/
def decodePayload (strict : Bool) (kind : Kind) (rest : Bytes) : Except Fault Command :=
  if h : kind.payload ≤ rest.length then
    match kind with
    | .init => .ok (init (Seeds.first rest (by simp [Kind.payload] at h; omega)) (number rest 32))
    | .create => do
      let tranches ← Tranche.unpackAll strict (rest.drop 96)
      return create (Seeds.first rest (by simp [Kind.payload] at h; omega))
        (Key.slice rest 32 (by simp [Kind.payload] at h; omega))
        (Key.slice rest 64 (by simp [Kind.payload] at h; omega))
        tranches
    | .unlock => .ok (unlock (Seeds.first rest (by simpa [Kind.payload] using h)))
    | .changeDestination =>
      .ok (changeDestination (Seeds.first rest (by simpa [Kind.payload] using h)))
    | .empty => .ok (empty (number rest 0))
  else
    .error (.rejected (.shortCommand kind rest.length))

/-- The command in a byte string. -/
def decode (strict : Bool) : Bytes → Except Fault Command
  | [] => .error (.rejected .emptyCommand)
  | tag :: rest =>
    match Kind.ofTag? tag with
    | none => .error (.rejected (.unknownTag tag))
    | some kind => decodePayload strict kind rest

/-! ## 3. Fields by name -/

/-- The fields of a command by name, without its kind. -/
def fields : Command → List (String × Datum)
  | init seeds count =>
    [("seeds", .text (Hex.encode seeds.bytes)), ("number_of_schedules", .int count.toNat)]
  | create seeds mint destination tranches =>
    [("seeds", .text (Hex.encode seeds.bytes)), ("mint_address", .text mint.text),
     ("destination_address", .text destination.text),
     ("schedules", .list (tranches.map Tranche.toDatum))]
  | unlock seeds | changeDestination seeds => [("seeds", .text (Hex.encode seeds.bytes))]
  | empty number => [("number", .int number.toNat)]

/-- The kind and the fields of a command by name. -/
def toDatum (c : Command) : Datum := .table (("type", .text c.kind.name) :: c.fields)

end Command
end Vesting
