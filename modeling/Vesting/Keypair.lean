/-
# Keypairs

A keypair is a secret of 32 bytes and the key that goes with it.  A keypair file is a JSON array
of 64 bytes, the secret first.
-/
import Vesting.Bytes.Size
import Vesting.Curve.Edwards25519
import Vesting.Hash.Sha2
import Vesting.Json.Reader
import Vesting.Key

namespace Vesting

/-- A secret and its key. -/
structure Keypair where
  secret : Bytes
  key : Key
deriving DecidableEq

namespace Keypair

/-- The keypair of a secret. -/
def ofSecret (secret : Bytes) : Keypair where
  secret := secret
  key := ⟨Edwards25519.publicKey ((Sha2.sha512 secret).take 32), Edwards25519.length_publicKey _⟩

/-- The keypair in 64 bytes. -/
def ofBytes (data : Bytes) : Except Fault Keypair :=
  if h : data.length = 64 then .ok ⟨data.take 32, Key.slice data 32 (by omega)⟩
  else .error (.invalid (.keypairLength data.length))

/-- An item of a byte array; a truth value counts as 0 or 1. -/
def byteOf : Datum → Except Fault UInt8
  | .int n =>
    if 0 ≤ n ∧ n < 256 then .ok (UInt8.ofNat n.toNat) else .error (.invalid .byteRange)
  | .bool b => .ok (if b then 1 else 0)
  | _ => .error .wrongType

/-- Bytes that are all zero, given by their number.  None need be made for a wrong number. -/
def zeros (n : Int) : Except Fault Keypair := do
  Bytes.checkSize n
  if n = 64 then ofBytes (List.replicate 64 0)
  else .error (.invalid (.keypairLength n.toNat))

/-- The keypair that a file holds.  A number stands for so many zero bytes, and a table counts by
its keys, which are no bytes. -/
def ofDatum : Datum → Except Fault Keypair
  | .list items => do ofBytes (← items.mapM byteOf)
  | .int n => zeros n
  | .bool b => zeros (if b then 1 else 0)
  | .table [] => ofBytes []
  | _ => .error .wrongType

/-- Reads the text of a keypair file. -/
def read (text : List Char) : Except Fault Keypair := do ofDatum (← Json.read text)

end Keypair
end Vesting
