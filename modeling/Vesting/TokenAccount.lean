/-
# Token accounts

A token account belongs to an owner and holds an amount of tokens of one mint.  It is stored in
165 bytes.  Three of its fields are optional: a tag of 0 or 1 in front of them says whether they
are there, and the bytes of an absent field are zero when written and passed over when read.
-/
import Vesting.Bytes.LittleEndian
import Vesting.Datum.Bounded

namespace Vesting

/-- An account that holds tokens. -/
structure TokenAccount where
  mint : Key
  owner : Key
  amount : UInt64
  delegate : Option Key := none
  /-- 1 in use, 2 frozen. -/
  state : UInt8 := 1
  /-- The reserve of an account that wraps lamports. -/
  native : Option UInt64 := none
  delegatedAmount : UInt64 := 0
  closeAuthority : Option Key := none
deriving DecidableEq

namespace TokenAccount

/-- The length of a stored token account. -/
def length : Nat := 165

/-- Nothing moves in or out. -/
def isFrozen (t : TokenAccount) : Bool := t.state = 2

/-! ## 1. Writing -/

/-- The tag of an optional field. -/
def tagOf {α : Type} (field : Option α) : Bytes :=
  LittleEndian.encode 4 (if field.isSome then 1 else 0)

/-- The bytes of an optional key. -/
def keyBytes (k : Option Key) : Bytes := (k.getD Key.zero).bytes

/-- The 165 bytes of a token account. -/
def pack (t : TokenAccount) : Bytes :=
  t.mint.bytes ++ t.owner.bytes ++ LittleEndian.encode 8 t.amount.toNat
    ++ tagOf t.delegate ++ keyBytes t.delegate ++ [t.state]
    ++ tagOf t.native ++ LittleEndian.encode 8 (t.native.getD 0).toNat
    ++ LittleEndian.encode 8 t.delegatedAmount.toNat
    ++ tagOf t.closeAuthority ++ keyBytes t.closeAuthority

@[simp] theorem length_pack (t : TokenAccount) : t.pack.length = 165 := by
  simp [pack, tagOf, keyBytes, Key.length_bytes]

/-! ## 2. Reading -/

/-- The number in `size` bytes at an offset. -/
def number (data : Bytes) (offset size : Nat) : Nat :=
  LittleEndian.decode ((data.drop offset).take size)

/-- An optional field whose tag is at `offset`. -/
def optional {α : Type} (data : Bytes) (offset : Nat) (field : α) : Except Fault (Option α) :=
  let tag := number data offset 4
  if tag = 0 then .ok none
  else if tag = 1 then .ok (some field)
  else .error (.rejected (.optionTag tag))

/-- The token account in a byte string. -/
def unpack (data : Bytes) : Except Fault TokenAccount :=
  if h : data.length = 165 then do
    let state := data[108]
    if state = 0 then throw (.rejected .tokenUnopened)
    if state ≠ 1 ∧ state ≠ 2 then throw (.rejected (.tokenState state))
    let delegate ← optional data 72 (Key.slice data 76 (by omega))
    let native ← optional data 109 (UInt64.ofNat (number data 113 8))
    let closeAuthority ← optional data 129 (Key.slice data 133 (by omega))
    return {
      mint := Key.slice data 0 (by omega)
      owner := Key.slice data 32 (by omega)
      amount := UInt64.ofNat (number data 64 8)
      delegate, state, native
      delegatedAmount := UInt64.ofNat (number data 121 8)
      closeAuthority }
  else
    .error (.rejected (.tokenLength data.length))

/-! ## 3. Values that nobody has checked -/

/-- A token account as someone has written it down. -/
structure Draft where
  mint : Key
  owner : Key
  amount : Datum
  delegate : Option Key := none
  state : Datum := .int 1
  native : Datum := .null
  delegatedAmount : Datum := .int 0
  closeAuthority : Option Key := none

/-- A state byte; a truth value counts as 0 or 1. -/
def stateOf : Datum → Except Fault UInt8
  | .int n => if 0 ≤ n ∧ n < 256 then .ok (UInt8.ofNat n.toNat) else .error .misfit
  | .bool b => .ok (if b then 1 else 0)
  | _ => .error .misfit

/-- Checks a draft. -/
def Draft.check (d : Draft) : Except Fault TokenAccount := do
  let amount ← Word64.ofDatum "amount" d.amount
  let delegatedAmount ← Word64.ofDatum "delegated_amount" d.delegatedAmount
  let native ← match d.native with
    | .null => pure none
    | native => some <$> Word64.ofDatum "is_native" native
  let state ← stateOf d.state
  return { d with amount, delegatedAmount, native, state }

/-- The account with another amount, which has to be a number of 64 bits. -/
def withAmount (t : TokenAccount) (amount : Int) : Except Fault TokenAccount := do
  return { t with amount := ← Word64.ofInt "amount" amount }

end TokenAccount
end Vesting
