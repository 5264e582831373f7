/-
# What is read passes its checks

Seeds are 32 bytes, counts are numbers of 32 bits, and times and amounts are numbers of 64.  Where
such a value comes from outside, it is checked when it is made (`Seeds.ofBytes`, `Word32.ofInt`,
`Tranche.ofData`, `TokenAccount.Draft.check`), and a value that does not pass is a fault of its own,
which is no refusal.  The readers of commands, records and token accounts do without these checks.

That is sound because of the windows that they read: a window of `n` bytes holds a number below
`256 ^ n`.  For each reader there is one here that makes its values with the checks, from the raw
numbers, and the two are equal on every byte string.  So no check can fail behind a reader, and no
number is cut short by one.
-/
import Vesting.Command
import Vesting.Proofs.TokenAccount

namespace Vesting

/-! ## 1. Numbers, seeds and keys -/

theorem LittleEndian.capacity_mono {m n : Nat} (h : m ≤ n) : capacity m ≤ capacity n := by
  induction h with
  | refl => exact Nat.le_refl _
  | @step n _ ih =>
    rw [capacity]
    omega

/-- A window of `n` bytes, or what there is of it, holds a number that fits in `n` bytes. -/
theorem LittleEndian.decode_take_lt (n : Nat) (data : Bytes) :
    decode (data.take n) < capacity n :=
  Nat.lt_of_lt_of_le (decode_lt _) (capacity_mono (List.length_take_le n data))

theorem Word64.ofInt_of_lt (field : String) {n : Nat} (h : n < LittleEndian.capacity 8) :
    Word64.ofInt field n = .ok (UInt64.ofNat n) := by
  have hn : n < 18446744073709551616 := h
  have hfits : 0 ≤ (n : Int) ∧ (n : Int) ≤ maxU64 := by
    rw [maxU64]
    omega
  rw [ofInt, if_pos hfits, Int.toNat_natCast]

theorem Word32.ofInt_of_lt (field : String) {n : Nat} (h : n < LittleEndian.capacity 4) :
    Word32.ofInt field n = .ok (UInt32.ofNat n) := by
  have hn : n < 4294967296 := h
  have hfits : 0 ≤ (n : Int) ∧ (n : Int) ≤ maxU32 := by
    rw [maxU32]
    omega
  rw [ofInt, if_pos hfits, Int.toNat_natCast]

/-- What passes the check is the number that was given. -/
theorem Word32.toNat_of_ofInt {field : String} {n : Nat} {count : UInt32}
    (h : ofInt field n = .ok count) : count.toNat = n := by
  unfold ofInt at h
  split at h
  · rename_i hfits
    cases h
    rw [maxU32] at hfits
    have hlt : n < 2 ^ 32 := by omega
    exact UInt32.toNat_ofNat_of_lt' hlt
  · cases h

theorem Seeds.ofBytes_take {data : Bytes} (h : 32 ≤ data.length) :
    ofBytes (data.take 32) = .ok (first data h) :=
  dif_pos (List.length_take_of_le h)

/-- A key from bytes, of which there have to be 32. -/
def Key.checked (data : Bytes) : Except Fault Key :=
  match ofBytes? data with
  | some key => .ok key
  | none => .error (.invalid (.keyLength data.length))

theorem Key.checked_window {data : Bytes} {offset : Nat} (h : offset + 32 ≤ data.length) :
    checked ((data.drop offset).take 32) = .ok (slice data offset h) := by
  rw [checked, ofBytes?, dif_pos (Bytes.length_take_drop h)]
  rfl

/-! ## 2. Tranches -/

namespace Tranche

/-- The tranche in the first 16 bytes, checked. -/
def readChecked (data : Bytes) : Except Fault Tranche :=
  ofData (.int (LittleEndian.decode (data.take 8)))
    (.int (LittleEndian.decode ((data.drop 8).take 8)))

theorem readChecked_eq (data : Bytes) : readChecked data = .ok (read data) := by
  have htime := Word64.ofInt_of_lt "release_time" (LittleEndian.decode_take_lt 8 data)
  have hamount := Word64.ofInt_of_lt "amount" (LittleEndian.decode_take_lt 8 (data.drop 8))
  rw [readChecked, ofData, Word64.ofDatum, Word64.ofDatum, htime, hamount]
  rfl

/-- The first `n` tranches, each read at its place and checked. -/
def readManyChecked (n : Nat) (data : Bytes) : Except Fault (List Tranche) :=
  (List.range n).mapM fun i => readChecked (data.drop (16 * i))

/-- To read tranches one behind the other is to read each at its place. -/
theorem readMany_eq_map (n : Nat) (data : Bytes) :
    readMany n data = (List.range n).map fun i => read (data.drop (16 * i)) := by
  induction n generalizing data with
  | zero => rfl
  | succ n ih =>
    rw [readMany_succ, ih, List.range_succ_eq_map, List.map_cons, List.map_map]
    refine congrArg (read data :: ·) (List.map_congr_left fun i _ => ?_)
    rw [Function.comp_apply, List.drop_drop, Nat.mul_succ, Nat.add_comm]

theorem readManyChecked_eq (n : Nat) (data : Bytes) :
    readManyChecked n data = .ok (readMany n data) := by
  have hall : (fun i => readChecked (data.drop (16 * i)))
      = fun i => pure (read (data.drop (16 * i))) := funext fun i => readChecked_eq _
  rw [readManyChecked, hall, List.mapM_pure, readMany_eq_map]
  rfl

/-- A tranche that has been paid out passes its checks as well. -/
theorem ofData_released (t : Tranche) :
    ofData (.int t.releaseTime.toNat) (.int 0) = .ok t.released := by
  rw [ofData, Word64.ofDatum, Word64.ofDatum, Word64.ofInt_toNat]
  rfl

end Tranche

/-! ## 3. Commands -/

namespace Command

/-- The command of a kind whose fields are in `rest`, checked. -/
def decodePayloadChecked (kind : Kind) (rest : Bytes) : Except Fault Command :=
  if rest.length < kind.payload then .error (.rejected (.shortCommand kind rest.length))
  else match kind with
    | .init => do
      let seeds ← Seeds.ofBytes (rest.take 32)
      let count := LittleEndian.decode ((rest.drop 32).take 4)
      return init seeds (← Word32.ofInt "number_of_schedules" count)
    | .create => do
      let mint ← Key.checked ((rest.drop 32).take 32)
      let destination ← Key.checked ((rest.drop 64).take 32)
      let tranches ← Tranche.readManyChecked ((rest.drop 96).length / 16) (rest.drop 96)
      return create (← Seeds.ofBytes (rest.take 32)) mint destination tranches
    | .unlock => return unlock (← Seeds.ofBytes (rest.take 32))
    | .changeDestination => return changeDestination (← Seeds.ofBytes (rest.take 32))
    | .empty => return empty (← Word32.ofInt "number" (LittleEndian.decode ((rest.drop 0).take 4)))

theorem decodePayloadChecked_eq (kind : Kind) (rest : Bytes) :
    decodePayloadChecked kind rest = decodePayload false kind rest := by
  unfold decodePayloadChecked decodePayload
  by_cases h : kind.payload ≤ rest.length
  · rw [if_neg (Nat.not_lt.2 h), dif_pos h]
    cases kind with
    | init =>
      have hseeds : 32 ≤ rest.length := Nat.le_trans (by decide) h
      simp only [Seeds.ofBytes_take hseeds,
        Word32.ofInt_of_lt _ (LittleEndian.decode_take_lt 4 (rest.drop 32))]
      rfl
    | create =>
      have hlong : 96 ≤ rest.length := h
      simp only [Seeds.ofBytes_take (Nat.le_trans (by decide) hlong),
        Key.checked_window (Nat.le_trans (by decide : 32 + 32 ≤ 96) hlong),
        @Key.checked_window rest 64 hlong, Tranche.readManyChecked_eq]
      rfl
    | unlock =>
      simp only [Seeds.ofBytes_take (show 32 ≤ rest.length from h)]
      rfl
    | changeDestination =>
      simp only [Seeds.ofBytes_take (show 32 ≤ rest.length from h)]
      rfl
    | empty =>
      simp only [Word32.ofInt_of_lt _ (LittleEndian.decode_take_lt 4 (rest.drop 0))]
      rfl
  · rw [if_pos (Nat.not_le.1 h), dif_neg h]

/-- The command in a byte string, checked. -/
def decodeChecked : Bytes → Except Fault Command
  | [] => .error (.rejected .emptyCommand)
  | tag :: rest =>
    match Kind.ofTag? tag with
    | none => .error (.rejected (.unknownTag tag))
    | some kind => decodePayloadChecked kind rest

/-- **A command that is read passes the checks of its fields.** -/
theorem decodeChecked_eq (data : Bytes) : decodeChecked data = decode false data := by
  cases data with
  | nil => rfl
  | cons tag rest =>
    rw [decodeChecked, decode]
    cases Kind.ofTag? tag with
    | none => rfl
    | some kind => exact decodePayloadChecked_eq kind rest

end Command

/-! ## 4. Token accounts -/

namespace TokenAccount

/-- The token account in a byte string, checked. -/
def unpackChecked (data : Bytes) : Except Fault TokenAccount :=
  if data.length ≠ 165 then .error (.rejected (.tokenLength data.length))
  else do
    let state := data.getD 108 0
    if state = 0 then throw (.rejected .tokenUnopened)
    if state ≠ 1 ∧ state ≠ 2 then throw (.rejected (.tokenState state))
    let delegate ← optional data 72 ((data.drop 76).take 32)
    let native ← optional data 109 (number data 113 8)
    let closeAuthority ← optional data 129 ((data.drop 133).take 32)
    Draft.check {
      mint := ← Key.checked ((data.drop 0).take 32)
      owner := ← Key.checked ((data.drop 32).take 32)
      amount := .int (number data 64 8)
      delegate := ← delegate.mapM Key.checked
      state := .int state.toNat
      native := (native.map fun n : Nat => Datum.int n).getD .null
      delegatedAmount := .int (number data 121 8)
      closeAuthority := ← closeAuthority.mapM Key.checked }

theorem stateOf_toNat (state : UInt8) : stateOf (.int state.toNat) = .ok state := by
  have hstate : state.toNat < 256 := state.toNat_lt
  have hfits : 0 ≤ (state.toNat : Int) ∧ (state.toNat : Int) < 256 := by omega
  rw [stateOf, if_pos hfits, Int.toNat_natCast, UInt8.ofNat_toNat]

/-- A draft whose numbers fit in 64 bits passes its checks. -/
theorem check_eq (mint owner : Key) (delegate closeAuthority : Option Key) (state : UInt8)
    {amount delegated : Nat} {native : Option Nat} (hamount : amount < LittleEndian.capacity 8)
    (hdelegated : delegated < LittleEndian.capacity 8)
    (hnative : ∀ n ∈ native, n < LittleEndian.capacity 8) :
    Draft.check {
        mint, owner, amount := .int amount, delegate, state := .int state.toNat
        native := (native.map fun n : Nat => Datum.int n).getD .null
        delegatedAmount := .int delegated, closeAuthority }
      = .ok {
        mint, owner, amount := UInt64.ofNat amount, delegate, state
        native := native.map UInt64.ofNat
        delegatedAmount := UInt64.ofNat delegated, closeAuthority } := by
  simp only [Draft.check, Word64.ofDatum, Word64.ofInt_of_lt _ hamount,
    Word64.ofInt_of_lt _ hdelegated, stateOf_toNat]
  cases native with
  | none => rfl
  | some n =>
    simp only [Option.map_some, Option.getD_some, Word64.ofInt_of_lt _ (hnative n rfl)]
    rfl

/-- What is made of a field makes no difference to whether it is there. -/
theorem optional_map {α β : Type} (f : α → β) (data : Bytes) (offset : Nat) (field : α) :
    optional data offset (f field) = Option.map f <$> optional data offset field := by
  rw [optional, optional]
  by_cases h : number data offset 4 = 0
  · simp only [if_pos h]
    rfl
  · simp only [if_neg h]
    by_cases h' : number data offset 4 = 1
    · simp only [if_pos h']
      rfl
    · simp only [if_neg h']
      rfl

theorem optional_ok {α : Type} {data : Bytes} {offset : Nat} {field : α} {found : Option α}
    (h : optional data offset field = .ok found) : ∀ x ∈ found, x = field := by
  rcases optional_eq_ok_iff.1 h with ⟨-, rfl⟩ | ⟨-, rfl⟩
  · exact fun x hx => nomatch hx
  · exact fun x hx => (Option.some.inj hx).symm

/-- A key that is there is one of 32 bytes. -/
theorem mapM_checked {data : Bytes} {offset tag : Nat} {field : Option Bytes}
    (h : optional data tag ((data.drop offset).take 32) = .ok field)
    (hfits : offset + 32 ≤ data.length) :
    field.mapM Key.checked = .ok (field.map fun _ => Key.slice data offset hfits) := by
  cases field with
  | none => rfl
  | some bytes =>
    rw [optional_ok h bytes rfl, Option.mapM_some, Key.checked_window hfits]
    rfl

/-- **A token account that is read passes the checks of its fields.** -/
theorem unpackChecked_eq (data : Bytes) : unpackChecked data = unpack data := by
  have hword (offset : Nat) : number data offset 8 < LittleEndian.capacity 8 :=
    LittleEndian.decode_take_lt 8 (data.drop offset)
  unfold unpackChecked unpack
  by_cases h : data.length = 165
  · have hfits {n : Nat} (hn : n ≤ 165) : n ≤ data.length := Nat.le_trans hn (Nat.le_of_eq h.symm)
    have hstate : data.getD 108 0 = data[108] := by
      rw [List.getD_eq_getElem?_getD, List.getElem?_eq_getElem, Option.getD_some]
    rw [if_neg (fun hne => hne h), dif_pos h]
    simp only [hstate, optional_map UInt64.ofNat,
      optional_map (fun _ => Key.slice data 76 (hfits (by decide))) data 72
        ((data.drop 76).take 32),
      optional_map (fun _ => Key.slice data 133 (hfits (by decide))) data 129
        ((data.drop 133).take 32)]
    by_cases hunopened : data[108] = 0
    · simp only [if_pos hunopened]
      rfl
    by_cases hdead : data[108] ≠ 1 ∧ data[108] ≠ 2
    · simp only [if_neg hunopened, if_pos hdead]
      rfl
    simp only [if_neg hunopened, if_neg hdead]
    cases hdelegate : optional data 72 ((data.drop 76).take 32) with
    | error why => rfl
    | ok delegate =>
      cases hnative : optional data 109 (number data 113 8) with
      | error why => rfl
      | ok native =>
        cases hclose : optional data 129 ((data.drop 133).take 32) with
        | error why => rfl
        | ok closeAuthority =>
          simp only [bind, Except.bind, mapM_checked hdelegate (hfits (by decide)),
            mapM_checked hclose (hfits (by decide)),
            @Key.checked_window data 0 (hfits (by decide)),
            @Key.checked_window data 32 (hfits (by decide))]
          refine check_eq _ _ _ _ _ (hword 64) (hword 121) fun n hn => ?_
          rw [optional_ok hnative n hn]
          exact hword 113
  · rw [dif_neg h, if_pos h]

end TokenAccount
end Vesting
