/-
# Token accounts are read back from their bytes

A token account in one of its two live states survives being written (`unpack_pack`), and what is
read is always in a live state (`live_of_unpack`).  So an account that holds tokens is still one
after a change of its amount, and differs in nothing else (`Account.token?_holding`).  All that a
reader finds is said field by field in `ReadFrom`, and no proof takes the reader apart again.

`Account.token?` is the view that the theory of transfers takes: an account that belongs to the
token program and whose bytes are a token account.  Everything else holds no tokens.
-/
import Mathlib.Algebra.Ring.Nat
import Vesting.Host

namespace Vesting

/-! ## 1. Fields at fixed offsets -/

/-- A chunk of a byte string stands behind the chunks in front of it. -/
theorem Bytes.take_drop_flatten : ∀ (cs : List Bytes) (i : Nat) (h : i < cs.length),
    (cs.flatten.drop ((cs.map List.length).take i).sum).take cs[i].length = cs[i]
  | c :: cs, 0, _ => by simp
  | c :: cs, i + 1, h => by
    have ih := take_drop_flatten cs i (Nat.lt_of_succ_lt_succ h)
    simpa only [List.map_cons, List.take_succ_cons, List.sum_cons, List.flatten_cons,
      List.drop_length_add_append, List.getElem_cons_succ] using ih

theorem LittleEndian.decode_encode_toNat (n : UInt64) :
    LittleEndian.decode (LittleEndian.encode 8 n.toNat) = n.toNat :=
  LittleEndian.decode_encode n.toNat_lt

theorem Key.slice_eq {data : Bytes} {offset : Nat} {k : Key} (h : offset + 32 ≤ data.length)
    (hk : (data.drop offset).take 32 = k.bytes) : Key.slice data offset h = k := by
  cases k
  simp only [Key.slice, Key.mk.injEq]
  exact hk

/-- What fits in 64 bits is kept. -/
theorem Word64.toNat_ofNat_of_le {n : Nat} (h : n ≤ maxU64) : (UInt64.ofNat n).toNat = n :=
  UInt64.toNat_ofNat_of_lt' (Nat.lt_of_le_of_lt h (by decide))

namespace TokenAccount

/-- What a written token account is made of. -/
def chunks (t : TokenAccount) : List Bytes :=
  [t.mint.bytes, t.owner.bytes, LittleEndian.encode 8 t.amount.toNat, tagOf t.delegate,
   keyBytes t.delegate, [t.state], tagOf t.native, LittleEndian.encode 8 (t.native.getD 0).toNat,
   LittleEndian.encode 8 t.delegatedAmount.toNat, tagOf t.closeAuthority,
   keyBytes t.closeAuthority]

theorem pack_eq_flatten (t : TokenAccount) : t.pack = t.chunks.flatten := by
  simp [pack, chunks]

/-- The lengths of the chunks, which are those of every account. -/
def widths : List Nat := [32, 32, 8, 4, 32, 1, 4, 8, 8, 4, 32]

theorem length_chunks (t : TokenAccount) : t.chunks.map List.length = widths := by
  simp [chunks, widths, tagOf, keyBytes, Key.length_bytes]

/-- A field of a written account is found at its offset. -/
theorem window_of_pack (t : TokenAccount) (i : Nat) (h : i < widths.length) :
    (t.pack.drop (widths.take i).sum).take widths[i] = t.chunks.get ⟨i, h⟩ := by
  have hw : widths[i] = (t.chunks.get ⟨i, h⟩).length := by
    simp only [← t.length_chunks, List.getElem_map]
    rfl
  rw [hw, pack_eq_flatten, ← t.length_chunks]
  exact Bytes.take_drop_flatten t.chunks i h

/-! ## 2. Reading what was written -/

/-- The tag decides whether an optional field is there. -/
theorem optional_eq_ok_iff {α : Type} {data : Bytes} {offset : Nat} {field : α} {found : Option α} :
    optional data offset field = .ok found ↔
      number data offset 4 = 0 ∧ found = none ∨ number data offset 4 = 1 ∧ found = some field := by
  unfold optional
  dsimp only
  split
  · rename_i h
    simp [h, eq_comm]
  · rename_i h
    split
    · rename_i h'
      simp [h', eq_comm]
    · rename_i h'
      simp [h, h']

theorem number_of_tag {α : Type} {data : Bytes} {offset : Nat} {field : Option α}
    (h : (data.drop offset).take 4 = tagOf field) :
    number data offset 4 = if field.isSome then 1 else 0 := by
  rw [number, h, tagOf]
  refine LittleEndian.decode_encode ?_
  split <;> decide

/-- An optional field is there if its tag says so. -/
theorem optional_of_tag {α β : Type} {data : Bytes} {offset : Nat} {field : Option α}
    (h : (data.drop offset).take 4 = tagOf field) (x : β) :
    optional data offset x = .ok (field.map fun _ => x) := by
  have hn := number_of_tag h
  cases field with
  | none => exact optional_eq_ok_iff.2 (.inl ⟨hn, rfl⟩)
  | some a => exact optional_eq_ok_iff.2 (.inr ⟨hn, rfl⟩)

theorem word_of_window {data : Bytes} {offset : Nat} {n : UInt64}
    (h : (data.drop offset).take 8 = LittleEndian.encode 8 n.toNat) :
    UInt64.ofNat (number data offset 8) = n := by
  rw [number, h, LittleEndian.decode_encode_toNat]
  exact UInt64.ofNat_toNat

/-- An optional key that is there is read back; for one that is not, nothing is read. -/
theorem map_slice_of_window {data : Bytes} {offset : Nat} {k : Option Key}
    (hb : offset + 32 ≤ data.length) (h : (data.drop offset).take 32 = keyBytes k) :
    (k.map fun _ => Key.slice data offset hb) = k := by
  cases k with
  | none => rfl
  | some key => simpa using Key.slice_eq hb h

theorem map_word_of_window {data : Bytes} {offset : Nat} {n : Option UInt64}
    (h : (data.drop offset).take 8 = LittleEndian.encode 8 (n.getD 0).toNat) :
    (n.map fun _ => UInt64.ofNat (number data offset 8)) = n := by
  cases n with
  | none => rfl
  | some w => simpa using word_of_window h

theorem state_of_pack (t : TokenAccount) (hlen : 108 < t.pack.length) :
    t.pack[108] = t.state := by
  have h : (t.pack.drop 108).take 1 = [t.state] := t.window_of_pack 5 (by decide)
  rw [List.drop_eq_getElem_cons (by simp), List.take_succ_cons] at h
  exact (List.cons.inj h).1

/-- The state of an account that may be used: open or frozen. -/
def Live (t : TokenAccount) : Prop := t.state = 1 ∨ t.state = 2

/-- **A live token account is read back from its bytes.** -/
theorem unpack_pack {t : TokenAccount} (h : t.Live) : unpack t.pack = .ok t := by
  have hmint : (t.pack.drop 0).take 32 = t.mint.bytes := t.window_of_pack 0 (by decide)
  have howner : (t.pack.drop 32).take 32 = t.owner.bytes := t.window_of_pack 1 (by decide)
  have hamount : UInt64.ofNat (number t.pack 64 8) = t.amount :=
    word_of_window (t.window_of_pack 2 (by decide))
  have hdelegateTag : (t.pack.drop 72).take 4 = tagOf t.delegate :=
    t.window_of_pack 3 (by decide)
  have hdelegate : (t.pack.drop 76).take 32 = keyBytes t.delegate :=
    t.window_of_pack 4 (by decide)
  have hnativeTag : (t.pack.drop 109).take 4 = tagOf t.native := t.window_of_pack 6 (by decide)
  have hnative : (t.pack.drop 113).take 8 = LittleEndian.encode 8 (t.native.getD 0).toNat :=
    t.window_of_pack 7 (by decide)
  have hdelegated : UInt64.ofNat (number t.pack 121 8) = t.delegatedAmount :=
    word_of_window (t.window_of_pack 8 (by decide))
  have hcloseTag : (t.pack.drop 129).take 4 = tagOf t.closeAuthority :=
    t.window_of_pack 9 (by decide)
  have hclose : (t.pack.drop 133).take 32 = keyBytes t.closeAuthority :=
    t.window_of_pack 10 (by decide)
  have hopen : t.state ≠ 0 := by
    rcases h with h | h <;> rw [h] <;> decide
  have hlive : ¬ (t.state ≠ 1 ∧ t.state ≠ 2) := by
    rintro ⟨h₁, h₂⟩
    exact h.elim h₁ h₂
  rw [unpack, dif_pos t.length_pack]
  simp only [state_of_pack, if_neg hopen, if_neg hlive, optional_of_tag hdelegateTag,
    optional_of_tag hnativeTag, optional_of_tag hcloseTag]
  simp only [bind, Except.bind, pure, Except.pure, map_slice_of_window _ hdelegate,
    map_word_of_window hnative, map_slice_of_window _ hclose, hamount, hdelegated,
    Key.slice_eq _ hmint, Key.slice_eq _ howner]

/-! ## 3. Where the fields were read -/

/-- The bytes that each field of an account is read from. -/
structure ReadFrom (t : TokenAccount) (data : Bytes) : Prop where
  length : data.length = 165
  live : t.Live
  mint : t.mint.bytes = (data.drop 0).take 32
  owner : t.owner.bytes = (data.drop 32).take 32
  amount : t.amount = UInt64.ofNat (number data 64 8)
  delegate : ∃ key : Key, key.bytes = (data.drop 76).take 32 ∧
    optional data 72 key = .ok t.delegate
  state : data[108]? = some t.state
  native : optional data 109 (UInt64.ofNat (number data 113 8)) = .ok t.native
  delegatedAmount : t.delegatedAmount = UInt64.ofNat (number data 121 8)
  closeAuthority : ∃ key : Key, key.bytes = (data.drop 133).take 32 ∧
    optional data 129 key = .ok t.closeAuthority

theorem readFrom_of_unpack {data : Bytes} {t : TokenAccount} (h : unpack data = .ok t) :
    t.ReadFrom data := by
  unfold unpack at h
  split at h
  · rename_i hlen
    simp only [bind, Except.bind, pure, Except.pure, throw, throwThe, MonadExceptOf.throw] at h
    split at h
    · cases h
    split at h
    · cases h
    rename_i hlive
    split at h
    · cases h
    rename_i hdelegate
    split at h
    · cases h
    rename_i hnative
    split at h
    · cases h
    rename_i hclose
    cases h
    exact ⟨hlen, or_iff_not_and_not.2 hlive, rfl, rfl, rfl, ⟨_, rfl, hdelegate⟩,
      List.getElem?_eq_getElem _, hnative, rfl, ⟨_, rfl, hclose⟩⟩
  · cases h

/-- What is read is live. -/
theorem live_of_unpack {data : Bytes} {t : TokenAccount} (h : unpack data = .ok t) : t.Live :=
  (readFrom_of_unpack h).live

theorem optional_error {α : Type} {data : Bytes} {offset : Nat} {field : α} {why : Fault}
    (h : optional data offset field = .error why) :
    ∃ r, why = .rejected r ∧ r.code = .invalidAccountData := by
  unfold optional at h
  dsimp only at h
  split at h
  · cases h
  · split at h
    · cases h
    · cases h
      exact ⟨_, rfl, rfl⟩

/-- Whatever is no token account is refused as invalid account data. -/
theorem unpack_error {data : Bytes} {why : Fault} (h : unpack data = .error why) :
    ∃ r, why = .rejected r ∧ r.code = .invalidAccountData := by
  unfold unpack at h
  split at h
  · simp only [bind, Except.bind, pure, Except.pure, throw, throwThe, MonadExceptOf.throw] at h
    split at h
    · cases h
      exact ⟨_, rfl, rfl⟩
    split at h
    · cases h
      exact ⟨_, rfl, rfl⟩
    split at h
    · rename_i hdelegate
      cases h
      exact optional_error hdelegate
    split at h
    · rename_i hnative
      cases h
      exact optional_error hnative
    split at h
    · rename_i hclose
      cases h
      exact optional_error hclose
    cases h
  · cases h
    exact ⟨_, rfl, rfl⟩

/-! ## 4. Another amount -/

/-- The account with `n` tokens in it. -/
def holding (t : TokenAccount) (n : Nat) : TokenAccount := { t with amount := UInt64.ofNat n }

theorem toNat_holding (t : TokenAccount) {n : Nat} (h : n ≤ maxU64) :
    (t.holding n).amount.toNat = n := Word64.toNat_ofNat_of_le h

theorem withAmount_eq (t : TokenAccount) {n : Nat} (h : n ≤ maxU64) :
    t.withAmount n = .ok (t.holding n) := by
  have hn : (0 : Int) ≤ n ∧ (n : Int) ≤ maxU64 := ⟨Int.natCast_nonneg n, Int.ofNat_le.2 h⟩
  simp only [withAmount, Word64.ofInt, if_pos hn]
  rfl

theorem amount_le (t : TokenAccount) : t.amount.toNat ≤ maxU64 := by
  exact Nat.le_of_lt_succ t.amount.toNat_lt

/-- An account can give away what it holds. -/
theorem withAmount_sub (t : TokenAccount) {n : Nat} (h : n ≤ t.amount.toNat) :
    t.withAmount ((t.amount.toNat : Int) - n) = .ok (t.holding (t.amount.toNat - n)) := by
  rw [← Int.ofNat_sub h]
  exact t.withAmount_eq (Nat.le_trans (Nat.sub_le _ _) t.amount_le)

/-- An account can take what it has room for. -/
theorem withAmount_add (t : TokenAccount) {n : Nat} (h : t.amount.toNat + n ≤ maxU64) :
    t.withAmount ((t.amount.toNat : Int) + n) = .ok (t.holding (t.amount.toNat + n)) := by
  rw [← Int.natCast_add]
  exact t.withAmount_eq h

end TokenAccount

/-! ## 5. Accounts that hold tokens -/

namespace Account

/-- The token account that an account is, if the token program owns it. -/
def token? (a : Account) : Option TokenAccount :=
  if a.owner = Key.tokenProgram then (TokenAccount.unpack a.data).toOption else none

/-- How many tokens an account holds. -/
def balance (a : Account) : Nat := a.token?.elim 0 fun t => t.amount.toNat

/-- How many tokens of a mint an account holds. -/
def balanceOf (mint : Key) (a : Account) : Nat :=
  a.token?.elim 0 fun t => if t.mint = mint then t.amount.toNat else 0

theorem token?_eq_some_iff {a : Account} {t : TokenAccount} :
    a.token? = some t ↔ a.owner = Key.tokenProgram ∧ TokenAccount.unpack a.data = .ok t := by
  unfold token?
  split
  · rename_i h
    cases TokenAccount.unpack a.data with
    | ok t' => simp [h, Except.toOption]
    | error why => simp [Except.toOption]
  · rename_i h
    simp [h]

theorem token?_eq_none {a : Account} (h : a.owner ≠ Key.tokenProgram) : a.token? = none :=
  if_neg h

/-- **A change of the amount is read back, and changes nothing else.** -/
theorem token?_holding {a : Account} {t : TokenAccount} (h : a.token? = some t) (n : Nat) :
    ({ a with data := (t.holding n).pack } : Account).token? = some (t.holding n) := by
  obtain ⟨howner, hdata⟩ := token?_eq_some_iff.1 h
  have hlive : t.Live := TokenAccount.live_of_unpack hdata
  exact token?_eq_some_iff.2 ⟨howner, TokenAccount.unpack_pack (t := t.holding n) hlive⟩

theorem balance_of_token? {a : Account} {t : TokenAccount} (h : a.token? = some t) :
    a.balance = t.amount.toNat := by
  rw [balance, h, Option.elim_some]

theorem balance_eq_zero {a : Account} (h : a.owner ≠ Key.tokenProgram) : a.balance = 0 := by
  rw [balance, token?_eq_none h, Option.elim_none]

theorem balanceOf_of_token? {a : Account} {t : TokenAccount} (h : a.token? = some t)
    (mint : Key) : a.balanceOf mint = if t.mint = mint then t.amount.toNat else 0 := by
  rw [balanceOf, h, Option.elim_some]

theorem balanceOf_eq_zero {a : Account} (h : a.owner ≠ Key.tokenProgram) (mint : Key) :
    a.balanceOf mint = 0 := by
  rw [balanceOf, token?_eq_none h, Option.elim_none]

end Account

theorem Key.systemProgram_ne_tokenProgram : Key.systemProgram ≠ Key.tokenProgram := by
  decide +kernel

/-- A token account is not nothing. -/
theorem Account.ne_empty_of_token? {a : Account} {t : TokenAccount} (h : a.token? = some t) :
    a ≠ .empty := by
  rintro rfl
  exact Key.systemProgram_ne_tokenProgram (token?_eq_some_iff.1 h).1

theorem Account.balanceOf_empty (mint : Key) : Account.balanceOf mint .empty = 0 :=
  Account.balanceOf_eq_zero (a := .empty) Key.systemProgram_ne_tokenProgram mint

end Vesting
