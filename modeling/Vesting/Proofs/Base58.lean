/-
# Keys are read back from their texts

The text of a key is a number in base 58, with a `1` in front for each zero byte that the number
does not show.  To read it is to go back from base 58 to base 256, and the question is where the
zeros come from.  The digits of a number never start with zero (`Radix.head_digits`), in either
base.  So the zeros in front are all counted, and none of them twice, and a byte string is read
back whatever it is (`Base58.decode?_encode`).

A text of more than 44 characters is not looked at.  No key has one: 32 bytes with `z` zeros in
front are a number below `256 ^ (32 - z)`, and that has at most `44 - z` digits
(`Key.length_text`).
-/
import Mathlib.Data.Nat.Digits.Lemmas
import Mathlib.Data.String.Basic
import Vesting.Proofs.Spelling
import Vesting.Settings.Value

namespace Vesting

/-! ## 1. Digits of numbers -/

namespace Radix

variable {base n : Nat} {ds : List Nat}

theorem digitsFrom_eq (hb : 2 ≤ base) {fuel n : Nat} (h : n = 0 ∨ n.log2 < fuel) (acc : List Nat) :
    digitsFrom base fuel n acc = (Nat.digits base n).reverse ++ acc := by
  induction fuel generalizing n acc with
  | zero =>
    obtain rfl : n = 0 := by omega
    simp [digitsFrom]
  | succ fuel ih =>
    rw [digitsFrom]
    split
    · rename_i hn
      simp [hn]
    · rename_i hn
      rw [ih (log2_div_lt hb hn (by omega)), Nat.digits_def' (by omega) (Nat.pos_of_ne_zero hn)]
      simp

/-- The digits of a number, the highest first. -/
theorem digits_eq (hb : 2 ≤ base) (n : Nat) : digits base n = (Nat.digits base n).reverse := by
  rw [digits, digitsFrom_eq hb (.inr (Nat.lt_succ_self _)), List.append_nil]

theorem value_eq (base : Nat) (ds : List Nat) : value base ds = Nat.ofDigits base ds.reverse := by
  rw [Nat.ofDigits_eq_foldr, List.foldr_reverse, value, valueFrom]
  simp [Nat.add_comm]

theorem lt_of_mem_digits (hb : 2 ≤ base) : ∀ d ∈ digits base n, d < base := by
  intro d hd
  rw [digits_eq hb, List.mem_reverse] at hd
  exact Nat.digits_lt_base hb hd

/-- No number starts with the digit zero. -/
theorem head_digits (hb : 2 ≤ base) : ∀ d ∈ (digits base n).head?, d ≠ 0 := by
  intro d hd
  rw [digits_eq hb, List.head?_reverse] at hd
  have hne : Nat.digits base n ≠ [] := by
    rintro hnil
    simp [hnil] at hd
  have hn : n ≠ 0 := Nat.digits_ne_nil_iff_ne_zero.1 hne
  obtain rfl : (Nat.digits base n).getLast hne = d := by
    simpa [List.getLast?_eq_getLast_of_ne_nil hne] using hd
  exact Nat.getLast_digit_ne_zero base hn

/-- Digits that do not start with zero are those of the number that they are worth. -/
theorem digits_value (hb : 2 ≤ base) (hds : ∀ d ∈ ds, d < base) (hhead : ∀ d ∈ ds.head?, d ≠ 0) :
    digits base (value base ds) = ds := by
  rw [digits_eq hb, value_eq, Nat.digits_ofDigits base hb, List.reverse_reverse]
  · simpa using hds
  · intro hne
    rw [List.getLast_reverse]
    exact hhead _ (List.head?_eq_some_head _)

/-- Zeros in front are worth nothing. -/
theorem value_zeros_append (base z : Nat) (ds : List Nat) :
    value base (List.replicate z 0 ++ ds) = value base ds := by
  rw [value, valueFrom, List.foldl_append]
  congr 1
  induction z with
  | zero => rfl
  | succ z ih => rw [List.replicate_succ, List.foldl_cons, Nat.mul_zero, Nat.add_zero, ih]

theorem length_digits_le_iff (hb : 2 ≤ base) {k : Nat} :
    (digits base n).length ≤ k ↔ n < base ^ k := by
  rw [digits_eq hb, List.length_reverse, Nat.digits_length_le_iff hb]

theorem value_lt (hb : 2 ≤ base) (hds : ∀ d ∈ ds, d < base) : value base ds < base ^ ds.length := by
  rw [value_eq, ← List.length_reverse]
  exact Nat.ofDigits_lt_base_pow_length hb (by simpa using hds)

end Radix

/-! ## 2. Byte strings -/

namespace Base58

variable {data : Bytes}

/-- A digit reads back as its value, is one byte long and is no white space. -/
theorem digit_spec {v : Nat} (h : v < 58) :
    value? (digit v) = some v ∧ (digit v = '1' ↔ v = 0) ∧ (digit v).utf8Size = 1 ∧
      Text.isBlank (digit v) = false := by
  have hall : ∀ v : Fin 58, value? (digit v) = some v.val ∧ (digit v = '1' ↔ v.val = 0) ∧
      (digit v).utf8Size = 1 ∧ Text.isBlank (digit v) = false := by
    decide +kernel
  exact hall ⟨v, h⟩

theorem mapM_value?_digit {ds : List Nat} (h : ∀ d ∈ ds, d < 58) :
    (ds.map digit).mapM value? = some ds := by
  induction ds with
  | nil => rfl
  | cons d ds ih =>
    obtain ⟨hd, hds⟩ := List.forall_mem_cons.1 h
    rw [List.map_cons, List.mapM_cons, (digit_spec hd).1, ih hds]
    rfl

/-- The number that bytes spell. -/
def number (data : Bytes) : Nat := Radix.value 256 (data.map UInt8.toNat)

/-- The digits of a byte string, those for zeros in front included. -/
def digitsOf (data : Bytes) : List Nat :=
  List.replicate (data.takeWhile (· = 0)).length 0 ++ Radix.digits 58 (number data)

theorem lt_of_mem_digitsOf : ∀ d ∈ digitsOf data, d < 58 := by
  intro d hd
  rcases List.mem_append.1 hd with hd | hd
  · rw [(List.mem_replicate.1 hd).2]
    decide
  · exact Radix.lt_of_mem_digits (by decide) d hd

theorem toList_encode (data : Bytes) : (encode data).toList = (digitsOf data).map digit := by
  rw [encode, String.toList_ofList, digitsOf, List.map_append, List.map_replicate]
  rfl

/-- The `1`s at the front are those for the zeros. -/
theorem takeWhile_encode (data : Bytes) :
    ((encode data).toList.takeWhile (· = '1')).length = (data.takeWhile (· = 0)).length := by
  have hstop : ((Radix.digits 58 (number data)).map digit).takeWhile (· = '1') = [] := by
    cases hds : Radix.digits 58 (number data) with
    | nil => rfl
    | cons d ds =>
      have hd : d ≠ 0 := @Radix.head_digits 58 (number data) (by decide) d (by simp [hds])
      have hlt : d < 58 := @Radix.lt_of_mem_digits 58 (number data) (by decide) d (by simp [hds])
      rw [List.map_cons, List.takeWhile_cons_of_neg]
      simpa using fun h => hd ((digit_spec hlt).2.1.1 h)
  have hone : digit 0 = '1' := by decide
  rw [toList_encode, digitsOf, List.map_append, List.map_replicate,
    List.takeWhile_append_of_pos fun c hc => ?_, hstop, List.append_nil, List.length_replicate]
  simpa [hone] using (List.mem_replicate.1 hc).2

/-- Zeros in front do not count. -/
theorem number_eq (data : Bytes) :
    number data = Radix.value 256 ((data.dropWhile (· = 0)).map UInt8.toNat) := by
  have hzeros : (data.takeWhile (· = 0)).map UInt8.toNat
      = List.replicate (data.takeWhile (· = 0)).length 0 := by
    refine List.eq_replicate_iff.2 ⟨List.length_map .., fun n hn => ?_⟩
    obtain ⟨b, hb, rfl⟩ := List.mem_map.1 hn
    obtain rfl : b = 0 := by simpa using List.mem_takeWhile_imp hb
    rfl
  conv_lhs => rw [number, ← List.takeWhile_append_dropWhile (p := (· = 0)) (l := data)]
  rw [List.map_append, hzeros, Radix.value_zeros_append]

theorem lt_of_mem_toNat : ∀ n ∈ data.map UInt8.toNat, n < 256 := by
  intro n hn
  obtain ⟨b, -, rfl⟩ := List.mem_map.1 hn
  exact b.toNat_lt

/-- Bytes that do not start with zero are those of the number that they spell. -/
theorem digits_number (data : Bytes) :
    (Radix.digits 256 (number data)).map UInt8.ofNat = data.dropWhile (· = 0) := by
  have hhead : ∀ n ∈ ((data.dropWhile (· = 0)).map UInt8.toNat).head?, n ≠ 0 := by
    intro n hn
    rw [List.head?_map] at hn
    obtain ⟨b, hb, rfl⟩ := Option.map_eq_some_iff.1 hn
    have hne := List.head?_dropWhile_not (p := (· = 0)) data
    rw [hb] at hne
    intro hzero
    exact absurd (UInt8.toNat_inj.1 hzero) (by simpa using hne)
  rw [number_eq, Radix.digits_value (by decide) lt_of_mem_toNat hhead, List.map_map]
  conv_rhs => rw [← List.map_id (data.dropWhile (· = 0))]
  exact List.map_congr_left fun b _ => UInt8.ofNat_toNat

/-- **Byte strings are read back from their texts.** -/
theorem decode?_encode (data : Bytes) : decode? (encode data).toList = some data := by
  have hzeros : List.replicate (data.takeWhile (· = 0)).length 0 = data.takeWhile (· = 0) := by
    refine (List.eq_replicate_iff.2 ⟨rfl, fun b hb => ?_⟩).symm
    simpa using List.mem_takeWhile_imp hb
  rw [decode?, takeWhile_encode, toList_encode, mapM_value?_digit lt_of_mem_digitsOf]
  show some (_ ++ (Radix.digits 256 (Radix.value 58 (digitsOf data))).map UInt8.ofNat) = _
  rw [digitsOf, Radix.value_zeros_append, Radix.value_digits (by decide), digits_number, hzeros,
    List.takeWhile_append_dropWhile]

end Base58

/-! ## 3. Keys -/

namespace Key

variable (k : Key)

/-- The text of a key has at most 44 characters, and each is one byte. -/
theorem length_text : k.text.utf8ByteSize ≤ maxText := by
  have hsize : k.text.utf8ByteSize = (Base58.digitsOf k.bytes).length := by
    have hlen (ds : List Nat) (h : ∀ d ∈ ds, d < 58) :
        String.utf8Len (ds.map Base58.digit) = ds.length := by
      induction ds with
      | nil => rfl
      | cons d ds ih =>
        obtain ⟨hd, hds⟩ := List.forall_mem_cons.1 h
        rw [List.map_cons, String.utf8Len_cons, ih hds, (Base58.digit_spec hd).2.2.1,
          List.length_cons]
    rw [← hlen _ Base58.lt_of_mem_digitsOf, ← Base58.toList_encode, ← String.utf8ByteSize_ofList,
      String.ofList_toList]
    rfl
  have hparts := congrArg List.length
    (List.takeWhile_append_dropWhile (p := (· = 0)) (l := k.bytes))
  rw [List.length_append, k.length_bytes] at hparts
  generalize hz : (k.bytes.takeWhile (· = 0)).length = z at hparts
  generalize hn : (k.bytes.dropWhile (· = 0)).length = n at hparts
  have hnumber : Base58.number k.bytes < 256 ^ n := by
    rw [Base58.number_eq, ← hn, ← List.length_map (f := UInt8.toNat)]
    exact Radix.value_lt (by decide) Base58.lt_of_mem_toNat
  -- 256 ^ 32 < 58 ^ 44, and a byte less is a digit less
  have hpow : ∀ z : Fin 33, 256 ^ (32 - z.val) ≤ 58 ^ (44 - z.val) := by decide +kernel
  have hdigits : (Radix.digits 58 (Base58.number k.bytes)).length ≤ 44 - z := by
    rw [Radix.length_digits_le_iff (by decide)]
    refine Nat.lt_of_lt_of_le hnumber ?_
    have := hpow ⟨z, by omega⟩
    rwa [show 32 - z = n by omega] at this
  rw [hsize, Base58.digitsOf, List.length_append, List.length_replicate, hz, maxText]
  omega

/-- **A key is read back from its text.** -/
@[simp] theorem ofText?_text : ofText? k.text = some k := by
  rw [ofText?, if_neg (Nat.not_lt.2 k.length_text), text, Base58.decode?_encode]
  exact ofBytes?_bytes k

/-- What is no key is the text of none. -/
theorem text_ne {s : String} (h : ofText? s = none) : k.text ≠ s := by
  rintro rfl
  cases h.symm.trans k.ofText?_text

theorem text_ne_empty : k.text ≠ "" := k.text_ne (by decide)

/-- The text of a key has no white space around it, nor anywhere else. -/
theorem nonBlank?_text : Text.nonBlank? k.text = some k.text := by
  have hblank : ∀ c ∈ k.text.toList, Text.isBlank c = false := by
    intro c hc
    rw [text, Base58.toList_encode] at hc
    obtain ⟨d, hd, rfl⟩ := List.mem_map.1 hc
    exact (Base58.digit_spec (Base58.lt_of_mem_digitsOf d hd)).2.2.2
  exact Text.nonBlank?_eq_self k.text_ne_empty (fun c hc => hblank c (List.mem_of_mem_head? hc))
    fun c hc => hblank c (List.mem_of_mem_getLast? hc)

/-- A key is found where its text is given. -/
theorem read_text (field : String) : read field (.text k.text) = .ok k := by
  rw [read, nonBlank?_text]
  simp

end Key
end Vesting
