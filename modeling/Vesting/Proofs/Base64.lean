/-
# Base-64 text is read back

Three bytes make four characters, and both the writer and the reader go on behind such a group as
if nothing had been in front of it.  So the induction is on the bytes that are still to be
written, three at a time.  Between groups the reader holds no bits and has seen no padding; all
that it carries along are the bytes of the groups in front.

The last group may be of one or two bytes.  Padding fills it up, and there the reader ends.
-/
import Mathlib.Data.List.Basic
import Vesting.Bytes.Base64
import Vesting.Text.Blank

namespace Vesting.Base64

variable {strict : Bool} {v : Nat} {s : Progress} {text : List Char}

/-! ## 1. Characters -/

/-- A character of ASCII that is no white space and no dash. -/
def IsPlain (c : Char) : Prop := c.toNat < 128 ∧ Text.isBlank c = false ∧ c ≠ '-'

instance (c : Char) : Decidable (IsPlain c) := inferInstanceAs (Decidable (_ ∧ _ ∧ _))

theorem digit_spec (h : v < 64) :
    value? (digit v) = some v ∧ digit v ≠ '=' ∧ IsPlain (digit v) := by
  have hall : ∀ w : Fin 64, value? (digit w.val) = some w.val ∧ digit w.val ≠ '=' ∧
      IsPlain (digit w.val) := by
    decide +kernel
  exact hall ⟨v, h⟩

/-- A digit is taken in, unless there was padding. -/
theorem decodeFrom_digit (h : v < 64) (hs : s.padded = false) :
    decodeFrom strict s (digit v :: text) = decodeFrom strict (s.push v) text := by
  obtain ⟨hvalue, hne, -⟩ := digit_spec h
  rw [decodeFrom, if_neg hne, hvalue]
  simp [hs]

/-! ## 2. Groups -/

/-- What has been written stays in front. -/
theorem encodeFrom_eq (acc : List Char) :
    ∀ data : Bytes, encodeFrom acc data = acc.reverse ++ encodeFrom [] data
  | [] => by simp [encodeFrom]
  | [a] => by simp [encodeFrom]
  | [a, b] => by simp [encodeFrom]
  | a :: b :: c :: rest => by
    rw [encodeFrom, encodeFrom_eq _ rest, encodeFrom.eq_4 [], encodeFrom_eq [_, _, _, _] rest]
    simp

/-- A group is written in front of the others. -/
theorem encodeFrom_group (a b c : UInt8) (rest : Bytes) :
    encodeFrom [] (a :: b :: c :: rest) =
      digit (a.toNat / 4) :: digit (a.toNat % 4 * 16 + b.toNat / 16)
        :: digit (b.toNat % 16 * 4 + c.toNat / 64) :: digit (c.toNat % 64)
        :: encodeFrom [] rest := by
  rw [encodeFrom, encodeFrom_eq]
  rfl

/-- A text is digits, and padding behind them. -/
theorem exists_digits : ∀ data : Bytes, ∃ vs padding, (∀ v ∈ vs, v < 64) ∧
    encodeFrom [] data = vs.map digit ++ List.replicate padding '=' ∧ (vs = [] → padding = 0)
  | [] => ⟨[], 0, nofun, rfl, fun _ => rfl⟩
  | [a] => by
    have ha : a.toNat < 256 := a.toNat_lt
    refine ⟨[a.toNat / 4, a.toNat % 4 * 16], 2, ?_, rfl, nofun⟩
    simp only [List.forall_mem_cons]
    exact ⟨by omega, by omega, nofun⟩
  | [a, b] => by
    have ha : a.toNat < 256 := a.toNat_lt
    have hb : b.toNat < 256 := b.toNat_lt
    refine ⟨[a.toNat / 4, a.toNat % 4 * 16 + b.toNat / 16, b.toNat % 16 * 4], 1, ?_, rfl, nofun⟩
    simp only [List.forall_mem_cons]
    exact ⟨by omega, by omega, by omega, nofun⟩
  | a :: b :: c :: rest => by
    obtain ⟨vs, padding, hvs, heq, -⟩ := exists_digits rest
    have ha : a.toNat < 256 := a.toNat_lt
    have hb : b.toNat < 256 := b.toNat_lt
    have hc : c.toNat < 256 := c.toNat_lt
    refine ⟨a.toNat / 4 :: (a.toNat % 4 * 16 + b.toNat / 16)
      :: (b.toNat % 16 * 4 + c.toNat / 64) :: c.toNat % 64 :: vs, padding, ?_, ?_, nofun⟩
    · simp only [List.forall_mem_cons]
      exact ⟨by omega, by omega, by omega, by omega, hvs⟩
    · rw [encodeFrom_group, heq]
      rfl

/-- No character of a text is out of the ordinary. -/
theorem isPlain_encodeFrom (data : Bytes) : ∀ c ∈ encodeFrom [] data, IsPlain c := by
  obtain ⟨vs, padding, hvs, heq, -⟩ := exists_digits data
  rw [heq, List.forall_mem_append, List.forall_mem_map]
  exact ⟨fun v hv => (digit_spec (hvs v hv)).2.2,
    fun c hc => (List.eq_of_mem_replicate hc) ▸ (by decide)⟩

/-- No text starts with padding. -/
theorem head_encodeFrom (data : Bytes) : (encodeFrom [] data).head? ≠ some '=' := by
  obtain ⟨vs, padding, hvs, heq, hpadding⟩ := exists_digits data
  rw [heq]
  cases vs with
  | nil => simp [hpadding rfl]
  | cons v vs => simpa using (digit_spec (hvs v List.mem_cons_self)).2.1

/-! ## 3. The round trip -/

theorem ofNat_eq {n : Nat} {a : UInt8} (h : n = a.toNat) : UInt8.ofNat n = a := by
  rw [h, UInt8.ofNat_toNat]

/-- A whole group is read as its three bytes. -/
theorem decodeFrom_group (acc : Bytes) (a b c : UInt8) :
    decodeFrom strict { bytes := acc }
        (digit (a.toNat / 4) :: digit (a.toNat % 4 * 16 + b.toNat / 16)
          :: digit (b.toNat % 16 * 4 + c.toNat / 64) :: digit (c.toNat % 64) :: text)
      = decodeFrom strict { bytes := c :: b :: a :: acc } text := by
  have ha : a.toNat < 256 := a.toNat_lt
  have hb : b.toNat < 256 := b.toNat_lt
  have hc : c.toNat < 256 := c.toNat_lt
  rw [decodeFrom_digit (by omega) rfl, decodeFrom_digit (by omega) rfl,
    decodeFrom_digit (by omega) rfl, decodeFrom_digit (by omega) rfl]
  have hfirst : UInt8.ofNat (a.toNat / 4 * 4 + (a.toNat % 4 * 16 + b.toNat / 16) / 16) = a :=
    ofNat_eq (by omega)
  have hsecond : UInt8.ofNat ((a.toNat % 4 * 16 + b.toNat / 16) % 16 * 16
      + (b.toNat % 16 * 4 + c.toNat / 64) / 4) = b := ofNat_eq (by omega)
  have hthird : UInt8.ofNat ((b.toNat % 16 * 4 + c.toNat / 64) % 4 * 64 + c.toNat % 64) = c :=
    ofNat_eq (by omega)
  simp only [Progress.push, hfirst, hsecond, hthird]

/-- A last group of one byte ends the reading. -/
theorem decodeFrom_one (acc : Bytes) (a : UInt8) :
    decodeFrom strict { bytes := acc } [digit (a.toNat / 4), digit (a.toNat % 4 * 16), '=', '=']
      = .ok (acc.reverse ++ [a]) := by
  have ha : a.toNat < 256 := a.toNat_lt
  rw [decodeFrom_digit (by omega) rfl, decodeFrom_digit (by omega) rfl]
  have hbyte : UInt8.ofNat (a.toNat / 4 * 4 + a.toNat % 4 * 16 / 16) = a := ofNat_eq (by omega)
  simp only [Progress.push, hbyte]
  simp [decodeFrom]

/-- So does one of two bytes. -/
theorem decodeFrom_two (acc : Bytes) (a b : UInt8) :
    decodeFrom strict { bytes := acc } [digit (a.toNat / 4),
        digit (a.toNat % 4 * 16 + b.toNat / 16), digit (b.toNat % 16 * 4), '=']
      = .ok (acc.reverse ++ [a, b]) := by
  have ha : a.toNat < 256 := a.toNat_lt
  have hb : b.toNat < 256 := b.toNat_lt
  rw [decodeFrom_digit (by omega) rfl, decodeFrom_digit (by omega) rfl,
    decodeFrom_digit (by omega) rfl]
  have hfirst : UInt8.ofNat (a.toNat / 4 * 4 + (a.toNat % 4 * 16 + b.toNat / 16) / 16) = a :=
    ofNat_eq (by omega)
  have hsecond : UInt8.ofNat ((a.toNat % 4 * 16 + b.toNat / 16) % 16 * 16
      + b.toNat % 16 * 4 / 4) = b := ofNat_eq (by omega)
  simp only [Progress.push, hfirst, hsecond]
  simp [decodeFrom]

/-- Between groups, what is read is what has been written. -/
theorem decodeFrom_encodeFrom (acc : Bytes) : ∀ data : Bytes,
    decodeFrom strict { bytes := acc } (encodeFrom [] data) = .ok (acc.reverse ++ data)
  | [] => by
    show Except.ok acc.reverse = _
    rw [List.append_nil]
  | [a] => decodeFrom_one acc a
  | [a, b] => decodeFrom_two acc a b
  | a :: b :: c :: rest => by
    rw [encodeFrom_group, decodeFrom_group, decodeFrom_encodeFrom _ rest]
    simp

/-- **Bytes are read back from their text**, by a strict reader and by a lenient one. -/
theorem decode_encode (data : Bytes) : decode strict (encode data).toList = .ok data := by
  have hascii : (encodeFrom [] data).any (fun c => 128 ≤ c.toNat) = false :=
    List.any_eq_false.2 fun c hc => by simpa using (isPlain_encodeFrom data c hc).1
  rw [encode, String.toList_ofList, decode, hascii, decodeFrom_encodeFrom]
  simp [head_encodeFrom]

end Vesting.Base64
