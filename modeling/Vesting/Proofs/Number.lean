/-
# Numbers of 64 bits as people write them

Release times and amounts come from settings files and from the command line, as integers or as
texts of integers, and amounts are money.  `Word64.Denotes` says which integer a value stands for,
if it stands for one: an integer for itself, a text for the integer that it is a literal of, and
no other value for any.  Truth values are no numbers here, and neither are numbers with a
fraction.

A value is read if what it denotes fits in 64 bits, and it is read as that
(`Word64.read_eq_ok_iff`). The range is looked at last, and for integers and texts alike.  So how
a number is written makes no difference (`Word64.numbers_read`), though the decimal digits of a
number may be too many for a literal: it is out of range then.
-/
import Vesting.Proofs.Literal
import Vesting.Settings.Value

namespace Vesting

open Text.IntegerLiteral

variable {field : String} {value : Datum} {text : List Char} {z : Int} {w : UInt64} {why : Fault}

theorem readInteger_trim_eq_ok_iff : readInteger (Text.trim text) = .ok z ↔ Literal text z := by
  rw [← parse_trim_eq_ok_iff, readInteger]
  cases parse (Text.trim text) with
  | ok n => simp
  | error why => cases why <;> simp

theorem invalid_of_readInteger (h : readInteger text = .error why) : ∃ i, why = .invalid i := by
  unfold readInteger at h
  split at h
  · cases h
  · exact ⟨_, (Except.error.inj h).symm⟩
  · exact ⟨_, (Except.error.inj h).symm⟩

namespace Word64

/-- The integer that a value denotes. -/
inductive Denotes : Datum → Int → Prop
  | int (n : Int) : Denotes (.int n) n
  | text {s : String} {n : Int} (h : Literal s.toList n) : Denotes (.text s) n

theorem ofInt_eq_ok_iff : ofInt field z = .ok w ↔ (w.toNat : Int) = z := by
  constructor
  · exact toNat_of_ofInt
  · rintro rfl
    exact ofInt_toNat field w

theorem exists_ofInt_iff : (∃ w, ofInt field z = .ok w) ↔ 0 ≤ z ∧ z ≤ maxU64 := by
  rw [ofInt]
  split <;> simp_all

/-- A text is read as the integer that it is a literal of, once white space is gone; of white space
alone nothing is left. -/
theorem read_text {s : String} : read field (.text s) = .ok w ↔ Literal s.toList w.toNat := by
  rw [read]
  split
  · rename_i hempty
    refine iff_of_false (by simp) ?_
    rintro ⟨ascii, hcounts, hsigned⟩
    rw [List.isEmpty_iff.1 hempty] at hcounts
    obtain rfl := List.forall₂_nil_left_iff.1 hcounts
    obtain ⟨n, hn, -⟩ := signed_iff.1 hsigned
    generalize hcs : (sign []).2 = cs at hn
    cases hn with
    | decimal hds =>
      obtain ⟨_, _, _, _, rfl, -⟩ := hds.exists_cons
      cases hcs
    | based => cases hcs
  · rw [← readInteger_trim_eq_ok_iff]
    cases readInteger (Text.trim s.toList) with
    | error why => simp [bind, Except.bind]
    | ok z =>
      show ofInt field z = .ok w ↔ _
      rw [ofInt_eq_ok_iff, Except.ok.injEq, eq_comm]

/-- **A number of 64 bits is read where it is denoted, and nowhere else.** -/
theorem read_eq_ok_iff : read field value = .ok w ↔ Denotes value w.toNat := by
  cases value with
  | int n =>
    rw [read, ofInt_eq_ok_iff]
    exact ⟨fun h => h ▸ .int _, fun h => by cases h; rfl⟩
  | text s =>
    rw [read_text]
    exact ⟨.text, fun h => by cases h; assumption⟩
  | _ => exact iff_of_false (by simp [read]) (nofun)

/-- What is not read is refused as a value that cannot be used. -/
theorem invalid_of_read (h : read field value = .error why) : ∃ i, why = .invalid i := by
  have hrange {n : Int} (h : ofInt field n = .error why) : ∃ i, why = .invalid i := by
    unfold ofInt at h
    split at h
    · cases h
    · exact ⟨_, (Except.error.inj h).symm⟩
  cases value with
  | int n => exact hrange h
  | text s =>
    rw [read] at h
    split at h
    · exact ⟨_, (Except.error.inj h).symm⟩
    · cases hread : readInteger (Text.trim s.toList) with
      | error why' =>
        rw [hread] at h
        exact Except.error.inj h ▸ invalid_of_readInteger hread
      | ok n =>
        rw [hread] at h
        exact hrange h
  | _ => exact ⟨_, (Except.error.inj h).symm⟩

theorem exists_read_iff :
    (∃ w, read field value = .ok w) ↔ ∃ z, Denotes value z ∧ 0 ≤ z ∧ z ≤ maxU64 := by
  simp only [read_eq_ok_iff]
  constructor
  · rintro ⟨w, hw⟩
    have hle : w.toNat ≤ maxU64 := Nat.le_of_lt_succ w.toNat_lt
    exact ⟨_, hw, by omega, by omega⟩
  · rintro ⟨z, hz, hrange⟩
    obtain ⟨w, hw⟩ : ∃ w, ofInt field z = .ok w := exists_ofInt_iff.2 hrange
    exact ⟨w, ofInt_eq_ok_iff.1 hw ▸ hz⟩

/-- A text of an integer is read if the integer is, whatever base it is written in. -/
theorem read_written {mark : String} {base : Nat} (h : (mark, base) ∈ spellings) :
    read field (.text (String.ofList (written mark base z))) = .ok w ↔
      read field (.int z) = .ok w := by
  rw [read_text, String.toList_ofList]
  show _ ↔ ofInt field z = .ok w
  rw [ofInt_eq_ok_iff]
  refine ⟨eq_of_literal_written h, ?_⟩
  rintro rfl
  refine literal_written h fun _ => ?_
  -- a number of 64 bits has at most twenty decimal digits
  have hlt : (w.toNat : Int).natAbs < 10 ^ 20 := Nat.lt_trans w.toNat_lt (by decide)
  exact Nat.le_trans ((Nat.length_toDigits_le_iff (by decide) (by decide)).2 hlt) (by decide)

/-- **Numbers of 64 bits are read from their literals, and from nothing else.**  What is neither an
integer nor a text is refused.  An integer is read as itself, and a text as the integer that it is a
literal of; either is read if this is in range, and only then.  Whatever is not read is refused as a
value that cannot be used.  And an integer and its decimal, hexadecimal, octal and binary texts are
read alike. -/
theorem numbers_read (field : String) (value : Datum) :
    ((∀ z, value ≠ .int z) → (∀ s, value ≠ .text s) →
      read field value = .error (.invalid (.notIntegerOrText field))) ∧
    (∀ w, read field value = .ok w ↔ Denotes value w.toNat) ∧
    ((∃ w, read field value = .ok w) ↔ ∃ z, Denotes value z ∧ 0 ≤ z ∧ z ≤ maxU64) ∧
    (∀ why, read field value = .error why → ∃ i, why = .invalid i) ∧
    ∀ (z : Int) (mark : String) (base : Nat), (mark, base) ∈ spellings → ∀ w,
      read field (.text (String.ofList (written mark base z))) = .ok w ↔
        read field (.int z) = .ok w := by
  refine ⟨fun hint htext => ?_, fun w => read_eq_ok_iff, exists_read_iff,
    fun why => invalid_of_read, fun z mark base h w => read_written h⟩
  cases value with
  | int z => exact absurd rfl (hint z)
  | text s => exact absurd rfl (htext s)
  | _ => rfl

/-- A truth value is no number, and of two texts with a prefix or a zero in front one is. -/
theorem numbers_read_mixed :
    read "amount" (.bool true) = .error (.invalid (.notIntegerOrText "amount")) ∧
    (Denotes (.text " +0X_fF\n") 255 ∧ read "amount" (.text " +0X_fF\n") = .ok 255) ∧
    ∃ i, read "amount" (.text "010") = .error (.invalid i) := by
  have hff : Denotes (.text " +0X_fF\n") 255 := .text (parse_trim_eq_ok_iff.1 (by decide +kernel))
  obtain ⟨hrefused, -⟩ := numbers_read "amount" (.bool true)
  obtain ⟨-, hread, -⟩ := numbers_read "amount" (.text " +0X_fF\n")
  obtain ⟨-, -, -, hinvalid, -⟩ := numbers_read "amount" (.text "010")
  have hbad : ∃ why, read "amount" (.text "010") = .error why := ⟨_, by rfl⟩
  obtain ⟨why, hwhy⟩ := hbad
  obtain ⟨i, rfl⟩ := hinvalid why hwhy
  exact ⟨hrefused (by simp) (by simp), ⟨hff, (hread 255).2 hff⟩, i, hwhy⟩

end Word64
end Vesting
