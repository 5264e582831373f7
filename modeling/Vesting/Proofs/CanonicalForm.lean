/-
# The canonical form of a token account

The bytes of a token account are not determined by the account.  Three fields are optional, a tag in
front of each says whether it is there, and where it is not the reader passes over its bytes: the
same account is read whatever stands in them.  The writer leaves zeros there.  So writing what was
read need not give the same bytes back, and the question is what it gives.

* Five conditions on the bytes decide whether there is an account in them (`Legible`,
  `exists_unpack_iff`), and nothing that an account could hold is refused beyond that.
* Field by field, what is written is what was read (`chunks_of_unpack`), and so byte by byte, with
  zeros where an absent field would stand (`getElem?_pack_of_unpack`).

A field that is there and holds zero is not an absent one.  Their bytes differ in the tag alone, and
the tag is written from whether the field is there, not from what it holds.
-/
import Vesting.Proofs.Wire

namespace Vesting

/-- Windows that are equal hold the same bytes. -/
theorem Bytes.getElem?_of_window {a b : Bytes} {offset size i : Nat}
    (h : (a.drop offset).take size = (b.drop offset).take size) (hfrom : offset ≤ i)
    (hto : i < offset + size) : a[i]? = b[i]? := by
  obtain ⟨k, rfl⟩ := Nat.exists_eq_add_of_le hfrom
  have hk : k < size := by omega
  rw [← List.getElem?_drop, ← List.getElem?_take_of_lt hk, h, List.getElem?_take_of_lt hk,
    List.getElem?_drop]

namespace TokenAccount

/-! ## 1. Optional fields -/

/-- The bytes of an optional field whose tag is at `offset`: zeros if the tag says that it is not
there. -/
def payload (data : Bytes) (offset size : Nat) : Bytes :=
  if number data offset 4 = 0 then List.replicate size 0 else (data.drop (offset + 4)).take size

section Optional

variable {α : Type} {data : Bytes} {offset : Nat} {field : α} {found : Option α}

theorem exists_optional_iff : (∃ found, optional data offset field = .ok found) ↔
    number data offset 4 = 0 ∨ number data offset 4 = 1 := by
  simp only [optional_eq_ok_iff, exists_or, exists_and_left, exists_eq, and_true]

theorem tagOf_of_optional (h : optional data offset field = .ok found)
    (hfits : offset + 4 ≤ data.length) : tagOf found = (data.drop offset).take 4 := by
  have hback := LittleEndian.encode_decode ((data.drop offset).take 4)
  rw [Bytes.length_take_drop hfits, ← number] at hback
  rcases optional_eq_ok_iff.1 h with ⟨htag, rfl⟩ | ⟨htag, rfl⟩
  · rw [← hback, htag]
    rfl
  · rw [← hback, htag]
    rfl

/-- An optional field is written as the payload it was read from, in whichever way it is written. -/
theorem write_of_optional {size : Nat} (write : Option α → Bytes)
    (h : optional data offset field = .ok found) (hnone : write none = List.replicate size 0)
    (hsome : write (some field) = (data.drop (offset + 4)).take size) :
    write found = payload data offset size := by
  rcases optional_eq_ok_iff.1 h with ⟨htag, rfl⟩ | ⟨htag, rfl⟩
  · rw [payload, if_pos htag, hnone]
  · rw [payload, if_neg (by omega), hsome]

end Optional

/-! ## 2. What is read -/

/-- Bytes in which there is a token account. -/
structure Legible (data : Bytes) : Prop where
  length : data.length = 165
  /-- The account is in use or frozen. -/
  state : data[108]? = some 1 ∨ data[108]? = some 2
  /-- Each of the three tags says that its field is there, or that it is not. -/
  delegate : number data 72 4 = 0 ∨ number data 72 4 = 1
  native : number data 109 4 = 0 ∨ number data 109 4 = 1
  closeAuthority : number data 129 4 = 0 ∨ number data 129 4 = 1

variable {data : Bytes} {t : TokenAccount}

theorem legible_of_unpack (h : unpack data = .ok t) : Legible data := by
  have hread := readFrom_of_unpack h
  obtain ⟨_, -, hdelegate⟩ := hread.delegate
  obtain ⟨_, -, hclose⟩ := hread.closeAuthority
  refine ⟨hread.length, ?_, exists_optional_iff.1 ⟨_, hdelegate⟩,
    exists_optional_iff.1 ⟨_, hread.native⟩, exists_optional_iff.1 ⟨_, hclose⟩⟩
  rw [hread.state, Option.some.injEq, Option.some.injEq]
  exact hread.live

/-- **Five conditions decide whether there is a token account.** -/
theorem exists_unpack_iff : (∃ t, unpack data = .ok t) ↔ Legible data := by
  refine ⟨fun ⟨t, h⟩ => legible_of_unpack h, fun h => ?_⟩
  have hlen := h.length
  have hstate := h.state
  rw [List.getElem?_eq_getElem (by omega), Option.some.injEq, Option.some.injEq] at hstate
  have hopen : ¬ data[108] = 0 := by
    rcases hstate with h | h <;> rw [h] <;> decide
  have hlive : ¬ (data[108] ≠ 1 ∧ data[108] ≠ 2) := or_iff_not_and_not.1 hstate
  obtain ⟨_, hdelegate⟩ : ∃ found, optional data 72 (Key.slice data 76 (by omega)) = .ok found :=
    exists_optional_iff.2 h.delegate
  obtain ⟨_, hnative⟩ : ∃ found, optional data 109 (UInt64.ofNat (number data 113 8)) = .ok found :=
    exists_optional_iff.2 h.native
  obtain ⟨_, hclose⟩ : ∃ found, optional data 129 (Key.slice data 133 (by omega)) = .ok found :=
    exists_optional_iff.2 h.closeAuthority
  rw [unpack, dif_pos hlen]
  simp only [if_neg hopen, if_neg hlive, hdelegate, hnative, hclose]
  exact ⟨_, rfl⟩

/-! ## 3. What is written again -/

/-- The parts of a byte string that a token account is read from, with zeros for what is passed
over. -/
def windows (data : Bytes) : List Bytes :=
  [(data.drop 0).take 32, (data.drop 32).take 32, (data.drop 64).take 8, (data.drop 72).take 4,
   payload data 72 32, (data.drop 108).take 1, (data.drop 109).take 4, payload data 109 8,
   (data.drop 121).take 8, (data.drop 129).take 4, payload data 129 32]

/-- **Field by field, an account is written as it was read.** -/
theorem chunks_of_unpack (h : unpack data = .ok t) : t.chunks = windows data := by
  have hread := readFrom_of_unpack h
  have hlen := hread.length
  have hword {offset : Nat} (hfits : offset + 8 ≤ data.length) :
      LittleEndian.encode 8 (UInt64.ofNat (number data offset 8)).toNat
        = (data.drop offset).take 8 :=
    LittleEndian.encode_word64 (Bytes.length_take_drop hfits)
  have hstate : [t.state] = (data.drop 108).take 1 := by
    rw [List.take_one, List.head?_drop, hread.state]
    rfl
  obtain ⟨key, hkey, hdelegate⟩ := hread.delegate
  obtain ⟨key', hkey', hclose⟩ := hread.closeAuthority
  have hdelegateBytes : keyBytes t.delegate = payload data 72 32 :=
    write_of_optional keyBytes hdelegate rfl hkey
  have hnativeBytes : LittleEndian.encode 8 (t.native.getD 0).toNat = payload data 109 8 :=
    write_of_optional (fun n => LittleEndian.encode 8 (n.getD 0).toNat) hread.native rfl
      (hword (by omega))
  have hcloseBytes : keyBytes t.closeAuthority = payload data 129 32 :=
    write_of_optional keyBytes hclose rfl hkey'
  rw [chunks, windows, hread.mint, hread.owner, hread.amount, hword (by omega),
    tagOf_of_optional hdelegate (by omega), hdelegateBytes, hstate,
    tagOf_of_optional hread.native (by omega), hnativeBytes, hread.delegatedAmount,
    hword (by omega), tagOf_of_optional hclose (by omega), hcloseBytes]

/-- A place where an optional field would stand that is not there. -/
def Vacant (data : Bytes) (i : Nat) : Prop :=
  number data 72 4 = 0 ∧ 76 ≤ i ∧ i < 108 ∨ number data 109 4 = 0 ∧ 113 ≤ i ∧ i < 121 ∨
    number data 129 4 = 0 ∧ 133 ≤ i ∧ i < 165

instance (data : Bytes) (i : Nat) : Decidable (Vacant data i) :=
  inferInstanceAs (Decidable (_ ∨ _ ∨ _))

theorem getElem?_of_payload {b : Bytes} {offset size i : Nat}
    (h : (b.drop (offset + 4)).take size = payload data offset size) (hfrom : offset + 4 ≤ i)
    (hto : i < offset + 4 + size) :
    b[i]? = if number data offset 4 = 0 then some 0 else data[i]? := by
  rw [payload] at h
  split
  · rename_i htag
    rw [if_pos htag] at h
    obtain ⟨k, rfl⟩ := Nat.exists_eq_add_of_le hfrom
    have hk : k < size := by omega
    rw [← List.getElem?_drop, ← List.getElem?_take_of_lt hk, h, List.getElem?_replicate_of_lt hk]
  · rename_i htag
    rw [if_neg htag] at h
    exact Bytes.getElem?_of_window h hfrom hto

/-- **Byte by byte, an account is written as it was read**, with zeros where an absent field would
stand. -/
theorem getElem?_pack_of_unpack (h : unpack data = .ok t) {i : Nat} (hi : i < 165) :
    t.pack[i]? = if Vacant data i then some 0 else data[i]? := by
  have hwindow (j : Nat) (hj : j < widths.length) :
      (t.pack.drop (widths.take j).sum).take widths[j] = (windows data).get ⟨j, hj⟩ :=
    (t.window_of_pack j hj).trans (List.get_of_eq (chunks_of_unpack h) ⟨j, hj⟩)
  -- a field that is always there
  have hthere (offset size : Nat)
      (heq : (t.pack.drop offset).take size = (data.drop offset).take size)
      (hplace : offset ≤ i ∧ i < offset + size) (hsolid : ¬ Vacant data i) :
      t.pack[i]? = if Vacant data i then some 0 else data[i]? := by
    rw [if_neg hsolid, Bytes.getElem?_of_window heq hplace.1 hplace.2]
  -- a field that may be absent
  have hmaybe (offset size : Nat)
      (heq : (t.pack.drop (offset + 4)).take size = payload data offset size)
      (hplace : offset + 4 ≤ i ∧ i < offset + 4 + size)
      (hvacant : Vacant data i ↔ number data offset 4 = 0) :
      t.pack[i]? = if Vacant data i then some 0 else data[i]? := by
    simp only [hvacant, getElem?_of_payload heq hplace.1 hplace.2]
  unfold Vacant at hthere hmaybe ⊢
  by_cases h₁ : i < 32
  · exact hthere 0 32 (hwindow 0 (by decide)) (by omega) (by omega)
  by_cases h₂ : i < 64
  · exact hthere 32 32 (hwindow 1 (by decide)) (by omega) (by omega)
  by_cases h₃ : i < 72
  · exact hthere 64 8 (hwindow 2 (by decide)) (by omega) (by omega)
  by_cases h₄ : i < 76
  · exact hthere 72 4 (hwindow 3 (by decide)) (by omega) (by omega)
  by_cases h₅ : i < 108
  · exact hmaybe 72 32 (hwindow 4 (by decide)) (by omega) (by omega)
  by_cases h₆ : i < 109
  · exact hthere 108 1 (hwindow 5 (by decide)) (by omega) (by omega)
  by_cases h₇ : i < 113
  · exact hthere 109 4 (hwindow 6 (by decide)) (by omega) (by omega)
  by_cases h₈ : i < 121
  · exact hmaybe 109 8 (hwindow 7 (by decide)) (by omega) (by omega)
  by_cases h₉ : i < 129
  · exact hthere 121 8 (hwindow 8 (by decide)) (by omega) (by omega)
  by_cases h₁₀ : i < 133
  · exact hthere 129 4 (hwindow 9 (by decide)) (by omega) (by omega)
  · exact hmaybe 129 32 (hwindow 10 (by decide)) (by omega) (by omega)

/-! ## 4. The canonical form -/

/-- **Every account has one canonical form among the bytes it may be read from.**  A live account is
written in 165 bytes and read back from them.  Bytes are read exactly if they are legible, and what
is not is invalid account data; no account that is read is one that its own checks would refuse.
Written again, it has the bytes it was read from, with zeros in the vacant places, and is still the
same account; so what two byte strings are written as again is the same exactly if the same account
was read from them. -/
theorem canonical_form :
    (∀ t : TokenAccount, t.Live → t.pack.length = 165 ∧ unpack t.pack = .ok t) ∧
    ∀ data : Bytes,
      ((∃ t, unpack data = .ok t) ↔ Legible data) ∧
      (¬ Legible data → ∃ r, unpack data = .error (.rejected r) ∧ r.code = .invalidAccountData) ∧
      unpackChecked data = unpack data ∧
      ∀ t, unpack data = .ok t →
        (∀ i < 165, t.pack[i]? = if Vacant data i then some 0 else data[i]?) ∧
        unpack t.pack = .ok t ∧
        ∀ data' t', unpack data' = .ok t' → (t'.pack = t.pack ↔ t' = t) := by
  refine ⟨fun t ht => ⟨t.length_pack, unpack_pack ht⟩, fun data =>
    ⟨exists_unpack_iff, fun hill => ?refused, unpackChecked_eq data, fun t h => ?again⟩⟩
  case refused =>
    cases hread : unpack data with
    | ok t => exact absurd (exists_unpack_iff.1 ⟨t, hread⟩) hill
    | error why =>
      obtain ⟨r, rfl, hcode⟩ := unpack_error hread
      exact ⟨r, rfl, hcode⟩
  case again =>
    have hback := unpack_pack (live_of_unpack h)
    refine ⟨fun i hi => getElem?_pack_of_unpack h hi, hback,
      fun data' t' h' => ⟨fun hsame => ?_, ?_⟩⟩
    · have hback' := unpack_pack (live_of_unpack h')
      rw [hsame, hback] at hback'
      exact (Except.ok.inj hback').symm
    · rintro rfl
      rfl

end TokenAccount

namespace Sample

/-- A frozen account that wraps no lamports, and has no delegate. -/
def wrapper : TokenAccount where
  mint := Key.zero
  owner := Key.zero
  amount := 18446744073709551615
  state := 2
  native := some 0

/-- Its bytes, with others left over where a delegate was. -/
def leftover : Bytes := wrapper.pack.replaceRange 76 108 (List.replicate 32 7)

end Sample

/-- What is left over is passed over, and zero when the account is written again. -/
theorem TokenAccount.canonical_form_leftover :
    Sample.wrapper.Live ∧ unpack Sample.wrapper.pack = .ok Sample.wrapper ∧
      Legible Sample.leftover ∧ unpack Sample.leftover = .ok Sample.wrapper ∧
      Sample.leftover[107]? = some 7 ∧ Sample.wrapper.pack[107]? = some 0 ∧
      Sample.wrapper.pack[113]? = Sample.leftover[113]? := by
  obtain ⟨hlive, hall⟩ := canonical_form
  have hread : unpack Sample.leftover = .ok Sample.wrapper := by decide +kernel
  obtain ⟨hlegible, -, -, hagain⟩ := hall Sample.leftover
  obtain ⟨hbytes, -, -⟩ := hagain Sample.wrapper hread
  have hvacant : Vacant Sample.leftover 107 ∧ ¬ Vacant Sample.leftover 113 := by decide +kernel
  refine ⟨Or.inr rfl, (hlive _ (Or.inr rfl)).2, hlegible.1 ⟨_, hread⟩, hread,
    by decide +kernel, ?_, ?_⟩
  · rw [hbytes 107 (by decide), if_pos hvacant.1]
  · rw [hbytes 113 (by decide), if_neg hvacant.2]

end Vesting
