/-
# The spellings of seeds

Seeds may be given as their 64 hexadecimal digits.  There are many ways to write these
(`Seeds.Spells`): each digit in either case, a mark in front or none, white space around all of it.
What is no such text is not refused by everybody.  A reader that also takes phrases takes it for one
(`Seeds.resolve`), and it leads to other seeds and to another address.  So a spelling must not go
unrecognised.

To recognise the digits and to read them are two functions, and they take the text apart in
different ways: one removes the mark and counts the digits, the other goes through them in pairs.
They meet in the bytes.  Characters that are digits are the digits of some bytes
(`Hex.exists_digits_eq`), and of these only (`Hex.decode_of_digits_eq`).

The mark is recognised in lower case only.  Behind `0X` the digits are those of no seeds for one
reader and a phrase for the other (`Seeds.spelling_read`), so this spelling is the one that leads
astray (`Seeds.spelling_read_not_upper`).
-/
import Mathlib.Data.List.DropRight
import Mathlib.Data.List.TakeWhile
import Vesting.Seeds.Phrase

namespace Vesting

/-! ## 1. White space around a text -/

namespace Text

variable {p : Char → Bool}

/-- Of a text with white space around it the text is left. -/
theorem trimWhile_append {front mid back : List Char} (hfront : ∀ c ∈ front, p c = true)
    (hmid : ∀ c ∈ mid, p c = false) (hback : ∀ c ∈ back, p c = true) :
    trimWhile p (front ++ mid ++ back) = mid := by
  have hkept {cs : List Char} (h : ∀ c ∈ cs, c ∈ mid) : cs.dropWhile p = cs :=
    List.dropWhile_eq_self_iff.2 fun hl => by simp [hmid _ (h _ (List.getElem_mem hl))]
  rw [trimWhile, List.append_assoc, List.dropWhile_append_of_pos hfront, List.dropWhile_append,
    hkept fun _ hc => hc]
  cases mid with
  | nil =>
    have hgone : back.dropWhile p = [] := List.dropWhile_eq_nil_iff.2 hback
    simp [hgone]
  | cons c mid =>
    rw [if_neg (by simp), List.reverse_append,
      List.dropWhile_append_of_pos fun c hc => hback c (List.mem_reverse.1 hc),
      hkept fun _ hc => List.mem_reverse.1 hc, List.reverse_reverse]

/-- What is removed at either end is white space. -/
theorem exists_trimWhile (p : Char → Bool) (cs : List Char) : ∃ front back,
    cs = front ++ trimWhile p cs ++ back ∧ (∀ c ∈ front, p c = true) ∧
      ∀ c ∈ back, p c = true := by
  let rest := cs.dropWhile p
  refine ⟨cs.takeWhile p, (rest.reverse.takeWhile p).reverse, ?_, ?_, ?_⟩
  · have hrest : rest = trimWhile p cs ++ (rest.reverse.takeWhile p).reverse := by
      rw [trimWhile, ← List.reverse_append, List.takeWhile_append_dropWhile, List.reverse_reverse]
    rw [List.append_assoc, ← hrest, List.takeWhile_append_dropWhile]
  · exact fun c hc => List.mem_takeWhile_imp hc
  · exact fun c hc => List.mem_takeWhile_imp (List.mem_reverse.1 hc)

/-- A text that neither starts nor ends with white space is left as it is. -/
theorem trimWhile_eq_self {cs : List Char} (hhead : ∀ c ∈ cs.head?, p c = false)
    (hlast : ∀ c ∈ cs.getLast?, p c = false) : trimWhile p cs = cs := by
  have hkept {cs : List Char} (h : ∀ c ∈ cs.head?, p c = false) : cs.dropWhile p = cs := by
    cases cs with
    | nil => rfl
    | cons c cs => rw [List.dropWhile_cons_of_neg (by simp [h c rfl])]
  rw [trimWhile, hkept hhead, hkept (List.head?_reverse ▸ hlast), List.reverse_reverse]

theorem head_trimWhile (cs : List Char) : ∀ c ∈ (trimWhile p cs).head?, p c = false := by
  intro c hc
  have hfront : trimWhile p cs <+: cs.dropWhile p := List.rdropWhile_prefix p _
  cases hrest : cs.dropWhile p with
  | nil => simp [List.prefix_nil.1 (hrest ▸ hfront)] at hc
  | cons d rest =>
    have hd := List.head?_dropWhile_not p cs
    rw [hrest] at hd hfront
    cases htrim : trimWhile p cs with
    | nil => simp [htrim] at hc
    | cons e trimmed =>
      obtain rfl : e = d := (List.cons_prefix_cons.1 (htrim ▸ hfront)).1
      obtain rfl : e = c := by simpa [htrim] using hc
      simpa using hd

theorem last_trimWhile (cs : List Char) : ∀ c ∈ (trimWhile p cs).getLast?, p c = false := by
  intro c hc
  have hne : trimWhile p cs ≠ [] := by
    rintro hnil
    simp [hnil] at hc
  obtain rfl : (trimWhile p cs).getLast hne = c := by
    simpa [List.getLast?_eq_getLast_of_ne_nil hne] using hc
  exact Bool.eq_false_iff.2 (List.rdropWhile_last_not p (cs.dropWhile p) hne)

/-- What is left without the white space is left again. -/
theorem trimWhile_trimWhile (cs : List Char) : trimWhile p (trimWhile p cs) = trimWhile p cs :=
  trimWhile_eq_self (head_trimWhile cs) (last_trimWhile cs)

theorem nonBlank?_eq_some_iff {s t : String} :
    nonBlank? s = some t ↔ t.toList = trim s.toList ∧ t ≠ "" := by
  have htrimmed : t.toList = trim s.toList ↔ trimmed s = t := by
    rw [← String.toList_inj, trimmed, String.toList_ofList, eq_comm]
  rw [htrimmed, nonBlank?]
  simp only [String.isEmpty_iff]
  split
  · rename_i hempty
    exact iff_of_false (by simp) fun h => h.2 (h.1 ▸ hempty)
  · rename_i hne
    rw [Option.some.injEq]
    exact ⟨fun h => ⟨h, h ▸ hne⟩, And.left⟩

/-- A text that neither starts nor ends with white space is taken as it is. -/
theorem nonBlank?_eq_self {s : String} (hne : s ≠ "")
    (hhead : ∀ c ∈ s.toList.head?, isBlank c = false)
    (hlast : ∀ c ∈ s.toList.getLast?, isBlank c = false) : nonBlank? s = some s :=
  nonBlank?_eq_some_iff.2 ⟨(trimWhile_eq_self hhead hlast).symm, hne⟩

/-- What has been taken is taken again. -/
theorem nonBlank?_again {s t : String} (h : nonBlank? s = some t) : nonBlank? t = some t := by
  obtain ⟨ht, hne⟩ := nonBlank?_eq_some_iff.1 h
  refine nonBlank?_eq_some_iff.2 ⟨?_, hne⟩
  rw [ht]
  exact (trimWhile_trimWhile _).symm

end Text

/-! ## 2. Digits -/

namespace Hex

variable {c : Char} {v : Nat}

theorem toNat_lt_of_value? (h : value? c = some v) : c.toNat < 128 := by
  unfold value? at h
  simp only [Char.le_def, UInt32.le_iff_toNat_le] at h
  have hbound (d : Char) (hle : c.val.toNat ≤ d.val.toNat) (hd : d.val.toNat < 128) :
      c.toNat < 128 := Nat.lt_of_le_of_lt hle hd
  split at h
  · rename_i hc
    exact hbound _ hc.2 (by decide)
  split at h
  · rename_i hc
    exact hbound _ hc.2 (by decide)
  split at h
  · rename_i hc
    exact hbound _ hc.2 (by decide)
  cases h

theorem toNat_lt_of_toLower (h : c.toLower.toNat < 128) : c.toNat < 128 := by
  unfold Char.toLower at h
  split at h
  · rename_i hc
    exact Nat.lt_of_le_of_lt (UInt32.le_iff_toNat_le.1 hc.2) (by decide)
  · exact h

/-- A digit has its value in either case. -/
theorem value?_eq_some_iff (h : v < 16) : value? c = some v ↔ c.toLower = digit v := by
  by_cases hc : c.toNat < 128
  · have hascii : ∀ n : Fin 128, ∀ w : Fin 16,
        value? (Char.ofNat n) = some w.val ↔ (Char.ofNat n).toLower = digit w := by
      decide +kernel
    simpa using hascii ⟨c.toNat, hc⟩ ⟨v, h⟩
  · have hdigit : ∀ w : Fin 16, (digit w).toNat < 128 := by decide
    refine iff_of_false (fun hvalue => hc (toNat_lt_of_value? hvalue)) fun hlower => hc ?_
    exact toNat_lt_of_toLower (hlower ▸ hdigit ⟨v, h⟩)

/-- A digit is worth less than sixteen, and is no white space of any kind. -/
theorem spec_of_value? (h : value? c = some v) :
    v < 16 ∧ isGap c = false ∧ Text.isBlank c = false := by
  have hascii : ∀ n : Fin 128, ∀ w ∈ value? (Char.ofNat n),
      w < 16 ∧ isGap (Char.ofNat n) = false ∧ Text.isBlank (Char.ofNat n) = false := by
    decide +kernel
  simpa [h] using hascii ⟨c.toNat, toNat_lt_of_value? h⟩

variable {cs : List Char} {data : Bytes}

/-! Characters are the digits of bytes if they are so in lower case. -/

theorem map_toLower_digits (data : Bytes) :
    (data.flatMap digits).map Char.toLower = data.flatMap digits := by
  have hdigit : ∀ v : Fin 16, (digit v).toLower = digit v := by decide
  have hlower (b : UInt8) : (digits b).map Char.toLower = digits b := by
    have hb : b.toNat < 256 := b.toNat_lt
    rw [digits, List.map_cons, List.map_cons, List.map_nil, hdigit ⟨b.toNat / 16, by omega⟩,
      hdigit ⟨b.toNat % 16, by omega⟩]
  simp only [List.map_flatMap, hlower]

theorem length_of_digits_eq (h : cs.map Char.toLower = data.flatMap digits) :
    cs.length = 2 * data.length := by
  have hlength := congrArg List.length h
  rw [List.length_map, List.length_flatMap] at hlength
  simpa [digits, List.map_const', Nat.mul_comm] using hlength

theorem isSome_of_digits_eq (h : cs.map Char.toLower = data.flatMap digits) :
    ∀ c ∈ cs, (value? c).isSome := by
  intro c hc
  have hmem : c.toLower ∈ data.flatMap digits := h ▸ List.mem_map_of_mem hc
  obtain ⟨b, -, hb⟩ := List.mem_flatMap.1 hmem
  have hb' : b.toNat < 256 := b.toNat_lt
  simp only [digits, List.mem_cons, List.not_mem_nil, or_false] at hb
  rcases hb with hlower | hlower
  · rw [(value?_eq_some_iff (by omega)).2 hlower]
    rfl
  · rw [(value?_eq_some_iff (by omega)).2 hlower]
    rfl

theorem decodeFrom_of_digits_eq (pos : Nat) (acc : Bytes)
    (h : cs.map Char.toLower = data.flatMap digits) :
    decodeFrom pos acc cs = .ok (acc.reverse ++ data) := by
  induction data generalizing cs pos acc with
  | nil =>
    rw [List.flatMap_nil, List.map_eq_nil_iff] at h
    rw [h, decodeFrom, List.append_nil]
  | cons b data ih =>
    rw [List.flatMap_cons, digits, List.cons_append, List.cons_append, List.nil_append,
      List.map_eq_cons_iff] at h
    obtain ⟨hi, rest, rfl, hhi, h⟩ := h
    obtain ⟨lo, rest, rfl, hlo, h⟩ := List.map_eq_cons_iff.1 h
    have hb : b.toNat < 256 := b.toNat_lt
    have hvalue := (value?_eq_some_iff (by omega)).2 hhi
    have hvalue' := (value?_eq_some_iff (by omega)).2 hlo
    have hbyte : UInt8.ofNat (16 * (b.toNat / 16) + b.toNat % 16) = b := by
      rw [Nat.div_add_mod, UInt8.ofNat_toNat]
    unfold decodeFrom
    simp only [(spec_of_value? hvalue).2.1, Bool.false_eq_true, if_false, hvalue, hvalue', hbyte]
    rw [ih _ _ h, List.reverse_cons, List.append_assoc]
    rfl

/-- **The digits of bytes are read as these bytes.** -/
theorem decode_of_digits_eq (h : cs.map Char.toLower = data.flatMap digits) :
    decode cs = .ok data := by
  have hascii : cs.findIdx? (fun c => 128 ≤ c.toNat) = none := by
    rw [List.findIdx?_eq_none_iff]
    intro c hc
    obtain ⟨v, hv⟩ := Option.isSome_iff_exists.1 (isSome_of_digits_eq h c hc)
    simpa using toNat_lt_of_value? hv
  rw [decode, hascii]
  exact decodeFrom_of_digits_eq 0 [] h

/-- **An even number of digits are those of some bytes.** -/
theorem exists_digits_eq (n : Nat) (hlength : cs.length = 2 * n)
    (h : ∀ c ∈ cs, (value? c).isSome) :
    ∃ data : Bytes, data.length = n ∧ cs.map Char.toLower = data.flatMap digits := by
  induction n generalizing cs with
  | zero =>
    obtain rfl := List.length_eq_zero_iff.1 hlength
    exact ⟨[], rfl, rfl⟩
  | succ n ih =>
    match cs, hlength with
    | hi :: lo :: rest, hlength =>
      have hlength' : rest.length = 2 * n := by simpa [Nat.mul_add] using hlength
      obtain ⟨data, hdata, hrest⟩ := ih hlength' fun c hc => h c (by simp [hc])
      obtain ⟨u, hu⟩ := Option.isSome_iff_exists.1 (h hi (by simp))
      obtain ⟨v, hv⟩ := Option.isSome_iff_exists.1 (h lo (by simp))
      have hu' := (spec_of_value? hu).1
      have hv' := (spec_of_value? hv).1
      have hbyte : (UInt8.ofNat (16 * u + v)).toNat = 16 * u + v :=
        UInt8.toNat_ofNat_of_lt' (show 16 * u + v < 256 by omega)
      refine ⟨UInt8.ofNat (16 * u + v) :: data, by rw [List.length_cons, hdata], ?_⟩
      rw [List.flatMap_cons, digits, hbyte, ← hrest, Nat.mul_add_div (by decide),
        Nat.div_eq_of_lt hv', Nat.mul_add_mod, Nat.mod_eq_of_lt hv',
        ← (value?_eq_some_iff hv').1 hv, Nat.add_zero, ← (value?_eq_some_iff hu').1 hu]
      rfl

end Hex

/-! ## 3. Seeds -/

namespace Seeds

/-- `text` writes the seeds in digits of either case behind a mark, with white space around it. -/
def Spells (s : Seeds) (mark text : String) : Prop :=
  ∃ front digits back, text.toList = front ++ (mark.toList ++ digits) ++ back ∧
    (∀ c ∈ front, Text.isBlank c = true) ∧ (∀ c ∈ back, Text.isBlank c = true) ∧
    digits.map Char.toLower = s.bytes.flatMap Hex.digits

/-- Seeds are written as their digits behind the mark. -/
theorem spells_encode (s : Seeds) (mark : String) : s.Spells mark (mark ++ Hex.encode s.bytes) := by
  exact ⟨[], s.bytes.flatMap Hex.digits, [], by simp [Hex.encode], by simp, by simp,
    Hex.map_toLower_digits _⟩

variable {s : Seeds} {mark text : String} {cs digits : List Char}

/-- What is left of a spelling without the white space. -/
theorem Spells.trim (h : s.Spells mark text) (hmark : mark.toList.all (!Text.isBlank ·)) :
    ∃ digits, Text.trim text.toList = mark.toList ++ digits ∧
      digits.map Char.toLower = s.bytes.flatMap Hex.digits := by
  obtain ⟨front, digits, back, htext, hfront, hback, hdigits⟩ := h
  refine ⟨digits, ?_, hdigits⟩
  rw [htext, Text.trim, Text.trimWhile_append hfront ?_ hback]
  intro c hc
  rcases List.mem_append.1 hc with hc | hc
  · simpa using List.all_eq_true.1 hmark c hc
  · obtain ⟨v, hv⟩ := Option.isSome_iff_exists.1 (Hex.isSome_of_digits_eq hdigits c hc)
    exact (Hex.spec_of_value? hv).2.2

theorem withoutMark_of_digits (h : ∀ c ∈ digits, (Hex.value? c).isSome) :
    withoutMark digits = digits := by
  unfold withoutMark
  split
  · rename_i rest
    exact absurd (h 'x' (by simp)) (by decide)
  · rfl

theorem eq_withoutMark (cs : List Char) :
    cs = withoutMark cs ∨ cs = "0x".toList ++ withoutMark cs := by
  unfold withoutMark
  split
  · exact .inr rfl
  · exact .inl rfl

/-- **What is recognised is the digits of some seeds**, with the mark or without it. -/
theorem isHex_iff : isHex cs = true ↔ ∃ s : Seeds,
    (withoutMark cs).map Char.toLower = s.bytes.flatMap Hex.digits := by
  simp only [isHex, Bool.and_eq_true, beq_iff_eq, List.all_eq_true]
  constructor
  · rintro ⟨hlength, hdigits⟩
    obtain ⟨data, hdata, h⟩ := Hex.exists_digits_eq 32 hlength hdigits
    exact ⟨⟨data, hdata⟩, h⟩
  · rintro ⟨s, h⟩
    exact ⟨by rw [Hex.length_of_digits_eq h, s.length_bytes], Hex.isSome_of_digits_eq h⟩

/-- A spelling with the mark in lower case, or with none, is recognised. -/
theorem Spells.withoutMark_trim (h : s.Spells mark text) (hmark : mark ∈ ["", "0x"]) :
    (withoutMark (Text.trim text.toList)).map Char.toLower = s.bytes.flatMap Hex.digits := by
  simp only [List.mem_cons, List.not_mem_nil, or_false] at hmark
  rcases hmark with rfl | rfl
  · obtain ⟨digits, htrim, hdigits⟩ := h.trim (by decide)
    rw [htrim]
    exact (congrArg _ (withoutMark_of_digits (Hex.isSome_of_digits_eq hdigits))).trans hdigits
  · obtain ⟨digits, htrim, hdigits⟩ := h.trim (by decide)
    rw [htrim]
    exact hdigits

/-- One with the mark in upper case is not. -/
theorem Spells.not_isHex (h : s.Spells "0X" text) : isHex (Text.trim text.toList) = false := by
  obtain ⟨digits, htrim, -⟩ := h.trim (by decide)
  rw [Bool.eq_false_iff, htrim]
  intro hhex
  obtain ⟨_, hmark⟩ := isHex_iff.1 hhex
  exact absurd (Hex.isSome_of_digits_eq hmark 'X' (.tail _ (.head _))) (by decide)

/-- What is recognised is a spelling. -/
theorem exists_spells_of_isHex (h : isHex (Text.trim text.toList) = true) :
    ∃ s : Seeds, ∃ mark ∈ ["", "0x"], s.Spells mark text := by
  obtain ⟨s, hdigits⟩ := isHex_iff.1 h
  obtain ⟨front, back, htext, hfront, hback⟩ := Text.exists_trimWhile Text.isBlank text.toList
  rw [← Text.trim] at htext
  rcases eq_withoutMark (Text.trim text.toList) with hmark | hmark
  · refine ⟨s, "", by simp, front, _, back, ?_, hfront, hback, hdigits⟩
    exact htext.trans (congrArg (front ++ · ++ back) hmark)
  · refine ⟨s, "0x", by simp, front, _, back, ?_, hfront, hback, hdigits⟩
    exact htext.trans (congrArg (front ++ · ++ back) hmark)

/-! ## 4. Reading seeds -/

theorem ofHex_of_digits
    (h : (withoutMark (Text.trim text.toList)).map Char.toLower = s.bytes.flatMap Hex.digits) :
    ofHex text = .ok s := by
  simp only [ofHex, if_pos (isHex_iff.2 ⟨s, h⟩), Hex.decode_of_digits_eq h, ofBytes_bytes]

theorem ofHex_of_not_isHex (h : isHex (Text.trim text.toList) = false) :
    ofHex text = .error (.invalid .notHexSeeds) := by
  simp [ofHex, h]

/-- Seeds that are read from their digits are looked up, and nothing else is tried. -/
theorem resolve_of_digits (program : Key)
    (h : (withoutMark (Text.trim text.toList)).map Char.toLower = s.bytes.flatMap Hex.digits) :
    resolve text program
      = (fun address => (s, address)) <$> Address.derive s.bytes program := by
  rw [resolve, if_pos (isHex_iff.2 ⟨s, h⟩), ofHex_of_digits h]
  show Address.derive s.bytes program >>= _ = _
  cases Address.derive s.bytes program with
  | ok address => rfl
  | error why => rfl

theorem resolve_of_not_isHex (program : Key) (h : isHex (Text.trim text.toList) = false) :
    resolve text program = ofPhrase (phraseBytes (Text.trimmed text)) program := by
  rw [resolve, if_neg (Bool.eq_false_iff.1 h)]

/-- **Seeds are read from their spellings, unless the mark is in upper case.**  Behind a mark in
lower case, or behind none, they are found by either reader.  Behind one in upper case the reader
of digits finds none, and the other takes the text for a phrase.  What is no spelling of any seeds
is refused by the reader of digits. -/
theorem spelling_read (text : String) :
    (∀ s : Seeds, ∀ mark ∈ ["", "0x"], s.Spells mark text →
      ofHex text = .ok s ∧ ∀ program, resolve text program
        = (fun address => (s, address)) <$> Address.derive s.bytes program) ∧
    (∀ s : Seeds, s.Spells "0X" text →
      ofHex text = .error (.invalid .notHexSeeds) ∧ ∀ program, resolve text program
        = ofPhrase (phraseBytes (Text.trimmed text)) program) ∧
    ((∀ s : Seeds, ∀ mark ∈ ["", "0x", "0X"], ¬ s.Spells mark text) →
      ofHex text = .error (.invalid .notHexSeeds)) := by
  refine ⟨fun s mark hmark h => ?_, fun s h => ?_, fun h => ?_⟩
  · have hdigits := h.withoutMark_trim hmark
    exact ⟨ofHex_of_digits hdigits, fun program => resolve_of_digits program hdigits⟩
  · exact ⟨ofHex_of_not_isHex h.not_isHex, fun program => resolve_of_not_isHex program h.not_isHex⟩
  · refine ofHex_of_not_isHex (Bool.eq_false_iff.2 fun hhex => ?_)
    obtain ⟨s, mark, hmark, hspells⟩ := exists_spells_of_isHex hhex
    refine h s mark ?_ hspells
    simp only [List.mem_cons, List.not_mem_nil, or_false] at hmark ⊢
    exact hmark.imp_right Or.inl

end Seeds

namespace Sample

/-- Seeds whose digits are letters. -/
def letters : Seeds := ⟨List.replicate 32 0xab, rfl⟩

/-- The seeds in digits of both cases, with a mark in front and white space around. -/
def mixedCase : String := "\t0xaBaBaBaBaBaBaBaBaBaBaBaBaBaBaBaBaBaBaBaBaBaBaBaBaBaBaBaBaBaBaBaB\n"

/-- The seeds behind a mark in upper case. -/
def upperMark : String := "0Xabababababababababababababababababababababababababababababababab"

theorem spells_mixedCase : letters.Spells "0x" mixedCase :=
  ⟨['\t'], (List.replicate 32 ['a', 'B']).flatten, ['\n'], by decide +kernel,
    List.forall_mem_singleton.2 (by decide), List.forall_mem_singleton.2 (by decide),
    by decide +kernel⟩

theorem spells_upperMark : letters.Spells "0X" upperMark :=
  ⟨[], (List.replicate 32 ['a', 'b']).flatten, [], by decide +kernel, by simp, by simp,
    by decide +kernel⟩

end Sample

/-- Digits in both cases are read as seeds, and as nothing else. -/
theorem Seeds.spelling_read_mixed :
    Sample.letters.Spells "0x" Sample.mixedCase ∧ ofHex Sample.mixedCase = .ok Sample.letters ∧
      resolve Sample.mixedCase Key.zero = (fun address => (Sample.letters, address)) <$>
        Address.derive Sample.letters.bytes Key.zero := by
  obtain ⟨hread, -, -⟩ := spelling_read Sample.mixedCase
  obtain ⟨hhex, hresolve⟩ := hread Sample.letters "0x" (by simp) Sample.spells_mixedCase
  exact ⟨Sample.spells_mixedCase, hhex, hresolve Key.zero⟩

/-- **Behind a mark in upper case seeds are not read.** -/
theorem Seeds.spelling_read_not_upper :
    ¬ ∀ (s : Seeds) (text : String), ∀ mark ∈ ["", "0x", "0X"], s.Spells mark text →
      ofHex text = .ok s ∧ ∀ program, resolve text program
        = (fun address => (s, address)) <$> Address.derive s.bytes program := by
  intro hclaim
  obtain ⟨hread, -⟩ := hclaim Sample.letters Sample.upperMark "0X" (by simp) Sample.spells_upperMark
  rw [ofHex_of_not_isHex Sample.spells_upperMark.not_isHex] at hread
  cases hread
end Vesting
