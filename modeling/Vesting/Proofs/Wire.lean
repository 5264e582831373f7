/-
# Commands on the wire are read as they were written

Commands are written in one way and read in two.  A lenient reader passes over what it has no use
for, and a strict one refuses bytes behind the tranches of a new contract that make no whole one.
`Command.Spare` says what each of them may leave behind, and then reading is the inverse of writing
in the strongest sense (`Command.decode_eq_ok_iff`): a reader finds the command `c` in exactly those
byte strings that are the bytes of `c` with something spare behind them.

Everything else is read off this equivalence.

* What is read is never misread, and the bytes that are accepted and refused are those of the
  grammar (`Command.decode_grammar`).
* Every command comes through, and no two are written alike (`Command.encode_faithful`).

The equivalence itself is one of windows.  Each field is a window of fixed size, and a window holds
the bytes that the value read from it is written as; the tranches are as many windows as there are,
one behind the other (`Tranche.packAll_readMany`).
-/
import Vesting.Proofs.Checks
import Vesting.Proofs.Record
import Vesting.Proofs.TokenAccount

namespace Vesting

/-! ## 1. Windows that hold numbers, seeds and keys -/

/-- Eight bytes are what the number read from them is written as. -/
theorem LittleEndian.encode_word64 {window : Bytes} (h : window.length = 8) :
    encode 8 (UInt64.ofNat (decode window)).toNat = window := by
  have hlt : decode window < 2 ^ 64 := by
    have := decode_lt window
    rwa [h] at this
  rw [UInt64.toNat_ofNat_of_lt' hlt, ← h, encode_decode]

/-- Four bytes are what the number read from them is written as. -/
theorem LittleEndian.encode_word32 {window : Bytes} (h : window.length = 4) :
    encode 4 (UInt32.ofNat (decode window)).toNat = window := by
  have hlt : decode window < 2 ^ 32 := by
    have := decode_lt window
    rwa [h] at this
  rw [UInt32.toNat_ofNat_of_lt' hlt, ← h, encode_decode]

theorem Seeds.first_append (s : Seeds) (rest : Bytes) (h : 32 ≤ (s.bytes ++ rest).length) :
    first (s.bytes ++ rest) h = s :=
  ext (List.take_left' s.length_bytes)

theorem Key.slice_append {front : Bytes} {offset : Nat} (hfront : front.length = offset) (k : Key)
    (rest : Bytes) (h : offset + 32 ≤ (front ++ (k.bytes ++ rest)).length) :
    slice (front ++ (k.bytes ++ rest)) offset h = k :=
  slice_eq h (by rw [List.drop_left' hfront, List.take_left' k.length_bytes])

namespace Command

theorem number_append {front : Bytes} {offset : Nat} (hfront : front.length = offset) (n : UInt32)
    (rest : Bytes) :
    number (front ++ (LittleEndian.encode 4 n.toNat ++ rest)) offset = n := by
  rw [number, List.drop_left' hfront, List.take_left' (LittleEndian.length_encode 4 _),
    LittleEndian.decode_encode n.toNat_lt, UInt32.ofNat_toNat]

theorem encode_number {data : Bytes} {offset : Nat} (h : offset + 4 ≤ data.length) :
    LittleEndian.encode 4 (number data offset).toNat = (data.drop offset).take 4 :=
  LittleEndian.encode_word32 (Bytes.length_take_drop h)

end Command

/-! ## 2. Tranches back to back -/

namespace Tranche

theorem pack_read {data : Bytes} (h : 16 ≤ data.length) : (read data).pack = data.take 16 := by
  have htime : (data.take 8).length = 8 := List.length_take_of_le (by omega)
  have hamount : ((data.drop 8).take 8).length = 8 := Bytes.length_take_drop h
  rw [pack, read, LittleEndian.encode_word64 htime, LittleEndian.encode_word64 hamount,
    ← List.take_add]

/-- **Tranches are written as the bytes they were read from.** -/
theorem packAll_readMany {n : Nat} {data : Bytes} (h : 16 * n ≤ data.length) :
    packAll (readMany n data) = data.take (16 * n) := by
  induction n generalizing data with
  | zero => rfl
  | succ n ih =>
    have hrest : 16 * n ≤ (data.drop 16).length := by
      rw [List.length_drop]
      omega
    rw [readMany_succ, packAll, List.flatMap_cons, ← packAll, pack_read (by omega), ih hrest,
      ← List.take_add]
    congr 1
    omega

/-- **Tranches are read from the bytes that they are written as**, with less than a tranche behind
them, and nothing for a strict reader. -/
theorem unpackAll_eq_ok_iff {strict : Bool} {data : Bytes} {ts : List Tranche} :
    unpackAll strict data = .ok ts ↔
      ∃ tail, data = packAll ts ++ tail ∧ tail.length < 16 ∧ (strict = true → tail = []) := by
  unfold unpackAll
  constructor
  · intro h
    split at h
    · cases h
    · rename_i hwhole
      have hts : readMany (data.length / 16) data = ts := Except.ok.inj h
      have hpacked := packAll_readMany (Nat.mul_div_le data.length 16)
      rw [hts] at hpacked
      refine ⟨data.drop (16 * (data.length / 16)), ?_, ?_, fun hstrict => ?_⟩
      · rw [hpacked, List.take_append_drop]
      · rw [List.length_drop]
        omega
      · have hmod : data.length % 16 = 0 := by
          by_contra hne
          exact hwhole ⟨hstrict, hne⟩
        exact List.drop_of_length_le (by omega)
  · rintro ⟨tail, rfl, hlt, hstrict⟩
    have hlen : (packAll ts ++ tail).length = 16 * ts.length + tail.length := by
      rw [List.length_append, length_packAll]
    have hcount : (packAll ts ++ tail).length / 16 = ts.length + 0 := by omega
    have hwhole : ¬ (strict = true ∧ (packAll ts ++ tail).length % 16 ≠ 0) := by
      rintro ⟨hs, hne⟩
      rw [hlen, hstrict hs, List.length_nil] at hne
      omega
    rw [if_neg hwhole, hcount, readMany_packAll_append, readMany_zero, List.append_nil]

end Tranche

/-! ## 3. Commands -/

namespace Command

/-- What a reader passes over behind the bytes of a command: less than a tranche behind tranches,
and nothing if it is strict; anything behind the last field of the other kinds. -/
def Spare (strict : Bool) : Command → Bytes → Prop
  | create .., tail => tail.length < 16 ∧ (strict = true → tail = [])
  | _, _ => True

section Fields

variable (strict : Bool) {rest : Bytes}

/-! Enough bytes for a kind are cut into its fields. -/

theorem decodePayload_init (h : 36 ≤ rest.length) :
    decodePayload strict .init rest
      = .ok (init (Seeds.first rest (Nat.le_trans (by decide) h)) (number rest 32)) :=
  dif_pos h

theorem decodePayload_create (h : 96 ≤ rest.length) :
    decodePayload strict .create rest
      = (Tranche.unpackAll strict (rest.drop 96)).map
        (create (Seeds.first rest (Nat.le_trans (by decide) h))
          (Key.slice rest 32 (Nat.le_trans (by decide) h)) (Key.slice rest 64 h)) := by
  have hlong : Kind.create.payload ≤ rest.length := h
  rw [decodePayload, dif_pos hlong]
  cases Tranche.unpackAll strict (rest.drop 96) with
  | ok ts => rfl
  | error why => rfl

theorem decodePayload_unlock (h : 32 ≤ rest.length) :
    decodePayload strict .unlock rest = .ok (unlock (Seeds.first rest h)) :=
  dif_pos h

theorem decodePayload_changeDestination (h : 32 ≤ rest.length) :
    decodePayload strict .changeDestination rest = .ok (changeDestination (Seeds.first rest h)) :=
  dif_pos h

theorem decodePayload_empty (h : 4 ≤ rest.length) :
    decodePayload strict .empty rest = .ok (empty (number rest 0)) :=
  dif_pos h

end Fields

/-- **What is written is read**, whatever can be spared behind it. -/
theorem decodePayload_payload_append {strict : Bool} {c : Command} {tail : Bytes}
    (h : c.Spare strict tail) : decodePayload strict c.kind (c.payload ++ tail) = .ok c := by
  cases c with
  | init seeds count =>
    have hlen : 36 ≤ (seeds.bytes ++ (LittleEndian.encode 4 count.toNat ++ tail)).length := by
      simp [seeds.length_bytes]
      omega
    rw [payload, List.append_assoc]
    refine (decodePayload_init strict hlen).trans ?_
    rw [Seeds.first_append, number_append seeds.length_bytes]
  | create seeds mint destination tranches =>
    have hread : Tranche.unpackAll strict (Tranche.packAll tranches ++ tail) = .ok tranches :=
      Tranche.unpackAll_eq_ok_iff.2 ⟨tail, rfl, h⟩
    have hmint : (seeds.bytes ++ mint.bytes).length = 64 := by
      simp [seeds.length_bytes, mint.length_bytes]
    have hdestination : (seeds.bytes ++ (mint.bytes ++ destination.bytes)).length = 96 := by
      simp [seeds.length_bytes, mint.length_bytes, destination.length_bytes]
    have hlen : 96 ≤ (seeds.bytes ++ (mint.bytes ++ (destination.bytes
        ++ (Tranche.packAll tranches ++ tail)))).length := by
      simp [seeds.length_bytes, mint.length_bytes, destination.length_bytes]
      omega
    have hslice : Key.slice _ 64 hlen = destination := by
      refine Key.slice_eq hlen ?_
      rw [← List.append_assoc, List.drop_left' hmint, List.take_left' destination.length_bytes]
    have hdrop : (seeds.bytes ++ (mint.bytes ++ (destination.bytes
        ++ (Tranche.packAll tranches ++ tail)))).drop 96 = Tranche.packAll tranches ++ tail := by
      rw [← List.append_assoc mint.bytes, ← List.append_assoc, List.drop_left' hdestination]
    rw [payload, List.append_assoc, List.append_assoc, List.append_assoc]
    refine (decodePayload_create strict hlen).trans ?_
    rw [hdrop, hread, Seeds.first_append, Key.slice_append seeds.length_bytes, hslice]
    rfl
  | unlock seeds =>
    have hlen : 32 ≤ (seeds.bytes ++ tail).length := by
      simp [seeds.length_bytes]
    refine (decodePayload_unlock strict hlen).trans ?_
    rw [Seeds.first_append]
  | changeDestination seeds =>
    have hlen : 32 ≤ (seeds.bytes ++ tail).length := by
      simp [seeds.length_bytes]
    refine (decodePayload_changeDestination strict hlen).trans ?_
    rw [Seeds.first_append]
  | empty n =>
    have hlen : 4 ≤ (LittleEndian.encode 4 n.toNat ++ tail).length := by
      simp
    have hn : number (LittleEndian.encode 4 n.toNat ++ tail) 0 = n :=
      @number_append [] 0 rfl n tail
    refine (decodePayload_empty strict hlen).trans ?_
    rw [hn]

/-- **What is read was written**, and something spare may stand behind it. -/
theorem payload_append_of_decodePayload {strict : Bool} {kind : Kind} {rest : Bytes} {c : Command}
    (h : decodePayload strict kind rest = .ok c) :
    c.kind = kind ∧ ∃ tail, rest = c.payload ++ tail ∧ c.Spare strict tail := by
  have hlong : kind.payload ≤ rest.length := by
    by_contra hshort
    rw [decodePayload, dif_neg hshort] at h
    cases h
  cases kind with
  | init =>
    rw [decodePayload_init strict hlong] at h
    obtain rfl := Except.ok.inj h
    refine ⟨rfl, rest.drop 36, ?_, trivial⟩
    rw [payload, encode_number hlong]
    show rest = rest.take 32 ++ (rest.drop 32).take 4 ++ rest.drop 36
    rw [← List.take_add, List.take_append_drop]
  | create =>
    rw [decodePayload_create strict hlong] at h
    cases hts : Tranche.unpackAll strict (rest.drop 96) with
    | error why =>
      rw [hts] at h
      cases h
    | ok ts =>
      rw [hts] at h
      obtain rfl := Except.ok.inj h
      obtain ⟨tail, htail, hspare⟩ := Tranche.unpackAll_eq_ok_iff.1 hts
      refine ⟨rfl, tail, ?_, hspare⟩
      rw [payload, List.append_assoc, ← htail]
      show rest = rest.take 32 ++ (rest.drop 32).take 32 ++ (rest.drop 64).take 32 ++ rest.drop 96
      rw [← List.take_add, ← List.take_add, List.take_append_drop]
  | unlock =>
    rw [decodePayload_unlock strict hlong] at h
    obtain rfl := Except.ok.inj h
    exact ⟨rfl, rest.drop 32, (List.take_append_drop 32 rest).symm, trivial⟩
  | changeDestination =>
    rw [decodePayload_changeDestination strict hlong] at h
    obtain rfl := Except.ok.inj h
    exact ⟨rfl, rest.drop 32, (List.take_append_drop 32 rest).symm, trivial⟩
  | empty =>
    rw [decodePayload_empty strict hlong] at h
    obtain rfl := Except.ok.inj h
    refine ⟨rfl, rest.drop 4, ?_, trivial⟩
    rw [payload, encode_number (Nat.le_trans (Nat.le_of_eq (Nat.zero_add 4)) hlong)]
    exact (List.take_append_drop 4 rest).symm

/-- A byte names the kind whose tag it is. -/
theorem Kind.ofTag?_eq_some_iff {tag : UInt8} {kind : Kind} :
    ofTag? tag = some kind ↔ tag = kind.tag := by
  constructor
  · intro h
    unfold ofTag? at h
    split_ifs at h
    all_goals
      cases h
      assumption
  · rintro rfl
    exact ofTag?_tag kind

/-- The tags are the bytes up to 4. -/
theorem Kind.ofTag?_eq_none_iff {tag : UInt8} : ofTag? tag = none ↔ 4 < tag.toNat := by
  constructor
  · intro h
    unfold ofTag? at h
    split_ifs at h
    simp only [← UInt8.toNat_inj, UInt8.reduceToNat] at *
    omega
  · intro h
    cases hkind : ofTag? tag with
    | none => rfl
    | some kind =>
      obtain rfl := ofTag?_eq_some_iff.1 hkind
      cases kind <;> exact absurd h (by decide)

/-- **A reader finds a command in the bytes that it is written as**, with something spare behind
them, and in no others. -/
theorem decode_eq_ok_iff {strict : Bool} {data : Bytes} {c : Command} :
    decode strict data = .ok c ↔ ∃ tail, data = c.encode ++ tail ∧ c.Spare strict tail := by
  constructor
  · intro h
    cases data with
    | nil => cases h
    | cons tag rest =>
      rw [decode] at h
      cases hkind : Kind.ofTag? tag with
      | none =>
        rw [hkind] at h
        cases h
      | some kind =>
        rw [hkind] at h
        obtain ⟨rfl, tail, rfl, hspare⟩ := payload_append_of_decodePayload h
        exact ⟨tail, by rw [Kind.ofTag?_eq_some_iff.1 hkind, encode, List.cons_append], hspare⟩
  · rintro ⟨tail, rfl, hspare⟩
    rw [encode, List.cons_append, decode, Kind.ofTag?_tag]
    exact decodePayload_payload_append hspare

/-- A command is read back from its bytes. -/
theorem decode_encode (strict : Bool) (c : Command) : decode strict c.encode = .ok c := by
  refine decode_eq_ok_iff.2 ⟨[], (List.append_nil _).symm, ?_⟩
  cases c with
  | create => exact ⟨by decide, fun _ => rfl⟩
  | _ => exact trivial

/-! ## 4. What is no command -/

/-- Why a lenient reader finds no command. -/
inductive Unreadable : Bytes → Rejection → Prop
  | nothing : Unreadable [] .emptyCommand
  | unknown {tag : UInt8} {rest : Bytes} (h : 4 < tag.toNat) :
    Unreadable (tag :: rest) (.unknownTag tag)
  | short {kind : Kind} {rest : Bytes} (h : rest.length < kind.payload) :
    Unreadable (kind.tag :: rest) (.shortCommand kind rest.length)

/-- A lenient reader finds tranches in any bytes, so it needs no more than the fixed fields. -/
theorem decodePayload_of_long {kind : Kind} {rest : Bytes} (h : kind.payload ≤ rest.length) :
    ∃ c, decodePayload false kind rest = .ok c := by
  cases kind with
  | init => exact ⟨_, decodePayload_init false h⟩
  | create => exact ⟨_, decodePayload_create false h⟩
  | unlock => exact ⟨_, decodePayload_unlock false h⟩
  | changeDestination => exact ⟨_, decodePayload_changeDestination false h⟩
  | empty => exact ⟨_, decodePayload_empty false h⟩

theorem decodePayload_of_short {strict : Bool} {kind : Kind} {rest : Bytes}
    (h : rest.length < kind.payload) :
    decodePayload strict kind rest = .error (.rejected (.shortCommand kind rest.length)) :=
  dif_neg (Nat.not_le.2 h)

/-- **A lenient reader finds a command, or says why there is none.** -/
theorem decode_or_unreadable (data : Bytes) :
    (∃ (kind : Kind) (rest : Bytes) (c : Command), data = kind.tag :: rest ∧
      kind.payload ≤ rest.length ∧ decode false data = .ok c) ∨
    ∃ r, decode false data = .error (.rejected r) ∧ Unreadable data r := by
  cases data with
  | nil => exact .inr ⟨_, rfl, .nothing⟩
  | cons tag rest =>
    rw [decode]
    cases hkind : Kind.ofTag? tag with
    | none => exact .inr ⟨_, rfl, .unknown (Kind.ofTag?_eq_none_iff.1 hkind)⟩
    | some kind =>
      obtain rfl := Kind.ofTag?_eq_some_iff.1 hkind
      by_cases hlong : kind.payload ≤ rest.length
      · obtain ⟨c, hc⟩ := decodePayload_of_long hlong
        exact .inl ⟨kind, rest, c, rfl, hlong, hc⟩
      · have hshort := Nat.not_le.1 hlong
        exact .inr ⟨_, decodePayload_of_short hshort, .short hshort⟩

/-- The bytes of a new contract whose tranches are not whole. -/
def Ragged (data : Bytes) : Prop :=
  ∃ rest, data = Kind.create.tag :: rest ∧ 96 ≤ rest.length ∧ (rest.length - 96) % 16 ≠ 0

/-- A strict reader refuses tranches that are not whole. -/
theorem decode_true_of_ragged {data : Bytes} (h : Ragged data) :
    ∃ count, decode true data = .error (.rejected (.trailingBytes count)) := by
  obtain ⟨rest, rfl, hlong, hmod⟩ := h
  refine ⟨(rest.drop 96).length % 16, ?_⟩
  rw [decode, Kind.ofTag?_tag]
  show decodePayload true .create rest = _
  rw [decodePayload_create true hlong, Tranche.unpackAll, if_pos ⟨rfl, by rwa [List.length_drop]⟩]
  rfl

/-- And that is all in which it differs from a lenient one. -/
theorem decode_true_of_not_ragged {data : Bytes} (h : ¬ Ragged data) :
    decode true data = decode false data := by
  cases data with
  | nil => rfl
  | cons tag rest =>
    rw [decode, decode]
    cases hkind : Kind.ofTag? tag with
    | none => rfl
    | some kind =>
      obtain rfl := Kind.ofTag?_eq_some_iff.1 hkind
      show decodePayload true kind rest = decodePayload false kind rest
      by_cases hlong : kind.payload ≤ rest.length
      · cases kind with
        | create =>
          have hmod : ¬ ((rest.drop 96).length % 16 ≠ 0) := by
            rw [List.length_drop]
            exact fun hmod => h ⟨rest, rfl, hlong, hmod⟩
          rw [decodePayload_create true hlong, decodePayload_create false hlong, Tranche.unpackAll,
            Tranche.unpackAll, if_neg fun hboth => hmod hboth.2, if_neg fun hboth => hmod hboth.2]
        | _ => rfl
      · rw [decodePayload_of_short (Nat.not_le.1 hlong),
          decodePayload_of_short (Nat.not_le.1 hlong)]

/-! ## 5. The grammar -/

/-- The least number of bytes behind each tag, in the order of the tags. -/
def leastPayloads : List Nat := [36, 96, 32, 32, 4]

theorem leastPayloads_tag (kind : Kind) : leastPayloads[kind.tag.toNat]? = some kind.payload := by
  cases kind <;> rfl

/-- Bytes are a command if they start with a tag and enough bytes follow it. -/
theorem exists_decode_iff {data : Bytes} :
    (∃ c, decode false data = .ok c) ↔
      ∃ tag rest least, data = tag :: rest ∧ leastPayloads[tag.toNat]? = some least ∧
        least ≤ rest.length := by
  constructor
  · rintro ⟨c, hc⟩
    rcases decode_or_unreadable data with ⟨kind, rest, -, rfl, hlong, -⟩ | ⟨r, hr, -⟩
    · exact ⟨kind.tag, rest, kind.payload, rfl, leastPayloads_tag kind, hlong⟩
    · cases hc.symm.trans hr
  · rintro ⟨tag, rest, least, rfl, hleast, hlong⟩
    rcases decode_or_unreadable (tag :: rest) with ⟨_, _, c, -, -, hc⟩ | ⟨r, hr, hunreadable⟩
    · exact ⟨c, hc⟩
    · cases hunreadable with
      | unknown htag =>
        have hnone : leastPayloads[tag.toNat]? = none := List.getElem?_eq_none htag
        cases hleast.symm.trans hnone
      | short hshort =>
        cases hleast.symm.trans (leastPayloads_tag _)
        exact absurd hlong (Nat.not_le.2 hshort)

/-- Bytes that are no command are too short for one, or start with a byte that is no tag. -/
theorem code_of_decode_error {data : Bytes} {why : Fault} (h : decode false data = .error why) :
    ∃ r, why = .rejected r ∧
      (r.code = .tooShort ∧ (data = [] ∨ ∃ tag rest least, data = tag :: rest ∧
          leastPayloads[tag.toNat]? = some least ∧ rest.length < least) ∨
        r.code = .unknownTag ∧ ∃ tag rest, data = tag :: rest ∧ 4 < tag.toNat) := by
  rcases decode_or_unreadable data with ⟨_, _, c, -, -, hc⟩ | ⟨r, hr, hunreadable⟩
  · cases h.symm.trans hc
  · cases h.symm.trans hr
    refine ⟨r, rfl, ?_⟩
    cases hunreadable with
    | nothing => exact .inl ⟨rfl, .inl rfl⟩
    | unknown htag => exact .inr ⟨rfl, _, _, rfl, htag⟩
    | short hshort => exact .inl ⟨rfl, .inr ⟨_, _, _, rfl, leastPayloads_tag _, hshort⟩⟩

/-- A command is written as the bytes it was found in, less than a tranche aside behind tranches. -/
theorem encode_append_of_decode {data : Bytes} {c : Command} (h : decode false data = .ok c) :
    ∃ tail, data = c.encode ++ tail ∧ (data.head? = some 1 → tail.length < 16) := by
  obtain ⟨tail, rfl, hspare⟩ := decode_eq_ok_iff.1 h
  refine ⟨tail, rfl, fun htag => ?_⟩
  cases c with
  | create => exact hspare.1
  | _ => cases htag

/-- **A reader of commands accepts its grammar, and misreads nothing.**  Bytes are a command exactly
if they start with one of the five tags and enough bytes follow it; all others are too short, or
their tag is unknown.  The command found is written as the bytes it was found in, and behind
tranches fewer than 16 bytes are passed over.  A strict reader differs where tranches are not whole,
and there alone.  And no value that is read is one that its own checks would refuse. -/
theorem decode_grammar (data : Bytes) :
    ((∃ c, decode false data = .ok c) ↔
      ∃ tag rest least, data = tag :: rest ∧ leastPayloads[tag.toNat]? = some least ∧
        least ≤ rest.length) ∧
    (∀ why, decode false data = .error why → ∃ r, why = .rejected r ∧
      (r.code = .tooShort ∧ (data = [] ∨ ∃ tag rest least, data = tag :: rest ∧
          leastPayloads[tag.toNat]? = some least ∧ rest.length < least) ∨
        r.code = .unknownTag ∧ ∃ tag rest, data = tag :: rest ∧ 4 < tag.toNat)) ∧
    (∀ c, decode false data = .ok c →
      ∃ tail, data = c.encode ++ tail ∧ (data.head? = some 1 → tail.length < 16)) ∧
    (Ragged data → ∃ r, decode true data = .error (.rejected r) ∧ r.code = .tooShort) ∧
    (¬ Ragged data → decode true data = decode false data) ∧
    decodeChecked data = decode false data := by
  refine ⟨exists_decode_iff, fun _ => code_of_decode_error, fun _ => encode_append_of_decode, ?_,
    decode_true_of_not_ragged, decodeChecked_eq data⟩
  intro hragged
  obtain ⟨count, hcount⟩ := decode_true_of_ragged hragged
  exact ⟨_, hcount, rfl⟩

/-- Five bytes behind a new contract without tranches. -/
theorem decode_grammar_ragged :
    let data : Bytes := 1 :: List.replicate 101 0
    (∃ c tail, decode false data = .ok c ∧ data = c.encode ++ tail ∧ tail.length < 16) ∧
      ∃ r, decode true data = .error (.rejected r) ∧ r.code = .tooShort := by
  intro data
  obtain ⟨haccepts, -, hwritten, hstrict, -, -⟩ := decode_grammar data
  obtain ⟨c, hc⟩ := haccepts.2 ⟨1, _, 96, rfl, rfl, by decide⟩
  obtain ⟨tail, htail, hlt⟩ := hwritten c hc
  exact ⟨⟨c, tail, hc, htail, hlt rfl⟩, hstrict ⟨_, rfl, by decide, by decide⟩⟩

/-- **Every command comes through.**  Both readers find it in its bytes, no other command has the
same bytes, and a lenient reader still finds a new contract if up to 15 bytes are put behind it. -/
theorem encode_faithful (c : Command) :
    (∀ strict, decode strict c.encode = .ok c) ∧
    (∀ c' : Command, c'.encode = c.encode → c' = c) ∧
    (c.kind = .create → ∀ tail : Bytes, tail.length < 16 →
      decode false (c.encode ++ tail) = .ok c) := by
  refine ⟨fun strict => decode_encode strict c, fun c' hsame => ?_, fun hkind tail htail => ?_⟩
  · have hc' := decode_encode true c'
    rw [hsame, decode_encode true c] at hc'
    exact (Except.ok.inj hc').symm
  · refine decode_eq_ok_iff.2 ⟨tail, rfl, ?_⟩
    cases c with
    | create => exact ⟨htail, fun hstrict => nomatch hstrict⟩
    | _ => cases hkind

/-- A new contract with a tranche of the largest numbers, and 15 bytes behind it. -/
theorem encode_faithful_create :
    let c : Command := .create ⟨List.replicate 32 7, rfl⟩ Key.zero Key.zero
      [⟨18446744073709551615, 18446744073709551615⟩]
    decode true c.encode = .ok c ∧ decode false (c.encode ++ List.replicate 15 255) = .ok c := by
  intro c
  obtain ⟨hread, -, hbehind⟩ := encode_faithful c
  exact ⟨hread true, hbehind rfl _ (by decide)⟩

end Command
end Vesting
