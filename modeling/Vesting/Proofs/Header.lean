/-
# Headers are read back from their bytes

A header is read exactly where the first 65 bytes of a record are those that the header is written
as (`header_eq_ok_iff`).  So whatever leaves these bytes alone leaves the header alone, and each
writer of a record shows in the header what it has written:

* setting up writes the whole header (`header_founded`);
* paying out writes behind it (`header_paidOut`);
* naming another destination writes the first 32 bytes and no others (`header_writeDestination`).
-/
import Vesting.Proofs.Record
import Vesting.Proofs.TokenAccount

namespace Vesting

/-! ## 1. The bytes of a header -/

namespace Header

/-- The byte that says whether a contract has been set up. -/
def flagByte (h : Header) : UInt8 := if h.initialized then 1 else 0

theorem pack_eq (h : Header) : h.pack = h.destination.bytes ++ (h.mint.bytes ++ [h.flagByte]) := by
  rw [pack, List.append_assoc, flagByte]

theorem take_pack (h : Header) : h.pack.take 32 = h.destination.bytes := by
  rw [pack_eq, List.take_left' h.destination.length_bytes]

theorem drop_pack (h : Header) : h.pack.drop 32 = h.mint.bytes ++ [h.flagByte] := by
  rw [pack_eq, List.drop_left' h.destination.length_bytes]

theorem flag_eq_ok_iff {b : UInt8} {initialized : Bool} :
    flag b = .ok initialized ↔ b = if initialized then 1 else 0 := by
  unfold flag
  by_cases h₀ : b = 0
  · cases initialized <;> simp [h₀]
  · by_cases h₁ : b = 1
    · cases initialized <;> simp [h₁]
    · cases initialized <;> simp [h₀, h₁]

/-- A byte string is made of two keys and what follows them. -/
theorem eq_slices (data : Bytes) :
    data = (data.drop 0).take 32 ++ ((data.drop 32).take 32 ++ data.drop 64) := by
  rw [show (64 : Nat) = 32 + 32 from rfl, ← List.drop_drop, List.take_append_drop, List.drop_zero,
    List.take_append_drop]

/-- **A header is read from the bytes that it is written as, and from no others.** -/
theorem read_eq_ok_iff {data : Bytes} (hlen : data.length = 65) {h : Header} :
    read data hlen = .ok h ↔ data = h.pack := by
  have hread : read data hlen = .ok h ↔
      ∃ initialized, flag data[64] = .ok initialized ∧
        Header.mk (Key.slice data 0 (by omega)) (Key.slice data 32 (by omega)) initialized = h := by
    unfold read
    cases flag data[64] with
    | ok initialized => simp [bind, Except.bind, pure, Except.pure]
    | error why => simp [bind, Except.bind]
  rw [hread]
  constructor
  · rintro ⟨initialized, hflag, rfl⟩
    rw [flag_eq_ok_iff] at hflag
    have hlast : data.drop 64 = [data[64]] := by
      rw [List.drop_eq_getElem_cons (by omega), List.drop_of_length_le (by omega)]
    rw [pack_eq, flagByte]
    simp only [Key.slice, ← hflag]
    rw [← hlast]
    exact eq_slices data
  · rintro rfl
    refine ⟨h.initialized, ?_, ?_⟩
    · rw [flag_eq_ok_iff]
      simp [pack, Key.length_bytes]
    · have hdestination : (h.pack.drop 0).take 32 = h.destination.bytes := h.take_pack
      have hmint : (h.pack.drop 32).take 32 = h.mint.bytes := by
        rw [drop_pack, List.take_left' h.mint.length_bytes]
      rw [Key.slice_eq _ hdestination, Key.slice_eq _ hmint]

theorem flag_error {b : UInt8} {why : Fault} (h : flag b = .error why) :
    why = .rejected (.badFlag b) := by
  unfold flag at h
  split at h
  · cases h
  · split at h
    · cases h
    · cases h
      rfl

/-- Nothing but the flag of a header can be wrong. -/
theorem read_error {data : Bytes} {hlen : data.length = 65} {why : Fault}
    (h : read data hlen = .error why) : ∃ b, why = .rejected (.badFlag b) := by
  unfold read at h
  cases hflag : flag data[64] with
  | ok initialized =>
    rw [hflag] at h
    cases h
  | error why' =>
    rw [hflag] at h
    cases h
    exact ⟨_, flag_error hflag⟩

end Header

namespace Record

/-! ## 2. The header of a record -/

/-- Sixty-five bytes at the start are read as they are, and fewer are refused. -/
theorem header_eq_read {data : Bytes} (h : 65 ≤ data.length) :
    header data = Header.read (data.take 65) (List.length_take_of_le h) := by
  have hlong : ¬ (data.length : Int) - 0 < 65 := by omega
  have hposition : 0 ≤ data.position 0 ∧ data.position 0 + (65 : Nat) ≤ data.length := by
    simp only [Bytes.position, Int.lt_irrefl, if_false]
    omega
  have hwindow : data.window? 0 65 = some (data.take 65) := by
    rw [Bytes.window?, if_pos hposition]
    rfl
  rw [header, Header.unpack, if_neg hlong, Bytes.windowAt, if_pos (by decide)]
  split
  · rename_i window hw
    cases hw.symm.trans hwindow
    rfl
  · rename_i hw
    cases hw.symm.trans hwindow

theorem header_eq_ok_iff {data : Bytes} {h : Header} :
    header data = .ok h ↔ data.take 65 = h.pack := by
  by_cases hlong : 65 ≤ data.length
  · rw [header_eq_read hlong, Header.read_eq_ok_iff]
  · have hshort : (data.length : Int) - 0 < 65 := by omega
    constructor
    · intro hread
      rw [header, Header.unpack, if_pos hshort] at hread
      cases hread
    · intro hpack
      have hlen := congrArg List.length hpack
      rw [List.length_take, h.length_pack] at hlen
      omega

/-- A header is refused where the record is too short for one, and where its flag is none. -/
theorem header_error {data : Bytes} {why : Fault} (h : header data = .error why) :
    ∃ r, why = .rejected r ∧ (r.code = .tooShort ∨ r.code = .invalidBoolean) := by
  by_cases hlong : 65 ≤ data.length
  · rw [header_eq_read hlong] at h
    obtain ⟨b, rfl⟩ := Header.read_error h
    exact ⟨_, rfl, Or.inr rfl⟩
  · have hshort : (data.length : Int) - 0 < 65 := by omega
    rw [header, Header.unpack, if_pos hshort] at h
    cases h
    exact ⟨_, rfl, Or.inl rfl⟩

/-- Of a record that is long enough for a header, the flag alone decides whether there is one. -/
theorem exists_header_iff {data : Bytes} (h : 65 ≤ data.length) :
    (∃ header, Record.header data = .ok header) ↔ data[64]? = some 0 ∨ data[64]? = some 1 := by
  have hflag : data[64]? = some data[64] := List.getElem?_eq_getElem h
  have hread : (∃ header, Record.header data = .ok header) ↔
      ∃ initialized, Header.flag data[64] = .ok initialized := by
    rw [header_eq_read h]
    unfold Header.read
    simp only [List.getElem_take]
    cases Header.flag data[64] with
    | ok initialized => simp [bind, Except.bind, pure, Except.pure]
    | error why => simp [bind, Except.bind]
  simp only [hread, Header.flag_eq_ok_iff, Bool.exists_bool, hflag, Option.some.injEq]
  simp

theorem not_header_iff {data : Bytes} (h : 65 ≤ data.length) :
    (∀ header, Record.header data ≠ .ok header) ↔ data[64]? ≠ some 0 ∧ data[64]? ≠ some 1 := by
  rw [← not_exists, exists_header_iff h, not_or]

section Fields

variable {data : Bytes} {h : Header} (hread : header data = .ok h)
include hread

theorem length_of_header : 65 ≤ data.length := by
  have hlen := congrArg List.length (header_eq_ok_iff.1 hread)
  rw [List.length_take, h.length_pack] at hlen
  omega

/-- The first 32 bytes name the destination. -/
theorem take_of_header : data.take 32 = h.destination.bytes := by
  rw [← h.take_pack, ← header_eq_ok_iff.1 hread, List.take_take]
  rfl

end Fields

/-- The stored destination is what the first 32 bytes say. -/
theorem destination_eq_iff {data : Bytes} {header : Header} (h : Record.header data = .ok header)
    {k : Key} : header.destination = k ↔ data.take 32 = k.bytes := by
  rw [take_of_header h]
  constructor
  · rintro rfl
    rfl
  · intro hbytes
    cases k
    cases hdestination : header.destination
    rw [hdestination] at hbytes
    cases hbytes
    rfl

/-- Records that start alike have the same header. -/
theorem header_congr {data data' : Bytes} (h : data'.take 65 = data.take 65) {header : Header} :
    Record.header data' = .ok header ↔ Record.header data = .ok header := by
  rw [header_eq_ok_iff, header_eq_ok_iff, h]

/-! ## 3. The header after a write -/

/-- The header of a contract that has just been set up. -/
theorem header_founded (h : Header) {ts : List Tranche} {data : Bytes}
    (hlen : data.length = length ts.length) : header (founded h ts data) = .ok h := by
  have hfits := tranches_fit h hlen
  have hlong : 65 ≤ data.length := header_fits hlen
  rw [header_eq_ok_iff, founded, writeTranches_eq hfits, Bytes.replaceRange, List.append_assoc,
    List.take_append_of_le_length (by rw [List.length_take, length_writeHeader h hlong]; omega),
    List.take_take, Nat.min_self, writeHeader, Bytes.replaceRange, List.take_zero,
    List.nil_append, List.take_left' h.length_pack]

/-- Paying out leaves the first 65 bytes alone. -/
theorem take_paidOut (now : Int) {data : Bytes} (h : 65 ≤ data.length) :
    (paidOut now data).take 65 = data.take 65 := by
  rw [paidOut, writeTranches_eq (release_fits now h), Bytes.replaceRange, List.append_assoc,
    List.take_append_of_le_length (by rw [List.length_take]; omega), List.take_take, Nat.min_self]

theorem header_paidOut (now : Int) {data : Bytes} (h : 65 ≤ data.length) {header : Header} :
    Record.header (paidOut now data) = .ok header ↔ Record.header data = .ok header :=
  header_congr (take_paidOut now h)

/-- Another destination is read back, and the mint and the flag stay. -/
theorem header_writeDestination (target : Key) {data : Bytes} {h : Header}
    (hread : header data = .ok h) :
    header (writeDestination target data) = .ok { h with destination := target } := by
  have hrest : (data.drop 32).take 33 = h.mint.bytes ++ [h.flagByte] := by
    rw [← h.drop_pack, ← header_eq_ok_iff.1 hread, List.drop_take]
  have htail : (target.bytes ++ data.drop 32).take 65
      = target.bytes ++ (data.drop 32).take 33 := by
    rw [List.take_append, target.length_bytes,
      List.take_of_length_le (by rw [target.length_bytes]; omega)]
  rw [header_eq_ok_iff, writeDestination, Bytes.replaceRange, List.take_zero, List.nil_append,
    htail, hrest, Header.pack_eq]
  rfl

end Record
end Vesting
