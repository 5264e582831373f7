/-
# Contracts are read back from their bytes

A contract is a header and its tranches, one behind the other, and a client reads it from the bytes
of an account, which may be any.  It is found in exactly those byte strings that are its own bytes
with less than a tranche behind them (`Contract.decode_eq_ok_iff_bytes`).  What makes this hold is
that the two parts do not overlap: the header is read from the first 65 bytes, and the tranches from
the others, where a reader that is not strict finds as many as fit and drops the rest.

So the flag of the header is all that can be wrong with a record that is long enough
(`Contract.decode_eq_header`).  And the writers, which know nothing of each other, leave the bytes
of the contract behind whichever of them comes first (`Record.writeHeader_writeTranches`).
-/
import Vesting.Proofs.Forecast
import Vesting.Proofs.Founding

namespace Vesting

/-! ## 1. Two parts -/

/-- A strict reader finds nothing where something stands behind the last tranche. -/
theorem Tranche.unpackAll_strict_append (ts : List Tranche) {rest : Bytes} (h : rest.length < 16) :
    unpackAll true (packAll ts ++ rest) =
      if rest = [] then .ok ts else .error (.rejected (.trailingBytes rest.length)) := by
  split
  · rename_i hrest
    exact unpackAll_eq_ok_iff.2 ⟨rest, rfl, h, fun _ => hrest⟩
  · rename_i hrest
    have hmod : (packAll ts ++ rest).length % 16 = rest.length := by
      rw [List.length_append, length_packAll]
      omega
    have hne : rest.length ≠ 0 := fun hzero => hrest (List.length_eq_zero_iff.1 hzero)
    rw [unpackAll, hmod, if_pos ⟨rfl, hne⟩]

namespace Record

variable {data : Bytes} {header : Header} {ts : List Tranche}

/-- Tranches are read behind the header, with less than a tranche behind them. -/
theorem tranches_eq_iff : tranches data = ts ↔
    ∃ rest, data.drop 65 = Tranche.packAll ts ++ rest ∧ rest.length < 16 := by
  have h : tranches data = ts ↔ readTranches false data = .ok ts := by
    rw [readTranches_false, Except.ok.injEq]
  rw [h, readTranches, Tranche.unpackAll_eq_ok_iff]
  simp

/-- Behind its header a record is read as what is left of it. -/
theorem readTranches_append (strict : Bool) (header : Header) (rest : Bytes) :
    readTranches strict (header.pack ++ rest) = Tranche.unpackAll strict rest := by
  rw [readTranches, List.drop_left' header.length_pack]

/-- Over a record of the right length the tranches may be written first. -/
theorem writeHeader_writeTranches (header : Header) (h : data.length = length ts.length) :
    writeTranches ts data = ((writeTranches ts data).1, .ok ()) ∧
      writeHeader header (writeTranches ts data).1 = header.pack ++ Tranche.packAll ts := by
  have hfits := Nat.le_of_eq h.symm
  have hlong : 65 ≤ data.length := header_fits h
  refine ⟨by rw [writeTranches_eq hfits], ?_⟩
  rw [writeTranches_eq hfits, writeHeader, Bytes.replaceRange, List.take_zero, List.nil_append,
    Bytes.drop_replaceRange_start hlong, List.drop_of_length_le (Nat.le_of_eq h), List.append_nil]

end Record

namespace Contract

variable {address : Key} {data : Bytes} {c : Contract}

/-- **A contract is read from the bytes that it is written as**, with less than a tranche behind
them. -/
theorem decode_eq_ok_iff_bytes : decode address data = .ok c ↔
    c.address = address ∧ ∃ rest,
      data = c.header.pack ++ Tranche.packAll c.tranches ++ rest ∧ rest.length < 16 := by
  rw [decode_eq_ok_iff]
  constructor
  · rintro ⟨header, hheader, rfl⟩
    obtain ⟨rest, hrest, hlt⟩ := Record.tranches_eq_iff.1 (rfl : Record.tranches data = _)
    refine ⟨rfl, rest, ?_, hlt⟩
    rw [List.append_assoc, ← hrest, ← Record.header_eq_ok_iff.1 hheader, List.take_append_drop]
  · rintro ⟨rfl, rest, rfl, hlt⟩
    refine ⟨c.header, ?_, ?_⟩
    · rw [Record.header_eq_ok_iff, List.append_assoc, List.take_left' c.header.length_pack]
    · have htranches : Record.tranches (c.header.pack ++ Tranche.packAll c.tranches ++ rest)
          = c.tranches :=
        Record.tranches_eq_iff.2
          ⟨rest, by rw [List.append_assoc, List.drop_left' c.header.length_pack], hlt⟩
      rw [htranches]

/-! ## 2. Reading and writing -/

/-- Of a record that is long enough for a header, the flag decides. -/
theorem exists_decode_iff : (∃ c, decode address data = .ok c) ↔
    65 ≤ data.length ∧ (data[64]? = some 0 ∨ data[64]? = some 1) := by
  constructor
  · rintro ⟨c, h⟩
    obtain ⟨header, hheader, -⟩ := decode_eq_ok_iff.1 h
    have hlong := Record.length_of_header hheader
    exact ⟨hlong, (Record.exists_header_iff hlong).1 ⟨header, hheader⟩⟩
  · rintro ⟨hlong, hflag⟩
    obtain ⟨header, hheader⟩ := (Record.exists_header_iff hlong).2 hflag
    exact ⟨_, decode_eq_ok_iff.2 ⟨header, hheader, rfl⟩⟩

/-- A flag that is none is refused as such. -/
theorem decode_of_bad_flag (h : 65 ≤ data.length) (h₀ : data[64]? ≠ some 0)
    (h₁ : data[64]? ≠ some 1) :
    ∃ r, decode address data = .error (.rejected r) ∧ r.code = .invalidBoolean := by
  cases hheader : Record.header data with
  | ok header => exact absurd hheader ((Record.not_header_iff h).2 ⟨h₀, h₁⟩ header)
  | error why =>
    obtain ⟨r, rfl, hcode⟩ := Record.refuses_of_header h hheader
    refine ⟨r, ?_, hcode⟩
    rw [decode, if_neg (Nat.not_lt.2 h), hheader]
    rfl

/-- **Contracts are read as they were written, and nothing is misread.**  A contract is read from
its bytes, which are what the writers leave behind on a record of the right length, in either
order. Bytes are read as a contract exactly if they are long enough for a header and its flag is
one; bytes that are too short are an invalid value, and another flag is refused as no truth value.
What is read is written as the bytes it was read from, less a rest too short for a tranche.  There
is no rest exactly if a strict reader finds the same tranches, and there is one exactly if it
misses bytes. -/
theorem read_as_written (address : Key) :
    (∀ header ts, decode address (header.pack ++ Tranche.packAll ts) = .ok ⟨address, header, ts⟩ ∧
      ∀ data : Bytes, data.length = Record.length ts.length →
        Record.writeTranches ts (Record.writeHeader header data)
          = (header.pack ++ Tranche.packAll ts, .ok ()) ∧
        (Record.writeTranches ts data).2 = .ok () ∧
        Record.writeHeader header (Record.writeTranches ts data).1
          = header.pack ++ Tranche.packAll ts) ∧
    ∀ data : Bytes,
      ((∃ c, decode address data = .ok c) ↔
        65 ≤ data.length ∧ (data[64]? = some 0 ∨ data[64]? = some 1)) ∧
      (data.length < 65 → decode address data
        = .error (.invalid (.notRecord address data.length))) ∧
      (65 ≤ data.length → data[64]? ≠ some 0 → data[64]? ≠ some 1 →
        ∃ r, decode address data = .error (.rejected r) ∧ r.code = .invalidBoolean) ∧
      ∀ c, decode address data = .ok c →
        c.address = address ∧ Record.header data = .ok c.header ∧
        Record.readTranches false data = .ok c.tranches ∧
        ∃ rest, data = c.header.pack ++ Tranche.packAll c.tranches ++ rest ∧ rest.length < 16 ∧
          (rest = [] ↔ Record.readTranches true data = .ok c.tranches) ∧
          (rest ≠ [] ↔
            ∃ r, Record.readTranches true data = .error (.rejected r) ∧ r.code = .tooShort) := by
  refine ⟨fun header ts => ⟨?_, fun data h => ?written⟩, fun data =>
    ⟨exists_decode_iff, fun h => if_pos h, decode_of_bad_flag, fun c h => ?read⟩⟩
  · exact decode_eq_ok_iff_bytes.2 ⟨rfl, [], (List.append_nil _).symm, by decide⟩
  case written =>
    obtain ⟨hwritten, hbytes⟩ := Record.writeHeader_writeTranches header h
    refine ⟨?_, by rw [hwritten], hbytes⟩
    rw [Record.writeTranches_writeHeader header h, Record.founded_eq header h]
  case read =>
    obtain ⟨header, hheader, hc⟩ := decode_eq_ok_iff.1 h
    obtain ⟨haddress, rest, hdata, hlt⟩ := decode_eq_ok_iff_bytes.1 h
    have hstrict : Record.readTranches true data =
        if rest = [] then .ok c.tranches else .error (.rejected (.trailingBytes rest.length)) := by
      rw [hdata, List.append_assoc, Record.readTranches_append,
        Tranche.unpackAll_strict_append _ hlt]
    refine ⟨haddress, by rw [hheader, hc], by rw [Record.readTranches_false, hc], rest, hdata,
      hlt, ?_⟩
    rw [hstrict]
    by_cases hrest : rest = []
    · simp [hrest]
    · rw [if_neg hrest]
      exact ⟨⟨fun hwhole => absurd hwhole hrest, fun hread => nomatch hread⟩,
        ⟨fun _ => ⟨_, rfl, rfl⟩, fun _ => hrest⟩⟩

end Contract

namespace Sample

/-- The bytes of a contract with two tranches, and seven more. -/
def ragged : Bytes :=
  (Header.mk destination mint true).pack ++ Tranche.packAll tranches ++ List.replicate 7 9

end Sample

/-- Seven bytes behind the tranches are passed over, and a strict reader misses nine. -/
theorem Contract.read_as_written_ragged :
    decode Sample.vesting Sample.ragged
        = .ok ⟨Sample.vesting, ⟨Sample.destination, Sample.mint, true⟩, Sample.tranches⟩ ∧
      ∃ r, Record.readTranches true Sample.ragged = .error (.rejected r) ∧ r.code = .tooShort := by
  obtain ⟨-, hread⟩ := read_as_written Sample.vesting
  obtain ⟨-, -, -, hagain⟩ := hread Sample.ragged
  have hdecode : decode Sample.vesting Sample.ragged
      = .ok ⟨Sample.vesting, ⟨Sample.destination, Sample.mint, true⟩, Sample.tranches⟩ := by
    decide +kernel
  obtain ⟨-, -, -, rest, hdata, -, -, hshort⟩ := hagain _ hdecode
  refine ⟨hdecode, hshort.1 ?_⟩
  rintro rfl
  rw [List.append_nil] at hdata
  exact absurd hdata (by decide +kernel)
end Vesting
