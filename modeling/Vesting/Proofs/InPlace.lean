/-
# Each writer of a record keeps to its own range

A record is changed in place by three writers, and each of them has a range of its own: the header
the first 65 bytes, the destination the first 32 of these, and tranches the bytes behind the
header. What a writer does is said byte by byte (`getElem?_writeHeader`,
`getElem?_writeDestination`, `getElem?_writeTranches`): inside its range stand the bytes that it
writes, and outside the bytes that stood there before.  From this all else follows.

* Records need not have the right length.  Where one is too short for its header or its
  destination it grows to the end of the range, for the bytes that are missing do not stand in the
  way.  A tranche that is not there as a whole does (`writeTranches_of_capacity_lt`): the tranches
  in front of it stay written, and the length never changes.
* Two ranges that do not meet may be written in either order.  The ranges of the header and of the
  destination do meet, and there the last writer counts.
-/
import Vesting.Proofs.Effect

namespace Vesting

/-! ## 1. Bytes inside a range and outside -/

namespace Bytes

variable {data new : Bytes} {start stop : Nat}

/-- Two byte strings differ at most from `start` up to `stop`. -/
def AgreeOutside (start stop : Nat) (a b : Bytes) : Prop :=
  ∀ i, ¬ (start ≤ i ∧ i < stop) → a[i]? = b[i]?

/-- Where a range is replaced by as many bytes, these stand inside it, and nothing moves outside. -/
theorem getElem?_replaceRange (h : start + new.length = stop) (hstart : start ≤ data.length)
    (i : Nat) : (data.replaceRange start stop new)[i]?
      = if start ≤ i ∧ i < stop then new[i - start]? else data[i]? := by
  have htake : (data.take start).length = start := by
    rw [List.length_take]
    omega
  rcases Nat.lt_or_ge i start with hfront | hbehind
  · rw [getElem?_replaceRange_of_lt hstart hfront, if_neg (by omega)]
  · rw [replaceRange, List.append_assoc, List.getElem?_append_right (by rw [htake]; exact hbehind),
      htake]
    rcases Nat.lt_or_ge i stop with hinside | hbeyond
    · rw [if_pos ⟨hbehind, hinside⟩, List.getElem?_append_left (by omega)]
    · rw [if_neg (by omega), List.getElem?_append_right (by omega), List.getElem?_drop]
      congr 1
      omega

theorem agreeOutside_replaceRange (h : start + new.length = stop) (hstart : start ≤ data.length) :
    AgreeOutside start stop (data.replaceRange start stop new) data := by
  intro i hi
  rw [getElem?_replaceRange h hstart, if_neg hi]

end Bytes

/-- The bytes of the first tranches are the first bytes of all of them. -/
theorem Tranche.getElem?_packAll_take (ts : List Tranche) {n i : Nat} (h : i < 16 * n) :
    (packAll (ts.take n))[i]? = (packAll ts)[i]? := by
  have hsplit : packAll ts = packAll (ts.take n) ++ packAll (ts.drop n) := by
    rw [packAll, packAll, packAll, ← List.flatMap_append, List.take_append_drop]
  rcases Nat.lt_or_ge i (packAll (ts.take n)).length with hlt | hge
  · rw [hsplit, List.getElem?_append_left hlt]
  · have hshort : packAll ts = packAll (ts.take n) := by
      rw [length_packAll, List.length_take] at hge
      rw [List.take_of_length_le (by omega)]
    rw [hshort]

/-- The tranches behind the first ones are read behind their bytes. -/
theorem Tranche.drop_readMany (k n : Nat) (data : Bytes) :
    (readMany n data).drop k = readMany (n - k) (data.drop (16 * k)) := by
  induction k generalizing n data with
  | zero => simp
  | succ k ih =>
    cases n with
    | zero => simp
    | succ n =>
      rw [readMany_succ, List.drop_succ_cons, ih, Nat.add_sub_add_right, List.drop_drop,
        Nat.mul_succ, Nat.add_comm]

namespace Record

variable {data : Bytes} {ts : List Tranche}

/-! ## 2. What each writer does, byte by byte -/

theorem getElem?_writeHeader (h : Header) (data : Bytes) (i : Nat) :
    (writeHeader h data)[i]? = if i < 65 then h.pack[i]? else data[i]? := by
  rw [writeHeader, Bytes.getElem?_replaceRange (by rw [h.length_pack]) (Nat.zero_le _)]
  simp

theorem getElem?_writeDestination (k : Key) (data : Bytes) (i : Nat) :
    (writeDestination k data)[i]? = if i < 32 then k.bytes[i]? else data[i]? := by
  rw [writeDestination, Bytes.getElem?_replaceRange (by rw [k.length_bytes]) (Nat.zero_le _)]
  simp

/-- The first tranche that does not fit ends the work.  The induction is on the tranches; the room
behind the offset shrinks by one tranche with each of them. -/
theorem writeFrom_of_lt (ts : List Tranche) (offset : Nat) (data : Bytes)
    (h : (data.length - offset) / 16 < ts.length) :
    writeFrom offset ts data =
      ((writeFrom offset (ts.take ((data.length - offset) / 16)) data).1, .error .misfit) := by
  induction ts generalizing offset data with
  | nil => exact absurd h (Nat.not_lt_zero _)
  | cons t ts ih =>
    rw [List.length_cons] at h
    by_cases hfits : offset + t.pack.length ≤ data.length
    · rw [Tranche.length_pack] at hfits
      have hroom : (data.length - offset) / 16 = (data.length - (offset + 16)) / 16 + 1 := by omega
      have hlen : (data.replaceRange offset (offset + 16) t.pack).length = data.length :=
        Bytes.length_replaceRange (by rw [Tranche.length_pack]) hfits
      have hstep (us : List Tranche) : writeFrom offset (t :: us) data
          = writeFrom (offset + 16) us (data.replaceRange offset (offset + 16) t.pack) := by
        rw [writeFrom, Bytes.overwrite?, Tranche.length_pack, if_pos hfits]
      rw [hroom, List.take_succ_cons, hstep, hstep, ih _ _ (by rw [hlen]; omega), hlen]
    · have hroom : (data.length - offset) / 16 = 0 := by
        rw [Tranche.length_pack] at hfits
        omega
      have hstuck : writeFrom offset (t :: ts) data = (data, .error .misfit) := by
        rw [writeFrom, Bytes.overwrite?, if_neg hfits]
      rw [hroom, List.take_zero, hstuck, writeFrom]

/-- Where there are more tranches than fit, as many are written as do fit. -/
theorem writeTranches_of_capacity_lt (h : capacity data < ts.length) :
    writeTranches ts data
      = ((writeTranches (ts.take (capacity data)) data).1, .error .misfit) :=
  writeFrom_of_lt ts 65 data h

/-- A record is long enough for its header and for as many tranches as fit in it, unless none
does. -/
theorem length_le_of_le_capacity {n : Nat} (h : n ≤ capacity data) (hn : n ≠ 0) :
    length n ≤ data.length := by
  rw [capacity] at h
  rw [length]
  omega

theorem writeTranches_of_le_capacity (h : ts.length ≤ capacity data) :
    (writeTranches ts data).2 = .ok () ∧ ∀ i, (writeTranches ts data).1[i]?
      = if 65 ≤ i ∧ i < length ts.length then (Tranche.packAll ts)[i - 65]? else data[i]? := by
  by_cases hempty : ts.length = 0
  · obtain rfl := List.length_eq_zero_iff.1 hempty
    refine ⟨rfl, fun i => ?_⟩
    rw [if_neg (by rw [length, List.length_nil]; omega)]
    rfl
  · have hfits := length_le_of_le_capacity h hempty
    rw [writeTranches_eq hfits]
    refine ⟨rfl, fun i => Bytes.getElem?_replaceRange ?_ ?_ i⟩
    · rw [Tranche.length_packAll, length]
    · rw [length] at hfits
      omega

theorem getElem?_writeTranches (ts : List Tranche) (data : Bytes) (i : Nat) :
    (writeTranches ts data).1[i]?
      = if 65 ≤ i ∧ i < length (min ts.length (capacity data)) then (Tranche.packAll ts)[i - 65]?
        else data[i]? := by
  rcases Nat.lt_or_ge (capacity data) ts.length with hlt | hle
  · have htake : (ts.take (capacity data)).length = capacity data := List.length_take_of_le hlt.le
    rw [writeTranches_of_capacity_lt hlt, Nat.min_eq_right hlt.le,
      (writeTranches_of_le_capacity htake.le).2 i, htake]
    split
    · rename_i hinside
      rw [length] at hinside
      rw [Tranche.getElem?_packAll_take ts (by omega)]
    · rfl
  · rw [Nat.min_eq_left hle, (writeTranches_of_le_capacity hle).2 i]

/-! ## 3. Lengths, and what is read afterwards -/

theorem length_writeHeader_eq (h : Header) (data : Bytes) :
    (writeHeader h data).length = max 65 data.length := by
  rw [writeHeader, Bytes.replaceRange, List.take_zero, List.nil_append, List.length_append,
    h.length_pack, List.length_drop]
  omega

theorem length_writeDestination_eq (k : Key) (data : Bytes) :
    (writeDestination k data).length = max 32 data.length := by
  rw [writeDestination, Bytes.replaceRange, List.take_zero, List.nil_append, List.length_append,
    k.length_bytes, List.length_drop]
  omega

/-- Writing tranches never changes the length, whether all of them fit or not. -/
theorem length_writeTranches_eq (ts : List Tranche) (data : Bytes) :
    (writeTranches ts data).1.length = data.length := by
  rw [writeTranches]
  generalize 65 = offset
  induction ts generalizing offset data with
  | nil => rfl
  | cons t ts ih =>
    rw [writeFrom]
    split
    · rfl
    · rename_i written hwritten
      rw [ih, Bytes.length_of_overwrite? hwritten]

/-- The destination that is written is what the first bytes name. -/
theorem take_writeDestination (k : Key) (data : Bytes) :
    (writeDestination k data).take 32 = k.bytes := by
  rw [writeDestination, Bytes.replaceRange, List.take_zero, List.nil_append,
    List.take_left' k.length_bytes]

theorem header_writeHeader (h : Header) (data : Bytes) : header (writeHeader h data) = .ok h := by
  rw [header_eq_ok_iff, writeHeader, Bytes.replaceRange, List.take_zero, List.nil_append,
    List.take_left' h.length_pack]

/-- The tranches that were written come first, and those behind them are as before. -/
theorem tranches_writeTranches_of_le (h : ts.length ≤ capacity data) :
    tranches (writeTranches ts data).1 = ts ++ (tranches data).drop ts.length := by
  by_cases hempty : ts.length = 0
  · obtain rfl := List.length_eq_zero_iff.1 hempty
    rfl
  · rw [tranches_writeTranches (length_le_of_le_capacity h hempty), tranches,
      Tranche.drop_readMany, List.drop_drop, length]

/-- Where more tranches are given than fit, those that fit are all that is read. -/
theorem tranches_writeTranches_of_lt (h : capacity data < ts.length) :
    tranches (writeTranches ts data).1 = ts.take (capacity data) := by
  have htake : (ts.take (capacity data)).length = capacity data := List.length_take_of_le h.le
  rw [writeTranches_of_capacity_lt h, tranches_writeTranches_of_le htake.le, htake,
    List.drop_of_length_le (length_tranches data).le, List.append_nil]

/-- Behind its header a record is read as before where a destination is written. -/
theorem readTranches_writeDestination (k : Key) (strict : Bool) (data : Bytes) :
    readTranches strict (writeDestination k data) = readTranches strict data := by
  rw [readTranches, readTranches, drop_writeDestination k (by omega)]

/-! ## 4. The order of writes -/

/-- Whether all tranches are written is a matter of length alone. -/
theorem outcome_writeTranches (ts : List Tranche) (data : Bytes) :
    (writeTranches ts data).2 = if ts.length ≤ capacity data then .ok () else .error .misfit := by
  split
  · rename_i hle
    exact (writeTranches_of_le_capacity hle).1
  · rename_i hgt
    rw [writeTranches_of_capacity_lt (Nat.lt_of_not_le hgt)]

/-- Tranches may be written before or after a range in front of them. -/
theorem writeTranches_replaceRange {new : Bytes} {stop : Nat} (ts : List Tranche)
    (hnew : 0 + new.length = stop) (hstop : stop ≤ 65) (hlong : 65 ≤ data.length) :
    writeTranches ts (data.replaceRange 0 stop new)
      = ((writeTranches ts data).1.replaceRange 0 stop new, (writeTranches ts data).2) := by
  have hcap : capacity (data.replaceRange 0 stop new) = capacity data := by
    rw [capacity, capacity, Bytes.length_replaceRange hnew (by omega)]
  refine Prod.ext (List.ext_getElem? fun i => ?_) ?_
  · simp only [getElem?_writeTranches, hcap, Bytes.getElem?_replaceRange hnew (Nat.zero_le _)]
    by_cases hfront : i < stop
    · rw [if_neg (by omega), if_pos ⟨Nat.zero_le _, hfront⟩, if_pos ⟨Nat.zero_le _, hfront⟩]
    · have hbehind : ¬ (0 ≤ i ∧ i < stop) := fun hi => hfront hi.2
      rw [if_neg hbehind, if_neg hbehind]
  · simp only [outcome_writeTranches, hcap]

/-- Where a header is written over a destination, the destination of the header stands. -/
theorem writeHeader_writeDestination (h : Header) (k : Key) (data : Bytes) :
    writeHeader h (writeDestination k data) = writeHeader h data := by
  refine List.ext_getElem? fun i => ?_
  simp only [getElem?_writeHeader, getElem?_writeDestination]
  by_cases hfront : i < 65
  · rw [if_pos hfront, if_pos hfront]
  · rw [if_neg hfront, if_neg hfront, if_neg (by omega)]

/-! ## 5. The three writers -/

/-- **Each writer changes its own range and nothing else.**  This is so for every record, of any
length.

The header is written into the first 65 bytes and is what is read afterwards, and the destination
into the first 32; a record that is too short grows to the end of the range.  In a record with a
header another destination changes no other field of it, and no tranche.

Tranches change neither the length of a record nor a byte outside the range that they need.  If so
many fit, they are all written, and those behind them stay.  If not, the writer breaks off, and
exactly those that fit have been written.

The range of tranches may be written before or after the two others.  These overlap in the first 32
bytes, where the later writer counts, and they differ nowhere else. -/
theorem writes_in_place (data : Bytes) (h : Header) (k : Key) (ts : List Tranche) :
    ((writeHeader h data).length = max 65 data.length ∧
      Bytes.AgreeOutside 0 65 (writeHeader h data) data ∧ header (writeHeader h data) = .ok h) ∧
    ((writeDestination k data).length = max 32 data.length ∧
      Bytes.AgreeOutside 0 32 (writeDestination k data) data ∧
      (writeDestination k data).take 32 = k.bytes ∧
      ∀ old, header data = .ok old →
        header (writeDestination k data) = .ok { old with destination := k } ∧
        ∀ strict, readTranches strict (writeDestination k data) = readTranches strict data) ∧
    ((writeTranches ts data).1.length = data.length ∧
      Bytes.AgreeOutside 65 (65 + 16 * ts.length) (writeTranches ts data).1 data ∧
      (ts.length ≤ capacity data →
        (writeTranches ts data).2 = .ok () ∧
        tranches (writeTranches ts data).1 = ts ++ (tranches data).drop ts.length) ∧
      (capacity data < ts.length →
        writeTranches ts data
          = ((writeTranches (ts.take (capacity data)) data).1, .error .misfit) ∧
        tranches (writeTranches ts data).1 = ts.take (capacity data))) ∧
    (65 ≤ data.length →
      writeTranches ts (writeHeader h data)
        = (writeHeader h (writeTranches ts data).1, (writeTranches ts data).2) ∧
      writeTranches ts (writeDestination k data)
        = (writeDestination k (writeTranches ts data).1, (writeTranches ts data).2) ∧
      Bytes.AgreeOutside 0 32 (writeHeader h (writeDestination k data))
        (writeDestination k (writeHeader h data)) ∧
      (writeHeader h (writeDestination k data)).take 32 = h.destination.bytes ∧
      (writeDestination k (writeHeader h data)).take 32 = k.bytes) := by
  refine ⟨⟨length_writeHeader_eq h data, ?_, header_writeHeader h data⟩,
    ⟨length_writeDestination_eq k data, ?_, take_writeDestination k data, fun old hold =>
      ⟨header_writeDestination k hold, fun strict => readTranches_writeDestination k strict data⟩⟩,
    ⟨length_writeTranches_eq ts data, ?_, fun hle => ?_, fun hlt => ?_⟩,
    fun hlong => ⟨?_, ?_, ?_, ?_, take_writeDestination k _⟩⟩
  · exact Bytes.agreeOutside_replaceRange (by rw [h.length_pack]) (Nat.zero_le _)
  · exact Bytes.agreeOutside_replaceRange (by rw [k.length_bytes]) (Nat.zero_le _)
  · intro i hi
    have hless : min ts.length (capacity data) ≤ ts.length := Nat.min_le_left _ _
    rw [getElem?_writeTranches, if_neg (by rw [length]; omega)]
  · exact ⟨(writeTranches_of_le_capacity hle).1, tranches_writeTranches_of_le hle⟩
  · exact ⟨writeTranches_of_capacity_lt hlt, tranches_writeTranches_of_lt hlt⟩
  · exact writeTranches_replaceRange ts (by rw [h.length_pack]) (Nat.le_refl _) hlong
  · exact writeTranches_replaceRange ts (by rw [k.length_bytes]) (by decide) hlong
  · intro i hi
    rw [writeHeader_writeDestination, getElem?_writeDestination,
      if_neg fun hlt => hi ⟨Nat.zero_le _, hlt⟩]
  · rw [writeHeader_writeDestination]
    exact take_of_header (header_writeHeader h data)

end Record

namespace Sample

def header : Header := ⟨destination, mint, true⟩

/-- A record with a header, with room for two tranches, and with five bytes more. -/
def roomy : Bytes := header.pack ++ List.replicate 37 0

end Sample

/-- Two tranches fit, and of three the first two are written; the header may be written later. -/
theorem Record.writes_in_place_roomy :
    capacity Sample.roomy = 2 ∧
      header (writeDestination (Sample.key 11) Sample.roomy)
        = .ok ⟨Sample.key 11, Sample.mint, true⟩ ∧
      (writeTranches Sample.tranches Sample.roomy).2 = .ok () ∧
      writeTranches (Sample.tranches ++ [⟨30, 5⟩]) Sample.roomy
        = ((writeTranches Sample.tranches Sample.roomy).1, .error .misfit) ∧
      tranches (writeTranches (Sample.tranches ++ [⟨30, 5⟩]) Sample.roomy).1 = Sample.tranches ∧
      writeTranches Sample.tranches (writeHeader Sample.header Sample.roomy)
        = (writeHeader Sample.header (writeTranches Sample.tranches Sample.roomy).1, .ok ()) := by
  have hcap : capacity Sample.roomy = 2 := by decide
  have hheader : header Sample.roomy = .ok Sample.header := by decide +kernel
  obtain ⟨-, ⟨-, -, -, hdestination⟩, ⟨-, -, hfit, -⟩, hcomm⟩ :=
    writes_in_place Sample.roomy Sample.header (Sample.key 11) Sample.tranches
  obtain ⟨-, -, ⟨-, -, -, hover⟩, -⟩ :=
    writes_in_place Sample.roomy Sample.header (Sample.key 11) (Sample.tranches ++ [⟨30, 5⟩])
  have hwritten := (hfit (by rw [hcap]; decide)).1
  obtain ⟨hbreaks, hread⟩ := hover (by rw [hcap]; decide)
  have hlater := (hcomm (by decide)).1
  rw [hwritten] at hlater
  exact ⟨hcap, (hdestination _ hheader).1, hwritten, hbreaks, hread, hlater⟩

end Vesting
