/-
# What the writers of a record leave behind

The three writers replace a range of the record by as many bytes, so none of them moves what stands
behind it.  Each section says what a writer sets and what it leaves alone:

* the destination: the first 32 bytes, and nothing else (`drop_writeDestination`);
* the header: the first 65 bytes, flag included (`isInitialized_writeHeader`);
* the tranches: `writeTranches_eq` says that writing as many as fit goes through, and
  `tranches_writeTranches` that they are what is read afterwards.

The commands put these together in two ways: `founded` is a record that has just been set up, and
`paidOut` one from which everything due has been paid.
-/
import Vesting.Record

namespace Vesting

/-! ## 1. Replacing a range by as many bytes -/

namespace Bytes

variable {data new : Bytes} {start stop : Nat}

theorem length_replaceRange (h : start + new.length = stop) (hstop : stop ≤ data.length) :
    (data.replaceRange start stop new).length = data.length := by
  simp only [replaceRange, List.length_append, List.length_take, List.length_drop]
  omega

/-- What stands in front of the range stays. -/
theorem getElem?_replaceRange_of_lt (hstart : start ≤ data.length) {k : Nat} (hk : k < start) :
    (data.replaceRange start stop new)[k]? = data[k]? := by
  rw [replaceRange, List.append_assoc, List.getElem?_append_left (by simp; omega),
    List.getElem?_take_of_lt hk]

/-- From the range on, the new bytes are followed by what stood behind it. -/
theorem drop_replaceRange_start (hstart : start ≤ data.length) :
    (data.replaceRange start stop new).drop start = new ++ data.drop stop := by
  rw [replaceRange, List.append_assoc, List.drop_left' (by simp; omega)]

/-- What stands behind the range stays. -/
theorem drop_replaceRange (h : start + new.length = stop) (hstart : start ≤ data.length) {k : Nat}
    (hk : stop ≤ k) : (data.replaceRange start stop new).drop k = data.drop k := by
  obtain ⟨d, rfl⟩ := Nat.exists_eq_add_of_le hk
  rw [replaceRange, ← List.drop_drop, List.drop_left' (by simp; omega), List.drop_drop]

/-- Two ranges that touch are replaced as one. -/
theorem replaceRange_replaceRange {mid : Nat} {more : Bytes} (h : start + new.length = mid)
    (hstart : start ≤ data.length) (hmid : mid ≤ stop) :
    (data.replaceRange start mid new).replaceRange mid stop more
      = data.replaceRange start stop (new ++ more) := by
  have htake : (data.replaceRange start mid new).take mid = data.take start ++ new := by
    rw [replaceRange, List.take_left' (by simp; omega)]
  show (data.replaceRange start mid new).take mid ++ more
    ++ (data.replaceRange start mid new).drop stop = _
  rw [htake, drop_replaceRange h hstart hmid, replaceRange, List.append_assoc (data.take start)]

/-- Of two writes to the same range the second counts. -/
theorem replaceRange_again {more : Bytes} (h : start + new.length = stop)
    (hstart : start ≤ data.length) :
    (data.replaceRange start stop new).replaceRange start stop more
      = data.replaceRange start stop more := by
  have htake : (data.replaceRange start stop new).take start = data.take start := by
    rw [replaceRange, List.append_assoc, List.take_left' (by simp; omega)]
  show (data.replaceRange start stop new).take start ++ more
    ++ (data.replaceRange start stop new).drop stop = _
  rw [htake, drop_replaceRange h hstart (Nat.le_refl _), replaceRange]

end Bytes

/-! ## 2. Tranches back to back -/

namespace Tranche

@[simp] theorem length_packAll (ts : List Tranche) : (packAll ts).length = 16 * ts.length := by
  induction ts with
  | nil => rfl
  | cons t ts ih =>
    rw [packAll, List.flatMap_cons, List.length_append, length_pack, List.length_cons]
    rw [packAll] at ih
    omega

/-- Tranches in front of other bytes are read back, and then what these bytes hold. -/
theorem readMany_packAll_append (ts : List Tranche) (n : Nat) (rest : Bytes) :
    readMany (ts.length + n) (packAll ts ++ rest) = ts ++ readMany n rest := by
  induction ts with
  | nil => simp [packAll]
  | cons t ts ih =>
    have hcons : packAll (t :: ts) ++ rest = t.pack ++ (packAll ts ++ rest) := by
      simp [packAll]
    have hlen : (t :: ts).length + n = ts.length + n + 1 := by
      rw [List.length_cons]
      omega
    rw [hlen, readMany_succ, hcons, read_pack_append, List.drop_left' t.length_pack, ih]
    rfl

@[simp] theorem length_readMany (n : Nat) (data : Bytes) : (readMany n data).length = n := by
  induction n generalizing data with
  | zero => rfl
  | succ n ih => rw [readMany_succ, List.length_cons, ih]

/-- Paying out drops no tranche. -/
@[simp] theorem length_release (now : Int) (ts : List Tranche) :
    (release now ts).length = ts.length := List.length_map _

end Tranche

namespace Record

theorem length_tranches (data : Bytes) : (tranches data).length = capacity data :=
  Tranche.length_readMany _ _

/-- What the tranches of a record are does not depend on its header. -/
theorem tranches_congr {data data' : Bytes} (hlen : data'.length = data.length)
    (hdrop : data'.drop 65 = data.drop 65) : tranches data' = tranches data := by
  rw [tranches, tranches, capacity, capacity, hlen, hdrop]

/-- The flag counts in records that are long enough for one. -/
theorem isInitialized_iff {data : Bytes} :
    isInitialized data = true ↔ 65 ≤ data.length ∧ data[64]? = some 1 := by
  simp [isInitialized]

/-- A record of zeros has not been set up. -/
theorem isInitialized_zeros (n : Nat) : isInitialized (List.replicate n 0) = false := by
  rw [Bool.eq_false_iff]
  intro h
  obtain ⟨-, hflag⟩ := isInitialized_iff.1 h
  rw [List.getElem?_replicate] at hflag
  split at hflag
  · cases hflag
  · cases hflag

/-! ## 3. Writing the destination -/

section Destination

variable (target : Key) {data : Bytes}

theorem length_writeDestination (h : 32 ≤ data.length) :
    (writeDestination target data).length = data.length :=
  Bytes.length_replaceRange (by rw [target.length_bytes]) h

/-- Behind the destination everything stays. -/
theorem drop_writeDestination {k : Nat} (hk : 32 ≤ k) :
    (writeDestination target data).drop k = data.drop k :=
  Bytes.drop_replaceRange (by rw [target.length_bytes]) (Nat.zero_le _) hk

theorem tranches_writeDestination (h : 65 ≤ data.length) :
    tranches (writeDestination target data) = tranches data :=
  tranches_congr (length_writeDestination target (by omega))
    (drop_writeDestination target (by omega))

theorem isInitialized_writeDestination (h : 65 ≤ data.length) :
    isInitialized (writeDestination target data) = isInitialized data := by
  have hlen : (writeDestination target data).length = data.length :=
    length_writeDestination target (by omega)
  have hflag : (writeDestination target data)[64]? = data[64]? := by
    rw [← List.head?_drop, drop_writeDestination target (by omega), List.head?_drop]
  rw [isInitialized, isInitialized, hlen, hflag]

end Destination

/-! ## 4. Writing the header -/

section Header

variable (header : Header) {data : Bytes}

theorem length_writeHeader (h : 65 ≤ data.length) :
    (writeHeader header data).length = data.length :=
  Bytes.length_replaceRange (by rw [header.length_pack]) h

/-- The flag that is written is the flag that is read. -/
theorem isInitialized_writeHeader (h : 65 ≤ data.length) :
    isInitialized (writeHeader header data) = header.initialized := by
  have hlen : 65 ≤ (writeHeader header data).length := by
    rw [length_writeHeader header h]
    exact h
  have hflag : (writeHeader header data)[64]? = some (if header.initialized then 1 else 0) := by
    rw [writeHeader, Bytes.replaceRange, List.take_zero, List.nil_append, Header.pack,
      List.append_assoc, List.getElem?_append_right (by simp [Key.length_bytes])]
    simp [Key.length_bytes]
  rw [isInitialized, hflag]
  cases header.initialized
  · simp
  · simp [hlen]

end Header

/-! ## 5. Writing tranches -/

/-- **As many tranches as fit are written.**  They replace as many bytes, and nothing else. -/
theorem writeFrom_eq (ts : List Tranche) (offset : Nat) (data : Bytes)
    (h : offset + 16 * ts.length ≤ data.length) :
    writeFrom offset ts data =
      (data.replaceRange offset (offset + 16 * ts.length) (Tranche.packAll ts), .ok ()) := by
  induction ts generalizing offset data with
  | nil => simp [writeFrom, Bytes.replaceRange, Tranche.packAll]
  | cons t ts ih =>
    rw [List.length_cons] at h
    have hfits : offset + t.pack.length ≤ data.length := by
      rw [Tranche.length_pack]
      omega
    have hlen : (data.replaceRange offset (offset + 16) t.pack).length = data.length :=
      Bytes.length_replaceRange (by rw [Tranche.length_pack]) (by omega)
    rw [writeFrom, Bytes.overwrite?, if_pos hfits, Tranche.length_pack]
    show writeFrom (offset + 16) ts (data.replaceRange offset (offset + 16) t.pack) = _
    rw [ih (offset + 16) _ (by rw [hlen]; omega),
      Bytes.replaceRange_replaceRange (by rw [Tranche.length_pack]) (by omega) (by omega)]
    have hstop : offset + 16 + 16 * ts.length = offset + 16 * (t :: ts).length := by
      rw [List.length_cons]
      omega
    rw [hstop]
    rfl

section Tranches

variable {ts : List Tranche} {data : Bytes}

/-- A record long enough for `ts`, and what is in it then. -/
theorem writeTranches_eq (h : length ts.length ≤ data.length) :
    writeTranches ts data =
      (data.replaceRange 65 (length ts.length) (Tranche.packAll ts), .ok ()) :=
  writeFrom_eq ts 65 data h

theorem length_writeTranches (h : length ts.length ≤ data.length) :
    (writeTranches ts data).1.length = data.length := by
  rw [writeTranches_eq h]
  exact Bytes.length_replaceRange (by rw [Tranche.length_packAll, length]) h

/-- The tranches that were written are read first, and then those that stood behind them. -/
theorem tranches_writeTranches (h : length ts.length ≤ data.length) :
    tranches (writeTranches ts data).1
      = ts ++ Tranche.readMany (capacity data - ts.length) (data.drop (length ts.length)) := by
  have hlen := length_writeTranches h
  have hstored := writeTranches_eq h
  rw [length] at h
  have hcap : capacity (writeTranches ts data).1
      = ts.length + (capacity data - ts.length) := by
    rw [capacity, capacity, hlen]
    omega
  rw [tranches, hcap, hstored, Bytes.drop_replaceRange_start (by omega),
    Tranche.readMany_packAll_append]

/-- A record with room for `ts` alone holds `ts` and nothing else. -/
theorem tranches_writeTranches_of_capacity (h : length ts.length ≤ data.length)
    (hcap : capacity data = ts.length) : tranches (writeTranches ts data).1 = ts := by
  rw [tranches_writeTranches h, hcap, Nat.sub_self, Tranche.readMany_zero, List.append_nil]

theorem isInitialized_writeTranches (h : length ts.length ≤ data.length) :
    isInitialized (writeTranches ts data).1 = isInitialized data := by
  have hlong : 65 ≤ data.length := by
    rw [length] at h
    omega
  have hflag : (writeTranches ts data).1[64]? = data[64]? := by
    rw [writeTranches_eq h]
    exact Bytes.getElem?_replaceRange_of_lt hlong (by omega)
  rw [isInitialized, isInitialized, length_writeTranches h, hflag]

end Tranches

/-! ## 6. The records that the commands write -/

/-- The bytes `data` with a header and tranches written over them. -/
def founded (header : Header) (ts : List Tranche) (data : Bytes) : Bytes :=
  (writeTranches ts (writeHeader header data)).1

section Founded

variable (header : Header) {ts : List Tranche} {data : Bytes}
  (h : data.length = length ts.length)
include h

theorem header_fits : 65 ≤ data.length := by
  rw [h, length]
  omega

theorem tranches_fit : length ts.length ≤ (writeHeader header data).length := by
  refine Nat.le_of_eq ?_
  rw [length_writeHeader header (header_fits h), h]

theorem writeTranches_writeHeader :
    writeTranches ts (writeHeader header data) = (founded header ts data, .ok ()) := by
  rw [founded, writeTranches_eq (tranches_fit header h)]

theorem length_founded : (founded header ts data).length = length ts.length := by
  rw [founded, length_writeTranches (tranches_fit header h),
    length_writeHeader header (header_fits h), h]

/-- A record that has been set up holds the tranches it was set up with. -/
theorem tranches_founded : tranches (founded header ts data) = ts := by
  refine tranches_writeTranches_of_capacity (tranches_fit header h) ?_
  rw [capacity, length_writeHeader header (header_fits h), h, length]
  omega

theorem isInitialized_founded :
    isInitialized (founded header ts data) = header.initialized := by
  rw [founded, isInitialized_writeTranches (tranches_fit header h),
    isInitialized_writeHeader header (header_fits h)]

end Founded

/-- The record once everything due at a clock value has been paid out. -/
def paidOut (now : Int) (data : Bytes) : Bytes :=
  (writeTranches (Tranche.release now (tranches data)) data).1

section PaidOut

variable (now : Int) {data : Bytes} (h : 65 ≤ data.length)
include h

/-- There is room for as many tranches as a record holds. -/
theorem release_fits :
    length (Tranche.release now (tranches data)).length ≤ data.length := by
  rw [Tranche.length_release, length_tranches, length, capacity]
  omega

theorem writeTranches_release :
    writeTranches (Tranche.release now (tranches data)) data = (paidOut now data, .ok ()) := by
  rw [paidOut, writeTranches_eq (release_fits now h)]

theorem length_paidOut : (paidOut now data).length = data.length :=
  length_writeTranches (release_fits now h)

theorem tranches_paidOut : tranches (paidOut now data) = Tranche.release now (tranches data) :=
  tranches_writeTranches_of_capacity (release_fits now h)
    (by rw [Tranche.length_release, length_tranches])

/-- To pay out at one time and then at another writes over what the first has written. -/
theorem paidOut_paidOut (later : Int) :
    paidOut later (paidOut now data)
      = (writeTranches (Tranche.release later (Tranche.release now (tranches data))) data).1 := by
  have hfits := release_fits now h
  have hcount : (Tranche.release later (Tranche.release now (tranches data))).length
      = (Tranche.release now (tranches data)).length := Tranche.length_release _ _
  have hlength := length_paidOut now h
  rw [paidOut, tranches_paidOut now h, writeTranches_eq (by rw [hcount, hlength]; exact hfits),
    writeTranches_eq (by rw [hcount]; exact hfits), paidOut, writeTranches_eq hfits, hcount]
  exact Bytes.replaceRange_again (by rw [Tranche.length_packAll, length]) h

theorem isInitialized_paidOut : isInitialized (paidOut now data) = isInitialized data :=
  isInitialized_writeTranches (release_fits now h)

end PaidOut

end Record
end Vesting
