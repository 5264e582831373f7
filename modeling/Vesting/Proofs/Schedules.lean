/-
# Schedules, and what is wrong with them

Schedules are read entry by entry, and each entry field by field, the time first.  So a list is
read exactly if every entry holds a tranche (`Tranche.Holds`), and if one does not, the first of
them is the one that ends the reading (`Tranche.readItems_error`).

Whoever has written the list has to find that entry.  The fault names it, and if the entry is a
table it names the field as well: the field is missing, it is of the wrong type, it is blank or it
is out of range.  There is one kind of bad field for which this fails.  A text that is no literal
is refused by the reader of literals, and that one does not know where the text stands, so its
fault is the same wherever it does (`Tranche.schedules_decided`).  Nothing in it points to the
entry (`Tranche.schedules_unnamed`).
-/
import Vesting.Proofs.Number

namespace Vesting

open Text.IntegerLiteral

/-- The wording of a fault holds a name. -/
def Fault.Names (why : Fault) (name : String) : Prop := name.toList <:+: why.message.toList

instance (why : Fault) (name : String) : Decidable (why.Names name) :=
  inferInstanceAs (Decidable (_ <:+: _))

/-- A value in place of one that is missing. -/
def Datum.orNull (table : Datum) (name : String) : Datum := (table.field? name).getD .null

variable {field : String} {value item : Datum} {items : List Datum} {t : Tranche}
  {ts : List Tranche} {why : Fault} {i : Nat}

/-! ## 1. Numbers that are not read -/

namespace Word64

/-- A value that stands for a number of 64 bits. -/
def Readable (value : Datum) : Prop := ∃ w : UInt64, Denotes value w.toNat

/-- A text that is not blank, and no literal either. -/
def Garbled (value : Datum) : Prop :=
  ∃ s, value = .text s ∧ Text.trim s.toList ≠ [] ∧ ∀ z, ¬ Literal s.toList z

theorem readable_iff (field : String) : Readable value ↔ ∃ w, read field value = .ok w := by
  simp only [Readable, read_eq_ok_iff]

theorem not_readable_of_read (h : read field value = .error why) : ¬ Readable value := by
  rw [readable_iff field, h]
  simp

/-- A fault that starts with a name names it. -/
theorem names_of_append {name rest : String} (h : why.message = name ++ rest) : why.Names name := by
  rw [Fault.Names, h, String.toList_append]
  exact List.infix_append [] _ _

theorem names_of_ofInt {z : Int} (h : ofInt field z = .error why) : why.Names field := by
  unfold ofInt at h
  split at h
  · cases h
  · obtain rfl := Except.error.inj h
    exact names_of_append rfl

/-- **A number that is not read is named**, unless it is a text that is no literal. -/
theorem names_of_read (h : read field value = .error why) (hliteral : ¬ Garbled value) :
    why.Names field := by
  cases value with
  | int z => exact names_of_ofInt h
  | text s =>
    rw [read] at h
    split at h
    · obtain rfl := Except.error.inj h
      exact names_of_append rfl
    · rename_i hblank
      cases hread : readInteger (Text.trim s.toList) with
      | error why' =>
        refine absurd ⟨s, rfl, fun hnil => hblank (List.isEmpty_iff.2 hnil),
          fun z hz => ?_⟩ hliteral
        cases hread.symm.trans (readInteger_trim_eq_ok_iff.2 hz)
      | ok z =>
        rw [hread] at h
        exact names_of_ofInt h
  | _ =>
    obtain rfl := Except.error.inj h
    exact names_of_append rfl

/-- A text that is no literal has the fault of its characters. -/
theorem read_garbled {s : String} (hblank : Text.trim s.toList ≠ [])
    (h : read field (.text s) = .error why) (hliteral : ∀ z, ¬ Literal s.toList z) :
    readInteger (Text.trim s.toList) = .error why := by
  rw [read, if_neg (by simpa using hblank)] at h
  cases hread : readInteger (Text.trim s.toList) with
  | error why' =>
    rw [hread] at h
    exact congrArg Except.error (Except.error.inj h)
  | ok z => exact absurd (readInteger_trim_eq_ok_iff.1 hread) (hliteral z)

end Word64

/-! ## 2. Entries -/

namespace Tranche

open Word64

/-- An entry holds a tranche: a table with its time and its amount. -/
def Holds (item : Datum) (t : Tranche) : Prop :=
  (∃ entries, item = .table entries) ∧ Denotes (item.orNull "release_time") t.releaseTime.toNat ∧
    Denotes (item.orNull "amount") t.amount.toNat

/-- The first field of an entry that is no number. -/
inductive BadField (item : Datum) : String → Prop
  | time (h : ¬ Readable (item.orNull "release_time")) : BadField item "release_time"
  | amount (htime : Readable (item.orNull "release_time")) (h : ¬ Readable (item.orNull "amount")) :
    BadField item "amount"

/-- The name of a field of an entry. -/
def fieldName (i : Nat) (field : String) : String := s!"schedules[{i}].{field}"

theorem readItem_table (i : Nat) (entries : List (String × Datum)) :
    readItem i (.table entries) =
      (Word64.read (fieldName i "release_time") ((Datum.table entries).orNull "release_time") >>=
        fun time => Word64.read (fieldName i "amount") ((Datum.table entries).orNull "amount") >>=
          fun amount => .ok ⟨time, amount⟩) := rfl

/-- An entry is read as the tranche that it holds. -/
theorem readItem_eq_ok_iff : readItem i item = .ok t ↔ Holds item t := by
  cases item with
  | table entries =>
    rw [readItem_table, Holds, ← @read_eq_ok_iff (fieldName i "release_time"),
      ← @read_eq_ok_iff (fieldName i "amount")]
    cases Word64.read (fieldName i "release_time")
        ((Datum.table entries).orNull "release_time") with
    | error why => simp [bind, Except.bind]
    | ok time =>
      cases Word64.read (fieldName i "amount") ((Datum.table entries).orNull "amount") with
      | error why => simp [bind, Except.bind]
      | ok amount =>
        obtain ⟨time', amount'⟩ := t
        simp [bind, Except.bind]
  | _ => exact iff_of_false (nofun) fun h => nomatch h.1

theorem names_scheduleNotTable (i : Nat) :
    (Fault.invalid (.scheduleNotTable i)).Names s!"schedules[{i}]" := by
  have hsplit : "] must be a table" = "]" ++ " must be a table" := rfl
  refine @names_of_append _ _ " must be a table" ?_
  show "schedules[" ++ toString i ++ "] must be a table" = _
  rw [hsplit, ← String.append_assoc]
  rfl

/-- What is wrong with an entry: it is no table, or one of its fields is no number. -/
theorem readItem_error (h : readItem i item = .error why) :
    (∀ entries, item ≠ .table entries) ∧ why = .invalid (.scheduleNotTable i) ∨
      ∃ entries field, item = .table entries ∧ BadField item field ∧
        Word64.read (fieldName i field) (item.orNull field) = .error why := by
  cases item with
  | table entries =>
    refine .inr ⟨entries, ?_⟩
    rw [readItem_table] at h
    cases htime : Word64.read (fieldName i "release_time")
        ((Datum.table entries).orNull "release_time") with
    | error why' =>
      rw [htime] at h
      obtain rfl := Except.error.inj h
      exact ⟨_, rfl, .time (not_readable_of_read htime), htime⟩
    | ok time =>
      cases hamount : Word64.read (fieldName i "amount")
          ((Datum.table entries).orNull "amount") with
      | error why' =>
        rw [htime, hamount] at h
        obtain rfl := Except.error.inj h
        exact ⟨_, rfl, .amount ((readable_iff _).2 ⟨_, htime⟩)
          (not_readable_of_read hamount), hamount⟩
      | ok amount =>
        rw [htime, hamount] at h
        cases h
  | _ => exact .inl ⟨fun _ => nofun, (Except.error.inj h).symm⟩

/-! ## 3. Lists of entries -/

theorem readItems_cons (i : Nat) (item : Datum) (rest : List Datum) :
    readItems i (item :: rest) = (readItem i item >>= fun t =>
      readItems (i + 1) rest >>= fun ts => .ok (t :: ts)) := rfl

/-- Entries are read one by one. -/
theorem readItems_eq_ok_iff : readItems i items = .ok ts ↔ List.Forall₂ Holds items ts := by
  induction items generalizing i ts with
  | nil => cases ts <;> simp [readItems]
  | cons item rest ih =>
    rw [readItems_cons]
    cases ts with
    | nil =>
      refine iff_of_false (fun h => ?_) nofun
      cases hitem : readItem i item with
      | error why => cases hitem ▸ h
      | ok t => cases hrest : readItems (i + 1) rest <;> simp [hitem, hrest, bind, Except.bind] at h
    | cons t ts =>
      rw [List.forall₂_cons, ← readItem_eq_ok_iff (i := i), ← ih (i := i + 1)]
      cases readItem i item with
      | error why => simp [bind, Except.bind]
      | ok t' => cases readItems (i + 1) rest <;> simp [bind, Except.bind]

/-- **The first entry that holds no tranche ends the reading.** -/
theorem readItems_error (h : readItems i items = .error why) : ∃ front item rest,
    items = front ++ item :: rest ∧ (∀ e ∈ front, ∃ t, Holds e t) ∧
      readItem (i + front.length) item = .error why := by
  induction items generalizing i with
  | nil => cases h
  | cons item rest ih =>
    rw [readItems_cons] at h
    cases hitem : readItem i item with
    | error why' =>
      rw [hitem] at h
      obtain rfl := Except.error.inj h
      exact ⟨[], item, rest, rfl, by simp, hitem⟩
    | ok t =>
      cases hrest : readItems (i + 1) rest with
      | error why' =>
        rw [hitem, hrest] at h
        obtain rfl := Except.error.inj h
        obtain ⟨front, culprit, behind, rfl, hfront, hculprit⟩ := ih hrest
        have hall : ∀ e ∈ item :: front, ∃ t, Holds e t :=
          List.forall_mem_cons.2 ⟨⟨t, readItem_eq_ok_iff.1 hitem⟩, hfront⟩
        refine ⟨item :: front, culprit, behind, rfl, hall, ?_⟩
        rwa [List.length_cons, ← Nat.add_assoc, Nat.add_right_comm]
      | ok ts =>
        rw [hitem, hrest] at h
        cases h

/-- Schedules that are no list are refused, unless there are none. -/
theorem readAll_cases (value : Datum) : (value = .null ∧ readAll value = .ok []) ∨
    (∃ items, value = .list items ∧ readAll value = readItems 0 items) ∨
      value ≠ .null ∧ (∀ items, value ≠ .list items) ∧
        readAll value = .error (.invalid .schedulesNotArray) := by
  cases value with
  | null => exact .inl ⟨rfl, rfl⟩
  | list items => exact .inr (.inl ⟨items, rfl, rfl⟩)
  | _ => exact .inr (.inr ⟨nofun, fun _ => nofun, rfl⟩)

theorem readAll_eq_ok_iff : readAll value = .ok ts ↔
    value = .null ∧ ts = [] ∨ ∃ items, value = .list items ∧ List.Forall₂ Holds items ts := by
  rcases readAll_cases value with ⟨rfl, hread⟩ | ⟨items, rfl, hread⟩ | ⟨hnull, hlist, hread⟩
  · simp [hread, eq_comm]
  · simp [hread, readItems_eq_ok_iff]
  · simp [hread, hnull, hlist]

theorem invalid_of_readAll (h : readAll value = .error why) : ∃ cause, why = .invalid cause := by
  rcases readAll_cases value with ⟨rfl, hread⟩ | ⟨items, rfl, hread⟩ | ⟨-, -, hread⟩
  · cases hread.symm.trans h
  · obtain ⟨front, item, -, -, -, hitem⟩ := readItems_error (hread.symm.trans h)
    rcases readItem_error hitem with ⟨-, rfl⟩ | ⟨_, _, -, -, hfield⟩
    · exact ⟨_, rfl⟩
    · exact invalid_of_read hfield
  · exact ⟨_, (Except.error.inj (hread.symm.trans h)).symm⟩

/-- **Schedules are read if every entry holds a tranche, and the fault points to the first that
holds none.**  Where there are none nothing is read, and what is no list is refused.  The tranches
read are those of the entries, one by one.  If an entry holds none, the fault names it, and if it
is a table the fault names its first bad field.  Only where that field is a text that is no
literal does the fault depend on the text alone. -/
theorem schedules_decided (value : Datum) :
    (∀ ts, readAll value = .ok ts ↔
      value = .null ∧ ts = [] ∨ ∃ items, value = .list items ∧ List.Forall₂ Holds items ts) ∧
    (∀ why, readAll value = .error why → ∃ cause, why = .invalid cause) ∧
    ∀ items, value = .list items → ∀ why, readAll value = .error why →
      ∃ front item rest, items = front ++ item :: rest ∧ (∀ e ∈ front, ∃ t, Holds e t) ∧
        ((∀ entries, item ≠ .table entries) ∧ why.Names s!"schedules[{front.length}]" ∨
          ∃ entries field, item = .table entries ∧ BadField item field ∧
            (¬ Garbled (item.orNull field) → why.Names s!"schedules[{front.length}].{field}") ∧
            ∀ s, item.orNull field = .text s → Garbled (.text s) →
              readInteger (Text.trim s.toList) = .error why) := by
  refine ⟨fun ts => readAll_eq_ok_iff, fun why => invalid_of_readAll, ?_⟩
  rintro items rfl why h
  obtain ⟨front, item, rest, hitems, hfront, hitem⟩ := readItems_error (i := 0) h
  rw [Nat.zero_add] at hitem
  refine ⟨front, item, rest, hitems, hfront, ?_⟩
  rcases readItem_error hitem with ⟨htable, rfl⟩ | ⟨entries, field, htable, hbad, hread⟩
  · exact .inl ⟨htable, names_scheduleNotTable _⟩
  · refine .inr ⟨entries, field, htable, hbad, fun hliteral => names_of_read hread hliteral, ?_⟩
    rintro s hs ⟨s', hs', hblank, hliteral⟩
    obtain rfl := Datum.text.inj hs'
    exact read_garbled hblank (hs ▸ hread) hliteral

end Tranche

namespace Sample

/-- An entry without an amount. -/
def brokenEntry : Datum := .table [("release_time", .text "0x10")]

/-- An entry with a time that is no number. -/
def garbledEntry : Datum := .table [("release_time", .text "abc"), ("amount", .int 1)]

end Sample

/-- The amount of the first entry is missing, and the fault says so. -/
theorem Tranche.schedules_decided_missing :
    ∃ why, readAll (.list [Sample.brokenEntry]) = .error why ∧ why.Names "schedules[0].amount" := by
  have hread : ∃ why, readAll (.list [Sample.brokenEntry]) = .error why := ⟨_, by rfl⟩
  obtain ⟨why, hwhy⟩ := hread
  obtain ⟨-, -, hculprit⟩ := schedules_decided (.list [Sample.brokenEntry])
  obtain ⟨front, item, rest, hitems, -, hblame⟩ := hculprit _ rfl why hwhy
  obtain ⟨rfl, rfl, -⟩ : front = [] ∧ Sample.brokenEntry = item ∧ rest = [] := by
    cases front with
    | nil => simpa [eq_comm] using hitems
    | cons e front => simp at hitems
  refine ⟨why, hwhy, ?_⟩
  rcases hblame with ⟨htable, -⟩ | ⟨_, field, -, hbad, hnames, -⟩
  · exact absurd rfl (htable _)
  cases hbad with
  | time h => exact absurd ⟨16, .text (parse_trim_eq_ok_iff.1 (by decide +kernel))⟩ h
  | amount => exact hnames nofun

/-- **A text that is no literal is refused without a word about where it stands.** -/
theorem Tranche.schedules_unnamed :
    ¬ ∀ (items : List Datum) (why : Fault), readAll (.list items) = .error why →
      ∃ i : Nat, why.Names s!"schedules[{i}]" := by
  intro hclaim
  obtain ⟨i, hnames⟩ := hclaim [Sample.garbledEntry] (.invalid (.literal "abc")) (by rfl)
  have hfront : "schedules[".toList <+: s!"schedules[{i}]".toList := by
    show _ <+: ("schedules[" ++ toString i ++ "]").toList
    rw [String.toList_append, String.toList_append, List.append_assoc]
    exact List.prefix_append _ _
  exact absurd (hfront.isInfix.trans hnames) (by decide +kernel)

end Vesting
