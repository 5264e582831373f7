/-
# The grammar of integer literals

Numbers are typed by people, so the reader of integers takes many texts for one number, and it is
written as a machine: it folds characters, cuts a sign, looks for a base, runs over digits and only
then looks at what it has found.  Here the same texts are given by a grammar (`Literal`), in which
nothing is cut or counted, and the two are proved equal (`parse_trim_eq_ok_iff`).

* A run of digits is built digit by digit, each followed by an underscore or not (`Digits`).  This
  is what the flag of `digitRun` amounts to, from either side (`digitRun_of_digits`,
  `exists_digits_of_digitRun`).
* A number without leading zeros and one that is zero are two cases of one rule: if the first digit
  is zero, so are all.
* The reader takes white space behind the digits, the grammar knows none.  Behind a text that has
  been trimmed there is none either (`Closed`), and this is why the hypothesis stands in each lemma.

A decimal number may be too long to be read, however small it is: zero written with 4301 digits is
no literal.  With a prefix there is no such bound.
-/
import Mathlib.Data.List.Forall2
import Vesting.Bytes.Radix
import Vesting.Proofs.Spelling
import Vesting.Text.IntegerLiteral

namespace Vesting.Text.IntegerLiteral

/-! ## 1. The grammar -/

/-- The digit `d` of a base; letters of either case count on from nine. -/
def IsDigit (base d : Nat) (c : Char) : Prop := d < base ∧ c.toLower = Hex.digit d

/-- Digits, with or without an underscore between two of them. -/
inductive Digits (base : Nat) : List Char → List Nat → Prop
  | last {c : Char} {d : Nat} (h : IsDigit base d c) : Digits base [c] [d]
  | next {c : Char} {d : Nat} {cs : List Char} {ds : List Nat} (h : IsDigit base d c)
    (hrest : Digits base cs ds) : Digits base (c :: cs) (d :: ds)
  | bar {c : Char} {d : Nat} {cs : List Char} {ds : List Nat} (h : IsDigit base d c)
    (hrest : Digits base cs ds) : Digits base (c :: '_' :: cs) (d :: ds)

/-- The letters that name a base behind a zero. -/
def prefixes : List (Char × Nat) :=
  [('x', 16), ('X', 16), ('o', 8), ('O', 8), ('b', 2), ('B', 2)]

/-- A number without a sign. -/
inductive Unsigned : List Char → Nat → Prop
  /-- In base ten, at most 4300 digits, and all of them zero if the first one is. -/
  | decimal {cs : List Char} {ds : List Nat} (h : Digits 10 cs ds) (hlong : ds.length ≤ 4300)
    (hzero : ds.head? = some 0 → ∀ d ∈ ds, d = 0) : Unsigned cs (Radix.value 10 ds)
  /-- Behind a prefix, and behind an underscore or not. -/
  | based {letter : Char} {base : Nat} {bar cs : List Char} {ds : List Nat}
    (hbased : (letter, base) ∈ prefixes) (hbar : bar = [] ∨ bar = ['_'])
    (h : Digits base cs ds) : Unsigned ('0' :: letter :: (bar ++ cs)) (Radix.value base ds)

/-- A number, with a sign or without. -/
inductive Signed : List Char → Int → Prop
  | bare {cs : List Char} {n : Nat} (h : Unsigned cs n) : Signed cs n
  | plus {cs : List Char} {n : Nat} (h : Unsigned cs n) : Signed ('+' :: cs) n
  | minus {cs : List Char} {n : Nat} (h : Unsigned cs n) : Signed ('-' :: cs) (-n)

/-- What a character counts as: itself in ASCII, and a digit of any script as that digit. -/
def CountsAs (c a : Char) : Prop :=
  (c.toNat < 128 ∧ a = c) ∨ ∃ v, digitValue? c = some v ∧ a = Hex.digit v

/-- A text that denotes an integer, white space around it aside. -/
def Literal (text : List Char) (n : Int) : Prop :=
  ∃ ascii, List.Forall₂ CountsAs (trim text) ascii ∧ Signed ascii n

/-! ## 2. Characters -/

variable {base d n value count : Nat} {c a : Char} {cs ascii : List Char} {ds : List Nat}

theorem digitIn?_eq_some_iff (hbase : base ≤ 16) : digitIn? base c = some d ↔ IsDigit base d c := by
  have hvalue : value? c = Hex.value? c := rfl
  rw [digitIn?, Option.filter_eq_some_iff, hvalue, decide_eq_true_eq, IsDigit, and_comm]
  exact and_congr_right fun hd => Hex.value?_eq_some_iff (Nat.lt_of_lt_of_le hd hbase)

theorem IsDigit.value? (h : IsDigit base d c) (hbase : base ≤ 16) : Hex.value? c = some d :=
  (Hex.value?_eq_some_iff (Nat.lt_of_lt_of_le h.1 hbase)).2 h.2

/-- A character that may stand in a number.  What folding leaves of all the others may not, and
neither may the colon between two numbers. -/
def IsSymbol (a : Char) : Prop := a.toNat < 127 ∧ isBlank a = false ∧ a ≠ '?' ∧ a ≠ ':'

instance : DecidablePred IsSymbol := fun _ => inferInstanceAs (Decidable (_ ∧ _ ∧ _ ∧ _))

theorem IsDigit.isSymbol (h : IsDigit base d a) (hbase : base ≤ 16) : IsSymbol a := by
  have hvalue := h.value? hbase
  have hascii : ∀ n : Fin 128, (Hex.value? (Char.ofNat n)).isSome → IsSymbol (Char.ofNat n) := by
    decide +kernel
  simpa [hvalue] using hascii ⟨a.toNat, Hex.toNat_lt_of_value? hvalue⟩

theorem Digits.exists_cons (h : Digits base cs ds) :
    ∃ c d cs' ds', cs = c :: cs' ∧ ds = d :: ds' ∧ IsDigit base d c := by
  cases h with
  | last h => exact ⟨_, _, _, _, rfl, rfl, h⟩
  | next h => exact ⟨_, _, _, _, rfl, rfl, h⟩
  | bar h => exact ⟨_, _, _, _, rfl, rfl, h⟩

theorem Digits.isSymbol (h : Digits base ascii ds) (hbase : base ≤ 16) :
    ∀ a ∈ ascii, IsSymbol a := by
  induction h with
  | last h => simpa using h.isSymbol hbase
  | next h _ ih => exact List.forall_mem_cons.2 ⟨h.isSymbol hbase, ih⟩
  | bar h _ ih =>
    exact List.forall_mem_cons.2 ⟨h.isSymbol hbase, List.forall_mem_cons.2 ⟨by decide, ih⟩⟩

theorem Unsigned.behindPrefix (hbased : (c, base) ∈ prefixes) (h : Digits base cs ds) :
    Unsigned ('0' :: c :: cs) (Radix.value base ds) := by
  show Unsigned ('0' :: c :: ([] ++ cs)) _
  exact .based hbased (.inl rfl) h

theorem le_of_mem_prefixes (h : (c, base) ∈ prefixes) : base ≤ 16 ∧ base ≠ 10 ∧ IsSymbol c := by
  have hall : ∀ e ∈ prefixes, e.2 ≤ 16 ∧ e.2 ≠ 10 ∧ IsSymbol e.1 := by decide
  exact hall _ h

theorem Unsigned.isSymbol (h : Unsigned ascii n) : ∀ a ∈ ascii, IsSymbol a := by
  cases h with
  | decimal h => exact h.isSymbol (by decide)
  | based hbased hbar h =>
    obtain ⟨hbase, -, hletter⟩ := le_of_mem_prefixes hbased
    refine List.forall_mem_cons.2 ⟨by decide, List.forall_mem_cons.2 ⟨hletter, ?_⟩⟩
    refine List.forall_mem_append.2 ⟨?_, h.isSymbol hbase⟩
    rcases hbar with rfl | rfl
    · exact List.forall_mem_nil _
    · exact List.forall_mem_singleton.2 (by decide)

theorem Signed.isSymbol {z : Int} (h : Signed ascii z) : ∀ a ∈ ascii, IsSymbol a := by
  cases h with
  | bare h => exact h.isSymbol
  | plus h => exact List.forall_mem_cons.2 ⟨by decide, h.isSymbol⟩
  | minus h => exact List.forall_mem_cons.2 ⟨by decide, h.isSymbol⟩

/-- A digit of any script is worth less than ten, and no blank. -/
theorem spec_of_digitValue? {v : Nat} (h : digitValue? c = some v) :
    v < 10 ∧ isBlank c = false ∧ (c.toNat < 127 → c = Hex.digit v) := by
  obtain ⟨first, hfirst, rfl⟩ := Option.map_eq_some_iff.1 h
  have hmem := List.mem_of_find?_eq_some hfirst
  have hrange := List.find?_some hfirst
  simp only [Bool.and_eq_true, decide_eq_true_eq] at hrange
  have hall : ∀ z ∈ digitZeros, ∀ i : Fin 10,
      isBlank (Char.ofNat (z + i)) = false ∧
        (z + i < 127 → Char.ofNat (z + i) = Hex.digit i) := by
    decide +kernel
  have hc := hall first hmem ⟨c.toNat - first, by omega⟩
  simp only [Nat.add_sub_cancel' hrange.1, Char.ofNat_toNat] at hc
  exact ⟨by omega, hc.1, hc.2⟩

/-- Folding tells what a character counts as. -/
theorem countsAs_iff (ha : IsSymbol a) : CountsAs c a ↔ fold c = a := by
  obtain ⟨hascii, hblank, hmark, -⟩ := ha
  have hspace : a ≠ ' ' := by
    rintro rfl
    cases hblank
  clear hblank
  constructor
  · rintro (⟨-, rfl⟩ | ⟨v, hv, rfl⟩)
    · exact if_pos hascii
    · obtain ⟨hten, hblank, hself⟩ := spec_of_digitValue? hv
      rw [fold]
      split
      · rename_i hlt
        exact hself hlt
      · rw [if_neg (by simp [hblank]), hv, Hex.digit, if_pos hten]
  · rintro rfl
    unfold fold at hspace hmark ⊢
    split
    · rename_i hlt
      exact .inl ⟨Nat.lt_succ_of_lt hlt, rfl⟩
    · rename_i hlt
      rw [if_neg hlt] at hspace hmark
      split
      · rename_i hblank
        exact absurd (if_pos hblank) hspace
      · rename_i hblank
        rw [if_neg hblank] at hmark
        split
        · rename_i v hv
          exact .inr ⟨v, hv, by rw [Hex.digit, if_pos (spec_of_digitValue? hv).1]⟩
        · rename_i hv
          exact absurd (by rw [hv]) hmark

/-- So a text counts as the one that folding leaves of it. -/
theorem forall₂_countsAs_iff (h : ∀ a ∈ ascii, IsSymbol a) :
    List.Forall₂ CountsAs cs ascii ↔ cs.map fold = ascii := by
  induction ascii generalizing cs with
  | nil => simp
  | cons a ascii ih =>
    obtain ⟨ha, hrest⟩ := List.forall_mem_cons.1 h
    simp only [List.forall₂_cons_right_iff, List.map_eq_cons_iff, countsAs_iff ha, ih hrest]
    constructor
    · rintro ⟨c, cs, hc, hcs, rfl⟩
      exact ⟨c, cs, rfl, hc, hcs⟩
    · rintro ⟨c, cs, rfl, hc, hcs⟩
      exact ⟨c, cs, hc, hcs, rfl⟩

/-! ## 3. Runs of digits -/

section Runs

variable (hbase : base ≤ 16) {afterBar : Bool} {rest : List Char}
include hbase

theorem digitRun_digit (h : IsDigit base d c) :
    digitRun base value count afterBar (c :: rest)
      = digitRun base (base * value + d) (count + 1) false rest := by
  have hc : c ≠ '_' := by
    rintro rfl
    cases h.value? hbase
  rw [digitRun, if_neg hc, (digitIn?_eq_some_iff hbase).2 h]

/-- Digits are run over to the end. -/
theorem digitRun_of_digits (h : Digits base cs ds) :
    digitRun base value count afterBar cs
      = some ⟨Radix.valueFrom base value ds, count + ds.length, []⟩ := by
  induction h generalizing value count afterBar with
  | last h =>
    rw [digitRun_digit hbase h]
    rfl
  | next h _ ih =>
    rw [digitRun_digit hbase h, ih, List.length_cons, Nat.add_right_comm, Nat.add_assoc]
    rfl
  | bar h _ ih =>
    rw [digitRun_digit hbase h, digitRun, if_pos rfl, if_neg (by simp), ih, List.length_cons,
      Nat.add_right_comm, Nat.add_assoc]
    rfl

/-- Characters are digits in one way only. -/
theorem Digits.length_eq {ds' : List Nat} (h : Digits base cs ds) (h' : Digits base cs ds') :
    ds.length = ds'.length := by
  have hrun := (@digitRun_of_digits base 0 0 cs ds hbase false h).symm.trans
    (digitRun_of_digits hbase h')
  simpa using congrArg (Option.map Run.count) hrun

/-- What is run over are digits.  Behind other digits an underscore may stand in front. -/
theorem exists_digits_of_digitRun {run : Run}
    (h : digitRun base value count afterBar cs = some run) :
    ∃ body, cs = body ++ run.rest ∧
      ((afterBar = false ∧ body = [] ∧ run.value = value ∧ run.count = count) ∨
        ∃ ds, run.value = Radix.valueFrom base value ds ∧ run.count = count + ds.length ∧
          (Digits base body ds ∨
            afterBar = false ∧ count ≠ 0 ∧ ∃ rest, body = '_' :: rest ∧ Digits base rest ds)) := by
  induction cs generalizing value count afterBar with
  | nil =>
    rw [digitRun] at h
    split at h
    · cases h
    · rename_i hbar
      cases h
      exact ⟨[], rfl, .inl ⟨Bool.eq_false_iff.2 hbar, rfl, rfl, rfl⟩⟩
  | cons c cs ih =>
    rw [digitRun] at h
    split at h
    · rename_i hc
      subst hc
      split at h
      · cases h
      · rename_i hfree
        simp only [Bool.or_eq_true, beq_iff_eq, not_or, Bool.not_eq_true] at hfree
        obtain ⟨body, rfl, ⟨hbar, -⟩ | ⟨ds, hvalue, hcount, hds | ⟨hbar, -⟩⟩⟩ := ih h
        · cases hbar
        · exact ⟨'_' :: body, rfl, .inr ⟨ds, hvalue, hcount,
            .inr ⟨hfree.1, hfree.2, body, rfl, hds⟩⟩⟩
        · cases hbar
    · split at h
      · rename_i d hd
        have hdigit := (digitIn?_eq_some_iff hbase).1 hd
        obtain ⟨body, rfl, hbody⟩ := ih h
        refine ⟨c :: body, rfl, .inr ?_⟩
        rcases hbody with ⟨-, rfl, hvalue, hcount⟩ | ⟨ds, hvalue, hcount, hds⟩
        · exact ⟨[d], hvalue, hcount, .inl (.last hdigit)⟩
        · have hcount' : run.count = count + (d :: ds).length := by
            rw [hcount, List.length_cons, Nat.add_right_comm, Nat.add_assoc]
          refine ⟨d :: ds, hvalue, hcount', .inl ?_⟩
          rcases hds with hds | ⟨-, -, rest, rfl, hds⟩
          · exact .next hdigit hds
          · exact .bar hdigit hds
      · split at h
        · cases h
        · rename_i hbar
          cases h
          exact ⟨[], rfl, .inl ⟨Bool.eq_false_iff.2 hbar, rfl, rfl, rfl⟩⟩

end Runs

/-! ## 4. Numbers without a sign -/

/-- No white space stands at the end. -/
def Closed (cs : List Char) : Prop := ∀ c ∈ cs.getLast?, isGap c = false

theorem Closed.behind (front : List Char) {rest : List Char} (h : Closed (front ++ rest)) :
    Closed rest := by
  intro c hc
  exact h c (by simp [List.getLast?_append, Option.mem_def.1 hc])

theorem Closed.eq_nil (h : Closed cs) (hgap : cs.all isGap = true) : cs = [] := by
  by_contra hne
  have hlast := h _ (List.getLast?_eq_some_getLast hne)
  rw [List.all_eq_true.1 hgap _ (List.getLast_mem hne)] at hlast
  cases hlast

/-- The digits that a plan leads to, and what it asks of them. -/
theorem Plan.read_eq_ok_iff {p : Plan} (hbase : p.base ≤ 16) (hclosed : Closed p.digits) :
    p.read = .ok n ↔ ∃ ds, Digits p.base p.digits ds ∧ n = Radix.value p.base ds ∧
      (p.base = 10 → ds.length ≤ 4300) ∧ (p.leadingZeros = false → n = 0) := by
  constructor
  · intro h
    unfold read at h
    split at h
    · cases h
    · rename_i run hrun
      split at h
      · cases h
      rename_i hlong
      split at h
      · cases h
      rename_i hzeros
      split at h
      · cases h
      rename_i hwhole
      obtain rfl := Except.ok.inj h
      simp only [Bool.or_eq_true, decide_eq_true_eq, Bool.not_eq_true', not_or,
        Bool.not_eq_false] at hwhole
      obtain ⟨body, hbody, ⟨-, -, -, hcount⟩ | ⟨ds, hvalue, hcount, hds | ⟨-, hfront, -⟩⟩⟩ :=
        exists_digits_of_digitRun hbase hrun
      · exact absurd hcount hwhole.1
      · obtain hrest : run.rest = [] := (Closed.behind body (hbody ▸ hclosed)).eq_nil hwhole.2
        rw [hrest, List.append_nil] at hbody
        refine ⟨ds, hbody ▸ hds, hvalue, fun hten => ?_, fun hlead => ?_⟩
        · rw [Nat.zero_add] at hcount
          exact hcount ▸ Nat.not_lt.1 fun hlt => hlong ⟨hten, hlt⟩
        · simpa [hlead] using hzeros
      · exact absurd rfl hfront
  · rintro ⟨ds, hds, rfl, hlong, hlead⟩
    obtain ⟨_, _, _, tail, -, hcons, -⟩ := hds.exists_cons
    have hne : ds.length ≠ 0 := by simp [hcons]
    have hzeros : ¬ (!p.leadingZeros && Radix.value p.base ds != 0) = true := by simpa using hlead
    unfold read
    rw [digitRun_of_digits hbase hds, ← Radix.value]
    simp only [Nat.zero_add, List.all_nil, Bool.not_true, Bool.or_false, decide_eq_true_eq]
    rw [if_neg fun h => absurd (hlong h.1) (Nat.not_le.2 h.2), if_neg hzeros, if_neg hne]

/-- Digits are worth nothing only if all of them are. -/
theorem value_eq_zero_iff (hbase : 0 < base) : Radix.value base ds = 0 ↔ ∀ d ∈ ds, d = 0 := by
  have hfrom (v : Nat) : Radix.valueFrom base v ds = 0 ↔ v = 0 ∧ ∀ d ∈ ds, d = 0 := by
    induction ds generalizing v with
    | nil => simp [Radix.valueFrom]
    | cons d ds ih =>
      rw [Radix.valueFrom, List.foldl_cons, ← Radix.valueFrom, ih]
      simp only [Nat.add_eq_zero_iff, Nat.mul_eq_zero, hbase.ne', false_or, and_assoc,
        List.forall_mem_cons]
  rw [Radix.value, hfrom, eq_self, true_and]

theorem baseOf?_eq_some_iff : baseOf? c = some base ↔ (c, base) ∈ prefixes := by
  unfold baseOf?
  split_ifs with hx ho hb
  · rcases hx with rfl | rfl <;> simp [prefixes, eq_comm]
  · rcases ho with rfl | rfl <;> simp [prefixes, eq_comm]
  · rcases hb with rfl | rfl <;> simp [prefixes, eq_comm]
  · simp only [not_or] at hx ho hb
    simp [prefixes, hx, ho, hb]

theorem baseOf?_of_isDigit (h : IsDigit 10 d c) : baseOf? c = none := by
  have hten : ∀ e ∈ prefixes, ∀ d : Fin 10, ¬ e.1.toLower = Hex.digit d := by decide
  cases hbase : baseOf? c with
  | none => rfl
  | some base => exact absurd h.2 (hten _ (baseOf?_eq_some_iff.1 hbase) ⟨d, h.1⟩)

/-- Decimal digits do not look like a prefix. -/
theorem Digits.baseOf? (h : Digits 10 cs ds) :
    ∀ c rest, cs = '0' :: c :: rest → IntegerLiteral.baseOf? c = none := by
  rintro c rest rfl
  cases h with
  | next _ hrest =>
    obtain ⟨_, _, _, _, heq, -, hc⟩ := hrest.exists_cons
    obtain rfl := (List.cons.inj heq).1
    exact baseOf?_of_isDigit hc
  | bar => rfl

theorem isDigit_zero_iff : IsDigit 10 0 c ↔ c = '0' := by
  constructor
  · intro h
    have hvalue := h.value? (by decide)
    have hascii : ∀ n : Fin 128, Hex.value? (Char.ofNat n) = some 0 → Char.ofNat n = '0' := by
      decide +kernel
    simpa [hvalue] using hascii ⟨c.toNat, Hex.toNat_lt_of_value? hvalue⟩
  · rintro rfl
    exact ⟨by decide, by decide⟩

/-- Decimal digits start with zero if their first character does. -/
theorem Digits.head?_eq_zero_iff (h : Digits 10 cs ds) :
    ds.head? = some 0 ↔ cs.head? = some '0' := by
  obtain ⟨c, d, cs, ds, rfl, rfl, hd⟩ := h.exists_cons
  simp only [List.head?_cons, Option.some.injEq]
  constructor
  · rintro rfl
    exact isDigit_zero_iff.1 hd
  · rintro rfl
    have hvalue := hd.value? (by decide)
    exact (Option.some.inj hvalue).symm

/-- The base is read off the front, and an underscore behind its prefix is passed over. -/
theorem plan_of_based {rest : List Char} (h : (c, base) ∈ prefixes) :
    plan ('0' :: c :: rest)
      = ⟨base, true, if rest.head? = some '_' then rest.tail else rest⟩ := by
  rw [plan, baseOf?_eq_some_iff.2 h]

theorem plan_of_decimal (h : ∀ c rest, cs = '0' :: c :: rest → baseOf? c = none) :
    plan cs = ⟨10, cs.head? ≠ some '0', cs⟩ := by
  unfold plan
  split
  · rename_i c rest
    rw [h c rest rfl]
    rfl
  · rfl

/-- Behind a prefix there are digits of its base. -/
theorem unsigned_based_iff {rest : List Char} (h : (c, base) ∈ prefixes) :
    Unsigned ('0' :: c :: rest) n ↔
      ∃ ds, Digits base (if rest.head? = some '_' then rest.tail else rest) ds ∧
        n = Radix.value base ds := by
  have hbase := baseOf?_eq_some_iff.2 h
  constructor
  · intro hn
    cases hn with
    | decimal hds => cases hbase.symm.trans (hds.baseOf? _ _ rfl)
    | based hbased hbar hds =>
      cases hbase.symm.trans (baseOf?_eq_some_iff.2 hbased)
      refine ⟨_, ?_, rfl⟩
      rcases hbar with rfl | rfl
      · obtain ⟨c, d, cs, ds, rfl, -, hc⟩ := hds.exists_cons
        have hbar : c ≠ '_' := by
          rintro rfl
          cases hc.value? (le_of_mem_prefixes h).1
        simpa [hbar] using hds
      · simpa using hds
  · rintro ⟨ds, hds, rfl⟩
    split at hds
    · rename_i hbar
      cases rest with
      | nil => cases hbar
      | cons c rest =>
        obtain rfl := Option.some.inj hbar
        show Unsigned ('0' :: c :: (['_'] ++ rest)) _
        exact .based h (.inr rfl) hds
    · exact .behindPrefix h hds

/-- Without a prefix there are decimal digits. -/
theorem unsigned_decimal_iff (h : ∀ c rest, cs = '0' :: c :: rest → baseOf? c = none) :
    Unsigned cs n ↔ ∃ ds, Digits 10 cs ds ∧ n = Radix.value 10 ds ∧ ds.length ≤ 4300 ∧
      (cs.head? = some '0' → n = 0) := by
  constructor
  · intro hn
    cases hn with
    | decimal hds hlong hzero =>
      exact ⟨_, hds, rfl, hlong, fun hhead =>
        (value_eq_zero_iff (by decide)).2 (hzero (hds.head?_eq_zero_iff.2 hhead))⟩
    | based hbased => cases (baseOf?_eq_some_iff.2 hbased).symm.trans (h _ _ rfl)
  · rintro ⟨ds, hds, rfl, hlong, hzero⟩
    exact .decimal hds hlong fun hhead =>
      (value_eq_zero_iff (by decide)).1 (hzero (hds.head?_eq_zero_iff.1 hhead))

/-- **What is planned and then read is a number of the grammar.** -/
theorem read_plan_eq_ok_iff (hclosed : Closed cs) : (plan cs).read = .ok n ↔ Unsigned cs n := by
  by_cases hcs : ∃ c rest base, cs = '0' :: c :: rest ∧ (c, base) ∈ prefixes
  · obtain ⟨c, rest, base, rfl, hbased⟩ := hcs
    obtain ⟨hbase, hten, -⟩ := le_of_mem_prefixes hbased
    have hrest : Closed (if rest.head? = some '_' then rest.tail else rest) := by
      have hbehind : Closed rest := Closed.behind ['0', c] hclosed
      split
      · exact Closed.behind (rest.take 1) (by rwa [← List.drop_one, List.take_append_drop])
      · exact hbehind
    rw [plan_of_based hbased, Plan.read_eq_ok_iff hbase hrest, unsigned_based_iff hbased]
    simp [hten]
  · have hnone : ∀ c rest, cs = '0' :: c :: rest → baseOf? c = none := by
      intro c rest hcons
      cases hbase : baseOf? c with
      | none => rfl
      | some base => exact absurd ⟨c, rest, base, hcons, baseOf?_eq_some_iff.1 hbase⟩ hcs
    rw [plan_of_decimal hnone, Plan.read_eq_ok_iff (show 10 ≤ 16 by decide) hclosed,
      unsigned_decimal_iff hnone]
    simp

/-! ## 5. Texts -/

theorem Digits.sign (h : Digits base cs ds) (hbase : base ≤ 16) : sign cs = (1, cs) := by
  obtain ⟨c, d, rest, _, rfl, -, hc⟩ := h.exists_cons
  have hvalue := hc.value? hbase
  rw [IntegerLiteral.sign]
  · rintro rest' ⟨⟩
    cases hvalue
  · rintro rest' ⟨⟩
    cases hvalue

theorem Unsigned.sign (h : Unsigned cs n) : sign cs = (1, cs) := by
  cases h with
  | decimal h => exact h.sign (by decide)
  | based => rfl

/-- A sign is cut off, and where there is none the number stands alone. -/
theorem signed_iff {z : Int} :
    Signed cs z ↔ ∃ n : Nat, Unsigned (sign cs).2 n ∧ z = (sign cs).1 * n := by
  constructor
  · intro h
    cases h with
    | bare h => exact ⟨_, by rwa [h.sign], by simp [h.sign]⟩
    | plus h => exact ⟨_, h, by simp [sign]⟩
    | minus h => exact ⟨_, h, by simp [sign]⟩
  · rintro ⟨n, hn, rfl⟩
    unfold sign at hn ⊢
    split at hn
    · simpa using Signed.minus hn
    · simpa using Signed.plus hn
    · simpa using Signed.bare hn

theorem Closed.sign (h : Closed cs) : Closed (sign cs).2 := by
  unfold IntegerLiteral.sign
  split
  · exact Closed.behind ['-'] h
  · exact Closed.behind ['+'] h
  · exact h

/-- White space is all that is folded into white space. -/
theorem isBlank_of_isGap_fold (h : isGap (fold c) = true) : isBlank c = true := by
  have hascii : ∀ n : Fin 128, isGap (Char.ofNat n) = true → isBlank (Char.ofNat n) = true := by
    decide +kernel
  unfold fold at h
  split at h
  · rename_i hlt
    simpa [h] using hascii ⟨c.toNat, Nat.lt_succ_of_lt hlt⟩
  split at h
  · assumption
  split at h
  · rename_i v hv
    have hdigit : ∀ w : Fin 10, isGap (Char.ofNat (48 + w)) = false := by decide
    have := hdigit ⟨v, (spec_of_digitValue? hv).1⟩
    simp_all
  · exact absurd h (by decide)

/-- **The texts that are read, and the integers they are read as, are those of the grammar.** -/
theorem parse_trim_eq_ok_iff {text : List Char} {z : Int} :
    parse (trim text) = .ok z ↔ Literal text z := by
  have hblank {c : Char} (h : isBlank c = false) : isGap (fold c) = false :=
    Bool.eq_false_iff.2 fun hgap => Bool.eq_false_iff.1 h (isBlank_of_isGap_fold hgap)
  have hfront : ((trim text).map fold).dropWhile isGap = (trim text).map fold := by
    have hhead := head_trimWhile (p := isBlank) text
    rw [← trim] at hhead
    cases htrim : trim text with
    | nil => rfl
    | cons c rest =>
      rw [List.map_cons, List.dropWhile_cons_of_neg]
      simp [hblank (hhead c (by simp [htrim]))]
  have hclosed : Closed ((trim text).map fold) := by
    intro a ha
    rw [List.getLast?_map] at ha
    obtain ⟨c, hc, rfl⟩ := Option.map_eq_some_iff.1 ha
    exact hblank (last_trimWhile text c hc)
  have hread : parse (trim text) = .ok z ↔ Signed ((trim text).map fold) z := by
    rw [signed_iff, parse, parseWith, hfront]
    simp only [← read_plan_eq_ok_iff hclosed.sign]
    cases (plan (sign ((trim text).map fold)).2).read with
    | error why => simp [bind, Except.bind]
    | ok n => simp [bind, Except.bind, eq_comm, pure, Except.pure]
  rw [hread, Literal]
  constructor
  · intro h
    exact ⟨_, (forall₂_countsAs_iff h.isSymbol).2 rfl, h⟩
  · rintro ⟨ascii, hcounts, h⟩
    rwa [(forall₂_countsAs_iff h.isSymbol).1 hcounts]

/-! ## 6. Numbers as they are written -/

/-- Every integer in base ten, and behind a prefix in the other three bases. -/
def spellings : List (String × Nat) := [("", 10), ("0x", 16), ("0o", 8), ("0b", 2)]

/-- An integer in the digits of a base, behind a prefix and a minus sign if it is negative. -/
def written (mark : String) (base : Nat) (z : Int) : List Char :=
  (if z < 0 then ['-'] else []) ++ mark.toList ++ Nat.toDigits base z.natAbs

theorem isDigit_digitChar (hd : d < base) (hbase : base ≤ 16) :
    IsDigit base d (Nat.digitChar d) := by
  have hall : ∀ d : Fin 16, (Nat.digitChar d).toLower = Hex.digit d := by decide
  exact ⟨hd, hall ⟨d, Nat.lt_of_lt_of_le hd hbase⟩⟩

theorem Digits.concat (h : Digits base cs ds) (hd : IsDigit base d c) :
    Digits base (cs ++ [c]) (ds ++ [d]) := by
  induction h with
  | last h => exact .next h (.last hd)
  | next h _ ih => exact .next h ih
  | bar h _ ih => exact .bar h ih

/-- The digits of a number are digits, worth that number, and only zero starts with a zero. -/
theorem exists_digits_toDigits (hpos : 1 < base) (hbase : base ≤ 16) (n : Nat) :
    ∃ ds, Digits base (Nat.toDigits base n) ds ∧ ds.length = (Nat.toDigits base n).length ∧
      Radix.value base ds = n ∧ (ds.head? = some 0 → n = 0) := by
  induction n using Nat.strongRecOn with
  | ind n ih =>
    rw [Nat.toDigits_eq_if hpos]
    split
    · rename_i hlt
      refine ⟨[n], .last (isDigit_digitChar hlt hbase), rfl, ?_, by simp⟩
      simp [Radix.value, Radix.valueFrom]
    · rename_i hle
      have hquot : 0 < n / base := Nat.div_pos (Nat.not_lt.1 hle) (Nat.zero_lt_of_lt hpos)
      obtain ⟨ds, hds, hlength, hvalue, hhead⟩ := ih (n / base) (Nat.div_lt_self (by omega) hpos)
      have hmod : n % base < base := Nat.mod_lt _ (Nat.zero_lt_of_lt hpos)
      refine ⟨ds ++ [n % base], hds.concat (isDigit_digitChar hmod hbase), by simp [hlength],
        ?_, ?_⟩
      · have hfold : Radix.value base (ds ++ [n % base])
            = base * Radix.value base ds + n % base := by
          simp [Radix.value, Radix.valueFrom, List.foldl_append]
        rw [hfold, hvalue, Nat.div_add_mod]
      · obtain ⟨_, d, _, ds', -, rfl, -⟩ := hds.exists_cons
        intro hzero
        exact absurd (hhead hzero) hquot.ne'

theorem map_fold_of_isSymbol (h : ∀ c ∈ cs, IsSymbol c) : cs.map fold = cs := by
  conv_rhs => rw [← List.map_id cs]
  exact List.map_congr_left fun c hc => if_pos (h c hc).1

/-- Characters that may stand in a number stand for themselves. -/
theorem literal_iff_signed {z : Int} (h : ∀ c ∈ cs, IsSymbol c) : Literal cs z ↔ Signed cs z := by
  have htrim : trim cs = cs :=
    trimWhile_eq_self (fun c hc => (h c (List.mem_of_mem_head? hc)).2.1)
      fun c hc => (h c (List.mem_of_mem_getLast? hc)).2.1
  rw [Literal, htrim]
  constructor
  · rintro ⟨ascii, hcounts, hs⟩
    rw [forall₂_countsAs_iff hs.isSymbol, map_fold_of_isSymbol h] at hcounts
    rwa [hcounts]
  · intro hs
    exact ⟨cs, (forall₂_countsAs_iff h).2 (map_fold_of_isSymbol h), hs⟩

/-- A literal has no colon in it. -/
theorem Literal.colon_notMem {text : List Char} {z : Int} (h : Literal text z) : ':' ∉ text := by
  obtain ⟨ascii, hcounts, hs⟩ := h
  obtain ⟨front, back, htext, hfront, hback⟩ := exists_trimWhile isBlank text
  have hmid : ':' ∉ trim text := by
    intro hmem
    have hcolon : ':' ∈ ascii := by
      rw [← (forall₂_countsAs_iff hs.isSymbol).1 hcounts]
      exact List.mem_map_of_mem hmem
    exact (hs.isSymbol _ hcolon).2.2.2 rfl
  rw [htext, List.mem_append, List.mem_append]
  rintro ((hmem | hmem) | hmem)
  · exact absurd (hfront _ hmem) (by decide)
  · exact hmid hmem
  · exact absurd (hback _ hmem) (by decide)

theorem Literal.unique {text : List Char} {z z' : Int} (h : Literal text z) (h' : Literal text z') :
    z = z' := by
  have heq := (parse_trim_eq_ok_iff.2 h).symm.trans (parse_trim_eq_ok_iff.2 h')
  exact Except.ok.inj heq

/-- A number is read from its decimal digits, if they are not too many. -/
theorem parseDecimal_toDigits (hlong : (Nat.toDigits 10 n).length ≤ 4300) :
    parseDecimal (Nat.toDigits 10 n) = .ok n := by
  obtain ⟨ds, hds, hlength, hvalue, -⟩ := @exists_digits_toDigits 10 (by decide) (by decide) n
  have hsymbol := hds.isSymbol (by decide)
  have hgap : ∀ c ∈ Nat.toDigits 10 n, isGap c = false := by
    intro c hc
    obtain ⟨hascii, hblank, -⟩ := hsymbol c hc
    have hfold : fold c = c := if_pos hascii
    refine Bool.eq_false_iff.2 fun hgap => Bool.eq_false_iff.1 hblank ?_
    exact isBlank_of_isGap_fold (hfold.symm ▸ hgap)
  have hfront : (Nat.toDigits 10 n).dropWhile isGap = Nat.toDigits 10 n :=
    List.dropWhile_eq_self_iff.2 fun hl => by simp [hgap _ (List.getElem_mem hl)]
  have hclosed : Closed (Nat.toDigits 10 n) := fun c hc => hgap c (List.mem_of_mem_getLast? hc)
  have hread : (⟨10, true, Nat.toDigits 10 n⟩ : Plan).read = .ok n :=
    (Plan.read_eq_ok_iff (show 10 ≤ 16 by decide) hclosed).2
      ⟨ds, hds, hvalue.symm, fun _ => hlength ▸ hlong, nofun⟩
  rw [parseDecimal, parseWith, map_fold_of_isSymbol hsymbol, hfront, hds.sign (by decide)]
  simp only [hread, bind, Except.bind, pure, Except.pure, Int.one_mul]

theorem signed_sign {m : Nat} (z : Int) (h : Unsigned cs m) (hm : z.natAbs = m) :
    Signed ((if z < 0 then ['-'] else []) ++ cs) z := by
  split
  · rename_i hneg
    have hz : z = -(m : Int) := by omega
    rw [hz]
    exact .minus h
  · rename_i hpos
    have hz : z = (m : Int) := by omega
    rw [hz]
    exact .bare h

/-- **An integer is a literal in every base**, if in base ten its digits are not too many. -/
theorem literal_written {mark : String} (h : (mark, base) ∈ spellings) {z : Int}
    (hlong : base = 10 → (Nat.toDigits 10 z.natAbs).length ≤ 4300) :
    Literal (written mark base z) z := by
  have hbase : 1 < base ∧ base ≤ 16 := by
    have hall : ∀ e ∈ spellings, 1 < e.2 ∧ e.2 ≤ 16 := by decide
    exact hall _ h
  obtain ⟨ds, hds, hlength, hvalue, hhead⟩ := exists_digits_toDigits hbase.1 hbase.2 z.natAbs
  have hnumber : Unsigned (mark.toList ++ Nat.toDigits base z.natAbs) (Radix.value base ds) := by
    simp only [spellings, List.mem_cons, List.not_mem_nil, or_false, Prod.mk.injEq] at h
    rcases h with ⟨rfl, rfl⟩ | ⟨rfl, rfl⟩ | ⟨rfl, rfl⟩ | ⟨rfl, rfl⟩
    · refine .decimal hds (hlength ▸ hlong rfl) fun hzero => ?_
      exact (value_eq_zero_iff (by decide)).1 (hvalue.trans (hhead hzero))
    · exact .behindPrefix (by decide) hds
    · exact .behindPrefix (by decide) hds
    · exact .behindPrefix (by decide) hds
  have hsigned := signed_sign z hnumber hvalue.symm
  rw [written, List.append_assoc]
  exact (literal_iff_signed hsigned.isSymbol).2 hsigned

/-- And it is the only integer that it is read as in any of them. -/
theorem eq_of_literal_written {mark : String} (h : (mark, base) ∈ spellings) {z z' : Int}
    (hl : Literal (written mark base z) z') : z' = z := by
  by_cases hlong : base = 10 → (Nat.toDigits 10 z.natAbs).length ≤ 4300
  · exact hl.unique (literal_written h hlong)
  · exfalso
    obtain ⟨rfl, htoolong⟩ := Classical.not_imp.1 hlong
    obtain rfl : mark = "" := by
      have hall : ∀ e ∈ spellings, e.2 = 10 → e.1 = "" := by decide
      exact hall _ h rfl
    obtain ⟨ds, hds, hlength, -⟩ := @exists_digits_toDigits 10 (by decide) (by decide) z.natAbs
    -- the digits are those of the number, and they are too many
    have hsign : (sign (written "" 10 z)).2 = Nat.toDigits 10 z.natAbs := by
      rw [written]
      split
      · rfl
      · exact congrArg Prod.snd (hds.sign (by decide))
    have hsymbol : ∀ c ∈ written "" 10 z, IsSymbol c := by
      rw [written]
      refine List.forall_mem_append.2 ⟨List.forall_mem_append.2 ⟨?_, by simp⟩,
        hds.isSymbol (by decide)⟩
      split
      · exact List.forall_mem_singleton.2 (by decide)
      · exact List.forall_mem_nil _
    obtain ⟨n, hn, -⟩ := signed_iff.1 ((literal_iff_signed hsymbol).1 hl)
    rw [hsign, unsigned_decimal_iff hds.baseOf?] at hn
    obtain ⟨ds', hds', -, hshort, -⟩ := hn
    exact htoolong (hlength ▸ hds'.length_eq (by decide) hds ▸ hshort)

end Vesting.Text.IntegerLiteral
