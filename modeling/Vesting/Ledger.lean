/-
# Ledgers

A ledger holds accounts by key.  An account that is not there counts as an empty one, and storing
an account puts it in the place of the one that was there, or behind all others.
-/
import Vesting.Key

namespace Vesting

/-! ## 1. Accounts -/

/-- What a ledger holds under a key. -/
structure Account where
  /-- The program to which the account belongs. -/
  owner : Key := Key.systemProgram
  lamports : Int := 0
  data : Bytes := []
deriving DecidableEq

namespace Account

/-- The account of nothing. -/
def empty : Account := {}

instance : Inhabited Account := ⟨empty⟩

/-- An account that might as well not be there. -/
def isEmpty (a : Account) : Bool :=
  a.lamports == 0 && a.data.isEmpty && a.owner == Key.systemProgram

/-- Nothing but the account of nothing is empty. -/
theorem isEmpty_iff {a : Account} : a.isEmpty = true ↔ a = empty := by
  obtain ⟨owner, lamports, data⟩ := a
  simp [isEmpty, empty]
  constructor
  · rintro ⟨⟨rfl, rfl⟩, rfl⟩
    exact ⟨rfl, rfl, rfl⟩
  · rintro ⟨rfl, rfl, rfl⟩
    exact ⟨⟨rfl, rfl⟩, rfl⟩

end Account

/-! ## 2. Entries -/

namespace Ledger

/-- Entries with the account of a key replaced or added. -/
def put (key : Key) (a : Account) : List (Key × Account) → List (Key × Account)
  | [] => [(key, a)]
  | (k, b) :: rest => if k = key then (key, a) :: rest else (k, b) :: put key a rest

/-- The keys after an account is put in: no key is lost, and at most one comes in, at the end. -/
theorem keys_put (key : Key) (a : Account) (entries : List (Key × Account)) :
    (put key a entries).map Prod.fst =
      if key ∈ entries.map Prod.fst then entries.map Prod.fst
      else entries.map Prod.fst ++ [key] := by
  induction entries with
  | nil => simp [put]
  | cons e rest ih =>
    obtain ⟨k, b⟩ := e
    by_cases h : k = key
    · simp [put, h]
    · have h' : key ≠ k := fun he => h he.symm
      by_cases m : key ∈ rest.map Prod.fst
      · rw [if_pos m] at ih
        rw [put, if_neg h, List.map_cons, ih, if_pos (by simpa using Or.inr (by simpa using m))]
        rfl
      · rw [if_neg m] at ih
        rw [put, if_neg h, List.map_cons, ih, if_neg (by simpa [h'] using m)]
        rfl

/-- Keys that differ still differ after an account is put in. -/
theorem nodup_put {key : Key} {a : Account} {entries : List (Key × Account)}
    (h : (entries.map Prod.fst).Nodup) : ((put key a entries).map Prod.fst).Nodup := by
  rw [keys_put]
  split
  · exact h
  · rename_i fresh
    refine List.nodup_append.2 ⟨h, by simp, ?_⟩
    intro x hx y hy
    rw [List.mem_singleton] at hy
    rintro rfl
    exact fresh (hy ▸ hx)

end Ledger

/-! ## 3. Ledgers -/

/-- Accounts by key. -/
structure Ledger where
  entries : List (Key × Account) := []
  nodup : (entries.map Prod.fst).Nodup := by simp

namespace Ledger

/-- The ledger without accounts. -/
def empty : Ledger := {}

instance : Inhabited Ledger := ⟨empty⟩

/-- The account that is stored under a key. -/
def get? (l : Ledger) (key : Key) : Option Account := l.entries.lookup key

/-- The account of a key; one that is not stored is empty. -/
def account (l : Ledger) (key : Key) : Account := (l.get? key).getD .empty

/-- Stores an account. -/
def insert (l : Ledger) (key : Key) (a : Account) : Ledger where
  entries := put key a l.entries
  nodup := nodup_put l.nodup

/-- The accounts that satisfy `p`. -/
def filter (p : Key → Account → Bool) (l : Ledger) : Ledger where
  entries := l.entries.filter fun e => p e.1 e.2
  nodup := l.nodup.sublist (List.filter_sublist.map Prod.fst)

/-- Drops every empty account. -/
def sweep (l : Ledger) : Ledger := l.filter fun _ a => !a.isEmpty

/-- A stored account is found again, and every other key keeps what it had. -/
theorem get?_insert (l : Ledger) (key k : Key) (a : Account) :
    (l.insert key a).get? k = if k = key then some a else l.get? k := by
  obtain ⟨entries, nodup⟩ := l
  show (put key a entries).lookup k = if k = key then some a else entries.lookup k
  clear nodup
  induction entries with
  | nil =>
    by_cases h : k = key
    · simp [put, h]
    · have : (k == key) = false := by simpa using h
      simp [put, List.lookup_cons, this, h]
  | cons e rest ih =>
    obtain ⟨j, b⟩ := e
    by_cases hj : j = key
    · subst hj
      by_cases h : k = j
      · simp [put, h]
      · have : (k == j) = false := by simpa using h
        simp [put, List.lookup_cons, this, h]
    · by_cases hk : k = j
      · simp [put, hj, hk]
      · have : (k == j) = false := by simpa using hk
        simp [put, hj, List.lookup_cons, this, ih]

/-- Storing an account changes that account only. -/
theorem account_insert (l : Ledger) (key k : Key) (a : Account) :
    (l.insert key a).account k = if k = key then a else l.account k := by
  rw [account, get?_insert]
  split
  · rfl
  · rfl

/-- The accounts that satisfy `p` are kept, and no others. -/
theorem get?_filter (p : Key → Account → Bool) (l : Ledger) (k : Key) :
    (l.filter p).get? k = (l.get? k).filter (p k) := by
  obtain ⟨entries, nodup⟩ := l
  show (entries.filter fun e => p e.1 e.2).lookup k = (entries.lookup k).filter (p k)
  induction entries with
  | nil => rfl
  | cons e rest ih =>
    obtain ⟨j, b⟩ := e
    have fresh : j ∉ rest.map Prod.fst := (List.nodup_cons.1 nodup).1
    have ih := ih (List.nodup_cons.1 nodup).2
    by_cases hk : k = j
    · subst hk
      have gone : (rest.filter fun e => p e.1 e.2).lookup k = none := by
        rw [List.lookup_eq_none_iff]
        intro e he
        have := (List.mem_filter.1 he).1
        have ne : k ≠ e.1 := fun h => fresh (h ▸ List.mem_map_of_mem this)
        simpa using ne
      cases hp : p k b
      · simp [hp, gone, Option.filter]
      · simp [hp, Option.filter]
    · have ne : (k == j) = false := by simpa using hk
      cases hp : p j b
      · simp [List.lookup_cons, hp, ne, ih]
      · simp [List.lookup_cons, hp, ne, ih]

/-- Dropping empty accounts changes no account. -/
theorem account_sweep (l : Ledger) (k : Key) : l.sweep.account k = l.account k := by
  rw [account, account, sweep, get?_filter]
  cases h : l.get? k with
  | none => rfl
  | some a =>
    cases he : a.isEmpty
    · simp [Option.filter, he]
    · rw [Account.isEmpty_iff] at he
      subst he
      rfl

end Ledger
end Vesting
