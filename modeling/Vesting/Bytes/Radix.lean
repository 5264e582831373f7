/-
# Positional notation

`digits base n` is the shortest list of digits of `n`, most significant first, and `value base`
reads a digit list.  `value_digits` says that nothing is lost on the way.
-/

namespace Vesting.Radix

/-- Puts the digits of `n` in front of `acc`; `fuel` bounds their number. -/
def digitsFrom (base : Nat) : Nat → Nat → List Nat → List Nat
  | 0, _, acc => acc
  | fuel + 1, n, acc => if n = 0 then acc else digitsFrom base fuel (n / base) (n % base :: acc)

/-- The digits of `n`, most significant first; none for zero. -/
def digits (base n : Nat) : List Nat := digitsFrom base (n.log2 + 1) n []

/-- What digits are worth behind others that are worth `v`. -/
def valueFrom (base v : Nat) (ds : List Nat) : Nat := ds.foldl (fun v d => base * v + d) v

/-- The number that a list of digits stands for. -/
def value (base : Nat) (ds : List Nat) : Nat := valueFrom base 0 ds

/-- A digit less needs less fuel. -/
theorem log2_div_lt {base fuel n : Nat} (hb : 2 ≤ base) (hn : n ≠ 0) (h : n.log2 < fuel + 1) :
    n / base = 0 ∨ (n / base).log2 < fuel := by
  by_cases hq : n / base = 0
  · exact .inl hq
  · refine .inr ((Nat.log2_lt hq).mpr ?_)
    have top : n < 2 ^ (fuel + 1) := (Nat.log2_lt hn).mp h
    rw [Nat.div_lt_iff_lt_mul (by omega)]
    rw [Nat.pow_succ] at top
    exact Nat.lt_of_lt_of_le top (Nat.mul_le_mul_left _ hb)

/-- With enough fuel, the digits put in front of `acc` are worth `n`. -/
theorem value_digitsFrom {base : Nat} (hb : 2 ≤ base) (fuel n : Nat) (acc : List Nat)
    (h : n = 0 ∨ n.log2 < fuel) :
    value base (digitsFrom base fuel n acc) = valueFrom base n acc := by
  induction fuel generalizing n acc with
  | zero =>
    have hn : n = 0 := by omega
    rw [digitsFrom, hn, value]
  | succ fuel ih =>
    rw [digitsFrom]
    split
    · rename_i hn
      rw [hn, value]
    · rename_i hn
      rw [ih _ _ (log2_div_lt hb hn (by omega))]
      simp only [valueFrom, List.foldl_cons, Nat.div_add_mod]

/-- The digits of a number are worth that number. -/
theorem value_digits {base : Nat} (hb : 2 ≤ base) (n : Nat) : value base (digits base n) = n :=
  value_digitsFrom hb _ n [] (.inr (Nat.lt_succ_self _))

end Vesting.Radix
