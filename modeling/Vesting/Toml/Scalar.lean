/-
# Dates and numbers in TOML

A date comes first, then a time of day, then a number: a text that starts like several of them is
read as the first.  Days have to exist in the calendar.
-/
import Vesting.Datum
import Vesting.Text.IntegerLiteral
import Vesting.Text.Reader

namespace Vesting.Toml

open Text (Reader behind?)

/-! ## 1. Dates and times -/

/-- A number of `count` decimal digits. -/
def digits? (count : Nat) (cs : List Char) : Option (Nat × List Char) :=
  let front := cs.take count
  if front.length = count ∧ front.all Char.isDigit then
    some (front.foldl (fun n c => 10 * n + (c.toNat - 48)) 0, cs.drop count)
  else none

/-- A number of two digits between bounds. -/
def pair? (low high : Nat) (cs : List Char) : Option (Nat × List Char) :=
  (digits? 2 cs).filter fun r => low ≤ r.1 ∧ r.1 ≤ high

/-- The text behind a fraction of a second, if there is one. -/
def skipFraction : List Char → List Char
  | '.' :: rest =>
    if (rest.head?.map Char.isDigit).getD false then rest.dropWhile Char.isDigit else '.' :: rest
  | cs => cs

/-- The text behind a time of day. -/
def time? (cs : List Char) : Option (List Char) := do
  let (_, cs) ← pair? 0 23 cs
  let (_, cs) ← pair? 0 59 (← behind? ":" cs)
  let (_, cs) ← pair? 0 59 (← behind? ":" cs)
  return skipFraction cs

/-- The text behind an hour and a minute. -/
def hourMinute? (cs : List Char) : Option (List Char) := do
  let (_, cs) ← pair? 0 23 cs
  let (_, cs) ← pair? 0 59 (← behind? ":" cs)
  return cs

/-- The text behind a distance from universal time, if there is one. -/
def skipOffset (cs : List Char) : List Char :=
  match cs with
  | c :: rest =>
    if c = 'Z' ∨ c = 'z' then rest
    else if c = '+' ∨ c = '-' then (hourMinute? rest).getD cs
    else cs
  | [] => []

/-- The text behind a time of day that follows a date, if one does. -/
def skipTime (cs : List Char) : List Char :=
  match cs with
  | c :: rest =>
    if c = 'T' ∨ c = 't' ∨ c = ' ' then ((time? rest).map skipOffset).getD cs else cs
  | [] => []

/-- The number of days in a month. -/
def daysIn (year month : Nat) : Nat :=
  if month = 2 then
    if year % 4 = 0 ∧ (year % 100 ≠ 0 ∨ year % 400 = 0) then 29 else 28
  else if month = 4 ∨ month = 6 ∨ month = 9 ∨ month = 11 then 30
  else 31

/-- A date with what follows it: whether its day exists, and the text behind it. -/
def date? (cs : List Char) : Option (Bool × List Char) := do
  let (year, cs) ← digits? 4 cs
  let (month, cs) ← pair? 1 12 (← behind? "-" cs)
  let (day, cs) ← pair? 1 31 (← behind? "-" cs)
  return (1 ≤ year && day ≤ daysIn year month, skipTime cs)

/-! ## 2. Numbers -/

/-- The text behind a run of digits with single underscores between them. -/
def skipDigits (isDigit : Char → Bool) : List Char → List Char
  | '_' :: c :: rest => if isDigit c then skipDigits isDigit rest else '_' :: c :: rest
  | c :: rest => if isDigit c then skipDigits isDigit rest else c :: rest
  | [] => []

/-- The text behind a run of digits that has to start with one. -/
def run? (isDigit : Char → Bool) (cs : List Char) : Option (List Char) :=
  match cs with
  | c :: rest => if isDigit c then some (skipDigits isDigit rest) else none
  | [] => none

/-- The digits of a base. -/
def isDigitOf (base : Nat) (c : Char) : Bool := (Text.IntegerLiteral.digitIn? base c).isSome

/-- The text behind a number whose base is named. -/
def based? (cs : List Char) : Option (List Char) :=
  match cs with
  | '0' :: 'x' :: rest => run? (isDigitOf 16) rest
  | '0' :: 'b' :: rest => run? (isDigitOf 2) rest
  | '0' :: 'o' :: rest => run? (isDigitOf 8) rest
  | _ => none

/-- The text behind a sign, if there is one. -/
def skipSign (cs : List Char) : List Char :=
  match cs with
  | '+' :: rest => rest
  | '-' :: rest => rest
  | _ => cs

/-- The text behind a whole decimal number without its sign. -/
def whole? (cs : List Char) : Option (List Char) :=
  match cs with
  | '0' :: rest => some rest
  | _ => run? Char.isDigit cs

/-- The text behind a fraction and an exponent, as far as they are there. -/
def skipFloat (cs : List Char) : List Char :=
  let cs := match cs with
    | '.' :: rest => (run? Char.isDigit rest).getD cs
    | _ => cs
  match cs with
  | c :: rest => if c = 'e' ∨ c = 'E' then (run? Char.isDigit (skipSign rest)).getD cs else cs
  | [] => []

/-- The front of `cs` that ends where `rest` starts. -/
def upTo (cs rest : List Char) : List Char := cs.take (cs.length - rest.length)

/-- The integer that a text of the right form denotes. -/
def integer (cs : List Char) : Except Fault Datum :=
  match Text.IntegerLiteral.parse cs with
  | .ok n => .ok (.int n)
  | .error (.tooLong count) => .error (.invalid (.tooManyDigits count))
  | .error .form => .error .notToml

/-- A number. -/
def number : Reader Datum := fun cs =>
  match based? cs with
  | some rest => do return (← integer (upTo cs rest), rest)
  | none =>
    match whole? (skipSign cs) with
    | none => .error .notToml
    | some rest =>
      let after := skipFloat rest
      if after.length = rest.length then do return (← integer (upTo cs rest), rest)
      else .ok (.real (String.ofList (upTo cs after)), after)

/-- The numbers that are written as words. -/
def words : List String := ["inf", "nan", "-inf", "+inf", "-nan", "+nan"]

/-- A number that is written as a word. -/
def word : Reader Datum := fun cs =>
  match words.findSome? fun w => (behind? w cs).map fun rest => (Datum.real w, rest) with
  | some found => .ok found
  | none => .error .notToml

/-- A date, a time or a number. -/
def scalar : Reader Datum := fun cs =>
  match date? cs with
  | some (exists', rest) =>
    if exists' then .ok (.moment (String.ofList (upTo cs rest)), rest) else .error .notToml
  | none =>
    match time? cs with
    | some rest => .ok (.moment (String.ofList (upTo cs rest)), rest)
    | none => if (whole? (skipSign cs)).isSome then number cs else word cs

end Vesting.Toml
