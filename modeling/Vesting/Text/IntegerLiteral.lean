/-
# Integer literals

An integer is written with an optional sign and with digits of any script, between which single
underscores may stand.  Where no base is fixed, `0x`, `0o` and `0b` name one, and a decimal number
other than zero has no leading zeros.  A decimal run of more than 4300 digits is refused.
-/
import Vesting.Text.Blank
import Vesting.Text.Digit

namespace Vesting.Text.IntegerLiteral

/-- Why a text is no integer. -/
inductive Malformed
  /-- It has not the form of an integer. -/
  | form
  /-- It has more decimal digits than are read. -/
  | tooLong (digits : Nat)
deriving DecidableEq, Repr

/-- The longest run of decimal digits that is read. -/
def maxDigits : Nat := 4300

/-- The ASCII character that a character counts as: digits of all scripts are digits, white space
beyond ASCII is a space, and nothing else beyond ASCII has a place in a number. -/
def fold (c : Char) : Char :=
  if c.toNat < 127 then c
  else if isBlank c then ' '
  else match digitValue? c with
    | some v => Char.ofNat (48 + v)
    | none => '?'

/-- The value of a digit or letter, as far as bases up to sixteen go. -/
def value? (c : Char) : Option Nat :=
  if '0' ≤ c ∧ c ≤ '9' then some (c.toNat - 48)
  else if 'a' ≤ c ∧ c ≤ 'f' then some (c.toNat - 87)
  else if 'A' ≤ c ∧ c ≤ 'F' then some (c.toNat - 55)
  else none

/-- The value of a digit of a base. -/
def digitIn? (base : Nat) (c : Char) : Option Nat := (value? c).filter (· < base)

/-- A run of digits: its value, its number of digits, and the characters behind it. -/
structure Run where
  value : Nat
  count : Nat
  rest : List Char

/-- Reads a run of digits with single underscores between them; `afterBar` says that an underscore
has just been read.  A run neither starts nor ends with one. -/
def digitRun (base : Nat) (value count : Nat) (afterBar : Bool) : List Char → Option Run
  | [] => if afterBar then none else some ⟨value, count, []⟩
  | c :: rest =>
    if c = '_' then
      if afterBar || count == 0 then none else digitRun base value count true rest
    else match digitIn? base c with
      | some d => digitRun base (base * value + d) (count + 1) false rest
      | none => if afterBar then none else some ⟨value, count, c :: rest⟩

/-- The sign in front of a number, as the number's factor. -/
def sign : List Char → Int × List Char
  | '-' :: rest => (-1, rest)
  | '+' :: rest => (1, rest)
  | cs => (1, cs)

/-- The base that a prefix letter names. -/
def baseOf? (c : Char) : Option Nat :=
  if c = 'x' ∨ c = 'X' then some 16
  else if c = 'o' ∨ c = 'O' then some 8
  else if c = 'b' ∨ c = 'B' then some 2
  else none

/-- How digits are to be read: their base, whether leading zeros are allowed, and the digits. -/
structure Plan where
  base : Nat
  leadingZeros : Bool
  digits : List Char

/-- Reads the base off the front of a number. -/
def plan (cs : List Char) : Plan :=
  match cs with
  | '0' :: c :: rest =>
    match baseOf? c with
    | some base => ⟨base, true, if rest.head? = some '_' then rest.tail else rest⟩
    | none => ⟨10, false, cs⟩
  | _ => ⟨10, cs.head? ≠ some '0', cs⟩

/-- The white space that may stand around a number. -/
def isGap (c : Char) : Bool := c = ' ' || ('\t' ≤ c && c ≤ '\r')

/-- Reads the number that a plan describes. -/
def Plan.read (p : Plan) : Except Malformed Nat :=
  match digitRun p.base 0 0 false p.digits with
  | none => .error .form
  | some run =>
    if p.base = 10 ∧ maxDigits < run.count then .error (.tooLong run.count)
    else if !p.leadingZeros && run.value != 0 then .error .form
    else if run.count = 0 || !(run.rest.all isGap) then .error .form
    else .ok run.value

/-- Reads a signed number, the base being read off by `how`. -/
def parseWith (how : List Char → Plan) (cs : List Char) : Except Malformed Int := do
  let (factor, digits) := sign ((cs.map fold).dropWhile isGap)
  let n ← (how digits).read
  return factor * n

/-- Reads an integer whose prefix names its base. -/
def parse (cs : List Char) : Except Malformed Int := parseWith plan cs

/-- Reads a decimal integer, with leading zeros or without. -/
def parseDecimal (cs : List Char) : Except Malformed Int := parseWith (⟨10, true, ·⟩) cs

end Vesting.Text.IntegerLiteral
