/-
# Reading JSON

A text is read as one value with white space around it.  Numbers without a fraction and an
exponent are integers; of entries with the same key the last one counts.
-/
import Vesting.Datum
import Vesting.Text.IntegerLiteral
import Vesting.Text.Reader

namespace Vesting.Json

open Text (Reader)

/-! ## 1. Blanks and numbers -/

/-- The characters that may stand between the parts of a value. -/
def isGap (c : Char) : Bool := c = ' ' || c = '\t' || c = '\n' || c = '\r'

/-- The text behind the blanks at its front. -/
def skipGap (cs : List Char) : List Char := cs.dropWhile isGap

/-- The number that a run of decimal digits denotes. -/
def natural (digits : List Char) : Nat :=
  digits.foldl (fun n c => 10 * n + (c.toNat - 48)) 0

/-- The fraction at the front of a text: a point and digits, if they are there. -/
def fraction : List Char → List Char × List Char
  | '.' :: rest =>
    let (digits, after) := rest.span Char.isDigit
    if digits.isEmpty then ([], '.' :: rest) else ('.' :: digits, after)
  | cs => ([], cs)

/-- The exponent at the front of a text, if there is one. -/
def exponent : List Char → List Char × List Char
  | e :: rest =>
    if e = 'e' ∨ e = 'E' then
      let (sign, after) := match rest with
        | '+' :: after => (['+'], after)
        | '-' :: after => (['-'], after)
        | _ => ([], rest)
      let (digits, after) := after.span Char.isDigit
      if digits.isEmpty then ([], e :: rest) else (e :: sign ++ digits, after)
    else ([], e :: rest)
  | [] => ([], [])

/-- The digits of a whole number, which has no leading zeros. -/
def whole : List Char → List Char × List Char
  | '0' :: rest => (['0'], rest)
  | cs => cs.span Char.isDigit

/-- A number without its sign; `sign` is the text of the sign. -/
def number (sign : List Char) : Reader Datum := fun cs =>
  let (digits, rest) := whole cs
  if digits.isEmpty then .error .notJson
  else
    let (fraction, rest) := fraction rest
    let (exponent, rest) := exponent rest
    if fraction.isEmpty && exponent.isEmpty then
      if Text.IntegerLiteral.maxDigits < digits.length then
        .error (.invalid (.tooManyDigits digits.length))
      else
        let n : Int := natural digits
        .ok (.int (if sign.isEmpty then n else -n), rest)
    else .ok (.real (String.ofList (sign ++ digits ++ fraction ++ exponent)), rest)

/-! ## 2. Text -/

/-- The unit that four hexadecimal digits name. -/
def unit : List Char → Except Fault (Nat × List Char)
  | a :: b :: c :: d :: rest =>
    match Hex.value? a, Hex.value? b, Hex.value? c, Hex.value? d with
    | some a, some b, some c, some d => .ok (4096 * a + 256 * b + 16 * c + d, rest)
    | _, _, _, _ => .error .notJson
  | _ => .error .notJson

/-- The second half of a character that takes two units, if it follows. -/
def lowHalf? : List Char → Option (Nat × List Char)
  | '\\' :: 'u' :: rest =>
    match unit rest with
    | .ok (n, rest) => if 0xdc00 ≤ n ∧ n < 0xe000 then some (n, rest) else none
    | .error _ => none
  | _ => none

/-- The character that starts with the unit `high`.  Half a character is read as U+FFFD. -/
def wholeChar (high : Nat) (rest : List Char) : Char × List Char :=
  if 0xd800 ≤ high ∧ high < 0xdc00 then
    match lowHalf? rest with
    | some (low, rest) =>
      (Char.ofNat (0x10000 + (high - 0xd800) * 0x400 + (low - 0xdc00)), rest)
    | none => ('\ufffd', rest)
  else if 0xdc00 ≤ high ∧ high < 0xe000 then ('\ufffd', rest)
  else (Char.ofNat high, rest)

/-- The character behind a backslash. -/
def escape : Reader Char
  | 'u' :: rest => do
    let (n, rest) ← unit rest
    return wholeChar n rest
  | c :: rest =>
    if c = '"' ∨ c = '\\' ∨ c = '/' then .ok (c, rest)
    else if c = 'b' then .ok ('\x08', rest)
    else if c = 'f' then .ok ('\x0c', rest)
    else if c = 'n' then .ok ('\n', rest)
    else if c = 'r' then .ok ('\r', rest)
    else if c = 't' then .ok ('\t', rest)
    else .error .notJson
  | [] => .error .notJson

/-- The text up to the closing quote; `acc` holds what has been read, newest character first. -/
def text (fuel : Nat) (acc : List Char) : Reader String := fun cs =>
  match fuel, cs with
  | 0, _ => .error .notJson
  | _, [] => .error .notJson
  | fuel + 1, c :: rest =>
    if c = '"' then .ok (String.ofList acc.reverse, rest)
    else if c = '\\' then
      match escape rest with
      | .ok (c, rest) => text fuel (c :: acc) rest
      | .error why => .error why
    else if c < ' ' then .error .notJson
    else text fuel (c :: acc) rest

/-! ## 3. Values -/

/-- The words that stand for values. -/
def words : List (String × Datum) :=
  [("null", .null), ("true", .bool true), ("false", .bool false), ("NaN", .real "nan"),
   ("Infinity", .real "inf"), ("-Infinity", .real "-inf")]

/-- The value of a word at the front of a text. -/
def word? (cs : List Char) : Option (Datum × List Char) :=
  (words.find? fun w => w.1.toList.isPrefixOf cs).map fun w => (w.2, cs.drop w.1.length)

/-- A word or a number. -/
def scalar : Reader Datum := fun cs =>
  match word? cs with
  | some found => .ok found
  | none =>
    match cs with
    | '-' :: rest => number ['-'] rest
    | _ => number [] cs

/-- How deep lists and tables may stand inside each other. -/
def maxDepth : Nat := 987

mutual

/-- A value; `depth` is left for what stands inside. -/
def value (fuel depth : Nat) : Reader Datum := fun cs =>
  match fuel, cs with
  | 0, _ => .error .notJson
  | fuel + 1, '"' :: rest => do
    let (s, rest) ← text (fuel + 1) [] rest
    return (.text s, rest)
  | fuel + 1, '[' :: rest =>
    if depth = 0 then .error .tooDeep
    else match skipGap rest with
      | ']' :: rest => .ok (.list [], rest)
      | rest => items fuel (depth - 1) [] rest
  | fuel + 1, '\x7b' :: rest =>
    if depth = 0 then .error .tooDeep
    else match skipGap rest with
      | '\x7d' :: rest => .ok (.table [], rest)
      | rest => entries fuel (depth - 1) [] rest
  | _ + 1, cs => scalar cs

/-- The items of a list from the next one on; `acc` holds those in front of it, newest first. -/
def items (fuel depth : Nat) (acc : List Datum) : Reader Datum := fun cs =>
  match fuel with
  | 0 => .error .notJson
  | fuel + 1 =>
    match value fuel depth cs with
    | .error why => .error why
    | .ok (item, rest) =>
      match skipGap rest with
      | ',' :: rest => items fuel depth (item :: acc) (skipGap rest)
      | ']' :: rest => .ok (.list (item :: acc).reverse, rest)
      | _ => .error .notJson

/-- The entries of a table from the next one on, behind those in `acc`. -/
def entries (fuel depth : Nat) (acc : List (String × Datum)) : Reader Datum := fun cs =>
  match fuel, cs with
  | fuel + 1, '"' :: rest =>
    match text (fuel + 1) [] rest with
    | .error why => .error why
    | .ok (key, rest) =>
      match skipGap rest with
      | ':' :: rest =>
        match value fuel depth (skipGap rest) with
        | .error why => .error why
        | .ok (item, rest) =>
          match skipGap rest with
          | ',' :: rest => entries fuel depth (Datum.setEntry key item acc) (skipGap rest)
          | '\x7d' :: rest => .ok (.table (Datum.setEntry key item acc), rest)
          | _ => .error .notJson
      | _ => .error .notJson
  | _, _ => .error .notJson

end

/-- Reads the value that a text holds.  Two steps a character are enough for any text. -/
def read (cs : List Char) : Except Fault Datum :=
  match value (2 * cs.length + 2) maxDepth (skipGap cs) with
  | .error why => .error why
  | .ok (v, rest) => if (skipGap rest).isEmpty then .ok v else .error .notJson

end Vesting.Json
