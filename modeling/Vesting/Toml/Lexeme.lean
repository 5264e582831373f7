/-
# The small parts of TOML

Blanks, comments, keys and strings.  Lines end with line feeds.
-/
import Vesting.Bytes.Hex
import Vesting.Text.Reader

namespace Vesting.Toml

open Text (Reader behind?)

/-! ## 1. Blanks and comments -/

/-- Blanks inside a line. -/
def isGap (c : Char) : Bool := c = ' ' || c = '\t'

/-- Blanks and ends of lines. -/
def isGapOrEnd (c : Char) : Bool := isGap c || c = '\n'

/-- The text behind the blanks at its front. -/
def skipGap (cs : List Char) : List Char := cs.dropWhile isGap

/-- Control characters that may not stand in a line. -/
def isControl (c : Char) : Bool := (c < ' ' && c ≠ '\t') || c = '\x7f'

/-- Passes over a comment, if one starts here, up to the end of its line. -/
def skipComment : List Char → Except Fault (List Char)
  | '#' :: rest =>
    let (comment, rest) := rest.span (· ≠ '\n')
    if comment.any isControl then .error .notToml else .ok rest
  | cs => .ok cs

/-- Passes over blanks, ends of lines and comments. -/
def skipBetween (fuel : Nat) (cs : List Char) : Except Fault (List Char) :=
  match fuel, cs.dropWhile isGapOrEnd with
  | fuel + 1, '#' :: rest =>
    match skipComment ('#' :: rest) with
    | .ok rest => skipBetween fuel rest
    | .error why => .error why
  | _, rest => .ok rest

/-! ## 2. Strings -/

/-- The number that hexadecimal digits denote, if all characters are such digits. -/
def hexValue? (digits : List Char) : Option Nat :=
  digits.foldl (fun n c => do return 16 * (← n) + (← Hex.value? c)) (some 0)

/-- The character with a number of `width` hexadecimal digits. -/
def numbered (width : Nat) : Reader Char := fun cs =>
  if cs.length < width then .error .notToml
  else match hexValue? (cs.take width) with
    | some n =>
      if n < 0xd800 ∨ (0xe000 ≤ n ∧ n < 0x110000) then .ok (Char.ofNat n, cs.drop width)
      else .error .notToml
    | none => .error .notToml

/-- The character behind a backslash. -/
def escape : Reader Char
  | [] => .error .notToml
  | c :: rest =>
    if c = 'u' then numbered 4 rest
    else if c = 'U' then numbered 8 rest
    else if c = 'b' then .ok ('\x08', rest)
    else if c = 't' then .ok ('\t', rest)
    else if c = 'n' then .ok ('\n', rest)
    else if c = 'f' then .ok ('\x0c', rest)
    else if c = 'r' then .ok ('\r', rest)
    else if c = '"' ∨ c = '\\' then .ok (c, rest)
    else .error .notToml

/-- The text behind a backslash that ends its line: the next character that is no blank. -/
def nextLine? (cs : List Char) : Option (List Char) :=
  match cs.head? with
  | none => none
  | some c =>
    if isGapOrEnd c then
      match skipGap cs with
      | [] => some []
      | '\n' :: rest => some (rest.dropWhile isGapOrEnd)
      | _ => none
    else none

/-- A string with escapes up to its closing quotes; `acc` holds what has been read, newest
character first.  A string of several lines closes with three quotes. -/
def basic (several : Bool) (fuel : Nat) (acc : List Char) : Reader String := fun cs =>
  match fuel, cs with
  | 0, _ => .error .notToml
  | _, [] => .error .notToml
  | fuel + 1, c :: rest =>
    if c = '"' then
      if !several then .ok (String.ofList acc.reverse, rest)
      else match behind? "\"\"" rest with
        | some rest => .ok (String.ofList acc.reverse, rest)
        | none => basic several fuel (c :: acc) rest
    else if c = '\\' then
      match if several then nextLine? rest else none with
      | some rest => basic several fuel acc rest
      | none =>
        match escape rest with
        | .ok (c, rest) => basic several fuel (c :: acc) rest
        | .error why => .error why
    else if isControl c && !(several && c = '\n') then .error .notToml
    else basic several fuel (c :: acc) rest

/-- A string without escapes on one line, up to its closing quote. -/
def literal : Reader String := fun cs =>
  match cs.span (· ≠ '\'') with
  | (_, []) => .error .notToml
  | (content, _ :: rest) =>
    if content.any isControl then .error .notToml else .ok (String.ofList content, rest)

/-- A string without escapes on several lines, up to its three closing quotes. -/
def literalLines (acc : List Char) : Reader String
  | [] => .error .notToml
  | '\'' :: '\'' :: '\'' :: rest => .ok (String.ofList acc.reverse, rest)
  | c :: rest =>
    if isControl c && c ≠ '\n' then .error .notToml else literalLines (c :: acc) rest

/-- Adds the one or two quotes that may stand in front of three closing ones. -/
def withQuotes (quote : Char) (s : String) (cs : List Char) : String × List Char :=
  match cs with
  | a :: b :: rest =>
    if a = quote then
      if b = quote then (s.push quote |>.push quote, rest) else (s.push quote, b :: rest)
    else (s, cs)
  | [a] => if a = quote then (s.push quote, []) else (s, cs)
  | [] => (s, [])

/-- The text without a line feed at its front. -/
def withoutFeed : List Char → List Char
  | '\n' :: rest => rest
  | cs => cs

/-- A string of several lines, behind its opening quotes. -/
def lines (quote : Char) : Reader String := fun cs => do
  let cs := withoutFeed cs
  let (s, rest) ← if quote = '"' then basic true (cs.length + 1) [] cs else literalLines [] cs
  return withQuotes quote s rest

/-- A string on one line, behind its opening quote. -/
def oneLine (quote : Char) : Reader String := fun cs =>
  if quote = '"' then basic false (cs.length + 1) [] cs else literal cs

/-- A string of any kind, behind its first quote. -/
def string (quote : Char) : Reader String := fun cs =>
  match behind? (String.ofList [quote, quote]) cs with
  | some rest => lines quote rest
  | none => oneLine quote cs

/-! ## 3. Keys -/

/-- A character of a key without quotes. -/
def isBare (c : Char) : Bool := c.isAlphanum || c = '-' || c = '_'

/-- One part of a key. -/
def keyPart : Reader String
  | [] => .error .notToml
  | c :: rest =>
    if isBare c then
      let (part, rest) := (c :: rest).span isBare
      .ok (String.ofList part, rest)
    else if c = '"' ∨ c = '\'' then oneLine c rest
    else .error .notToml

/-- The parts of a key, with points between them; `acc` holds those read, newest first. -/
def keyFrom (fuel : Nat) (acc : List String) : Reader (List String) := fun cs =>
  match fuel with
  | 0 => .error .notToml
  | fuel + 1 =>
    match keyPart cs with
    | .error why => .error why
    | .ok (part, rest) =>
      match skipGap rest with
      | '.' :: rest => keyFrom fuel (part :: acc) (skipGap rest)
      | rest => .ok ((part :: acc).reverse, rest)

/-- A key, with the blanks behind it. -/
def key : Reader (List String) := fun cs => keyFrom (cs.length + 1) [] cs

end Vesting.Toml
