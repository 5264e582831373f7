/-
# White space

The characters that separate words in any script: Unicode's separators of lines, paragraphs and
words, the no-break spaces among them, and the ASCII controls that format text.
-/

namespace Vesting.Text

/-- White space of any script. -/
def isBlank (c : Char) : Bool :=
  let n := c.toNat
  (9 ≤ n && n ≤ 13) || (28 ≤ n && n ≤ 32) || n == 0x85 || n == 0xa0 || n == 0x1680
    || (0x2000 ≤ n && n ≤ 0x200a) || n == 0x2028 || n == 0x2029 || n == 0x202f || n == 0x205f
    || n == 0x3000

/-- The characters without those at either end that satisfy `p`. -/
def trimWhile (p : Char → Bool) (cs : List Char) : List Char :=
  ((cs.dropWhile p).reverse.dropWhile p).reverse

/-- The characters without the white space at either end. -/
def trim (cs : List Char) : List Char := trimWhile isBlank cs

/-- A text without the white space at either end. -/
def trimmed (s : String) : String := String.ofList (trim s.toList)

/-- A text trimmed, unless nothing is left of it. -/
def nonBlank? (s : String) : Option String :=
  let t := trimmed s
  if t.isEmpty then none else some t

end Vesting.Text
