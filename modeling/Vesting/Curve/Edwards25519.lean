/-
# The curve edwards25519

The points `(x, y)` with `-x² + y² = 1 + d x² y²` over the field of `2^255 - 19` elements.  Two
things are asked of it.  Which 32-byte strings encode a point: those whose `y` leaves a square for
`x²`.  And which string encodes a multiple of the base point: the public half of a key pair.
-/
import Vesting.Bytes.LittleEndian

namespace Vesting.Edwards25519

/-! ## 1. The field -/

/-- The order of the field. -/
def p : Nat := Nat.pow 2 255 - 19

/-- `b ^ e` modulo `m`, from the `n` lowest bits of `e`. -/
def powMod (m : Nat) : Nat → Nat → Nat → Nat
  | 0, _, _ => 1 % m
  | n + 1, b, e =>
    let square := powMod m n (b * b % m) (e / 2)
    if e % 2 = 1 then square * b % m else square

/-- A power in the field. -/
def pow (b e : Nat) : Nat := powMod p 255 (b % p) e

/-- The inverse of a field element other than zero. -/
def inv (a : Nat) : Nat := pow a (p - 2)

/-- Subtraction of reduced elements. -/
def sub (a b : Nat) : Nat := (a + p - b) % p

/-- The coefficient of the curve. -/
def d : Nat := 37095705934669439343138083508754565189542113879843219016388785533085940283555

/-- Squares in the field, zero among them, by Euler's criterion. -/
def isSquare (a : Nat) : Bool := pow a ((p - 1) / 2) ≤ 1

/-! ## 2. Encoded points -/

/-- The `y` coordinate that 32 bytes hold; the highest bit belongs to `x`. -/
def yOf (data : Bytes) : Nat := LittleEndian.decode data % Nat.pow 2 255 % p

/-- Some `x` goes with `y`: then `x² = (y² - 1) / (d y² + 1)`, a square exactly if the product of
numerator and denominator is one. -/
def hasX (y : Nat) : Bool :=
  let y2 := y * y % p
  isSquare (sub y2 1 * (d * y2 % p + 1) % p)

/-- 32 bytes that encode a point. -/
def isPoint (data : Bytes) : Bool := hasX (yOf data)

/-! ## 3. Multiples of the base point -/

/-- A point in extended coordinates: `x = X / Z`, `y = Y / Z`, `x y = T / Z`. -/
structure Point where
  x : Nat
  y : Nat
  z : Nat
  t : Nat

/-- The neutral element. -/
def Point.zero : Point := ⟨0, 1, 1, 0⟩

/-- The sum of two points. -/
def Point.add (P Q : Point) : Point :=
  let a := sub P.y P.x * sub Q.y Q.x % p
  let b := (P.y + P.x) * (Q.y + Q.x) % p
  let c := 2 * d * P.t % p * Q.t % p
  let f := 2 * P.z * Q.z % p
  let e := sub b a
  let g := sub f c
  let h := (f + c) % p
  let k := (b + a) % p
  ⟨e * g % p, h * k % p, g * h % p, e * k % p⟩

/-- `k` times a point, from the `n` lowest bits of `k`. -/
def Point.mul : Nat → Nat → Point → Point
  | 0, _, _ => .zero
  | n + 1, k, P =>
    let rest := Point.mul n (k / 2) (P.add P)
    if k % 2 = 1 then rest.add P else rest

/-- The base point. -/
def base : Point :=
  let x := 15112221349535400772501151409588531511454012693041857206046113283949847762202
  let y := 46316835694926478169428394003475163141307993866256225615783033603165251855960
  ⟨x, y, 1, x * y % p⟩

/-- The 32 bytes of a point: `y`, with the lowest bit of `x` on top. -/
def Point.encode (P : Point) : Bytes :=
  let z := inv P.z
  LittleEndian.encode 32 (P.y * z % p + P.x * z % p % 2 * Nat.pow 2 255)

/-- The scalar in the first half of a hashed secret: bits 0 to 2 clear, bit 254 set, bit 255
clear. -/
def scalar (half : Bytes) : Nat :=
  LittleEndian.decode half % Nat.pow 2 254 / 8 * 8 + Nat.pow 2 254

/-- The public key of the secret whose hash starts with `half`. -/
def publicKey (half : Bytes) : Bytes := (Point.mul 255 (scalar half) base).encode

@[simp] theorem length_publicKey (half : Bytes) : (publicKey half).length = 32 := by
  simp [publicKey, Point.encode]

end Vesting.Edwards25519
