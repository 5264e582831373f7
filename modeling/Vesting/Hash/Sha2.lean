/-
# The SHA-2 hash functions

One definition for every word width: a `Variant` holds what the members of the family differ in,
and `hash` is the rest.  `sha256` names addresses and cuts seed phrases to length, `sha512`
expands the secret half of a key pair.
-/
import Vesting.Bytes

namespace Vesting.Sha2

/-! ## 1. What the members of the family differ in -/

/-- A member of the family with words of `w` bits. -/
structure Variant (w : Nat) where
  /-- One constant for each round. -/
  constants : List (BitVec w)
  /-- The first chaining value. -/
  initial : List (BitVec w)
  /-- The rotations of the two functions that mix a round's working words. -/
  mix0 : Nat × Nat × Nat
  mix1 : Nat × Nat × Nat
  /-- The two rotations and the shift of the two functions that stretch a block. -/
  stretch0 : Nat × Nat × Nat
  stretch1 : Nat × Nat × Nat

/-! ## 2. Words and bytes, most significant byte first -/

/-- The word that some bytes spell. -/
def word (w : Nat) (data : Bytes) : BitVec w :=
  BitVec.ofNat w (data.foldl (fun v b => 256 * v + b.toNat) 0)

/-- The `n` lowest bytes of a number, put in front of `acc`. -/
def bytesOf : Nat → Nat → Bytes → Bytes
  | 0, _, acc => acc
  | n + 1, v, acc => bytesOf n (v / 256) (UInt8.ofNat v :: acc)

/-- Cuts `n` words of `size` bytes off the front. -/
def words (w size : Nat) : Nat → Bytes → List (BitVec w)
  | 0, _ => []
  | n + 1, data => word w (data.take size) :: words w size n (data.drop size)

/-! ## 3. One block -/

/-- Three rotations, added bit by bit. -/
def mix {w : Nat} (r : Nat × Nat × Nat) (x : BitVec w) : BitVec w :=
  x.rotateRight r.1 ^^^ x.rotateRight r.2.1 ^^^ x.rotateRight r.2.2

/-- Two rotations and a shift, added bit by bit. -/
def stretch {w : Nat} (r : Nat × Nat × Nat) (x : BitVec w) : BitVec w :=
  x.rotateRight r.1 ^^^ x.rotateRight r.2.1 ^^^ (x >>> r.2.2)

/-- The word of the message schedule that follows sixteen given ones. -/
def nextWord {w : Nat} (v : Variant w) (window : List (BitVec w)) : BitVec w :=
  let pick (i : Nat) := window.getD i 0
  stretch v.stretch1 (pick 14) + pick 9 + stretch v.stretch0 (pick 1) + pick 0

/-- The working words after a round with constant `k` and schedule word `m`. -/
def step {w : Nat} (v : Variant w) (k m : BitVec w) : List (BitVec w) → List (BitVec w)
  | [a, b, c, d, e, f, g, h] =>
    let t1 := h + mix v.mix1 e + ((e &&& f) ^^^ (~~~e &&& g)) + k + m
    let t2 := mix v.mix0 a + ((a &&& b) ^^^ (a &&& c) ^^^ (b &&& c))
    [t1 + t2, a, b, c, d + t1, e, f, g]
  | working => working

/-- All rounds; the schedule slides along as a window of sixteen words. -/
def rounds {w : Nat} (v : Variant w) :
    List (BitVec w) → List (BitVec w) → List (BitVec w) → List (BitVec w)
  | [], _, working => working
  | k :: ks, window, working =>
    rounds v ks (window.tail ++ [nextWord v window]) (step v k (window.headD 0) working)

/-- Takes one block into the chaining value. -/
def absorb {w : Nat} (v : Variant w) (chain : List (BitVec w)) (block : Bytes) :
    List (BitVec w) :=
  List.zipWith (· + ·) chain (rounds v v.constants (words w (w / 8) 16 block) chain)

/-! ## 4. A whole message -/

/-- A message with the padding that tells its length: a set bit, zeros, and the length in bits as
two words. -/
def padded (w : Nat) (data : Bytes) : Bytes :=
  let block := 2 * w
  let used := (data.length + 1 + w / 4) % block
  data ++ 0x80 :: List.replicate ((block - used) % block) 0
    ++ bytesOf (w / 4) (8 * data.length) []

/-- Takes `n` blocks into the chaining value. -/
def absorbAll {w : Nat} (v : Variant w) : Nat → List (BitVec w) → Bytes → List (BitVec w)
  | 0, chain, _ => chain
  | n + 1, chain, data =>
    absorbAll v n (absorb v chain (data.take (2 * w))) (data.drop (2 * w))

/-- The hash of a message. -/
def hash {w : Nat} (v : Variant w) (data : Bytes) : Bytes :=
  let message := padded w data
  (absorbAll v (message.length / (2 * w)) v.initial message).flatMap
    fun x => bytesOf (w / 8) x.toNat []

/-! ## 5. The two members in use -/

/-- SHA-256: the constants are the first bits of the fractional parts of the cube roots of the
first 64 primes, the first chaining value those of the square roots of the first eight. -/
def variant256 : Variant 32 where
  constants := [
    0x428a2f98, 0x71374491, 0xb5c0fbcf, 0xe9b5dba5, 0x3956c25b, 0x59f111f1, 0x923f82a4,
    0xab1c5ed5, 0xd807aa98, 0x12835b01, 0x243185be, 0x550c7dc3, 0x72be5d74, 0x80deb1fe,
    0x9bdc06a7, 0xc19bf174, 0xe49b69c1, 0xefbe4786, 0x0fc19dc6, 0x240ca1cc, 0x2de92c6f,
    0x4a7484aa, 0x5cb0a9dc, 0x76f988da, 0x983e5152, 0xa831c66d, 0xb00327c8, 0xbf597fc7,
    0xc6e00bf3, 0xd5a79147, 0x06ca6351, 0x14292967, 0x27b70a85, 0x2e1b2138, 0x4d2c6dfc,
    0x53380d13, 0x650a7354, 0x766a0abb, 0x81c2c92e, 0x92722c85, 0xa2bfe8a1, 0xa81a664b,
    0xc24b8b70, 0xc76c51a3, 0xd192e819, 0xd6990624, 0xf40e3585, 0x106aa070, 0x19a4c116,
    0x1e376c08, 0x2748774c, 0x34b0bcb5, 0x391c0cb3, 0x4ed8aa4a, 0x5b9cca4f, 0x682e6ff3,
    0x748f82ee, 0x78a5636f, 0x84c87814, 0x8cc70208, 0x90befffa, 0xa4506ceb, 0xbef9a3f7, 0xc67178f2]
  initial := [
    0x6a09e667, 0xbb67ae85, 0x3c6ef372, 0xa54ff53a, 0x510e527f, 0x9b05688c, 0x1f83d9ab, 0x5be0cd19]
  mix0 := (2, 13, 22)
  mix1 := (6, 11, 25)
  stretch0 := (7, 18, 3)
  stretch1 := (17, 19, 10)

/-- SHA-512: the same roots to twice as many bits, for the first 80 primes. -/
def variant512 : Variant 64 where
  constants := [
    0x428a2f98d728ae22, 0x7137449123ef65cd, 0xb5c0fbcfec4d3b2f, 0xe9b5dba58189dbbc,
    0x3956c25bf348b538, 0x59f111f1b605d019, 0x923f82a4af194f9b, 0xab1c5ed5da6d8118,
    0xd807aa98a3030242, 0x12835b0145706fbe, 0x243185be4ee4b28c, 0x550c7dc3d5ffb4e2,
    0x72be5d74f27b896f, 0x80deb1fe3b1696b1, 0x9bdc06a725c71235, 0xc19bf174cf692694,
    0xe49b69c19ef14ad2, 0xefbe4786384f25e3, 0x0fc19dc68b8cd5b5, 0x240ca1cc77ac9c65,
    0x2de92c6f592b0275, 0x4a7484aa6ea6e483, 0x5cb0a9dcbd41fbd4, 0x76f988da831153b5,
    0x983e5152ee66dfab, 0xa831c66d2db43210, 0xb00327c898fb213f, 0xbf597fc7beef0ee4,
    0xc6e00bf33da88fc2, 0xd5a79147930aa725, 0x06ca6351e003826f, 0x142929670a0e6e70,
    0x27b70a8546d22ffc, 0x2e1b21385c26c926, 0x4d2c6dfc5ac42aed, 0x53380d139d95b3df,
    0x650a73548baf63de, 0x766a0abb3c77b2a8, 0x81c2c92e47edaee6, 0x92722c851482353b,
    0xa2bfe8a14cf10364, 0xa81a664bbc423001, 0xc24b8b70d0f89791, 0xc76c51a30654be30,
    0xd192e819d6ef5218, 0xd69906245565a910, 0xf40e35855771202a, 0x106aa07032bbd1b8,
    0x19a4c116b8d2d0c8, 0x1e376c085141ab53, 0x2748774cdf8eeb99, 0x34b0bcb5e19b48a8,
    0x391c0cb3c5c95a63, 0x4ed8aa4ae3418acb, 0x5b9cca4f7763e373, 0x682e6ff3d6b2b8a3,
    0x748f82ee5defb2fc, 0x78a5636f43172f60, 0x84c87814a1f0ab72, 0x8cc702081a6439ec,
    0x90befffa23631e28, 0xa4506cebde82bde9, 0xbef9a3f7b2c67915, 0xc67178f2e372532b,
    0xca273eceea26619c, 0xd186b8c721c0c207, 0xeada7dd6cde0eb1e, 0xf57d4f7fee6ed178,
    0x06f067aa72176fba, 0x0a637dc5a2c898a6, 0x113f9804bef90dae, 0x1b710b35131c471b,
    0x28db77f523047d84, 0x32caab7b40c72493, 0x3c9ebe0a15c9bebc, 0x431d67c49c100d4c,
    0x4cc5d4becb3e42b6, 0x597f299cfc657e2a, 0x5fcb6fab3ad6faec, 0x6c44198c4a475817]
  initial := [
    0x6a09e667f3bcc908, 0xbb67ae8584caa73b, 0x3c6ef372fe94f82b, 0xa54ff53a5f1d36f1,
    0x510e527fade682d1, 0x9b05688c2b3e6c1f, 0x1f83d9abfb41bd6b, 0x5be0cd19137e2179]
  mix0 := (28, 34, 39)
  mix1 := (14, 18, 41)
  stretch0 := (1, 8, 7)
  stretch1 := (19, 61, 6)

/-- The SHA-256 hash. -/
def sha256 (data : Bytes) : Bytes := hash variant256 data

/-- The SHA-512 hash. -/
def sha512 (data : Bytes) : Bytes := hash variant512 data

end Vesting.Sha2
