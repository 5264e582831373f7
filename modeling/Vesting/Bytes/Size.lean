/-
# Sizes and offsets

Integers have no bounds; an offset into a byte string and the size of one do.  Both are checked
here before bytes are sought or made.
-/
import Vesting.Fault

namespace Vesting.Bytes

/-- The least number of 64 bits with a sign. -/
def minWord : Int := -9223372036854775808

/-- The largest number of 64 bits with a sign. -/
def maxWord : Int := 9223372036854775807

/-- What every byte string takes beside its bytes. -/
def overhead : Int := 33

/-- A size for which there is no memory. -/
def memory : Int := 1099511627776

/-- A number fits in 64 bits with a sign. -/
def isWord (n : Int) : Bool := minWord ≤ n && n ≤ maxWord

/-- The `size` bytes at an offset. -/
def windowAt (data : Bytes) (offset : Int) (size : Nat) :
    Except Fault { window : Bytes // window.length = size } :=
  if isWord offset then
    match h : data.window? offset size with
    | some window => .ok ⟨window, length_of_window? h⟩
    | none => .error .misfit
  else .error (.overflow .position)

/-- A byte string of this size can be made. -/
def checkSize (size : Int) : Except Fault Unit :=
  if !isWord size then .error (.overflow .size)
  else if size < 0 then .error (.invalid .negativeLength)
  else if maxWord - overhead < size then .error (.overflow .bytes)
  else if memory ≤ size then .error .outOfMemory
  else .ok ()

end Vesting.Bytes
