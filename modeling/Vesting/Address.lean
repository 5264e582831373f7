/-
# Addresses without a secret

A program signs for addresses that are hashes of seeds and of its own key.  Such an address must
be no point of the curve, so that no secret goes with it; seeds whose hash is a point have none.
-/
import Vesting.Curve.Edwards25519
import Vesting.Hash.Sha2
import Vesting.Seeds

namespace Vesting.Address

/-! ## 1. Addresses of any program -/

/-- What is hashed behind the seeds and the program. -/
def marker : Bytes := "ProgramDerivedAddress".toUTF8.toList

/-- The address of seeds for a program, if they have one. -/
def create? (seeds : List Bytes) (program : Key) : Option Key :=
  let hash := Sha2.sha256 (seeds.flatten ++ program.bytes ++ marker)
  if Edwards25519.isPoint hash then none else Key.ofBytes? hash

/-- The seeds count by their bytes, however these are cut into seeds. -/
theorem create?_of_flatten_eq {seeds others : List Bytes} {program : Key}
    (h : seeds.flatten = others.flatten) : create? seeds program = create? others program := by
  rw [create?, create?, h]

/-- The bytes that are tried for the last seed, the highest first; zero is not tried. -/
def lastBytes : List UInt8 := (List.range 255).map fun n => UInt8.ofNat (255 - n)

/-- The address of seeds with the highest last byte that leads to one, and that byte. -/
def find? (seeds : List Bytes) (program : Key) : Option (Key × UInt8) :=
  lastBytes.findSome? fun last =>
    (create? (seeds ++ [[last]]) program).map fun address => (address, last)

/-- What is found is the address of the seeds with the byte that was found. -/
theorem create?_of_find? {seeds : List Bytes} {program address : Key} {last : UInt8}
    (h : find? seeds program = some (address, last)) :
    create? (seeds ++ [[last]]) program = some address := by
  obtain ⟨tried, -, htried⟩ := List.exists_of_findSome?_eq_some h
  obtain ⟨found, hfound, heq⟩ := Option.map_eq_some_iff.1 htried
  cases heq
  exact hfound

/-- The token account that goes with a wallet and a mint. -/
def associated (wallet mint : Key) : Except Fault Key :=
  match find? [wallet.bytes, Key.tokenProgram.bytes, mint.bytes] Key.associatedTokenProgram with
  | some (address, _) => .ok address
  | none => .error .noAddress

/-! ## 2. Addresses of contracts -/

/-- A way to derive the address of a contract from seeds and a program. -/
abbrev Derivation := Bytes → Key → Except Fault Key

/-- The address of a contract. -/
def derive : Derivation := fun seeds program =>
  if seeds.length ≠ 32 then .error (.rejected (.seedsLength seeds.length))
  else match create? [seeds] program with
    | some address => .ok address
    | none => .error (.rejected .offAddress)

/-- The derivation that takes the seeds themselves for the address. -/
def verbatim : Derivation := fun seeds _ =>
  match Key.ofBytes? seeds with
  | some address => .ok address
  | none => .error (.invalid (.keyLength seeds.length))

/-- A derivation gives a key or says that the seeds have none; it does not fail in other ways. -/
def Lawful (derive : Derivation) : Prop :=
  ∀ seeds program fault, derive seeds program = .error fault →
    ∃ why, fault = .rejected why ∧ why.code = .invalidArgument

/-- The usual derivation is lawful. -/
theorem lawful_derive : Lawful derive := by
  intro seeds program fault h
  unfold derive at h
  split at h
  · cases h
    exact ⟨_, rfl, rfl⟩
  · split at h
    · cases h
    · cases h
      exact ⟨_, rfl, rfl⟩

end Vesting.Address
