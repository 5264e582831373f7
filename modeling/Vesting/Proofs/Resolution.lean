/-
# Seeds that are resolved are those of their address

Seeds come from a text in two ways, and an address with them.  Digits are the seeds, and their
address is looked up.  A phrase gives 31 bytes, and for the last one a byte is sought that leads
to an address, from 255 down.  Afterwards nobody knows any more where seeds have come from: a
command has the 32 bytes and the key of an account, and the engine derives the address from the
bytes anew.

That it finds the same is `Seeds.resolve_faithful`.  The search hashes the byte as a seed of its own
behind the 31, and the engine hashes one seed of 32 bytes.  What is hashed is the same string
(`Address.create?_of_flatten_eq`), and this is all that the two ways have in common.  It is also why
the digits of the seeds of a phrase, given as a text of their own, lead to where the phrase has led.

The byte that is found is the highest there is.  So a phrase has one address with a program, though
other last bytes may lead to addresses too.
-/
import Vesting.Proofs.Simulation
import Vesting.Proofs.Spelling

namespace Vesting

/-! ## 1. The search for the last byte -/

namespace Address

/-- The bytes are tried from the highest down. -/
theorem pairwise_lastBytes : lastBytes.Pairwise fun a b => b < a := by
  rw [lastBytes, List.pairwise_map]
  refine List.pairwise_lt_range.imp_of_mem fun {n m} hn hm hlt => ?_
  rw [List.mem_range] at hn hm
  rw [UInt8.lt_iff_toNat_lt, UInt8.toNat_ofNat_of_lt' (show 255 - m < 256 by omega),
    UInt8.toNat_ofNat_of_lt' (show 255 - n < 256 by omega)]
  omega

/-- All are tried but zero. -/
theorem mem_lastBytes {b : UInt8} : b ∈ lastBytes ↔ b ≠ 0 := by
  have hb : b.toNat < 256 := b.toNat_lt
  have hzero : b = 0 ↔ b.toNat = 0 := UInt8.toNat_inj.symm
  rw [lastBytes, List.mem_map, ne_eq, hzero]
  constructor
  · rintro ⟨n, hn, rfl⟩
    rw [List.mem_range] at hn
    rw [UInt8.toNat_ofNat_of_lt' (show 255 - n < 256 by omega)]
    omega
  · intro hne
    refine ⟨255 - b.toNat, List.mem_range.2 (by omega), ?_⟩
    rw [Nat.sub_sub_self (by omega), UInt8.ofNat_toNat]

/-- **The byte that is found is the highest that leads to an address.** -/
theorem highest_of_find? {seeds : List Bytes} {program address : Key} {last : UInt8}
    (h : find? seeds program = some (address, last)) :
    last ≠ 0 ∧ create? (seeds ++ [[last]]) program = some address ∧
      ∀ b, last < b → create? (seeds ++ [[b]]) program = none := by
  obtain ⟨before, tried, behind, hsplit, hfound, hfailed⟩ := List.findSome?_eq_some_iff.1 h
  obtain ⟨_, -, hlast⟩ := Option.map_eq_some_iff.1 hfound
  obtain rfl : tried = last := congrArg Prod.snd hlast
  have hdescending := pairwise_lastBytes
  rw [hsplit, List.pairwise_append, List.pairwise_cons] at hdescending
  obtain ⟨-, ⟨hbehind, -⟩, -⟩ := hdescending
  refine ⟨mem_lastBytes.1 (by simp [hsplit]), create?_of_find? h, fun b hb => ?_⟩
  -- a higher byte is tried as well, and before this one
  have hmem : b ∈ lastBytes := mem_lastBytes.2 fun hzero => by simp [hzero] at hb
  rw [hsplit, List.mem_append, List.mem_cons] at hmem
  rcases hmem with hmem | rfl | hmem
  · exact Option.map_eq_none_iff.1 (hfailed b hmem)
  · exact absurd hb (UInt8.lt_irrefl b)
  · exact absurd (hbehind b hmem) (UInt8.lt_asymm hb)

end Address

/-! ## 2. What is resolved -/

namespace Seeds

variable {text : String} {program address : Key} {s : Seeds}

/-- The seeds of a text that is no spelling of seeds are those of a phrase. -/
theorem ofPhrase_of_resolve (h : resolve text program = .ok (s, address))
    (hphrase : ∀ s' : Seeds, ∀ mark ∈ ["", "0x"], ¬ s'.Spells mark text) :
    ofPhrase (phraseBytes (Text.trimmed text)) program = .ok (s, address) := by
  have hhex : isHex (Text.trim text.toList) = false := Bool.eq_false_iff.2 fun hhex => by
    obtain ⟨s', mark, hmark, hspells⟩ := exists_spells_of_isHex hhex
    exact hphrase s' mark hmark hspells
  rw [← resolve_of_not_isHex program hhex, h]

/-- **Resolved seeds are those of their address.**  There are 32 bytes of them, the address is
derived from them, and the engine accepts the two together.  Whatever text they have come from,
every spelling of them, their digits to begin with, is resolved to the same seeds and the same
address.  If the text was none, it was a phrase: the seeds start as it does and end in the highest
byte, of those that are tried, that leads to an address. -/
theorem resolve_faithful (h : resolve text program = .ok (s, address)) :
    s.bytes.length = 32 ∧ Address.derive s.bytes program = .ok address ∧
    (∀ host : Host, host.derive = Address.derive → host.program = program →
      ∀ w, (Engine.checkAddress host s address).Yields w () w) ∧
    (∀ mark ∈ ["", "0x"], ∀ again, s.Spells mark again →
      resolve again program = .ok (s, address)) ∧
    resolve (Hex.encode s.bytes) program = .ok (s, address) ∧
    ((∀ s' : Seeds, ∀ mark ∈ ["", "0x"], ¬ s'.Spells mark text) →
      ∃ first last, start (phraseBytes (Text.trimmed text)) = .ok first ∧
        s.bytes = first ++ [last] ∧ last ≠ 0 ∧
        Address.create? [first, [last]] program = some address ∧
        ∀ b, last < b → Address.create? [first, [b]] program = none) := by
  have hderive := derive_of_resolve h
  have hagain : ∀ mark ∈ ["", "0x"], ∀ again, s.Spells mark again →
      resolve again program = .ok (s, address) := by
    intro mark hmark again hspells
    rw [resolve_of_digits program (hspells.withoutMark_trim hmark), hderive]
    rfl
  refine ⟨s.length_bytes, hderive, ?accepted, hagain, ?digits, fun hphrase => ?phrase⟩
  case accepted =>
    rintro host hhost rfl w
    exact Engine.yields_checkAddress (hhost ▸ hderive)
  case digits => exact hagain "" (by simp) _ (by simpa using s.spells_encode "")
  case phrase =>
    obtain ⟨first, last, hfirst, hfind, hbytes⟩ :=
      exists_of_ofPhrase (ofPhrase_of_resolve h hphrase)
    obtain ⟨htried, hcreate, hhighest⟩ := Address.highest_of_find? hfind
    exact ⟨first, last, hfirst, hbytes, htried, hcreate, hhighest⟩

end Seeds

namespace Sample

/-- The seeds of the phrase `short` for the deployed program. -/
def phrased : Seeds where
  bytes := [0xf9, 0xb0, 0x07, 0x8b, 0x5d, 0xf5, 0x96, 0xd2, 0xea, 0x19, 0x01, 0x0c, 0x00,
    0x1b, 0xbd,
    0x00, 0x9e, 0x65, 0x1d, 0xe2, 0xc5, 0x7e, 0x8f, 0xb7, 0xe3, 0x55, 0xf3, 0x1e, 0xb9, 0xd3, 0xf7,
    0xfd]
  length_bytes := rfl

/-- Their address. -/
def phrasedHome : Key := Key.named "Dj7cY8ugfaiVfGNnDK1MbX4GCQDXRt7fRyff5v69dNrw"

end Sample

/-- The seeds of a phrase end in 253, because 254 and 255 lead nowhere. -/
theorem Seeds.resolve_faithful_phrase :
    resolve " short" Key.vestingProgram = .ok (Sample.phrased, Sample.phrasedHome) ∧
      Address.derive Sample.phrased.bytes Key.vestingProgram = .ok Sample.phrasedHome ∧
      resolve (Hex.encode Sample.phrased.bytes) Key.vestingProgram
        = .ok (Sample.phrased, Sample.phrasedHome) ∧
      ∃ first, start (phraseBytes (Text.trimmed " short")) = .ok first ∧
        Sample.phrased.bytes = first ++ [253] ∧
        Address.create? [first, [254]] Key.vestingProgram = none ∧
        Address.create? [first, [255]] Key.vestingProgram = none := by
  have hresolve : resolve " short" Key.vestingProgram
      = .ok (Sample.phrased, Sample.phrasedHome) := by
    decide +kernel
  obtain ⟨-, hderive, -, -, hdigits, hphrase⟩ := resolve_faithful hresolve
  obtain ⟨first, last, hfirst, hbytes, -, -, hhighest⟩ := hphrase fun s mark hmark hspells =>
    absurd (isHex_iff.2 ⟨s, hspells.withoutMark_trim hmark⟩) (by decide +kernel)
  obtain rfl : (253 : UInt8) = last := by
    have hend := congrArg List.getLast? hbytes
    rw [List.getLast?_concat] at hend
    exact Option.some.inj hend
  exact ⟨hresolve, hderive, hdigits, first, hfirst, hbytes, hhighest 254 (by decide),
    hhighest 255 (by decide)⟩

end Vesting
