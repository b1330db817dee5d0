import Inkwell.Proofs.Keccak
import Inkwell.State.Layout
set_option autoImplicit false

/-! The names of the spaces that the state of programs is divided into, and what slots of any space
have in common. -/

namespace Inkwell

theorem Word.drop_octets (w : Word) : w.octets.drop 31 = [UInt8.ofNat w.toNat] := by
  have hlength : (Octets.ofNat 31 (w.toNat / 256)).length = 31 := Octets.length_ofNat _ _
  rw [octets, Octets.ofNat, List.drop_append, hlength]
  simp

theorem Slot.ofKey_mod (space key : Word) : (ofKey space key).toNat % 256 = key.toNat % 256 := by
  unfold ofKey Word.ofOctets
  rw [Word.drop_octets, Octets.toNat_append_singleton, BitVec.toNat_ofNat,
    Nat.mod_mod_of_dvd _ (by decide)]
  simp

namespace Layout

theorem programs_eq : programs =
    0xd33e25809fcaa2b6900567812852539da8559dc8b76a7ce3fc5ddd77e8d19a69 := by
  rw [programs, Slot.within, keccak, Keccak.digest_eq]
  decide +kernel

/-- The spaces inside that of programs. All names are evaluated at once. -/
theorem names_eq :
    params = 0x775fa6b44b1ccbcb652ffedeb311d199288bb735fb219026a5eea161e32bd480 ∧
    records = 0xcab2bcfacd31ed72211059c5457e8ca6b761d9e9aaeae6e0e6be3fa914161560 ∧
    moduleHashes = 0x8caf8ffab9b73cda0ea6d4dc4dff731ca3c449b409a3479e4ba3641f7a42b08f ∧
    pricer = 0xde827a84aaf8d357d300be2bbd6042d499e9c46fee2177c886b958ed8487e9f5 ∧
    managers = 0xafea9c6afea43702f842fc64246e605c221e0c8f9305aca6c29dc1ae68260f4b ∧
    lifetimes = 0xa4ae1021b1053207e8acefaed4123a29ae26fa1b2a5c713e4ed410cac07f31dd ∧
    fees = 0x662e4ff4598020c556accfdbc0380bbac4ab5ef11b3653434abed5abb2aa3843 := by
  simp only [params, records, moduleHashes, pricer, managers, lifetimes, fees, programs_eq,
    Slot.within, keccak, Keccak.digest_eq]
  decide +kernel

theorem kept_eq :
    paramsWord = 0xfb3a65ee2a3cc0d9ce98ddab7e30ebb719b46a87b8706ff1bf3aef1dcfb0e300 ∧
    pageRamp = 0xfb3a65ee2a3cc0d9ce98ddab7e30ebb719b46a87b8706ff1bf3aef1dcfb0e301 ∧
    feeAccount = 0x15fed0451499512d95f3ec5a41c878b9de55f21878b5b4e190d4667ec709b403 ∧
    demand = 0x32f3a25635b90f501d25f654cd2ff8f009d6c539bf8691682a31ded63f25ed00 ∧
    bytesPerSecond = 0x32f3a25635b90f501d25f654cd2ff8f009d6c539bf8691682a31ded63f25ed01 ∧
    lastUpdate = 0x32f3a25635b90f501d25f654cd2ff8f009d6c539bf8691682a31ded63f25ed02 ∧
    minPrice = 0x32f3a25635b90f501d25f654cd2ff8f009d6c539bf8691682a31ded63f25ed03 ∧
    inertia = 0x32f3a25635b90f501d25f654cd2ff8f009d6c539bf8691682a31ded63f25ed04 := by
  simp only [paramsWord, pageRamp, feeAccount, demand, bytesPerSecond, lastUpdate, minPrice, inertia,
    names_eq, Slot.ofKey, Keccak.digest_eq]
  decide +kernel

end Layout
end Inkwell
