import PhantomDrivers.LibPhantom.Library
import PhantomDrivers.Raw1394.Manager

/-!
# The register of the free channels

Both drivers read the register of the manager as two quadlets and test the bits
of the value they put together.  What they see is the allocation.

* `channelIsFree_eq_testBit`, `testBit_channelsAvailable` — `CHANNEL_IS_FREE` of
  the value, as a bit of one of the eight bytes that were read.
* `testBit_availableByte` — the bits of these bytes.
* `channelIsFree_iff` — a channel is free in the value exactly if nobody holds
  it.
* `firstFree_eq_some` — what the search for a free channel finds.
-/

namespace LibPhantom

open Semantics Raw1394

namespace Library

/-! ## The value -/

/-- The macro tests a bit. -/
theorem channelIsFree_eq_testBit (channels : UInt64) {c : Nat} (small : c < 64) :
    CHANNEL_IS_FREE channels c = channels.toNat.testBit (63 - c) := by
  have mask : ((1 : UInt64) <<< UInt64.ofNat (63 - c)).toNat = 2 ^ (63 - c) := by
    rw [UInt64.toNat_shiftLeft, UInt64.toNat_ofNat', UInt64.toNat_one, Nat.one_shiftLeft,
      Nat.mod_eq_of_lt (a := 63 - c) (by omega), Nat.mod_eq_of_lt (a := 63 - c) (by omega),
      Nat.mod_eq_of_lt]
    exact Nat.pow_lt_pow_right (by decide) (by omega)
  rw [CHANNEL_IS_FREE, Bool.eq_iff_iff, bne_iff_ne, Ne, ← UInt64.toNat_inj, UInt64.toNat_and,
    mask, Nat.and_two_pow]
  cases channels.toNat.testBit (63 - c) <;> simp

/-- The bits of the value are those of the bytes, whatever the byte order of the
host. -/
theorem testBit_channelsAvailable (endian : Endian) (block : Nat → UInt8) {k : Nat}
    (inside : k < 64) : (channelsAvailable endian (bytesOf block 8)).toNat.testBit k =
      (block (7 - k / 8)).toNat.testBit (k % 8) := by
  have high : endian.ntohl (endian.decode (bytesOf block 8)) =
      beQuadlet (block 0) (block 1) (block 2) (block 3) := by
    show endian.ntohl (endian.quadlet (block 0) (block 1) (block 2) (block 3)) = _
    rw [Endian.ntohl_quadlet]
  have low : endian.ntohl (endian.decode ((bytesOf block 8).drop 4)) =
      beQuadlet (block 4) (block 5) (block 6) (block 7) := by
    show endian.ntohl (endian.quadlet (block 4) (block 5) (block 6) (block 7)) = _
    rw [Endian.ntohl_quadlet]
  have shift : (32 : UInt64).toNat % 64 = 32 := rfl
  rw [channelsAvailable, high, low, UInt64.toNat_or, Nat.testBit_or, UInt64.toNat_shiftLeft, shift,
    Nat.testBit_mod_two_pow, decide_eq_true inside, Bool.true_and, Nat.testBit_shiftLeft,
    UInt32.toNat_toUInt64, UInt32.toNat_toUInt64]
  by_cases low : k < 32
  · rw [decide_eq_false (by omega), Bool.false_and, Bool.false_or,
      testBit_beQuadlet (fun i => block (4 + i)) low, show 4 + (3 - k / 8) = 7 - k / 8 by omega]
  · have none : (beQuadlet (block 4) (block 5) (block 6) (block 7)).toNat.testBit k = false := by
      refine Nat.testBit_lt_two_pow (Nat.lt_of_lt_of_le (UInt32.toNat_lt _) ?_)
      exact Nat.pow_le_pow_right (by decide) (Nat.not_lt.mp low)
    rw [decide_eq_true (Nat.not_lt.mp low), Bool.true_and, testBit_beQuadlet block (by omega), none,
      Bool.or_false, show 3 - (k - 32) / 8 = 7 - k / 8 by omega,
      show (k - 32) % 8 = k % 8 by omega]

/-! ## The register -/

/-- A bit behind the ones that are there. -/
def pushBit (byte : UInt8) (bit : Bool) : UInt8 := byte <<< 1 ||| if bit then 1 else 0

theorem testBit_foldl_pushBit : ∀ (x₀ x₁ x₂ x₃ x₄ x₅ x₆ x₇ : Bool) (j : Fin 8),
    ([x₀, x₁, x₂, x₃, x₄, x₅, x₆, x₇].foldl pushBit 0).toNat.testBit (7 - j.val) =
      [x₀, x₁, x₂, x₃, x₄, x₅, x₆, x₇][j] := by
  decide +kernel

/-- The first of eight bits is the most significant one. -/
theorem testBit_pushBits (f : Nat → Bool) {j : Nat} (inside : j < 8) :
    (((List.range 8).map f).foldl pushBit 0).toNat.testBit (7 - j) = f j := by
  have bit := testBit_foldl_pushBit (f 0) (f 1) (f 2) (f 3) (f 4) (f 5) (f 6) (f 7) ⟨j, inside⟩
  have bound : j < ((List.range 8).map f).length := by simpa using inside
  have entry : ((List.range 8).map f)[j] = f j := by simp
  exact bit.trans entry

theorem testBit_availableByte (b : ManagedBus) (port i : Nat) {j : Nat} (inside : j < 8) :
    (b.availableByte port i).toNat.testBit (7 - j) =
      decide (b.allocation port (8 * i + j) = none) := by
  rw [← testBit_pushBits (fun j => decide (b.allocation port (8 * i + j) = none)) inside,
    List.foldl_map]
  simp only [pushBit, decide_eq_true_eq]
  rfl

/-- The bytes of the register. -/
theorem byte_available (b : ManagedBus) (port : Nat) {i : Nat} (inside : i < 8) :
    b.byte port (b.irm port) (CHANNELS_AVAILABLE_ADDR + UInt64.ofNat i) =
      b.availableByte port i := by
  have offset : CHANNELS_AVAILABLE_ADDR + UInt64.ofNat i - CSR_CHANNELS_AVAILABLE =
      UInt64.ofNat i := by
    show CSR_CHANNELS_AVAILABLE + UInt64.ofNat i - CSR_CHANNELS_AVAILABLE = _
    rw [UInt64.add_comm, UInt64.add_sub_cancel]
  have index : (UInt64.ofNat i).toNat = i := by
    rw [UInt64.toNat_ofNat', Nat.mod_eq_of_lt (by omega)]
  have managed : ManagedBus.IsManagerRegister (CHANNELS_AVAILABLE_ADDR + UInt64.ofNat i) := by
    rw [ManagedBus.IsManagerRegister, offset, index]
    exact inside
  rw [ManagedBus.byte, if_pos ⟨rfl, managed⟩, offset, index]

/-- **The register.**  A channel is free in the value the drivers put together
exactly if nobody holds it. -/
theorem channelIsFree_iff (endian : Endian) (b : ManagedBus) (port : Nat) {block : Nat → UInt8}
    (register : ∀ i < 8, block i = b.availableByte port i) {c : Nat} (small : c < 64) :
    CHANNEL_IS_FREE (channelsAvailable endian (bytesOf block 8)) c = true ↔
      b.allocation port c = none := by
  have bit := testBit_availableByte b port (c / 8) (j := c % 8) (Nat.mod_lt _ (by decide))
  rw [channelIsFree_eq_testBit _ small, testBit_channelsAvailable _ _ (by omega),
    show 7 - (63 - c) / 8 = c / 8 by omega, show (63 - c) % 8 = 7 - c % 8 by omega,
    register _ (by omega), bit, Nat.div_add_mod, decide_eq_true_eq]

/-! ## The search -/

/-- The search finds the first free channel. -/
theorem firstFree_eq_some {channels : UInt64} {c : Nat} :
    firstFree channels = some c ↔ c < 64 ∧ CHANNEL_IS_FREE channels c = true ∧
      ∀ c' < c, CHANNEL_IS_FREE channels c' = false := by
  rw [firstFree, List.find?_range_eq_some]
  simp only [Bool.not_eq_true', List.mem_range]
  constructor
  · rintro ⟨free, inside, earlier⟩
    exact ⟨inside, free, earlier⟩
  · rintro ⟨inside, free, earlier⟩
    exact ⟨free, inside, earlier⟩

end Library

end LibPhantom
