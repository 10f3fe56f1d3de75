import PhantomDrivers.LibPhantom.AcknowledgedWrites
import PhantomDrivers.LibPhantom.RomReads

/-!
# Sensable devices

`isSensableDevice` on a bus of byte memories, with faults.  A read that fails
for good ends the method with an exception; a read that is repeated until it
succeeds makes no difference.  So a call that does not throw is one on the bus
without faults (`simulatesOrThrows_isSensableDevice`), and what that answers is
a property of the memory.

* `IsSensable` — the property.
* `isSensableDevice_eq` — `isSensableDevice` decides it.
* `isSensableDevice_undefined` — unless the textual leaf is too short: then the
  code asks for almost 2^32 bytes, and its position overflows.
-/

namespace LibPhantom

open Semantics Raw1394 CommunicationLibraw1394

/-! ## The devices -/

/-- A quadlet of a node, as it lies in the memory of a host. -/
def seenAt (host : Endian) (memory : Memory) (port : Nat) (node : UInt16) (address : UInt64) :
    UInt32 :=
  host.quadlet (memory.block port node address 0) (memory.block port node address 1)
    (memory.block port node address 2) (memory.block port node address 3)

/-- A node that the library takes for one of the vendor's devices: its ROM is
valid and says so, and so does its memory. -/
structure IsSensable (host : Endian) (memory : Memory) (port : Nat) (node : UInt16) : Prop where
  vendor : ∃ rom, RomImage.parseOn (memory.block port node CONFIG_ROM_ADDR) host = some rom ∧
    rom.vendorId = 0x000b99
  word : seenAt host memory port node 0x1006000c = 0x00990b00

/-! ## Reads -/

section Reads

variable {β : Type} [Bus β] {handle : Handle} {node : UInt16} {address : UInt64}
  {length pos : Nat} {buffer bytes : List UInt8} {memory : Memory} {b b' : β}

/-- A bus without faults, with the same memories. -/
def calm [ServesMemory β] (b : β) : MemoryBus := ⟨ServesMemory.contents b, []⟩

/-- A read that returns is not so long that its position overflows. -/
theorem short_of_returned
    (loop : ReadLoop handle node address length pos buffer b (.returned bytes b'))
    (aligned : pos % 4 = 0) (small : pos ≤ 2147483644) : length ≤ 2147483644 := by
  generalize shape : Outcome.returned bytes b' = outcome at loop
  induction loop with
  | done reached => omega
  | chunk inside settles fits rest ih =>
      unfold INT_MAX at fits
      exact ih (by omega) (by omega) shape
  | overflow => cases shape
  | failed => cases shape

/-- On a bus without faults, a read that is too long overflows. -/
theorem readNode_long {length : UInt32} (long : 2147483644 < length.toNat) :
    readNode handle node address length (⟨memory, []⟩ : MemoryBus) = .undefined := by
  obtain ⟨outcome, loop, equation⟩ :=
    exists_readLoop handle node address length (⟨memory, []⟩ : MemoryBus)
  have undefined := (readLoop_undefined_iff loop (show 0 + 4 * 2 ^ 29 = 2 ^ 31 by decide)
    (by decide)).mpr ⟨long, MemoryBus.hardFailureWithin_nil _⟩
  rw [equation, undefined]
  rfl

/-- A read that does not throw is one on the bus without faults. -/
theorem simulatesOrThrows_readNode [ServesMemory β] (handle : Handle) (node : UInt16)
    (address : UInt64) (length : UInt32) :
    Call.SimulatesOrThrows (calm : β → MemoryBus) (readNode handle node address length)
      (readNode handle node address length) := by
  intro b
  obtain ⟨outcome, loop, equation⟩ := exists_readLoop handle node address length b
  rw [equation]
  cases outcome with
  | returned bytes b' =>
      have short := short_of_returned loop rfl (Nat.zero_le _)
      obtain ⟨same, filled⟩ := ends_readLoop_of_contents loop nofun
      rw [List.nil_append, Nat.sub_zero, show UInt64.ofNat 0 = 0 from rfl, UInt64.add_zero]
        at filled
      refine .inr ?_
      rw [calm, readNode_faultless _ _ _ _ short, ← filled]
      show Outcome.returned bytes _ = .returned bytes (calm b')
      rw [calm]
      rw [same]
  | thrown shortfall b' => exact .inl ⟨_, _, rfl⟩
  | undefined =>
      refine .inr (readNode_long ?_)
      by_contra short
      exact loop.defined (Nat.le_of_not_lt short) rfl rfl

end Reads

namespace FirewireDevice

variable {memory : Memory} {device : FirewireDevice} {host : Endian}

/-! ## Methods on a bus without faults -/

section

variable {β : Type} [Bus β] [ServesMemory β]

/-- The object on a bus without faults. -/
def calmed (s : DeviceState β) : DeviceState MemoryBus :=
  onMemory (ServesMemory.contents s.bus) s.device

theorem simulatesOrThrows_read (address : UInt64) (length : UInt32) :
    Call.SimulatesOrThrows (calmed : DeviceState β → _) (read address length) (read address length) := by
  refine Call.simulatesOrThrows_get_bind fun s : DeviceState β => ?_
  have com : Call.SimulatesOrThrows (calm : β → MemoryBus) _ _ :=
    simulatesOrThrows_readNode s.device.com.handle s.device.com.node address length
  exact Call.simulatesOrThrows_within com (fun _ => rfl) fun _ _ => rfl

theorem simulatesOrThrows_readQuadlet (endian : Endian) (address : UInt64) :
    Call.SimulatesOrThrows (calmed : DeviceState β → _) (readQuadlet endian address) (readQuadlet endian address) :=
  Call.simulatesOrThrows_bind (simulatesOrThrows_read address 4) fun _ =>
    Call.simulatesOrThrows_pure _

theorem simulatesOrThrows_readConfigRom (endian : Endian) :
    Call.SimulatesOrThrows (calmed : DeviceState β → _) (readConfigRom endian) (readConfigRom endian) := by
  rw [← RomDialogue.onBus_readConfigRom, ← RomDialogue.onBus_readConfigRom]
  refine Dialogue.simulatesOrThrows_run _ _ ?_ ?_ _
  · exact fun question => simulatesOrThrows_read question.address question.length
  · exact fun update => Call.simulatesOrThrows_modify fun _ => rfl

theorem simulatesOrThrows_getConfigRom (endian : Endian) :
    Call.SimulatesOrThrows (calmed : DeviceState β → _) (getConfigRom endian) (getConfigRom endian) := by
  have answer : Call.SimulatesOrThrows (calmed : DeviceState β → _)
      (do
        let device := (← get).device
        return if device.configRomValid then some device.configRom else none :
          Call Exn (DeviceState β) (Option ConfigRom))
      (do
        let device := (← get).device
        return if device.configRomValid then some device.configRom else none) :=
    Call.simulatesOrThrows_get_bind fun s => Call.simulatesOrThrows_pure _
  refine Call.simulatesOrThrows_get_bind fun s => Call.simulatesOrThrows_ite ?_ answer
  refine Call.simulatesOrThrows_bind (simulatesOrThrows_readConfigRom endian) fun _ => ?_
  exact Call.simulatesOrThrows_bind (Call.simulatesOrThrows_modify fun _ => rfl) fun _ => answer

theorem simulatesOrThrows_getVendorId (endian : Endian) :
    Call.SimulatesOrThrows (calmed : DeviceState β → _) (getVendorId endian) (getVendorId endian) := by
  refine Call.simulatesOrThrows_bind (simulatesOrThrows_getConfigRom endian) fun rom => ?_
  cases rom with
  | none => exact Call.simulatesOrThrows_pure _
  | some crom => exact Call.simulatesOrThrows_pure _

/-- A call that does not throw is one on the bus without faults. -/
theorem simulatesOrThrows_isSensableDevice (endian : Endian) :
    Call.SimulatesOrThrows (calmed : DeviceState β → _) (isSensableDevice endian) (isSensableDevice endian) := by
  refine Call.simulatesOrThrows_bind (simulatesOrThrows_getVendorId endian) fun id => ?_
  refine Call.simulatesOrThrows_ite (Call.simulatesOrThrows_pure _) ?_
  refine Call.simulatesOrThrows_bind (simulatesOrThrows_readQuadlet endian _) fun vendor => ?_
  exact Call.simulatesOrThrows_ite (Call.simulatesOrThrows_pure _) (Call.simulatesOrThrows_pure _)

end

/-! ## What they answer -/

theorem read_onMemory {address : UInt64} {length : UInt32} (short : length.toNat ≤ 2147483644) :
    read address length (onMemory memory device) =
      .returned (bytesOf (memory.block device.com.handle.port device.com.node address)
        length.toNat) (onMemory memory device) := by
  have filled := readNode_faultless memory device.com.handle device.com.node address short
  rw [read, Call.bind_apply, Call.get_apply, Outcome.andThen_returned, Call.within_apply]
  exact congrArg (Outcome.mapState _) filled

theorem read_onMemory_long {address : UInt64} {length : UInt32}
    (long : 2147483644 < length.toNat) :
    read address length (onMemory memory device) = .undefined := by
  have overflows : readNode device.com.handle device.com.node address length
      (⟨memory, []⟩ : MemoryBus) = .undefined := readNode_long long
  rw [read, Call.bind_apply, Call.get_apply, Outcome.andThen_returned, Call.within_apply]
  exact congrArg (Outcome.mapState _) overflows

theorem readQuadlet_onMemory (address : UInt64) :
    readQuadlet host address (onMemory memory device) =
      .returned (seenAt host memory device.com.handle.port device.com.node address)
        (onMemory memory device) := by
  rw [readQuadlet, Call.bind_apply, read_onMemory (by decide), Outcome.andThen_returned]
  show Outcome.returned (host.decode (bytesOf _ 4)) _ = _
  rw [Endian.decode_bytesOf]
  rfl

/-- The text of a leaf that is too short is never read. -/
theorem readConfigRom_undefined (unfit : ¬(romImage memory device.com).LeafFitsOn host) :
    readConfigRom host (onMemory memory device) = .undefined := by
  simp only [RomImage.LeafFitsOn, not_forall, Nat.not_le] at unfit
  obtain ⟨general, magic, i, found, short⟩ := unfit
  have small := (romImage memory device.com).root_bounded.2 i found
  have long : 2147483644 < (((romImage memory device.com).quadlet i >>> 16 - 2) * 4).toNat := by
    rw [RomImage.lengthAt] at short
    rw [UInt32.toNat_mul, UInt32.toNat_sub]
    show 2147483644 < (2 ^ 32 - 2 + _) % 2 ^ 32 * 4 % 2 ^ 32
    omega
  rw [readConfigRom_of_magic general magic, found, Call.bind_apply, readTextualLeaf, target,
    if_pos (romAddr_pos small.2)]
  simp only [Call.bind_apply, readQuadlet_reading, Outcome.andThen_returned,
    RomImage.ntohl_seen, modifyRom_reading]
  have undefined (rom : ConfigRom) : read (romAddr i + 12)
      (((romImage memory device.com).quadlet i >>> 16 - 2) * 4) (reading memory device rom) =
        .undefined := read_onMemory_long long
  rw [undefined]
  rfl

/-- `isSensableDevice` decides whether the node is one of the devices. -/
theorem isSensableDevice_eq (unread : device.configRomRead = false)
    (invalid : device.configRomValid = false)
    (fits : (romImage memory device.com).LeafFitsOn host) :
    ∃ found device', isSensableDevice host (onMemory memory device) =
        .returned found (onMemory memory device') ∧ device'.com = device.com ∧
      (found = true ↔ IsSensable host memory device.com.handle.port device.com.node) := by
  have answered := getConfigRom_on unread invalid fits
  have sensable : IsSensable host memory device.com.handle.port device.com.node ↔
      (∃ rom, (romImage memory device.com).parseOn host = some rom ∧ rom.vendorId = 0x000b99) ∧
        seenAt host memory device.com.handle.port device.com.node 0x1006000c = 0x00990b00 :=
    ⟨fun is => ⟨is.vendor, is.word⟩, fun both => ⟨both.1, both.2⟩⟩
  rw [sensable, isSensableDevice, Call.bind_apply, getVendorId, Call.bind_apply, answered,
    Outcome.andThen_returned]
  cases parsed : (romImage memory device.com).parseOn host with
  | none =>
      refine ⟨false, _, rfl, rfl, ?_⟩
      simp
  | some rom =>
      simp only [Call.pure_apply, Outcome.andThen_returned]
      by_cases vendor : rom.vendorId = 0x000b99
      · rw [if_neg (not_not.mpr vendor), Call.bind_apply, readQuadlet_onMemory,
          Outcome.andThen_returned]
        have com : ({ device.afterReading (some rom) with configRomRead := true } :
            FirewireDevice).com = device.com := rfl
        rw [com]
        split
        · next other =>
            refine ⟨false, _, rfl, rfl, ?_⟩
            simp [other]
        · next word =>
            refine ⟨true, _, rfl, rfl, ?_⟩
            simp [not_not.mp word, vendor]
      · rw [if_pos vendor]
        refine ⟨false, _, rfl, rfl, ?_⟩
        simp [vendor]

theorem isSensableDevice_undefined (unread : device.configRomRead = false)
    (unfit : ¬(romImage memory device.com).LeafFitsOn host) :
    isSensableDevice host (onMemory memory device) = .undefined := by
  have unread' : (onMemory memory device).device.configRomRead = false := unread
  simp only [isSensableDevice, getVendorId, getConfigRom, Call.bind_apply, Call.get_apply,
    Outcome.andThen_returned, unread', Bool.not_false, if_true, readConfigRom_undefined unfit,
    Outcome.andThen_undefined]

end FirewireDevice

end LibPhantom
