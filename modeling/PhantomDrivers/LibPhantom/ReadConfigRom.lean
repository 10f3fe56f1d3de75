import PhantomDrivers.LibPhantom.ConfigRomFormat
import PhantomDrivers.LibPhantom.MemoryReads

/-!
# `readConfigRom` computes what the ROM says

On a bus of byte memories where no read fails, `readConfigRom` stores the
fields of `RomImage.parse`.  The argument is one about addresses: the walk
visits `romAddr i` exactly where the format speaks of quadlet `i`.

* `romAddr` — the address of a quadlet; stepping and following a pointer stay
  inside the 64 bits.
* `reading` — the state of the object while it reads.
* `FirewireDevice.readConfigRom_eq`, `FirewireDevice.getConfigRom_eq` — the
  results, on a little-endian host.
-/

namespace LibPhantom

open Semantics Raw1394

/-! ### Addresses -/

/-- The address of the `i`-th quadlet. -/
def romAddr (i : Nat) : UInt64 := CONFIG_ROM_ADDR + UInt64.ofNat (4 * i)

theorem romAddr_zero : romAddr 0 = CONFIG_ROM_ADDR := rfl

theorem romAddr_succ (i : Nat) : romAddr i + 4 = romAddr (i + 1) := by
  rw [romAddr, romAddr, Nat.mul_succ, UInt64.ofNat_add, UInt64.add_assoc]
  rfl

theorem romAddr_pointer (i : Nat) {value : UInt32} (small : value.toNat < 2 ^ 24) :
    romAddr i + (value * 4).toUInt64 = romAddr (i + value.toNat) := by
  have product : (value * 4).toUInt64 = UInt64.ofNat (4 * value.toNat) := by
    apply UInt64.toNat_inj.mp
    rw [UInt32.toNat_toUInt64, UInt32.toNat_mul, UInt64.toNat_ofNat']
    show value.toNat * 4 % 2 ^ 32 = _
    omega
  rw [product, romAddr, romAddr, Nat.mul_add, UInt64.ofNat_add, UInt64.add_assoc]

theorem romAddr_pos {i : Nat} (small : i < 2 ^ 25) : romAddr i > 0 := by
  rw [gt_iff_lt, UInt64.lt_iff_toNat_lt, romAddr, UInt64.toNat_add, UInt64.toNat_ofNat']
  show 0 < (0xfffff0000400 + _) % 2 ^ 64
  omega

/-- What the walk stores for a pointer: 0 if none was found. -/
def target : Option Nat → UInt64
  | none => 0
  | some i => romAddr i

/-! ### The state while reading -/

/-- The object on a bus that answers from the memories. -/
def onMemory (memory : Memory) (device : FirewireDevice) : DeviceState MemoryBus :=
  ⟨⟨memory, []⟩, device⟩

/-- The object with the fields read so far. -/
def reading (memory : Memory) (device : FirewireDevice) (rom : ConfigRom) :
    DeviceState MemoryBus :=
  onMemory memory { device with configRom := rom }

/-- The ROM of the node an object communicates with. -/
def romImage (memory : Memory) (com : CommunicationLibraw1394) : RomImage :=
  memory.block com.handle.port com.node CONFIG_ROM_ADDR

namespace FirewireDevice

variable {memory : Memory} {device : FirewireDevice} {rom : ConfigRom} {host : Endian}

theorem modifyRom_reading (f : ConfigRom → ConfigRom) :
    modifyRom f (reading memory device rom) = .returned () (reading memory device (f rom)) :=
  rfl

theorem block_romAddr (com : CommunicationLibraw1394) (i k : Nat) :
    memory.block com.handle.port com.node (romAddr i) k = romImage memory com (4 * i + k) :=
  Memory.block_add ..

theorem readQuadlet_reading (i : Nat) :
    readQuadlet host (romAddr i) (reading memory device rom) =
      .returned ((romImage memory device.com).seen host i) (reading memory device rom) := by
  have settles : Settles (Bus.read device.com.handle device.com.node (romAddr i) 4)
      (⟨memory, []⟩ : MemoryBus)
      (.ok (memory.block device.com.handle.port device.com.node (romAddr i))) ⟨memory, []⟩ :=
    .ended rfl nofun
  have quadlet : CommunicationLibraw1394.readNode device.com.handle device.com.node (romAddr i) 4
      (⟨memory, []⟩ : MemoryBus) =
        .returned (bytesOf (memory.block device.com.handle.port device.com.node (romAddr i)) 4)
          ⟨memory, []⟩ :=
    CommunicationLibraw1394.readNode_of_ok (by decide) (by decide) settles
  have bytes : read (romAddr i) 4 (reading memory device rom) =
      .returned (bytesOf (memory.block device.com.handle.port device.com.node (romAddr i)) 4)
        (reading memory device rom) := by
    rw [read, Call.bind_apply, Call.get_apply, Outcome.andThen_returned, Call.within_apply]
    exact congrArg (Outcome.mapState _) quadlet
  rw [readQuadlet, Call.bind_apply, bytes, Outcome.andThen_returned, Call.pure_apply,
    Endian.decode_bytesOf]
  simp only [block_romAddr]
  rfl

/-! ### The directories -/

theorem scanRootDirectory_eq (n i : Nat) (scan : RootScan) :
    scanRootDirectory host n (romAddr i) (target scan.unitDir) (target scan.textualLeaf)
        (reading memory device { rom with nodeCapabilities := scan.nodeCapabilities }) =
      let found := (romImage memory device.com).scanRoot n (i + 1) scan
      .returned (target found.unitDir, target found.textualLeaf)
        (reading memory device { rom with nodeCapabilities := found.nodeCapabilities }) := by
  induction n generalizing i scan with
  | zero => rfl
  | succ n ih =>
      have value := entryValue_lt ((romImage memory device.com).quadlet (i + 1))
      rw [scanRootDirectory, romAddr_succ]
      simp only [Call.bind_apply, readQuadlet_reading, Outcome.andThen_returned,
        RomImage.ntohl_seen, RomImage.scanRoot]
      have step := ih (i + 1)
        (scan.entry (i + 1) ((romImage memory device.com).quadlet (i + 1)))
      unfold RootScan.entry entryKey at step ⊢
      split
      · next key =>
          rw [if_pos key] at step
          rw [Call.bind_apply, modifyRom_reading, Outcome.andThen_returned]
          exact step
      · next notCapabilities =>
          rw [if_neg notCapabilities] at step
          split
          · next key =>
              rw [if_pos key] at step
              rw [← entryValue, romAddr_pointer _ value]
              exact step
          · next notUnit =>
              rw [if_neg notUnit] at step
              split
              · next key =>
                  rw [if_pos key] at step
                  rw [← entryValue, romAddr_pointer _ value]
                  exact step
              · next notLeaf =>
                  rw [if_neg notLeaf] at step
                  exact step

theorem scanUnitDirectory_eq (n i : Nat) :
    scanUnitDirectory host n (romAddr i) (reading memory device rom) =
      .returned ()
        (reading memory device ((romImage memory device.com).scanUnit n (i + 1) rom)) := by
  induction n generalizing i rom with
  | zero => rfl
  | succ n ih =>
      rw [scanUnitDirectory, romAddr_succ]
      simp only [Call.bind_apply, readQuadlet_reading, Outcome.andThen_returned,
        RomImage.ntohl_seen, modifyRom_reading]
      exact ih (i + 1)

theorem readUnitDirectory_eq {dir : Option Nat} (small : ∀ i, dir = some i → 0 < i ∧ i < 2 ^ 25) :
    readUnitDirectory host (target dir) (reading memory device rom) =
      .returned () (reading memory device ((romImage memory device.com).addUnit rom dir)) := by
  cases dir with
  | none => rfl
  | some i =>
      rw [readUnitDirectory, target, if_pos (romAddr_pos (small i rfl).2)]
      simp only [Call.bind_apply, readQuadlet_reading, Outcome.andThen_returned,
        RomImage.ntohl_seen]
      exact scanUnitDirectory_eq ..

/-- The size of the buffer for the text. -/
theorem toNat_textLength {len : UInt32} (fits : 2 ≤ len.toNat) (short : len.toNat < 2 ^ 16) :
    ((len - 2) * 4).toNat = 4 * (len.toNat - 2) := by
  have difference : (len - 2).toNat = len.toNat - 2 :=
    UInt32.toNat_sub_of_le _ _ (UInt32.le_iff_toNat_le.mpr fits)
  rw [UInt32.toNat_mul, difference]
  show _ * 4 % 2 ^ 32 = _
  omega

/-- The text is read in one go. -/
theorem read_text {i : Nat} (fits : 2 ≤ (romImage memory device.com).lengthAt i) :
    read (romAddr i + 12) (((romImage memory device.com).quadlet i >>> 16 - 2) * 4)
        (reading memory device rom) =
      .returned ((romImage memory device.com).text i) (reading memory device rom) := by
  have short := (romImage memory device.com).lengthAt_lt i
  have size : (((romImage memory device.com).quadlet i >>> 16 - 2) * 4).toNat =
      4 * ((romImage memory device.com).lengthAt i - 2) := toNat_textLength fits short
  have behind : romAddr i + 12 = romAddr (i + 3) := by
    rw [← romAddr_succ, ← romAddr_succ, ← romAddr_succ, UInt64.add_assoc, UInt64.add_assoc]
    rfl
  have filled := readNode_faultless memory device.com.handle device.com.node (romAddr (i + 3))
    (show (((romImage memory device.com).quadlet i >>> 16 - 2) * 4).toNat ≤ 2147483644 by
      rw [size]
      omega)
  rw [read, Call.bind_apply, Call.get_apply, Outcome.andThen_returned, Call.within_apply, behind]
  refine (congrArg (Outcome.mapState _) filled).trans ?_
  rw [size, RomImage.text, funext (block_romAddr device.com (i + 3))]
  rfl

theorem readTextualLeaf_eq {leaf : Option Nat} (small : ∀ i, leaf = some i → 0 < i ∧ i < 2 ^ 25)
    (fits : ∀ i, leaf = some i → 2 ≤ (romImage memory device.com).lengthAt i) :
    readTextualLeaf host (target leaf) (reading memory device rom) =
      .returned () (reading memory device ((romImage memory device.com).addLeaf rom leaf)) := by
  cases leaf with
  | none => rfl
  | some i =>
      rw [readTextualLeaf, target, if_pos (romAddr_pos (small i rfl).2)]
      simp only [Call.bind_apply, readQuadlet_reading, Outcome.andThen_returned,
        RomImage.ntohl_seen, modifyRom_reading, read_text (fits i rfl), RomImage.addLeaf]

/-! ### The whole ROM -/

theorem readBusInfo_eq : readBusInfo host (romAddr 1) (reading memory device rom) =
    .returned (romAddr 4) (reading memory device (rom.busInfo
      ((romImage memory device.com).quadlet 2) ((romImage memory device.com).quadlet 3)
      ((romImage memory device.com).quadlet 4))) := by
  simp only [readBusInfo, romAddr_succ, Call.bind_apply, readQuadlet_reading,
    Outcome.andThen_returned, RomImage.ntohl_seen, modifyRom_reading]
  rfl

theorem toNat_rootLength (len : UInt32) :
    (if len > 16 then 16 else len).toNat = min len.toNat 16 := by
  split
  · next long =>
      rw [gt_iff_lt, UInt32.lt_iff_toNat_lt] at long
      exact (Nat.min_eq_right (Nat.le_of_lt long)).symm
  · next short =>
      rw [gt_iff_lt, UInt32.lt_iff_toNat_lt] at short
      exact (Nat.min_eq_left (Nat.le_of_not_lt short)).symm

theorem readRootDirectory_eq (zero : rom.nodeCapabilities = 0) :
    readRootDirectory host (romAddr 4) (reading memory device rom) =
      let root := (romImage memory device.com).root
      .returned (target root.unitDir, target root.textualLeaf)
        (reading memory device { rom with nodeCapabilities := root.nodeCapabilities }) := by
  simp only [readRootDirectory, romAddr_succ, Call.bind_apply, readQuadlet_reading,
    Outcome.andThen_returned, RomImage.ntohl_seen]
  rw [toNat_rootLength]
  have scanned : scanRootDirectory host (min ((romImage memory device.com).lengthAt 5) 16)
      (romAddr 5) 0 0
      (reading memory device { rom with nodeCapabilities := RootScan.empty.nodeCapabilities }) = _ :=
    scanRootDirectory_eq _ 5 .empty
  have unscanned : { rom with nodeCapabilities := RootScan.empty.nodeCapabilities } = rom := by
    rw [show RootScan.empty.nodeCapabilities = rom.nodeCapabilities from zero.symm]
  rw [unscanned] at scanned
  exact scanned

/-- The device after reading a ROM that says this. -/
def afterReading (device : FirewireDevice) : Option ConfigRom → FirewireDevice
  | none => { device with configRom := .zero }
  | some rom => { device with configRom := rom, configRomValid := true }

/-- A ROM of another format than the general one. -/
theorem readConfigRom_of_minimal (minimal : ¬(romImage memory device.com).IsGeneral) :
    readConfigRom host (onMemory memory device) =
      .returned () (onMemory memory (device.afterReading
        (some { ConfigRom.zero with
          vendorId := entryValue ((romImage memory device.com).quadlet 0) }))) := by
  have start : onMemory memory device = reading memory device device.configRom := rfl
  rw [start]
  simp only [readConfigRom, ← romAddr_zero, Call.bind_apply, modifyRom_reading,
    readQuadlet_reading, Outcome.andThen_returned, RomImage.ntohl_seen]
  rw [if_pos (show (romImage memory device.com).quadlet 0 >>> 24 ≠ 4 from minimal)]
  rfl

/-- A ROM with another magic number than the expected one. -/
theorem readConfigRom_of_wrong (general : (romImage memory device.com).IsGeneral)
    (wrong : ¬(romImage memory device.com).Accepted host) :
    readConfigRom host (onMemory memory device) =
      .returned () (onMemory memory (device.afterReading none)) := by
  have start : onMemory memory device = reading memory device device.configRom := rfl
  rw [start]
  simp only [readConfigRom, ← romAddr_zero, romAddr_succ, Call.bind_apply, modifyRom_reading,
    readQuadlet_reading, Outcome.andThen_returned, RomImage.ntohl_seen, Nat.zero_add]
  rw [if_neg (not_not.mpr (show (romImage memory device.com).quadlet 0 >>> 24 = 4 from general))]
  simp only [Call.bind_apply, readQuadlet_reading, Outcome.andThen_returned]
  rw [if_pos (show (romImage memory device.com).seen host 1 ≠ 0x34393331 from wrong)]
  rfl

/-- The walk through a ROM of the general format, up to its textual leaf. -/
theorem readConfigRom_of_magic (general : (romImage memory device.com).IsGeneral)
    (magic : (romImage memory device.com).Accepted host) :
    readConfigRom host (onMemory memory device) =
      (do
        readTextualLeaf host (target (romImage memory device.com).root.textualLeaf)
        modify fun s => { s with device := { s.device with configRomValid := true } } :
          Call Exn (DeviceState MemoryBus) Unit)
        (reading memory device ((romImage memory device.com).addUnit
          (romImage memory device.com).rootFields (romImage memory device.com).root.unitDir)) := by
  have start : onMemory memory device = reading memory device device.configRom := rfl
  have bounded := (romImage memory device.com).root_bounded
  rw [start]
  simp only [readConfigRom, ← romAddr_zero, romAddr_succ, Call.bind_apply, modifyRom_reading,
    readQuadlet_reading, Outcome.andThen_returned, RomImage.ntohl_seen, Nat.zero_add]
  rw [if_neg (not_not.mpr (show (romImage memory device.com).quadlet 0 >>> 24 = 4 from general))]
  simp only [Call.bind_apply, readQuadlet_reading, Outcome.andThen_returned]
  rw [if_neg (not_not.mpr (show (romImage memory device.com).seen host 1 = 0x34393331 from magic))]
  simp only [Call.bind_apply, readBusInfo_eq, Outcome.andThen_returned,
    readRootDirectory_eq (show (ConfigRom.zero.busInfo _ _ _).nodeCapabilities = 0 from rfl),
    readUnitDirectory_eq bounded.1]
  rfl

/-- The same with a leaf that fits. -/
theorem readConfigRom_of_fits (general : (romImage memory device.com).IsGeneral)
    (magic : (romImage memory device.com).Accepted host)
    (fits : ∀ i, (romImage memory device.com).root.textualLeaf = some i →
      2 ≤ (romImage memory device.com).lengthAt i) :
    readConfigRom host (onMemory memory device) =
      .returned () (onMemory memory
        (device.afterReading (some (romImage memory device.com).fields))) := by
  have bounded := (romImage memory device.com).root_bounded
  rw [readConfigRom_of_magic general magic, Call.bind_apply, readTextualLeaf_eq bounded.2 fits,
    Outcome.andThen_returned]
  rfl

/-- `readConfigRom` on a host of either byte order. -/
theorem readConfigRom_on (fits : (romImage memory device.com).LeafFitsOn host) :
    readConfigRom host (onMemory memory device) =
      .returned () (onMemory memory
        (device.afterReading ((romImage memory device.com).parseOn host))) := by
  unfold RomImage.parseOn
  split
  · next general =>
      split
      · next magic => exact readConfigRom_of_fits general magic (fits general magic)
      · next wrong => exact readConfigRom_of_wrong general wrong
  · next minimal => exact readConfigRom_of_minimal minimal

/-- **`readConfigRom` stores what the ROM says.** -/
theorem readConfigRom_eq (fits : (romImage memory device.com).LeafFits) :
    readConfigRom .little (onMemory memory device) =
      .returned () (onMemory memory
        (device.afterReading (romImage memory device.com).parse)) := by
  rw [readConfigRom_on ((RomImage.leafFitsOn_little _).mpr fits), RomImage.parseOn_little]

/-- The first `getConfigRom` of a device, on a host of either byte order. -/
theorem getConfigRom_on (unread : device.configRomRead = false)
    (invalid : device.configRomValid = false)
    (fits : (romImage memory device.com).LeafFitsOn host) :
    getConfigRom host (onMemory memory device) =
      .returned ((romImage memory device.com).parseOn host) (onMemory memory
        { device.afterReading ((romImage memory device.com).parseOn host) with
          configRomRead := true }) := by
  have unread' : (onMemory memory device).device.configRomRead = false := unread
  simp only [getConfigRom, Call.bind_apply, Call.get_apply, Outcome.andThen_returned, unread',
    Bool.not_false, if_true, readConfigRom_on fits, Call.modify_apply]
  cases parsed : (romImage memory device.com).parseOn host with
  | none => simp [afterReading, onMemory, invalid]
  | some rom => simp [afterReading, onMemory]

/-- The first `getConfigRom` of a device answers what the ROM says. -/
theorem getConfigRom_eq (unread : device.configRomRead = false)
    (invalid : device.configRomValid = false) (fits : (romImage memory device.com).LeafFits) :
    getConfigRom .little (onMemory memory device) =
      .returned (romImage memory device.com).parse (onMemory memory
        { device.afterReading (romImage memory device.com).parse with configRomRead := true }) := by
  rw [getConfigRom_on unread invalid ((RomImage.leafFitsOn_little _).mpr fits),
    RomImage.parseOn_little]

end FirewireDevice

end LibPhantom
