import PhantomDrivers.LibPhantom.ReadConfigRom

/-!
# The parser of the reference driver

`rev-eng/probe-node.c` reads the same configuration ROM as the library with a
parser of its own: it counts offsets in 32 bits from the start of the ROM,
swaps every quadlet before it looks at it, and reads the text of the textual
leaf with one block read.

* `probeNode` and the functions it calls — the source.
* `probeNode_eq` — on a bus of byte memories where no read fails, it stores what
  the ROM says.
* `probeNode_agrees` — so it agrees with `FirewireDevice::getConfigRom`.
-/

namespace RevEng

open Semantics Raw1394
open LibPhantom (CONFIG_ROM_ADDR)

/-- `struct config_rom_t`: the fields of the library's structure and the magic
number. -/
structure ConfigRomT extends LibPhantom.ConfigRom where
  magicNum : UInt32
deriving DecidableEq, Repr

/-- `memset(crom, 0, sizeof(struct config_rom_t))` -/
def ConfigRomT.zero : ConfigRomT := ⟨.zero, 0⟩

/-- What `probe_node` works on: the bus and the structure to fill. -/
structure Probe (β : Type) where
  bus : β
  crom : ConfigRomT

section

variable {β : Type} [Bus β]

/-- `(1023 << 6) | node`, passed on as a `nodeid_t`. -/
def phyId (node : UInt32) : UInt16 := (((1023 : UInt32) <<< 6) ||| node).toUInt16

/-- `read_config_rom`: the status, and the buffer after the call. -/
def readConfigRom (handle : Handle) (node crOffset : UInt32) (buffer : List UInt8)
    (length : UInt32) : Call Empty β (Int × List UInt8) where
  run b :=
    let offset := CONFIG_ROM_ADDR + crOffset.toUInt64
    match Bus.read handle (phyId node) offset (length * 4).toNat b with
    | (.error _, b') => .returned (1, buffer) b'
    | (.ok block, b') => .returned (0, bytesOf block (length * 4).toNat) b'

/-- `read_config_rom_quadlet`: the status, and the quadlet after the call. -/
def readConfigRomQuadlet (endian : Endian) (handle : Handle) (node crOffset : UInt32) :
    Call Empty (Probe β) (Int × UInt32) := do
  let (status, buffer) ← Call.within Probe.bus (fun b s => { s with bus := b })
    (readConfigRom handle node crOffset [0, 0, 0, 0] 1)
  if status < 0 then
    return (1, endian.decode buffer)
  else
    return (0, endian.ntohl (endian.decode buffer))

/-- Assignments to fields of `crom`. -/
def modifyCrom (f : ConfigRomT → ConfigRomT) : Call Empty (Probe β) Unit :=
  modify fun s => { s with crom := f s.crom }

variable (endian : Endian) (handle : Handle) (node : UInt32)

/-- The second to the fourth data quadlet of the bus info block; the offset of
the last one, or `none` for `return 1`. -/
def probeBusInfo (offset : UInt32) : Call Empty (Probe β) (Option UInt32) := do
  let offset := offset + 4
  let (status, quadlet) ← readConfigRomQuadlet endian handle node offset
  if status < 0 then return none else
  modifyCrom fun crom =>
    { crom with
      irmCap := (quadlet >>> 31).toBitVec.setWidth 1
      cycleMasterCap := ((quadlet >>> 30) &&& 0x01).toBitVec.setWidth 1
      isoCap := ((quadlet >>> 29) &&& 0x01).toBitVec.setWidth 1
      busManagerCap := ((quadlet >>> 28) &&& 0x01).toBitVec.setWidth 1
      cycleClkAccuracy := ((quadlet >>> 16) &&& 0xff).toUInt8
      maxAsyncBwritePayload := (2 : UInt32) <<< ((quadlet >>> 12) &&& 0x0f)
      linkSpeed := quadlet &&& 7 }
  let offset := offset + 4
  let (status, quadlet) ← readConfigRomQuadlet endian handle node offset
  if status < 0 then return none else
  modifyCrom fun crom => { crom with vendorId := quadlet >>> 8, guidHi := quadlet &&& 0xff }
  let offset := offset + 4
  let (status, quadlet) ← readConfigRomQuadlet endian handle node offset
  if status < 0 then return none else
  modifyCrom fun crom => { crom with guidLo := quadlet }
  return some offset

/-- The scan of the root directory: the number of entries left, the offset of
the previous one, `unit_dir_offset` and `textual_leaf_offset` so far. -/
def probeRootEntries :
    Nat → UInt32 → UInt32 → UInt32 → Call Empty (Probe β) (Option (UInt32 × UInt32))
  | 0, _, unitDirOffset, textualLeafOffset => return some (unitDirOffset, textualLeafOffset)
  | entries + 1, offset, unitDirOffset, textualLeafOffset => do
      let offset := offset + 4
      let (status, quadlet) ← readConfigRomQuadlet endian handle node offset
      if status < 0 then return none else
      let value := quadlet &&& 0x00ffffff
      if quadlet >>> 24 = 0x0c then
        modifyCrom fun crom => { crom with nodeCapabilities := value }
        probeRootEntries entries offset unitDirOffset textualLeafOffset
      else if quadlet >>> 24 = 0xd1 then
        probeRootEntries entries offset (offset + value * 4) textualLeafOffset
      else if quadlet >>> 24 = 0x81 then
        probeRootEntries entries offset unitDirOffset (offset + value * 4)
      else
        -- 0x03, 0x8d and unknown keys are reported or ignored
        probeRootEntries entries offset unitDirOffset textualLeafOffset

/-- The root directory, from the offset of the last bus info quadlet on. -/
def probeRootDirectory (offset : UInt32) :
    Call Empty (Probe β) (Option (UInt32 × UInt32)) := do
  let offset := offset + 4
  let (status, quadlet) ← readConfigRomQuadlet endian handle node offset
  if status < 0 then return none else
  let len := quadlet >>> 16
  let len := if len > 16 then 16 else len
  probeRootEntries endian handle node len.toNat offset 0 0

/-- The scan of the unit directory; `false` stands for `return 1`. -/
def probeUnitEntries : Nat → UInt32 → Call Empty (Probe β) Bool
  | 0, _ => return true
  | entries + 1, offset => do
      let offset := offset + 4
      let (status, quadlet) ← readConfigRomQuadlet endian handle node offset
      if status < 0 then return false else
      let value := quadlet &&& 0x00ffffff
      modifyCrom fun crom =>
        if quadlet >>> 24 = 0x12 then { crom with unitSpecId := value }
        else if quadlet >>> 24 = 0x13 then { crom with unitSwVersion := value }
        else if quadlet >>> 24 = 0x17 then { crom with modelId := value }
        else crom
      probeUnitEntries entries offset

/-- `if (unit_dir_offset > 0) …` -/
def probeUnitDirectory (unitDirOffset : UInt32) : Call Empty (Probe β) Bool := do
  if unitDirOffset > 0 then
    let (status, quadlet) ← readConfigRomQuadlet endian handle node unitDirOffset
    if status < 0 then return false else
    let len := quadlet >>> 16
    probeUnitEntries endian handle node len.toNat unitDirOffset
  else
    return true

/-- `if (textual_leaf_offset > 0) …`: a buffer of `len` quadlets, allocated
before it is filled.  `malloc` leaves open what is in it; zeros stand for that,
and where the read succeeds it replaces them all. -/
def probeTextualLeaf (textualLeafOffset : UInt32) : Call Empty (Probe β) Bool := do
  if textualLeafOffset > 0 then
    let (status, quadlet) ← readConfigRomQuadlet endian handle node textualLeafOffset
    if status < 0 then return false else
    let len := quadlet >>> 16
    let len := len - 2
    let vendor := List.replicate (len * 4).toNat 0
    modifyCrom fun crom => { crom with vendor := some vendor }
    let (status, vendor) ← Call.within Probe.bus (fun b s => { s with bus := b })
      (readConfigRom handle node (textualLeafOffset + 12) vendor len)
    modifyCrom fun crom => { crom with vendor := some vendor }
    return !decide (status < 0)
  else
    return true

/-- `probe_node` -/
def probeNode : Call Empty (Probe β) Int := do
  let offset := 0
  modifyCrom fun _ => .zero
  let (status, quadlet) ← readConfigRomQuadlet endian handle node offset
  if status < 0 then return 1 else
  if quadlet >>> 24 ≠ 4 then
    modifyCrom fun crom => { crom with vendorId := quadlet &&& 0x00ffffff }
    return 0
  else
  let offset := offset + 4
  let (status, quadlet) ← readConfigRomQuadlet endian handle node offset
  if status < 0 then return 1 else
  modifyCrom fun crom => { crom with magicNum := quadlet }
  if quadlet ≠ 0x31333934 then return 1 else
  match ← probeBusInfo endian handle node offset with
  | none => return 1
  | some offset =>
    match ← probeRootDirectory endian handle node offset with
    | none => return 1
    | some (unitDirOffset, textualLeafOffset) =>
      if !(← probeUnitDirectory endian handle node unitDirOffset) then
        return 1
      else if !(← probeTextualLeaf endian handle node textualLeafOffset) then
        return 1
      else
        return 0

end

/-! ### Offsets -/

/-- The offset of the `i`-th quadlet. -/
def romOffset (i : Nat) : UInt32 := UInt32.ofNat (4 * i)

theorem romOffset_zero : romOffset 0 = 0 := rfl

theorem romOffset_succ (i : Nat) : romOffset i + 4 = romOffset (i + 1) := by
  rw [romOffset, romOffset, Nat.mul_succ, UInt32.ofNat_add]
  rfl

/-- A pointer counts quadlets from where it stands. -/
theorem romOffset_pointer (i : Nat) (value : UInt32) :
    romOffset i + value * 4 = romOffset (i + value.toNat) := by
  have product : UInt32.ofNat (4 * value.toNat) = value * 4 := by
    rw [UInt32.ofNat_mul, UInt32.ofNat_toNat, UInt32.mul_comm]
    rfl
  rw [romOffset, romOffset, Nat.mul_add, UInt32.ofNat_add, product]

theorem toNat_romOffset {i : Nat} (small : i < 2 ^ 30) : (romOffset i).toNat = 4 * i := by
  rw [romOffset, UInt32.toNat_ofNat']
  omega

theorem romOffset_pos {i : Nat} (positive : 0 < i) (small : i < 2 ^ 30) : romOffset i > 0 := by
  rw [gt_iff_lt, UInt32.lt_iff_toNat_lt, toNat_romOffset small]
  show 0 < _
  omega

/-- Offsets in 32 bits and addresses in 64 bits name the same quadlets. -/
theorem address_romOffset {i : Nat} (small : i < 2 ^ 30) :
    CONFIG_ROM_ADDR + (romOffset i).toUInt64 = LibPhantom.romAddr i := by
  have same : (romOffset i).toUInt64 = UInt64.ofNat (4 * i) := by
    apply UInt64.toNat_inj.mp
    rw [UInt32.toNat_toUInt64, toNat_romOffset small, UInt64.toNat_ofNat']
    omega
  rw [same, LibPhantom.romAddr]

/-- What the parser stores for a pointer: 0 if none was found. -/
def offsetTo : Option Nat → UInt32
  | none => 0
  | some i => romOffset i

/-! ### The state while probing -/

/-- The structure filled so far, on a bus that answers from the memories. -/
def probing (memory : Memory) (rom : LibPhantom.ConfigRom) (magic : UInt32) : Probe MemoryBus :=
  ⟨⟨memory, []⟩, ⟨rom, magic⟩⟩

variable (memory : Memory) (rom : LibPhantom.ConfigRom) (magic : UInt32) (host : Endian)
  (handle : Handle) (node : UInt32)

/-- The ROM of the node a handle reaches. -/
def probedImage : LibPhantom.RomImage :=
  memory.block handle.port (phyId node) CONFIG_ROM_ADDR

theorem modifyCrom_probing (f : ConfigRomT → ConfigRomT) :
    modifyCrom f (probing memory rom magic) =
      .returned () ⟨⟨memory, []⟩, f ⟨rom, magic⟩⟩ := rfl

/-- The bytes at an offset are those of the image. -/
theorem block_romOffset {i : Nat} (k : Nat) :
    memory.block handle.port (phyId node) (LibPhantom.romAddr i) k =
      probedImage memory handle node (4 * i + k) :=
  Memory.block_add ..

/-- One block read delivers all its quadlets. -/
theorem readConfigRom_eq {i : Nat} (small : i < 2 ^ 30) (buffer : List UInt8)
    (length : UInt32) :
    readConfigRom handle node (romOffset i) buffer length (⟨memory, []⟩ : MemoryBus) =
      .returned (0, bytesOf (fun k => probedImage memory handle node (4 * i + k))
        (length * 4).toNat) ⟨memory, []⟩ := by
  rw [← funext (block_romOffset memory handle node (i := i))]
  simp only [readConfigRom, address_romOffset small]
  rfl

/-- Where nothing fails, a read gives the quadlet of the image. -/
theorem readConfigRomQuadlet_eq {i : Nat} (small : i < 2 ^ 30) :
    readConfigRomQuadlet host handle node (romOffset i) (probing memory rom magic) =
      .returned (0, (probedImage memory handle node).quadlet i) (probing memory rom magic) := by
  rw [readConfigRomQuadlet, Call.bind_apply, Call.within_apply]
  have block := readConfigRom_eq memory handle node small [0, 0, 0, 0] 1
  have swapped : host.ntohl (host.decode (bytesOf
      (fun k => probedImage memory handle node (4 * i + k)) 4)) =
        (probedImage memory handle node).quadlet i := by
    rw [Endian.decode_bytesOf, Endian.ntohl_quadlet]
    rfl
  simp only [probing, block, Outcome.mapState_returned, Outcome.andThen_returned]
  exact congrArg (fun q => Outcome.returned (0, q) _) swapped

/-! ### The directories -/

/-- The loop over the root directory scans the image. -/
theorem probeRootEntries_eq {n i : Nat} (small : i + n < 2 ^ 30) (scan : LibPhantom.RootScan) :
    probeRootEntries host handle node n (romOffset i) (offsetTo scan.unitDir)
        (offsetTo scan.textualLeaf)
        (probing memory { rom with nodeCapabilities := scan.nodeCapabilities } magic) =
      let found := (probedImage memory handle node).scanRoot n (i + 1) scan
      .returned (some (offsetTo found.unitDir, offsetTo found.textualLeaf))
        (probing memory { rom with nodeCapabilities := found.nodeCapabilities } magic) := by
  induction n generalizing i scan with
  | zero => rfl
  | succ n ih =>
      rw [probeRootEntries, romOffset_succ]
      simp only [Call.bind_apply, readConfigRomQuadlet_eq _ _ _ _ _ _ (show i + 1 < 2 ^ 30 by omega),
        Outcome.andThen_returned, LibPhantom.RomImage.scanRoot, Int.lt_irrefl, if_false]
      have step := ih (show i + 1 + n < 2 ^ 30 by omega)
        (scan.entry (i + 1) ((probedImage memory handle node).quadlet (i + 1)))
      unfold LibPhantom.RootScan.entry LibPhantom.entryKey at step ⊢
      split
      · next key =>
          rw [if_pos key] at step
          rw [Call.bind_apply, modifyCrom_probing, Outcome.andThen_returned]
          exact step
      · next notCapabilities =>
          rw [if_neg notCapabilities] at step
          split
          · next key =>
              rw [if_pos key] at step
              rw [← LibPhantom.entryValue, romOffset_pointer]
              exact step
          · next notUnit =>
              rw [if_neg notUnit] at step
              split
              · next key =>
                  rw [if_pos key] at step
                  rw [← LibPhantom.entryValue, romOffset_pointer]
                  exact step
              · next notLeaf =>
                  rw [if_neg notLeaf] at step
                  exact step

/-- The loop over the unit directory does so too. -/
theorem probeUnitEntries_eq {n i : Nat} (small : i + n < 2 ^ 30) :
    probeUnitEntries host handle node n (romOffset i) (probing memory rom magic) =
      .returned true
        (probing memory ((probedImage memory handle node).scanUnit n (i + 1) rom) magic) := by
  induction n generalizing i rom with
  | zero => rfl
  | succ n ih =>
      rw [probeUnitEntries, romOffset_succ]
      simp only [Call.bind_apply, readConfigRomQuadlet_eq _ _ _ _ _ _ (show i + 1 < 2 ^ 30 by omega),
        Outcome.andThen_returned, Int.lt_irrefl, if_false, modifyCrom_probing]
      have step := ih (rom.unitEntry ((probedImage memory handle node).quadlet (i + 1)))
        (show i + 1 + n < 2 ^ 30 by omega)
      unfold LibPhantom.ConfigRom.unitEntry LibPhantom.entryKey at step
      rw [LibPhantom.RomImage.scanUnit]
      unfold LibPhantom.ConfigRom.unitEntry LibPhantom.entryKey
      split
      · next key =>
          rw [if_pos key] at step
          exact step
      · next notSpec =>
          rw [if_neg notSpec] at step
          split
          · next key =>
              rw [if_pos key] at step
              exact step
          · next notVersion =>
              rw [if_neg notVersion] at step
              split
              · next key =>
                  rw [if_pos key] at step
                  exact step
              · next notModel =>
                  rw [if_neg notModel] at step
                  exact step

theorem probeUnitDirectory_eq {dir : Option Nat}
    (small : ∀ i, dir = some i → 0 < i ∧ i < 2 ^ 25) :
    probeUnitDirectory host handle node (offsetTo dir) (probing memory rom magic) =
      .returned true
        (probing memory ((probedImage memory handle node).addUnit rom dir) magic) := by
  cases dir with
  | none => rfl
  | some i =>
      obtain ⟨positive, near⟩ := small i rfl
      have short := (probedImage memory handle node).lengthAt_lt i
      rw [probeUnitDirectory, offsetTo, if_pos (romOffset_pos positive (by omega))]
      simp only [Call.bind_apply, readConfigRomQuadlet_eq _ _ _ _ _ _ (show i < 2 ^ 30 by omega),
        Outcome.andThen_returned, Int.lt_irrefl, if_false]
      exact probeUnitEntries_eq _ _ _ _ _ _ (show i + (probedImage memory handle node).lengthAt i
        < 2 ^ 30 by omega)

/-- Whatever the length of the leaf, one block read fills its buffer; the text
is what the leaf says unless the length is below 2. -/
theorem probeTextualLeaf_eq {leaf : Option Nat}
    (small : ∀ i, leaf = some i → 0 < i ∧ i < 2 ^ 25) :
    ∃ vendor, probeTextualLeaf host handle node (offsetTo leaf) (probing memory rom magic) =
        .returned true (probing memory { rom with vendor } magic) ∧
      ((∀ i, leaf = some i → 2 ≤ (probedImage memory handle node).lengthAt i) →
        { rom with vendor } = (probedImage memory handle node).addLeaf rom leaf) := by
  cases leaf with
  | none => exact ⟨rom.vendor, rfl, fun _ => rfl⟩
  | some i =>
      obtain ⟨positive, near⟩ := small i rfl
      have short := (probedImage memory handle node).lengthAt_lt i
      have behind : romOffset i + 12 = romOffset (i + 3) := by
        rw [← romOffset_succ, ← romOffset_succ, ← romOffset_succ, UInt32.add_assoc,
          UInt32.add_assoc]
        rfl
      rw [probeTextualLeaf, offsetTo, if_pos (romOffset_pos positive (by omega))]
      simp only [Call.bind_apply, readConfigRomQuadlet_eq _ _ _ _ _ _ (show i < 2 ^ 30 by omega),
        Outcome.andThen_returned, Int.lt_irrefl, if_false, modifyCrom_probing, Call.within_apply,
        behind, readConfigRom_eq _ _ _ (show i + 3 < 2 ^ 30 by omega), Outcome.mapState_returned]
      refine ⟨_, rfl, fun fits => ?_⟩
      have size : (((probedImage memory handle node).quadlet i >>> 16 - 2) * 4).toNat =
          4 * ((probedImage memory handle node).lengthAt i - 2) :=
        LibPhantom.FirewireDevice.toNat_textLength (fits i rfl) short
      rw [size]
      rfl

/-! ### The whole ROM -/

/-- The bus information block is that of the image. -/
theorem probeBusInfo_eq :
    probeBusInfo host handle node (romOffset 1) (probing memory rom magic) =
      .returned (some (romOffset 4)) (probing memory (rom.busInfo
        ((probedImage memory handle node).quadlet 2) ((probedImage memory handle node).quadlet 3)
        ((probedImage memory handle node).quadlet 4)) magic) := by
  have quadlet (i : Nat) (small : i < 2 ^ 30) (rom : LibPhantom.ConfigRom) :=
    readConfigRomQuadlet_eq memory rom magic host handle node small
  rw [probeBusInfo, Call.bind_apply, romOffset_succ, quadlet 2 (by decide),
    Outcome.andThen_returned]
  simp only [Int.lt_irrefl, if_false, romOffset_succ]
  rw [Call.bind_apply, modifyCrom_probing, Outcome.andThen_returned, Call.bind_apply]
  refine (congrArg (Outcome.andThen · _) (quadlet 3 (by decide) _)).trans ?_
  rw [Outcome.andThen_returned]
  simp only [Int.lt_irrefl, if_false]
  rw [Call.bind_apply, modifyCrom_probing, Outcome.andThen_returned, Call.bind_apply]
  refine (congrArg (Outcome.andThen · _) (quadlet 4 (by decide) _)).trans ?_
  rfl

theorem probeRootDirectory_eq (zero : rom.nodeCapabilities = 0) :
    probeRootDirectory host handle node (romOffset 4) (probing memory rom magic) =
      let root := (probedImage memory handle node).root
      .returned (some (offsetTo root.unitDir, offsetTo root.textualLeaf))
        (probing memory { rom with nodeCapabilities := root.nodeCapabilities } magic) := by
  rw [probeRootDirectory, Call.bind_apply, romOffset_succ,
    readConfigRomQuadlet_eq _ _ _ _ _ _ (show 5 < 2 ^ 30 by decide), Outcome.andThen_returned]
  simp only [Int.lt_irrefl, if_false]
  rw [LibPhantom.FirewireDevice.toNat_rootLength]
  have scanned := probeRootEntries_eq memory rom magic host handle node
    (n := min ((probedImage memory handle node).lengthAt 5) 16) (i := 5) (by omega) .empty
  have unscanned :
      { rom with nodeCapabilities := LibPhantom.RootScan.empty.nodeCapabilities } = rom := by
    rw [show LibPhantom.RootScan.empty.nodeCapabilities = rom.nodeCapabilities from zero.symm]
  rw [unscanned] at scanned
  exact scanned

/-- **`probe_node` stores what the ROM says**, and fails for a wrong magic
number only.  With a textual leaf that is too short, it stores another text. -/
theorem probeNode_eq (crom : ConfigRomT) :
    ∃ status rom magic,
      probeNode host handle node (⟨⟨memory, []⟩, crom⟩ : Probe MemoryBus) =
          .returned status (probing memory rom magic) ∧
        (status = 0 ↔ (probedImage memory handle node).parse.isSome) ∧
        ∀ said, (probedImage memory handle node).parse = some said →
          { rom with vendor := said.vendor } = said ∧
            ((probedImage memory handle node).LeafFits → rom = said) := by
  have quadlet (i : Nat) (small : i < 2 ^ 30) (rom : LibPhantom.ConfigRom) (magic : UInt32) :=
    readConfigRomQuadlet_eq memory rom magic host handle node small
  have bounded := (probedImage memory handle node).root_bounded
  have cleared : modifyCrom (fun _ => .zero) (⟨⟨memory, []⟩, crom⟩ : Probe MemoryBus) =
      .returned () (probing memory .zero 0) := rfl
  rw [probeNode, Call.bind_apply, cleared, Outcome.andThen_returned, Call.bind_apply,
    ← romOffset_zero, quadlet 0 (by decide), Outcome.andThen_returned]
  simp only [Int.lt_irrefl, if_false]
  unfold LibPhantom.RomImage.LeafFits LibPhantom.RomImage.parse
  by_cases general : (probedImage memory handle node).quadlet 0 >>> 24 = 4
  · rw [if_neg (not_not.mpr general), if_pos (show LibPhantom.RomImage.IsGeneral _ from general),
      romOffset_succ, Call.bind_apply, quadlet 1 (by decide), Outcome.andThen_returned]
    simp only [Int.lt_irrefl, if_false]
    rw [Call.bind_apply, modifyCrom_probing, Outcome.andThen_returned]
    by_cases magic : (probedImage memory handle node).quadlet 1 = 0x31333934
    · rw [if_neg (not_not.mpr magic), if_pos (show LibPhantom.RomImage.HasMagic _ from magic)]
      have info := probeBusInfo_eq memory .zero 0x31333934 host handle node
      have root := probeRootDirectory_eq memory (LibPhantom.ConfigRom.zero.busInfo
        ((probedImage memory handle node).quadlet 2) ((probedImage memory handle node).quadlet 3)
        ((probedImage memory handle node).quadlet 4)) 0x31333934 host handle node rfl
      have unit (rom : LibPhantom.ConfigRom) :=
        probeUnitDirectory_eq memory rom 0x31333934 host handle node bounded.1
      let units := (probedImage memory handle node).addUnit
        (probedImage memory handle node).rootFields (probedImage memory handle node).root.unitDir
      obtain ⟨vendor, leaf, text⟩ :=
        probeTextualLeaf_eq memory units 0x31333934 host handle node bounded.2
      rw [magic]
      refine ⟨0, { units with vendor }, 0x31333934, ?_, by simp, ?_⟩
      · rw [Call.bind_apply]
        refine (congrArg (Outcome.andThen · _) info).trans ?_
        rw [Outcome.andThen_returned]
        dsimp only
        rw [Call.bind_apply, root, Outcome.andThen_returned]
        dsimp only
        rw [Call.bind_apply, unit, Outcome.andThen_returned]
        simp only [Bool.not_true, Bool.false_eq_true, if_false]
        rw [Call.bind_apply]
        refine (congrArg (Outcome.andThen · _) leaf).trans ?_
        rfl
      · rintro said ⟨⟩
        refine ⟨?_, fun fits => text (fits general magic)⟩
        unfold LibPhantom.RomImage.fields
        cases (probedImage memory handle node).root.textualLeaf <;> rfl
    · rw [if_pos magic, if_neg (show ¬LibPhantom.RomImage.HasMagic _ from magic)]
      exact ⟨1, .zero, _, rfl, by simp, nofun⟩
  · rw [if_pos general, if_neg (show ¬LibPhantom.RomImage.IsGeneral _ from general)]
    refine ⟨0, _, 0, rfl, by simp, ?_⟩
    rintro said ⟨⟩
    exact ⟨rfl, fun _ => rfl⟩

/-- **The two parsers agree.**  On a little-endian host and a node whose every
read succeeds, `probe_node` succeeds exactly if the library's `getConfigRom`
answers with a structure, and then all the fields both have are equal, the
vendor texts included.  The library may use a connection of its own to the
node. -/
theorem probeNode_agrees (memory : Memory) (handle : Handle) (node : UInt32) (crom : ConfigRomT)
    (connection : Nat) (isoChannel : Option Ptr) (context : Option LibPhantom.IsoContext)
    (fits : (probedImage memory handle node).LeafFits) :
    ∃ status probe crom' state,
      probeNode .little handle node (⟨⟨memory, []⟩, crom⟩ : Probe MemoryBus) =
          .returned status probe ∧
        LibPhantom.FirewireDevice.getConfigRom .little (LibPhantom.onMemory memory
            (.new ⟨phyId node, ⟨connection, handle.port⟩, isoChannel, context⟩)) =
          .returned crom' state ∧
        (status = 0 ↔ crom'.isSome) ∧ ∀ rom, crom' = some rom → probe.crom.toConfigRom = rom := by
  obtain ⟨status, rom, magic, probed, succeeds, same⟩ :=
    probeNode_eq memory .little handle node crom
  exact ⟨status, _, _, _, probed, LibPhantom.FirewireDevice.getConfigRom_eq rfl rfl fits,
    succeeds, fun said parsed => (same said parsed).2 fits⟩

/-- A small ROM of the general format: one directory entry, which points to a
textual leaf of three quadlets. -/
def smallRom : List UInt8 :=
  [4, 4, 0, 0, 0x31, 0x33, 0x39, 0x34, 0xe0, 0x64, 0xa0, 0x02, 0x00, 0x0b, 0x99, 0x01,
    0x00, 0x00, 0x2a, 0x07, 0, 1, 0, 0, 0x81, 0, 0, 1, 0, 3, 0, 0, 0, 0, 0, 0, 0, 0, 0, 0,
    0x53, 0x41, 0x54, 0x00]

/-- Every node has the small ROM. -/
def smallMemory : Memory := fun _ _ address => smallRom.getD (address - CONFIG_ROM_ADDR).toNat 0

theorem probeNode_agrees_smallRom : ∃ status probe crom' state,
    probeNode .little ⟨1, 0⟩ 3 (⟨⟨smallMemory, []⟩, .zero⟩ : Probe MemoryBus) =
        .returned status probe ∧
      LibPhantom.FirewireDevice.getConfigRom .little (LibPhantom.onMemory smallMemory
          (.new ⟨phyId 3, ⟨2, 0⟩, none, none⟩)) = .returned crom' state ∧
      (status = 0 ↔ crom'.isSome) ∧ ∀ rom, crom' = some rom → probe.crom.toConfigRom = rom := by
  refine probeNode_agrees smallMemory ⟨1, 0⟩ 3 .zero 2 none none fun _ _ i found => ?_
  have leaf : (probedImage smallMemory ⟨1, 0⟩ 3).root.textualLeaf = some 7 := by decide
  obtain rfl : i = 7 := Option.some.inj (found.symm.trans leaf)
  decide

end RevEng
