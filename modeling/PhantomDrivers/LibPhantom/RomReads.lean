import PhantomDrivers.LibPhantom.ReadConfigRom
import PhantomDrivers.Semantics.Dialogue

/-!
# The reads of `readConfigRom`

`readConfigRom` as a dialogue with the node: it asks for blocks of the ROM, and
the node may answer anything.  Lengths and pointers all come from the answers.

* `RomDialogue.readConfigRom` — the same program as
  `FirewireDevice.readConfigRom`, statement by statement; `run_readConfigRom`
  says so.
* `SafeRead` — what a read should be like: aligned, inside of the ROM's part of
  the address space, and no longer than the buffer that was allocated for it.
* `readsSafe_iff` — it is, except for the text of a leaf whose length is
  less than 2, where `(len - 2) * 4` wraps.
-/

namespace LibPhantom

open Semantics Raw1394

/-- A call of `read`. -/
structure RomRead where
  address : UInt64
  length : UInt32
deriving DecidableEq, Repr

namespace RomDialogue

/-- A method that reads, and the buffers it gets. -/
abbrev Reader (α : Type) : Type := Dialogue FirewireDevice RomRead (List UInt8) α

/-- `FirewireDevice::read` -/
def read (address : UInt64) (length : UInt32) : Reader (List UInt8) := .inquire ⟨address, length⟩

/-- A read of four bytes into an integer of the host. -/
def readQuadlet (endian : Endian) (address : UInt64) : Reader UInt32 := do
  let buffer ← read address 4
  return endian.decode buffer

/-- Assignments to fields of `configRom`. -/
def modifyRom (f : ConfigRom → ConfigRom) : Reader Unit :=
  .record fun device => { device with configRom := f device.configRom }

/-- The second to the fourth data quadlet of the bus info block. -/
def readBusInfo (endian : Endian) (addr : UInt64) : Reader UInt64 := do
  let addr := addr + 4
  let quadlet := endian.ntohl (← readQuadlet endian addr)
  modifyRom fun rom =>
    { rom with
      irmCap := (quadlet >>> 31).toBitVec.setWidth 1
      cycleMasterCap := ((quadlet >>> 30) &&& 0x01).toBitVec.setWidth 1
      isoCap := ((quadlet >>> 29) &&& 0x01).toBitVec.setWidth 1
      busManagerCap := ((quadlet >>> 28) &&& 0x01).toBitVec.setWidth 1
      cycleClkAccuracy := ((quadlet >>> 16) &&& 0xff).toUInt8
      maxAsyncBwritePayload := (2 : UInt32) <<< ((quadlet >>> 12) &&& 0x0f)
      linkSpeed := quadlet &&& 7 }
  let addr := addr + 4
  let quadlet := endian.ntohl (← readQuadlet endian addr)
  modifyRom fun rom => { rom with vendorId := quadlet >>> 8, guidHi := quadlet &&& 0xff }
  let addr := addr + 4
  let quadlet := endian.ntohl (← readQuadlet endian addr)
  modifyRom fun rom => { rom with guidLo := quadlet }
  return addr

/-- The scan of the root directory. -/
def scanRootDirectory (endian : Endian) :
    Nat → UInt64 → UInt64 → UInt64 → Reader (UInt64 × UInt64)
  | 0, _, unitDirAddr, textualLeafAddr => return (unitDirAddr, textualLeafAddr)
  | entries + 1, addr, unitDirAddr, textualLeafAddr => do
      let addr := addr + 4
      let quadlet := endian.ntohl (← readQuadlet endian addr)
      let value := quadlet &&& 0x00ffffff
      if quadlet >>> 24 = 0x0c then
        modifyRom fun rom => { rom with nodeCapabilities := value }
        scanRootDirectory endian entries addr unitDirAddr textualLeafAddr
      else if quadlet >>> 24 = 0xd1 then
        scanRootDirectory endian entries addr (addr + (value * 4).toUInt64) textualLeafAddr
      else if quadlet >>> 24 = 0x81 then
        scanRootDirectory endian entries addr unitDirAddr (addr + (value * 4).toUInt64)
      else
        scanRootDirectory endian entries addr unitDirAddr textualLeafAddr

/-- The scan of the unit directory. -/
def scanUnitDirectory (endian : Endian) : Nat → UInt64 → Reader Unit
  | 0, _ => return ()
  | entries + 1, addr => do
      let addr := addr + 4
      let quadlet := endian.ntohl (← readQuadlet endian addr)
      let value := quadlet &&& 0x00ffffff
      modifyRom fun rom =>
        if quadlet >>> 24 = 0x12 then { rom with unitSpecId := value }
        else if quadlet >>> 24 = 0x13 then { rom with unitSwVersion := value }
        else if quadlet >>> 24 = 0x17 then { rom with modelId := value }
        else rom
      scanUnitDirectory endian entries addr

/-- The root directory. -/
def readRootDirectory (endian : Endian) (addr : UInt64) : Reader (UInt64 × UInt64) := do
  let addr := addr + 4
  let quadlet := endian.ntohl (← readQuadlet endian addr)
  let len := quadlet >>> 16
  let len := if len > 16 then 16 else len
  scanRootDirectory endian len.toNat addr 0 0

/-- `if (unit_dir_addr > 0) …` -/
def readUnitDirectory (endian : Endian) (unitDirAddr : UInt64) : Reader Unit := do
  if unitDirAddr > 0 then
    let quadlet := endian.ntohl (← readQuadlet endian unitDirAddr)
    let len := quadlet >>> 16
    scanUnitDirectory endian len.toNat unitDirAddr

/-- `if (textual_leaf_addr > 0) …` -/
def readTextualLeaf (endian : Endian) (textualLeafAddr : UInt64) : Reader Unit := do
  if textualLeafAddr > 0 then
    let quadlet := endian.ntohl (← readQuadlet endian textualLeafAddr)
    let len := quadlet >>> 16
    let len := (len - 2) * 4
    modifyRom fun rom => { rom with vendor := some (List.replicate len.toNat 0) }
    let buffer ← read (textualLeafAddr + 12) len
    modifyRom fun rom => { rom with vendor := some buffer }

/-- `FirewireDevice::readConfigRom` -/
def readConfigRom (endian : Endian) : Reader Unit := do
  let addr := CONFIG_ROM_ADDR
  modifyRom fun _ => .zero
  let quadlet := endian.ntohl (← readQuadlet endian addr)
  if quadlet >>> 24 ≠ 4 then
    modifyRom fun rom => { rom with vendorId := quadlet &&& 0x00ffffff }
    .record fun device => { device with configRomValid := true }
  else
    let addr := addr + 4
    let quadlet ← readQuadlet endian addr
    if quadlet ≠ 0x34393331 then
      return ()
    else
      let addr ← readBusInfo endian addr
      let (unitDirAddr, textualLeafAddr) ← readRootDirectory endian addr
      readUnitDirectory endian unitDirAddr
      readTextualLeaf endian textualLeafAddr
      .record fun device => { device with configRomValid := true }

/-! ## The dialogue is the function -/

section Run

variable {β : Type} [Bus β] (endian : Endian)

/-- The answer of the bus. -/
def asking (question : RomRead) : Call Exn (DeviceState β) (List UInt8) :=
  FirewireDevice.read question.address question.length

/-- An assignment to a field of the object. -/
def noting (f : FirewireDevice → FirewireDevice) : Call Exn (DeviceState β) Unit :=
  modify fun s => { s with device := f s.device }

/-- The dialogue, with the bus for the node. -/
def onBus {α : Type} (reader : Reader α) : Call Exn (DeviceState β) α := reader.run asking noting

@[simp] theorem onBus_pure {α : Type} (a : α) :
    (onBus (pure a) : Call Exn (DeviceState β) α) = pure a := rfl

@[simp] theorem onBus_bind {α γ : Type} (reader : Reader α) (next : α → Reader γ) :
    (onBus (reader >>= next) : Call Exn (DeviceState β) γ) =
      onBus reader >>= fun a => onBus (next a) :=
  Dialogue.run_bind ..

@[simp] theorem onBus_ite {α : Type} (p : Prop) [Decidable p] (reader reader' : Reader α) :
    (onBus (if p then reader else reader') : Call Exn (DeviceState β) α) =
      if p then onBus reader else onBus reader' :=
  Dialogue.run_ite ..

@[simp] theorem onBus_read (address : UInt64) (length : UInt32) :
    (onBus (read address length) : Call Exn (DeviceState β) (List UInt8)) =
      FirewireDevice.read address length :=
  Dialogue.run_inquire ..

@[simp] theorem onBus_record (f : FirewireDevice → FirewireDevice) :
    (onBus (.record f) : Call Exn (DeviceState β) Unit) = noting f :=
  Dialogue.run_record ..

@[simp] theorem onBus_modifyRom (f : ConfigRom → ConfigRom) :
    (onBus (modifyRom f) : Call Exn (DeviceState β) Unit) = FirewireDevice.modifyRom f :=
  onBus_record _

@[simp] theorem onBus_readQuadlet (address : UInt64) :
    (onBus (readQuadlet endian address) : Call Exn (DeviceState β) UInt32) =
      FirewireDevice.readQuadlet endian address := by
  simp [readQuadlet, FirewireDevice.readQuadlet]

theorem onBus_readBusInfo (addr : UInt64) :
    (onBus (readBusInfo endian addr) : Call Exn (DeviceState β) UInt64) =
      FirewireDevice.readBusInfo endian addr := by
  simp [readBusInfo, FirewireDevice.readBusInfo]

theorem onBus_scanRootDirectory (entries : Nat) (addr unitDirAddr textualLeafAddr : UInt64) :
    (onBus (scanRootDirectory endian entries addr unitDirAddr textualLeafAddr) :
      Call Exn (DeviceState β) _) =
        FirewireDevice.scanRootDirectory endian entries addr unitDirAddr textualLeafAddr := by
  induction entries generalizing addr unitDirAddr textualLeafAddr with
  | zero => rfl
  | succ entries ih => simp [scanRootDirectory, FirewireDevice.scanRootDirectory, ih]

theorem onBus_scanUnitDirectory (entries : Nat) (addr : UInt64) :
    (onBus (scanUnitDirectory endian entries addr) : Call Exn (DeviceState β) Unit) =
      FirewireDevice.scanUnitDirectory endian entries addr := by
  induction entries generalizing addr with
  | zero => rfl
  | succ entries ih => simp [scanUnitDirectory, FirewireDevice.scanUnitDirectory, ih]

theorem onBus_readRootDirectory (addr : UInt64) :
    (onBus (readRootDirectory endian addr) : Call Exn (DeviceState β) _) =
      FirewireDevice.readRootDirectory endian addr := by
  simp [readRootDirectory, FirewireDevice.readRootDirectory, onBus_scanRootDirectory]

theorem onBus_readUnitDirectory (unitDirAddr : UInt64) :
    (onBus (readUnitDirectory endian unitDirAddr) : Call Exn (DeviceState β) Unit) =
      FirewireDevice.readUnitDirectory endian unitDirAddr := by
  simp [readUnitDirectory, FirewireDevice.readUnitDirectory, onBus_scanUnitDirectory]

theorem onBus_readTextualLeaf (textualLeafAddr : UInt64) :
    (onBus (readTextualLeaf endian textualLeafAddr) : Call Exn (DeviceState β) Unit) =
      FirewireDevice.readTextualLeaf endian textualLeafAddr := by
  simp [readTextualLeaf, FirewireDevice.readTextualLeaf]

/-- On a bus, the dialogue is `readConfigRom`. -/
theorem onBus_readConfigRom :
    (onBus (readConfigRom endian) : Call Exn (DeviceState β) Unit) =
      FirewireDevice.readConfigRom endian := by
  simp [readConfigRom, FirewireDevice.readConfigRom, onBus_readBusInfo, onBus_readRootDirectory,
    onBus_readUnitDirectory, onBus_readTextualLeaf, noting]

end Run

/-! ## What is asked -/

/-- What `readConfigRom` asks for: a quadlet of the ROM, or the text of a leaf,
after it asked for the header of the leaf. -/
inductive IsRomRead (endian : Endian) (last : Option (List UInt8)) (question : RomRead)
    (device : FirewireDevice) : Prop
  | quadlet {i : Nat} (inside : i < 2 ^ 25) (unread : device.configRom.vendor = none)
      (same : question = ⟨romAddr i, 4⟩)
  | text {i : Nat} {header : List UInt8} {length : UInt32} (inside : i + 3 < 2 ^ 25)
      (answered : last = some header)
      (computed : length = (endian.ntohl (endian.decode header) >>> 16 - 2) * 4)
      (allocated : device.configRom.vendor = some (List.replicate length.toNat 0))
      (same : question = ⟨romAddr (i + 3), length⟩)

/-- A pointer of the walk: none, or to one of the first quadlets. -/
def Target (bound : Nat) (addr : UInt64) : Prop := addr = 0 ∨ ∃ i < bound, addr = romAddr i

section Meets

variable {endian : Endian} {last : Option (List UInt8)} {device : FirewireDevice} {i : Nat}

/-- The object as long as the text of the leaf was not read. -/
def Unread (device : FirewireDevice) : Prop := device.configRom.vendor = none

theorem meets_readQuadlet (inside : i < 2 ^ 25) (unread : Unread device) :
    (readQuadlet endian (romAddr i)).Meets (IsRomRead endian)
      (fun last quadlet device' => device' = device ∧
        ∃ header, last = some header ∧ quadlet = endian.decode header) last device :=
  ⟨.quadlet inside unread rfl, fun buffer => ⟨rfl, buffer, rfl, rfl⟩⟩

/-- Sequencing behind a quadlet. -/
theorem meets_quadlet_bind {α : Type} {next : UInt32 → Reader α}
    {Q : Option (List UInt8) → α → FirewireDevice → Prop} (inside : i < 2 ^ 25)
    (unread : Unread device)
    (later : ∀ header, (next (endian.decode header)).Meets (IsRomRead endian) Q
      (some header) device) :
    (readQuadlet endian (romAddr i) >>= next).Meets (IsRomRead endian) Q last device := by
  refine Dialogue.meets_bind (meets_readQuadlet inside unread) ?_
  rintro last quadlet device' ⟨rfl, header, rfl, rfl⟩
  exact later header

theorem meets_readBusInfo (inside : i + 3 < 2 ^ 25) (unread : Unread device) :
    (readBusInfo endian (romAddr i)).Meets (IsRomRead endian)
      (fun _ addr device' => addr = romAddr (i + 3) ∧ Unread device') last device := by
  simp only [readBusInfo, romAddr_succ]
  refine meets_quadlet_bind (by omega) unread fun _ => ?_
  refine meets_quadlet_bind (by omega) unread fun _ => ?_
  refine meets_quadlet_bind inside unread fun _ => ?_
  exact ⟨rfl, unread⟩

/-- The pointers that the scan of the root directory finds are near. -/
theorem meets_scanRootDirectory (entries : Nat) (inside : i + entries < 22)
    {unitDirAddr textualLeafAddr : UInt64} (unit : Target (2 ^ 24 + 22) unitDirAddr)
    (leaf : Target (2 ^ 24 + 22) textualLeafAddr) (unread : Unread device) :
    (scanRootDirectory endian entries (romAddr i) unitDirAddr textualLeafAddr).Meets
      (IsRomRead endian)
      (fun _ found device' => Target (2 ^ 24 + 22) found.1 ∧
        Target (2 ^ 24 + 22) found.2 ∧ Unread device') last device := by
  induction entries generalizing i unitDirAddr textualLeafAddr device last with
  | zero => exact ⟨unit, leaf, unread⟩
  | succ entries ih =>
      have pointer (quadlet : UInt32) : Target (2 ^ 24 + 22)
          (romAddr (i + 1) + ((quadlet &&& 0x00ffffff) * 4).toUInt64) := by
        have near := entryValue_lt quadlet
        refine .inr ⟨i + 1 + (entryValue quadlet).toNat, by omega, ?_⟩
        exact romAddr_pointer (i + 1) near
      simp only [scanRootDirectory, romAddr_succ]
      refine meets_quadlet_bind (by omega) unread fun header => ?_
      refine Dialogue.meets_ite (fun _ => ?_) fun _ => ?_
      · exact ih (by omega) unit leaf unread
      refine Dialogue.meets_ite (fun _ => ?_) fun _ => ?_
      · exact ih (by omega) (pointer _) leaf unread
      refine Dialogue.meets_ite (fun _ => ?_) fun _ => ?_
      · exact ih (by omega) unit (pointer _) unread
      · exact ih (by omega) unit leaf unread

theorem meets_scanUnitDirectory (entries : Nat) (inside : i + entries < 2 ^ 25)
    (unread : Unread device) :
    (scanUnitDirectory endian entries (romAddr i)).Meets (IsRomRead endian)
      (fun _ _ device' => Unread device') last device := by
  induction entries generalizing i device last with
  | zero => exact unread
  | succ entries ih =>
      simp only [scanUnitDirectory, romAddr_succ]
      refine meets_quadlet_bind (by omega) unread fun header => ?_
      refine ih (by omega) ?_
      show ConfigRom.vendor (if _ then _ else _) = none
      split
      · exact unread
      · split
        · exact unread
        · split
          · exact unread
          · exact unread

/-- A length field has 16 bits. -/
theorem lengthField_lt (quadlet : UInt32) : (quadlet >>> 16).toNat < 2 ^ 16 := by
  rw [UInt32.toNat_shiftRight]
  have := quadlet.toNat_lt
  show quadlet.toNat >>> 16 < _
  rw [Nat.shiftRight_eq_div_pow]
  omega

theorem meets_readRootDirectory (unread : Unread device) :
    (readRootDirectory endian (romAddr 4)).Meets (IsRomRead endian)
      (fun _ found device' => Target (2 ^ 24 + 22) found.1 ∧
        Target (2 ^ 24 + 22) found.2 ∧ Unread device') last device := by
  simp only [readRootDirectory, romAddr_succ]
  refine meets_quadlet_bind (by decide) unread fun header => ?_
  refine meets_scanRootDirectory _ ?_ (.inl rfl) (.inl rfl) unread
  split
  · decide
  · next short =>
      rw [gt_iff_lt, UInt32.lt_iff_toNat_lt, Nat.not_lt] at short
      exact Nat.lt_of_le_of_lt (Nat.add_le_add_left short _) (by decide)

theorem meets_readUnitDirectory {addr : UInt64} (target : Target (2 ^ 24 + 22) addr)
    (unread : Unread device) :
    (readUnitDirectory endian addr).Meets (IsRomRead endian)
      (fun _ _ device' => Unread device') last device := by
  refine Dialogue.meets_ite (fun positive => ?_) fun _ => unread
  rcases target with rfl | ⟨i, inside, rfl⟩
  · exact absurd positive (by decide)
  · refine meets_quadlet_bind (by omega) unread fun header => ?_
    have short := lengthField_lt (endian.ntohl (endian.decode header))
    exact meets_scanUnitDirectory _ (by omega) unread

theorem meets_readTextualLeaf {addr : UInt64} (target : Target (2 ^ 24 + 22) addr)
    (unread : Unread device) :
    (readTextualLeaf endian addr).Meets (IsRomRead endian) (fun _ _ _ => True) last device := by
  refine Dialogue.meets_ite (fun positive => ?_) fun _ => trivial
  rcases target with rfl | ⟨i, inside, rfl⟩
  · exact absurd positive (by decide)
  · refine meets_quadlet_bind (by omega) unread fun header => ?_
    refine ⟨.text (i := i) (by omega) rfl rfl rfl ?_, fun buffer => trivial⟩
    rw [← romAddr_succ, ← romAddr_succ, ← romAddr_succ, UInt64.add_assoc, UInt64.add_assoc]
    rfl

/-- All that `readConfigRom` ever asks for. -/
theorem meets_readConfigRom :
    (readConfigRom endian).Meets (IsRomRead endian) (fun _ _ _ => True) last device := by
  show Dialogue.Meets _ _ (readQuadlet endian (romAddr 0) >>= _) last
    { device with configRom := .zero }
  refine meets_quadlet_bind (by decide) rfl fun header => ?_
  refine Dialogue.meets_ite (fun _ => trivial) fun _ => ?_
  rw [← romAddr_zero, romAddr_succ]
  refine meets_quadlet_bind (by decide) rfl fun magic => ?_
  refine Dialogue.meets_ite (fun _ => trivial) fun _ => ?_
  refine Dialogue.meets_bind (meets_readBusInfo (by decide) rfl) ?_
  rintro last addr device₁ ⟨rfl, unread₁⟩
  refine Dialogue.meets_bind (meets_readRootDirectory unread₁) ?_
  rintro last ⟨unitDirAddr, textualLeafAddr⟩ device₂ ⟨unit, leaf, unread₂⟩
  refine Dialogue.meets_bind (meets_readUnitDirectory unit unread₂) ?_
  intro last _ device₃ unread₃
  exact Dialogue.meets_bind (meets_readTextualLeaf leaf unread₃) fun _ _ _ _ => trivial

end Meets

end RomDialogue

/-! ## Safe reads -/

theorem toNat_romAddr {i : Nat} (small : i < 2 ^ 25) :
    (romAddr i).toNat = CONFIG_ROM_ADDR.toNat + 4 * i := by
  rw [romAddr, UInt64.toNat_add, UInt64.toNat_ofNat']
  show (0xfffff0000400 + _) % 2 ^ 64 = 0xfffff0000400 + _
  omega

/-- The length of a leaf, as its first quadlet has it. -/
def leafLength (endian : Endian) (header : List UInt8) : Nat :=
  (endian.ntohl (endian.decode header) >>> 16).toNat

/-- What a read should be like that is made after these answers, by an object in
this state: it stays inside of the ROM's part of the address space.  If a buffer
was allocated for a text, it has the length of the read, and that is what is
left of the leaf after two quadlets, without wrapping. -/
structure SafeRead (endian : Endian) (answers : List (List UInt8)) (question : RomRead)
    (device : FirewireDevice) : Prop where
  aligned : question.address.toNat % 4 = 0
  above : CONFIG_ROM_ADDR.toNat ≤ question.address.toNat
  below : question.address.toNat < 2 ^ 48 ∧
    question.address.toNat + question.length.toNat ≤ 2 ^ 48
  allocated : ∀ buffer, device.configRom.vendor = some buffer →
    buffer.length = question.length.toNat ∧ question.length.toNat ≤ 4 * 65533
  unwrapped : ∀ buffer header, device.configRom.vendor = some buffer →
    answers.getLast? = some header →
      (question.length.toNat : Int) = ((leafLength endian header : Int) - 2) * 4

/-- Every read that `readConfigRom` makes of a node that gives these answers is
safe. -/
def ReadsSafe (endian : Endian) (device : FirewireDevice) (answers : List (List UInt8)) : Prop :=
  ∀ before question device', before <+: answers →
    (RomDialogue.readConfigRom endian).asked device before = some (question, device') →
      SafeRead endian before question device'

/-- The answer that is the header of the textual leaf (the next read is the one
of the text, for which a buffer was allocated) gives a length of at least 2. -/
def LeafHasText (endian : Endian) (device : FirewireDevice) (answers : List (List UInt8)) : Prop :=
  ∀ before header question device', before ++ [header] <+: answers →
    (RomDialogue.readConfigRom endian).asked device (before ++ [header]) =
      some (question, device') →
        device'.configRom.vendor ≠ none → 2 ≤ leafLength endian header

section Safe

variable {endian : Endian} {header : List UInt8} {device : FirewireDevice}
  {answers : List (List UInt8)} {question : RomRead}

theorem leafLength_lt (endian : Endian) (header : List UInt8) :
    leafLength endian header < 2 ^ 16 := RomDialogue.lengthField_lt _

/-- The size of the buffer, as the code computes it. -/
theorem toNat_bufferLength (endian : Endian) (header : List UInt8) :
    ((endian.ntohl (endian.decode header) >>> 16 - 2) * 4).toNat =
      ((leafLength endian header + (2 ^ 32 - 2)) * 4) % 2 ^ 32 := by
  rw [UInt32.toNat_mul, UInt32.toNat_sub, ← leafLength]
  show (2 ^ 32 - 2 + leafLength endian header) % 2 ^ 32 * 4 % 2 ^ 32 = _
  omega

/-- A block of less than 2^26 bytes that starts at one of the quadlets. -/
theorem romAddr_inside {i : Nat} (small : i < 2 ^ 25) {length : Nat} (short : length < 2 ^ 26) :
    (romAddr i).toNat % 4 = 0 ∧ CONFIG_ROM_ADDR.toNat ≤ (romAddr i).toNat ∧
      (romAddr i).toNat < 2 ^ 48 ∧ (romAddr i).toNat + length ≤ 2 ^ 48 := by
  rw [toNat_romAddr small, show CONFIG_ROM_ADDR.toNat = 0xfffff0000400 from rfl]
  omega

/-- A read of a quadlet is safe. -/
theorem safeRead_quadlet {i : Nat} (inside : i < 2 ^ 25)
    (unread : device.configRom.vendor = none) :
    SafeRead endian answers ⟨romAddr i, 4⟩ device := by
  obtain ⟨aligned, above, below⟩ := romAddr_inside inside (show 4 < 2 ^ 26 by decide)
  have none (buffer : List UInt8) : device.configRom.vendor ≠ some buffer := by
    rw [unread]
    exact (Option.some_ne_none buffer).symm
  exact ⟨aligned, above, below, fun buffer stored => absurd stored (none buffer),
    fun buffer _ stored => absurd stored (none buffer)⟩

/-- A read of a text is safe exactly if the leaf has two quadlets before it. -/
theorem safeRead_text_iff {i : Nat} {length : UInt32} (inside : i + 3 < 2 ^ 25)
    (last : answers.getLast? = some header)
    (computed : length = (endian.ntohl (endian.decode header) >>> 16 - 2) * 4)
    (stored : device.configRom.vendor = some (List.replicate length.toNat 0)) :
    SafeRead endian answers ⟨romAddr (i + 3), length⟩ device ↔ 2 ≤ leafLength endian header := by
  have bound := leafLength_lt endian header
  have size : length.toNat = ((leafLength endian header + (2 ^ 32 - 2)) * 4) % 2 ^ 32 :=
    computed ▸ toNat_bufferLength endian header
  constructor
  · intro safe
    -- A wrapped length is far too large.
    have most := (safe.allocated _ stored).2
    dsimp only at most
    omega
  · intro long
    have exact : length.toNat = (leafLength endian header - 2) * 4 := by omega
    obtain ⟨aligned, above, below⟩ :=
      romAddr_inside inside (show length.toNat < 2 ^ 26 by omega)
    refine ⟨aligned, above, below, ?_, ?_⟩
    · intro buffer same
      obtain rfl := Option.some.inj (stored.symm.trans same)
      exact ⟨List.length_replicate, by dsimp only; omega⟩
    · intro buffer header' same last'
      obtain rfl := Option.some.inj (last.symm.trans last')
      dsimp only
      omega

end Safe

/-- **The reads of the configuration ROM.**  Whatever a node answers, and
wherever its answers end: every read of `readConfigRom` is aligned, inside of
the ROM's part of the address space, and as long as the buffer it is for, if and
only if no textual leaf that is read has a length of less than 2. -/
theorem readsSafe_iff (endian : Endian) (device : FirewireDevice)
    (answers : List (List UInt8)) :
    ReadsSafe endian device answers ↔ LeafHasText endian device answers := by
  have kind (before : List (List UInt8)) (question : RomRead) (device' : FirewireDevice)
      (asked : (RomDialogue.readConfigRom endian).asked device before =
        some (question, device')) :
      RomDialogue.IsRomRead endian before.getLast? question device' := by
    have meets : (RomDialogue.readConfigRom endian).Meets (RomDialogue.IsRomRead endian)
        (fun _ _ _ => True) none device := RomDialogue.meets_readConfigRom
    have met := meets.asked asked
    rwa [Option.or_none] at met
  constructor
  · intro safe before header question device' isPrefix asked allocated
    have read := safe _ question device' isPrefix asked
    cases kind _ question device' asked with
    | quadlet inside unread same => exact absurd unread allocated
    | text inside answered computed stored same =>
        obtain rfl := same
        rw [List.getLast?_concat] at answered
        obtain rfl := Option.some.inj answered
        exact (safeRead_text_iff inside List.getLast?_concat computed stored).mp read
  · intro long before question device' isPrefix asked
    cases kind _ question device' asked with
    | quadlet inside unread same =>
        obtain rfl := same
        exact safeRead_quadlet inside unread
    | @text i header length inside answered computed stored same =>
        obtain rfl := same
        obtain ⟨front, rfl⟩ := List.getLast?_eq_some_iff.mp answered
        refine (safeRead_text_iff inside answered computed stored).mpr ?_
        refine long front header _ device' isPrefix asked ?_
        rw [stored]
        exact Option.some_ne_none _

/-- A ROM with one root entry, which points to a textual leaf of length 0. -/
def emptyLeaf : List (List UInt8) :=
  [[4, 4, 0, 0], [0x31, 0x33, 0x39, 0x34], [0, 0, 0, 0], [0, 0, 0, 0], [0, 0, 0, 0],
    [0, 1, 0, 0], [0x81, 0, 0, 1], [0, 0, 0, 0]]

/-- A node on a new connection. -/
def unknownDevice : FirewireDevice := .new ⟨0xffc0, ⟨0, 0⟩, none, none⟩

/-- The code asks for 4294967288 bytes of text. -/
theorem wrapped_read :
    ¬∀ (endian : Endian) (device : FirewireDevice) (answers : List (List UInt8)),
      ReadsSafe endian device answers := by
  intro claim
  have asked : ((RomDialogue.readConfigRom .little).asked unknownDevice emptyLeaf).map
      (fun now => (now.1.length.toNat, now.2.configRom.vendor.isSome)) =
        some (4294967288, true) := by decide
  obtain ⟨⟨question, device⟩, asked, same⟩ := Option.map_eq_some_iff.mp asked
  obtain ⟨length, stored⟩ := Prod.mk.inj same
  obtain ⟨buffer, stored⟩ := Option.isSome_iff_exists.mp stored
  have safe := claim .little unknownDevice emptyLeaf emptyLeaf question device List.prefix_rfl asked
  have most := (safe.allocated buffer stored).2
  dsimp only at length
  omega

end LibPhantom
