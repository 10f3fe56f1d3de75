import PhantomDrivers.LibPhantom.ReadConfigRom

/-!
# Laying out a configuration ROM

The other direction: what a vendor does who puts a configuration ROM into a
device.  A `Description` says what the ROM is to say, a `Layout` where its parts
go; `Layout.store` writes the bytes.  `readConfigRom_layout` is the round trip:
the library reads back exactly what was described.

* `RootEntry`, `UnitEntry`, `Leaf`, `Description` — the parts, with the
  restrictions of the format as fields.
* `Description.rom` — the structure the description stands for.
* `Layout` — the positions of the unit directory and of the leaf, and the bits
  the description leaves open (checksums, reserved bits).
* `Holds` — a block of quadlets lies at a position of a ROM.
-/

namespace LibPhantom

open Semantics Raw1394

/-! ## Descriptions -/

/-- An entry of the root directory.  The values of the two pointers follow from
the layout. -/
inductive RootEntry where
  | nodeCapabilities (value : BitVec 24)
  | unitDirectory
  | textualLeaf
  | other (key : UInt8) (value : BitVec 24)
deriving DecidableEq, Repr

/-- The value of a node capabilities entry. -/
def RootEntry.capabilities? : RootEntry → Option (BitVec 24)
  | nodeCapabilities value => some value
  | _ => none

/-- An entry of the unit directory. -/
structure UnitEntry where
  key : UInt8
  value : BitVec 24
deriving DecidableEq, Repr

/-- The value of an entry with the given key. -/
def UnitEntry.value? (key : UInt8) (entry : UnitEntry) : Option (BitVec 24) :=
  if entry.key = key then some entry.value else none

/-- A textual leaf: two quadlets for the language, and the text. -/
structure Leaf where
  specifier : UInt32
  language : UInt32
  text : List UInt32
deriving DecidableEq, Repr

/-- A value of 24 bits in a quadlet. -/
def word (value : BitVec 24) : UInt32 := UInt32.ofNat value.toNat

/-- The value of the only entry that has one; 0 if there is none. -/
def soleValue {α : Type} (value? : α → Option (BitVec 24)) (entries : List α) : UInt32 :=
  ((entries.filterMap value?).head?.map word).getD 0

/-- What a ROM of the general format is to say. -/
structure Description where
  irmCap : BitVec 1
  cycleMasterCap : BitVec 1
  isoCap : BitVec 1
  busManagerCap : BitVec 1
  cycleClkAccuracy : UInt8
  maxRec : BitVec 4
  linkSpeed : BitVec 3
  vendorId : BitVec 24
  chipIdHi : UInt8
  chipIdLo : UInt32
  root : List RootEntry
  unit : Option (List UnitEntry)
  leaf : Option Leaf
  root_length : root.length ≤ 16
  root_others : ∀ key value, .other key value ∈ root → key ∉ [0x0c, 0xd1, 0x81]
  capabilities_unique : (root.filterMap RootEntry.capabilities?).length ≤ 1
  unit_pointer : root.count .unitDirectory = unit.toList.length
  leaf_pointer : root.count .textualLeaf = leaf.toList.length
  unit_length : ∀ entries ∈ unit, entries.length < 2 ^ 16
  unit_unique : ∀ entries ∈ unit, ∀ key ∈ [0x12, 0x13, 0x17],
    (entries.filterMap (UnitEntry.value? key)).length ≤ 1
  leaf_length : ∀ l ∈ leaf, l.text.length + 2 < 2 ^ 16

/-- The structure a description stands for; what is absent is 0 or null. -/
def Description.rom (d : Description) : ConfigRom where
  irmCap := d.irmCap
  cycleMasterCap := d.cycleMasterCap
  isoCap := d.isoCap
  busManagerCap := d.busManagerCap
  cycleClkAccuracy := d.cycleClkAccuracy
  maxAsyncBwritePayload := UInt32.ofNat (2 ^ (d.maxRec.toNat + 1))
  linkSpeed := UInt32.ofNat d.linkSpeed.toNat
  guidLo := d.chipIdLo
  guidHi := d.chipIdHi.toUInt32
  nodeCapabilities := soleValue RootEntry.capabilities? d.root
  vendorId := UInt32.ofNat d.vendorId.toNat
  unitSpecId := soleValue (UnitEntry.value? 0x12) (d.unit.getD [])
  unitSwVersion := soleValue (UnitEntry.value? 0x13) (d.unit.getD [])
  modelId := soleValue (UnitEntry.value? 0x17) (d.unit.getD [])
  vendor := d.leaf.map fun leaf => leaf.text.flatMap beBytes

/-! ## Layouts -/

/-- Where the parts behind the root directory go.  They come later than the
root directory, do not overlap, and are within the reach of the entries that
point to them; `filler` gives the bits the description leaves open. -/
structure Layout (d : Description) where
  unitAt : Nat
  leafAt : Nat
  filler : Nat → UInt32
  unit_later : d.unit.isSome → 6 + d.root.length ≤ unitAt
  leaf_later : d.leaf.isSome → 6 + d.root.length ≤ leafAt
  unit_reached : ∀ k, d.root[k]? = some .unitDirectory → unitAt - (6 + k) < 2 ^ 24
  leaf_reached : ∀ k, d.root[k]? = some .textualLeaf → leafAt - (6 + k) < 2 ^ 24
  apart : ∀ entries ∈ d.unit, ∀ leaf ∈ d.leaf,
    unitAt + (1 + entries.length) ≤ leafAt ∨ leafAt + (3 + leaf.text.length) ≤ unitAt

/-- A directory entry. -/
def dirEntry (key : UInt8) (value : Nat) : UInt32 := UInt32.ofNat (key.toNat * 2 ^ 24 + value)

/-- The first quadlet of a directory or a leaf: its length and a checksum. -/
def lengthQuadlet (length : Nat) (filler : UInt32) : UInt32 :=
  UInt32.ofNat (length * 2 ^ 16 + filler.toNat % 2 ^ 16)

/-- The quadlet of a unit directory entry. -/
def UnitEntry.quadlet (entry : UnitEntry) : UInt32 := dirEntry entry.key entry.value.toNat

namespace Layout

variable {d : Description} (layout : Layout d)

/-- The quadlet of the root directory entry at position `i`. -/
def entryAt (i : Nat) : RootEntry → UInt32
  | .nodeCapabilities value => dirEntry 0x0c value.toNat
  | .unitDirectory => dirEntry 0xd1 (layout.unitAt - i)
  | .textualLeaf => dirEntry 0x81 (layout.leafAt - i)
  | .other key value => dirEntry key value.toNat

/-- The entries of the root directory, from position `i` on. -/
def entriesFrom : Nat → List RootEntry → List UInt32
  | _, [] => []
  | i, entry :: entries => layout.entryAt i entry :: entriesFrom (i + 1) entries

/-- The second data quadlet of the bus info block. -/
def capsQuadlet (d : Description) (filler : UInt32) : UInt32 := UInt32.ofNat <|
  d.irmCap.toNat * 2 ^ 31 + d.cycleMasterCap.toNat * 2 ^ 30 + d.isoCap.toNat * 2 ^ 29 +
    d.busManagerCap.toNat * 2 ^ 28 + filler.toNat / 2 ^ 24 % 2 ^ 4 * 2 ^ 24 +
    d.cycleClkAccuracy.toNat * 2 ^ 16 + d.maxRec.toNat * 2 ^ 12 +
    filler.toNat / 2 ^ 3 % 2 ^ 9 * 2 ^ 3 + d.linkSpeed.toNat

/-- The bus info block and the root directory. -/
def head : List UInt32 :=
  [UInt32.ofNat (4 * 2 ^ 24 + (layout.filler 0).toNat % 2 ^ 24),
    0x31333934,
    capsQuadlet d (layout.filler 2),
    UInt32.ofNat (d.vendorId.toNat * 2 ^ 8 + d.chipIdHi.toNat),
    d.chipIdLo,
    lengthQuadlet d.root.length (layout.filler 5)] ++ layout.entriesFrom 6 d.root

/-- The unit directory. -/
def unitBlock : List UInt32 :=
  match d.unit with
  | none => []
  | some entries =>
      lengthQuadlet entries.length (layout.filler layout.unitAt) :: entries.map UnitEntry.quadlet

/-- The textual leaf. -/
def leafBlock : List UInt32 :=
  match d.leaf with
  | none => []
  | some leaf =>
      lengthQuadlet (leaf.text.length + 2) (layout.filler layout.leafAt) ::
        leaf.specifier :: leaf.language :: leaf.text

/-- Store a block of quadlets, most significant bytes first. -/
def storeAt (memory : Memory) (port : Nat) (node : UInt16) (i : Nat) (block : List UInt32) :
    Memory :=
  memory.store port node (romAddr i) (block.flatMap beBytes)

/-- The memory with the ROM laid out in a node. -/
def store (memory : Memory) (port : Nat) (node : UInt16) : Memory :=
  storeAt (storeAt (storeAt memory port node 0 layout.head)
    port node layout.unitAt layout.unitBlock) port node layout.leafAt layout.leafBlock

end Layout

/-! ## Blocks in a ROM -/

/-- The block lies at quadlet `i` of the ROM. -/
def Holds (image : RomImage) (i : Nat) (block : List UInt32) : Prop :=
  bytesOf (fun k => image (4 * i + k)) (4 * block.length) = block.flatMap beBytes

section Holds

variable {image : RomImage} {i : Nat} {q : UInt32} {block rest : List UInt32}

theorem bytesOf_quadlet : bytesOf (fun k => image (4 * i + k)) 4 = beBytes q ↔
    image.quadlet i = q :=
  beBytes_eq_iff

theorem holds_append : Holds image i (block ++ rest) ↔
    Holds image i block ∧ Holds image (i + block.length) rest := by
  unfold Holds
  rw [List.length_append, Nat.mul_add, bytesOf_add, List.flatMap_append]
  have shifted : (fun k => image (4 * i + (4 * block.length + k))) =
      fun k => image (4 * (i + block.length) + k) := by
    funext k
    congr 1
    omega
  rw [shifted]
  constructor
  · intro whole
    exact List.append_inj whole (by rw [length_bytesOf, length_flatMap_beBytes])
  · rintro ⟨front, back⟩
    rw [front, back]

theorem holds_cons : Holds image i (q :: block) ↔
    image.quadlet i = q ∧ Holds image (i + 1) block := by
  have split : Holds image i ([q] ++ block) ↔ Holds image i [q] ∧ Holds image (i + 1) block :=
    holds_append
  rw [List.singleton_append] at split
  rw [split, ← bytesOf_quadlet]
  simp [Holds]

end Holds

section Stores

variable {memory : Memory} {com : CommunicationLibraw1394} {p i : Nat} {data : List UInt8}
  {block other : List UInt32}

/-- How far an address lies behind another one in the ROM. -/
theorem toNat_sub_romAddr {j : Nat} (small : j < 2 ^ 63) (near : p < 2 ^ 60) :
    (CONFIG_ROM_ADDR + UInt64.ofNat j - romAddr p).toNat =
      if 4 * p ≤ j then j - 4 * p else 2 ^ 64 + j - 4 * p := by
  rw [romAddr, UInt64.toNat_sub, UInt64.toNat_add, UInt64.toNat_add, UInt64.toNat_ofNat',
    UInt64.toNat_ofNat']
  show (2 ^ 64 - (0xfffff0000400 + _) % 2 ^ 64 + (0xfffff0000400 + _) % 2 ^ 64) % 2 ^ 64 = _
  split <;> omega

theorem romImage_store {j : Nat} (small : j < 2 ^ 63) (near : p < 2 ^ 60) :
    romImage (memory.store com.handle.port com.node (romAddr p) data) com j =
      (data[if 4 * p ≤ j then j - 4 * p else 2 ^ 64 + j - 4 * p]?).getD
        (romImage memory com j) := by
  show Memory.store memory _ _ _ _ _ _ (CONFIG_ROM_ADDR + UInt64.ofNat j) = _
  rw [Memory.store, if_pos ⟨rfl, rfl⟩, toNat_sub_romAddr small near]
  rfl

/-- A stored block lies where it was stored. -/
theorem holds_storeAt (near : p + block.length < 2 ^ 60) :
    Holds (romImage (Layout.storeAt memory com.handle.port com.node p block) com) p block := by
  refine List.ext_getElem (by rw [length_bytesOf, length_flatMap_beBytes])
    fun k inside inside' => ?_
  rw [length_bytesOf] at inside
  simp only [bytesOf, List.getElem_map, List.getElem_range, Layout.storeAt]
  rw [romImage_store (by omega) (by omega), if_pos (by omega), Nat.add_sub_cancel_left,
    List.getElem?_eq_getElem inside', Option.getD_some]

theorem storeAt_nil (port : Nat) (node : UInt16) :
    Layout.storeAt memory port node p [] = memory := by
  funext q n a
  simp [Layout.storeAt, Memory.store]

/-- Storing a block elsewhere, if there is one to store, leaves a block
alone. -/
theorem Holds.storeAt (held : Holds (romImage memory com) i block)
    (near : i + block.length < 2 ^ 60) (near' : other ≠ [] → p + other.length < 2 ^ 60)
    (apart : other ≠ [] → i + block.length ≤ p ∨ p + other.length ≤ i) :
    Holds (romImage (Layout.storeAt memory com.handle.port com.node p other) com) i block := by
  rcases eq_or_ne other [] with rfl | something
  · rwa [storeAt_nil]
  replace near' := near' something
  replace apart := apart something
  refine Eq.trans (List.map_congr_left fun k inside => ?_) held
  rw [List.mem_range] at inside
  rw [Layout.storeAt, romImage_store (by omega) (by omega), List.getElem?_eq_none]
  · rfl
  · rw [length_flatMap_beBytes]
    split <;> omega

end Stores

/-! ## Fields -/

section Fields

theorem toNat_dirEntry (key : UInt8) {value : Nat} (small : value < 2 ^ 24) :
    (dirEntry key value).toNat = key.toNat * 2 ^ 24 + value := by
  have := key.toNat_lt
  rw [dirEntry, UInt32.toNat_ofNat']
  omega

theorem entryKey_dirEntry (key : UInt8) {value : Nat} (small : value < 2 ^ 24) :
    entryKey (dirEntry key value) = key.toUInt32 := by
  apply UInt32.toNat_inj.mp
  rw [entryKey, toNat_shiftRight _ (by decide), toNat_dirEntry key small, UInt8.toNat_toUInt32]
  show _ / 2 ^ 24 = _
  omega

theorem entryValue_dirEntry (key : UInt8) {value : Nat} (small : value < 2 ^ 24) :
    entryValue (dirEntry key value) = UInt32.ofNat value := by
  apply UInt32.toNat_inj.mp
  rw [entryValue, toNat_mask _ (k := 24) (by decide), toNat_dirEntry key small,
    UInt32.toNat_ofNat']
  omega

/-- Keys are compared as bytes. -/
theorem toUInt32_eq_iff {key : UInt8} (other : UInt8) (n : UInt32) (same : other.toUInt32 = n) :
    key.toUInt32 = n ↔ key = other := by
  rw [← same, ← UInt32.toNat_inj, UInt8.toNat_toUInt32, UInt8.toNat_toUInt32, UInt8.toNat_inj]

theorem lengthAt_of_quadlet {image : RomImage} {i length : Nat} {filler : UInt32}
    (small : length < 2 ^ 16) (quadlet : image.quadlet i = lengthQuadlet length filler) :
    image.lengthAt i = length := by
  rw [RomImage.lengthAt, toNat_shiftRight _ (by decide), quadlet, lengthQuadlet,
    UInt32.toNat_ofNat']
  show _ / 2 ^ 16 = _
  omega

/-- `2 << max_rec`, in 32 bits. -/
theorem two_shiftLeft_eq (maxRec : BitVec 4) :
    (2 : UInt32) <<< UInt32.ofNat maxRec.toNat = UInt32.ofNat (2 ^ (maxRec.toNat + 1)) := by
  have all : ∀ m < 16, (2 : UInt32) <<< UInt32.ofNat m = UInt32.ofNat (2 ^ (m + 1)) := by decide
  exact all _ maxRec.isLt

variable (d : Description) (filler : UInt32)

/-- The fields of the second data quadlet, as quotients and remainders. -/
theorem capsQuadlet_fields :
    let caps := (Layout.capsQuadlet d filler).toNat
    caps / 2 ^ 31 % 2 ^ 1 = d.irmCap.toNat ∧ caps / 2 ^ 30 % 2 ^ 1 = d.cycleMasterCap.toNat ∧
      caps / 2 ^ 29 % 2 ^ 1 = d.isoCap.toNat ∧ caps / 2 ^ 28 % 2 ^ 1 = d.busManagerCap.toNat ∧
      caps / 2 ^ 16 % 2 ^ 8 = d.cycleClkAccuracy.toNat ∧ caps / 2 ^ 12 % 2 ^ 4 = d.maxRec.toNat ∧
      caps % 2 ^ 3 = d.linkSpeed.toNat := by
  have := d.irmCap.isLt
  have := d.cycleMasterCap.isLt
  have := d.isoCap.isLt
  have := d.busManagerCap.isLt
  have := d.cycleClkAccuracy.toNat_lt
  have := d.maxRec.isLt
  have := d.linkSpeed.isLt
  dsimp only
  rw [Layout.capsQuadlet, UInt32.toNat_ofNat']
  omega

/-- The bus info block is read back. -/
theorem busInfo_eq (rom : ConfigRom) :
    rom.busInfo (Layout.capsQuadlet d filler)
        (UInt32.ofNat (d.vendorId.toNat * 2 ^ 8 + d.chipIdHi.toNat)) d.chipIdLo =
      { rom with
        irmCap := d.irmCap
        cycleMasterCap := d.cycleMasterCap
        isoCap := d.isoCap
        busManagerCap := d.busManagerCap
        cycleClkAccuracy := d.cycleClkAccuracy
        maxAsyncBwritePayload := UInt32.ofNat (2 ^ (d.maxRec.toNat + 1))
        linkSpeed := UInt32.ofNat d.linkSpeed.toNat
        vendorId := UInt32.ofNat d.vendorId.toNat
        guidHi := d.chipIdHi.toUInt32
        guidLo := d.chipIdLo } := by
  obtain ⟨irm, cycleMaster, iso, busManager, accuracy, maxRec, linkSpeed⟩ :=
    capsQuadlet_fields d filler
  have vendor := d.vendorId.isLt
  have chip := d.chipIdHi.toNat_lt
  have ids : (UInt32.ofNat (d.vendorId.toNat * 2 ^ 8 + d.chipIdHi.toNat)).toNat =
      d.vendorId.toNat * 2 ^ 8 + d.chipIdHi.toNat := by
    rw [UInt32.toNat_ofNat']
    omega
  have irmCap : (Layout.capsQuadlet d filler >>> 31).toBitVec.setWidth 1 = d.irmCap := by
    apply BitVec.eq_of_toNat_eq
    rw [BitVec.toNat_setWidth, UInt32.toNat_toBitVec, toNat_shiftRight _ (by decide)]
    exact irm
  have vendorId : UInt32.ofNat (d.vendorId.toNat * 2 ^ 8 + d.chipIdHi.toNat) >>> 8 =
      UInt32.ofNat d.vendorId.toNat := by
    apply UInt32.toNat_inj.mp
    rw [toNat_shiftRight _ (by decide), ids, UInt32.toNat_ofNat']
    show _ / 2 ^ 8 = _
    omega
  have guidHi : UInt32.ofNat (d.vendorId.toNat * 2 ^ 8 + d.chipIdHi.toNat) &&& 0xff =
      d.chipIdHi.toUInt32 := by
    apply UInt32.toNat_inj.mp
    rw [toNat_mask _ (k := 8) (by decide), ids, UInt8.toNat_toUInt32]
    omega
  have speed : Layout.capsQuadlet d filler &&& 7 = UInt32.ofNat d.linkSpeed.toNat := by
    apply UInt32.toNat_inj.mp
    rw [toNat_mask _ (k := 3) (by decide), linkSpeed, UInt32.toNat_ofNat']
    have := d.linkSpeed.isLt
    omega
  have clock : (UInt32.ofNat d.cycleClkAccuracy.toNat).toUInt8 = d.cycleClkAccuracy := by
    apply UInt8.toNat_inj.mp
    rw [UInt32.toNat_toUInt8, UInt32.toNat_ofNat']
    have := d.cycleClkAccuracy.toNat_lt
    omega
  rw [ConfigRom.busInfo, irmCap, vendorId, guidHi, speed,
    shiftRight_mask_eq (by decide) (by decide) cycleMaster,
    shiftRight_mask_eq (by decide) (by decide) iso,
    shiftRight_mask_eq (by decide) (by decide) busManager,
    shiftRight_mask_eq (by decide) (by decide) accuracy,
    shiftRight_mask_eq (by decide) (by decide) maxRec,
    setWidth_ofNat _ (by decide), setWidth_ofNat _ (by decide), setWidth_ofNat _ (by decide),
    clock, two_shiftLeft_eq]

end Fields

/-! ## Directories -/

/-- A scan that overwrites keeps the last value. -/
theorem foldl_getD {α β : Type} (value? : α → Option β) (entries : List α) (start : β) :
    entries.foldl (fun found entry => (value? entry).getD found) start =
      (entries.filterMap value?).getLastD start := by
  induction entries generalizing start with
  | nil => rfl
  | cons entry entries ih =>
      rw [List.foldl_cons, ih, List.filterMap_cons]
      cases value? entry with
      | none => rfl
      | some value => exact (List.getLastD_cons ..).symm

/-- If only one entry has a value, the last one is the only one. -/
theorem foldl_soleValue {α : Type} {value? : α → Option (BitVec 24)} {entries : List α}
    (unique : (entries.filterMap value?).length ≤ 1) :
    entries.foldl (fun found entry => ((value? entry).map word).getD found) 0 =
      soleValue value? entries := by
  rw [foldl_getD, ← List.map_filterMap, soleValue]
  cases values : entries.filterMap value? with
  | nil => rfl
  | cons value rest =>
      rw [values] at unique
      obtain rfl : rest = [] := List.eq_nil_of_length_eq_zero (by simpa using unique)
      rfl

/-- What an entry of the root directory adds to a scan. -/
def RootScan.describe {d : Description} (layout : Layout d) (scan : RootScan) :
    RootEntry → RootScan
  | .nodeCapabilities value => { scan with nodeCapabilities := word value }
  | .unitDirectory => { scan with unitDir := some layout.unitAt }
  | .textualLeaf => { scan with textualLeaf := some layout.leafAt }
  | .other _ _ => scan

/-- What an entry of the unit directory adds to the structure. -/
def ConfigRom.describe (rom : ConfigRom) (entry : UnitEntry) : ConfigRom :=
  { rom with
    unitSpecId := ((entry.value? 0x12).map word).getD rom.unitSpecId
    unitSwVersion := ((entry.value? 0x13).map word).getD rom.unitSwVersion
    modelId := ((entry.value? 0x17).map word).getD rom.modelId }

section Directories

variable {d : Description} (layout : Layout d) {image : RomImage}

/-- The layout can put this entry at position `i`. -/
structure Fits (i : Nat) (entry : RootEntry) : Prop where
  others : ∀ key value, entry = .other key value → key ∉ [0x0c, 0xd1, 0x81]
  unit : entry = .unitDirectory → i ≤ layout.unitAt ∧ layout.unitAt - i < 2 ^ 24
  leaf : entry = .textualLeaf → i ≤ layout.leafAt ∧ layout.leafAt - i < 2 ^ 24

/-- A pointer leads to where the layout put its target. -/
theorem pointer_eq {i position : Nat} (later : i ≤ position) (reached : position - i < 2 ^ 24) :
    i + (UInt32.ofNat (position - i)).toNat = position := by
  rw [UInt32.toNat_ofNat']
  omega

theorem entry_entryAt {i : Nat} {entry : RootEntry} (fits : Fits layout i entry)
    (scan : RootScan) : scan.entry i (layout.entryAt i entry) = scan.describe layout entry := by
  cases entry with
  | nodeCapabilities value =>
      simp only [RootScan.entry, Layout.entryAt, entryKey_dirEntry _ value.isLt,
        entryValue_dirEntry _ value.isLt]
      rfl
  | unitDirectory =>
      obtain ⟨later, reached⟩ := fits.unit rfl
      simp only [RootScan.entry, Layout.entryAt, entryKey_dirEntry _ reached,
        entryValue_dirEntry _ reached, pointer_eq later reached]
      rfl
  | textualLeaf =>
      obtain ⟨later, reached⟩ := fits.leaf rfl
      simp only [RootScan.entry, Layout.entryAt, entryKey_dirEntry _ reached,
        entryValue_dirEntry _ reached, pointer_eq later reached]
      rfl
  | other key value =>
      have unknown := fits.others key value rfl
      simp only [List.mem_cons, List.not_mem_nil, or_false, not_or] at unknown
      obtain ⟨notCapabilities, notUnit, notLeaf⟩ := unknown
      simp only [RootScan.entry, Layout.entryAt, entryKey_dirEntry _ value.isLt]
      rw [if_neg (mt (toUInt32_eq_iff 0x0c 0x0c rfl).mp notCapabilities),
        if_neg (mt (toUInt32_eq_iff 0xd1 0xd1 rfl).mp notUnit),
        if_neg (mt (toUInt32_eq_iff 0x81 0x81 rfl).mp notLeaf)]
      rfl

theorem scanRoot_entriesFrom {i : Nat} {entries : List RootEntry} (scan : RootScan)
    (held : Holds image i (layout.entriesFrom i entries))
    (fits : ∀ k entry, entries[k]? = some entry → Fits layout (i + k) entry) :
    image.scanRoot entries.length i scan = entries.foldl (RootScan.describe layout) scan := by
  induction entries generalizing i scan with
  | nil => rfl
  | cons entry entries ih =>
      obtain ⟨here, later⟩ := holds_cons.mp held
      rw [List.length_cons, RomImage.scanRoot, here,
        entry_entryAt layout (show Fits layout i entry from fits 0 entry rfl), List.foldl_cons]
      refine ih _ later fun k entry found => ?_
      have shifted := fits (k + 1) entry found
      rwa [show i + (k + 1) = i + 1 + k by omega] at shifted

theorem foldl_describe (entries : List RootEntry) (scan : RootScan) :
    entries.foldl (RootScan.describe layout) scan =
      { nodeCapabilities := entries.foldl
          (fun found entry => (entry.capabilities?.map word).getD found) scan.nodeCapabilities
        unitDir := if .unitDirectory ∈ entries then some layout.unitAt else scan.unitDir
        textualLeaf := if .textualLeaf ∈ entries then some layout.leafAt else scan.textualLeaf } := by
  induction entries generalizing scan with
  | nil => rfl
  | cons entry entries ih =>
      rw [List.foldl_cons, List.foldl_cons, ih]
      cases entry <;> simp [RootScan.describe, RootEntry.capabilities?]

theorem unitEntry_quadlet (rom : ConfigRom) (entry : UnitEntry) :
    rom.unitEntry entry.quadlet = rom.describe entry := by
  have key := entryKey_dirEntry entry.key entry.value.isLt
  have value := entryValue_dirEntry entry.key entry.value.isLt
  simp only [ConfigRom.unitEntry, ConfigRom.describe, UnitEntry.quadlet, key, value,
    UnitEntry.value?]
  by_cases spec : entry.key = 0x12
  · rw [if_pos ((toUInt32_eq_iff 0x12 0x12 rfl).mpr spec), spec]
    rfl
  rw [if_neg (mt (toUInt32_eq_iff 0x12 0x12 rfl).mp spec), if_neg spec]
  by_cases version : entry.key = 0x13
  · rw [if_pos ((toUInt32_eq_iff 0x13 0x13 rfl).mpr version), version]
    rfl
  rw [if_neg (mt (toUInt32_eq_iff 0x13 0x13 rfl).mp version), if_neg version]
  by_cases model : entry.key = 0x17
  · rw [if_pos ((toUInt32_eq_iff 0x17 0x17 rfl).mpr model), model]
    rfl
  rw [if_neg (mt (toUInt32_eq_iff 0x17 0x17 rfl).mp model), if_neg model]
  rfl

theorem scanUnit_map {i : Nat} {entries : List UnitEntry} (rom : ConfigRom)
    (held : Holds image i (entries.map UnitEntry.quadlet)) :
    image.scanUnit entries.length i rom = entries.foldl ConfigRom.describe rom := by
  induction entries generalizing i rom with
  | nil => rfl
  | cons entry entries ih =>
      obtain ⟨here, later⟩ := holds_cons.mp held
      rw [List.length_cons, RomImage.scanUnit, here, unitEntry_quadlet, List.foldl_cons]
      exact ih _ later

theorem foldl_describe_unit (entries : List UnitEntry) (rom : ConfigRom) :
    entries.foldl ConfigRom.describe rom =
      { rom with
        unitSpecId := entries.foldl
          (fun found entry => ((entry.value? 0x12).map word).getD found) rom.unitSpecId
        unitSwVersion := entries.foldl
          (fun found entry => ((entry.value? 0x13).map word).getD found) rom.unitSwVersion
        modelId := entries.foldl
          (fun found entry => ((entry.value? 0x17).map word).getD found) rom.modelId } := by
  induction entries generalizing rom with
  | nil => rfl
  | cons entry entries ih => 
      rw [List.foldl_cons, ih]
      rfl

end Directories

/-! ## The round trip -/

namespace Layout

variable {d : Description} (layout : Layout d)

theorem length_entriesFrom (i : Nat) (entries : List RootEntry) :
    (layout.entriesFrom i entries).length = entries.length := by
  induction entries generalizing i with
  | nil => rfl
  | cons entry entries ih => rw [entriesFrom, List.length_cons, ih, List.length_cons]

theorem length_head : layout.head.length = 6 + d.root.length := by
  rw [head, List.length_append, length_entriesFrom]
  rfl

theorem unitDirectory_mem : .unitDirectory ∈ d.root ↔ d.unit.isSome := by
  rw [← List.count_pos_iff, d.unit_pointer]
  cases d.unit <;> simp

theorem textualLeaf_mem : .textualLeaf ∈ d.root ↔ d.leaf.isSome := by
  rw [← List.count_pos_iff, d.leaf_pointer]
  cases d.leaf <;> simp

/-- Every entry of the root directory fits where it is put. -/
theorem fits {k : Nat} {entry : RootEntry} (found : d.root[k]? = some entry) :
    Fits layout (6 + k) entry := by
  obtain ⟨inside, -⟩ := List.getElem?_eq_some_iff.mp found
  have member := List.mem_of_getElem? found
  refine ⟨?_, ?_, ?_⟩
  · rintro key value rfl
    exact d.root_others key value member
  · rintro rfl
    have later := layout.unit_later (unitDirectory_mem.mp member)
    exact ⟨by omega, layout.unit_reached k found⟩
  · rintro rfl
    have later := layout.leaf_later (textualLeaf_mem.mp member)
    exact ⟨by omega, layout.leaf_reached k found⟩

/-- The unit directory lies behind the root directory, and not far. -/
theorem unitBlock_placed (something : layout.unitBlock ≠ []) :
    6 + d.root.length ≤ layout.unitAt ∧ layout.unitAt + layout.unitBlock.length < 2 ^ 60 := by
  cases present : d.unit with
  | none => simp [unitBlock, present] at something
  | some entries =>
      have some_unit : d.unit.isSome := by rw [present]; rfl
      obtain ⟨k, inside, found⟩ := List.getElem_of_mem (unitDirectory_mem.mpr some_unit)
      have reached := layout.unit_reached k (by rw [List.getElem?_eq_getElem inside, found])
      have short := d.unit_length entries present
      have length := d.root_length
      refine ⟨layout.unit_later some_unit, ?_⟩
      simp only [unitBlock, present, List.length_cons, List.length_map]
      omega

/-- The textual leaf lies behind the root directory, and not far. -/
theorem leafBlock_placed (something : layout.leafBlock ≠ []) :
    6 + d.root.length ≤ layout.leafAt ∧ layout.leafAt + layout.leafBlock.length < 2 ^ 60 := by
  cases present : d.leaf with
  | none => simp [leafBlock, present] at something
  | some leaf =>
      have some_leaf : d.leaf.isSome := by rw [present]; rfl
      obtain ⟨k, inside, found⟩ := List.getElem_of_mem (textualLeaf_mem.mpr some_leaf)
      have reached := layout.leaf_reached k (by rw [List.getElem?_eq_getElem inside, found])
      have short := d.leaf_length leaf present
      have length := d.root_length
      refine ⟨layout.leaf_later some_leaf, ?_⟩
      simp only [leafBlock, present, List.length_cons]
      omega

theorem blocks_apart (someUnit : layout.unitBlock ≠ []) (someLeaf : layout.leafBlock ≠ []) :
    layout.unitAt + layout.unitBlock.length ≤ layout.leafAt ∨
      layout.leafAt + layout.leafBlock.length ≤ layout.unitAt := by
  cases unit : d.unit with
  | none => simp [unitBlock, unit] at someUnit
  | some entries =>
      cases present : d.leaf with
      | none => simp [leafBlock, present] at someLeaf
      | some leaf =>
          have apart := layout.apart entries unit leaf present
          simp only [unitBlock, leafBlock, unit, present, List.length_cons, List.length_map]
          omega

variable (memory : Memory) (com : CommunicationLibraw1394)

/-- The parts of the ROM lie where the layout put them. -/
theorem holds_store :
    Holds (romImage (layout.store memory com.handle.port com.node) com) 0 layout.head ∧
      (layout.unitBlock ≠ [] → Holds (romImage (layout.store memory com.handle.port com.node) com)
        layout.unitAt layout.unitBlock) ∧
      (layout.leafBlock ≠ [] → Holds (romImage (layout.store memory com.handle.port com.node) com)
        layout.leafAt layout.leafBlock) := by
  have length := layout.length_head
  have short := d.root_length
  have head : Holds (romImage (storeAt memory com.handle.port com.node 0 layout.head) com) 0
      layout.head := holds_storeAt (by omega)
  refine ⟨?_, ?_, ?_⟩
  · refine (head.storeAt (by omega) (fun u => (layout.unitBlock_placed u).2) fun u => ?_).storeAt
      (by omega) (fun l => (layout.leafBlock_placed l).2) fun l => ?_
    · have := (layout.unitBlock_placed u).1
      omega
    · have := (layout.leafBlock_placed l).1
      omega
  · intro u
    have placed := (layout.unitBlock_placed u).2
    exact (holds_storeAt placed).storeAt placed (fun l => (layout.leafBlock_placed l).2)
      (layout.blocks_apart u)
  · exact fun l => holds_storeAt (layout.leafBlock_placed l).2

section Parse

variable {image : RomImage} (held : Holds image 0 layout.head)
include held

/-- The quadlets in front of the root directory. -/
theorem quadlets_of_head :
    image.quadlet 0 = UInt32.ofNat (4 * 2 ^ 24 + (layout.filler 0).toNat % 2 ^ 24) ∧
      image.quadlet 1 = 0x31333934 ∧ image.quadlet 2 = capsQuadlet d (layout.filler 2) ∧
      image.quadlet 3 = UInt32.ofNat (d.vendorId.toNat * 2 ^ 8 + d.chipIdHi.toNat) ∧
      image.quadlet 4 = d.chipIdLo ∧
      image.quadlet 5 = lengthQuadlet d.root.length (layout.filler 5) ∧
      Holds image 6 (layout.entriesFrom 6 d.root) := by
  obtain ⟨front, entries⟩ := holds_append.mp held
  simp only [holds_cons] at front
  obtain ⟨header, magic, caps, ids, lo, length, -⟩ := front
  exact ⟨header, magic, caps, ids, lo, length, entries⟩

theorem isGeneral : image.IsGeneral := by
  have header := (layout.quadlets_of_head held).1
  apply UInt32.toNat_inj.mp
  rw [toNat_shiftRight _ (by decide), header, UInt32.toNat_ofNat']
  show _ / 2 ^ 24 = 4
  omega

theorem hasMagic : image.HasMagic := (layout.quadlets_of_head held).2.1

/-- The scan of the root directory finds what was described. -/
theorem root_eq : image.root =
    { nodeCapabilities := soleValue RootEntry.capabilities? d.root
      unitDir := d.unit.map fun _ => layout.unitAt
      textualLeaf := d.leaf.map fun _ => layout.leafAt } := by
  obtain ⟨-, -, -, -, -, length, entries⟩ := layout.quadlets_of_head held
  have short := d.root_length
  rw [RomImage.root, lengthAt_of_quadlet (by omega) length, Nat.min_eq_left short,
    scanRoot_entriesFrom layout _ entries fun k entry found => layout.fits found, foldl_describe]
  have capabilities := foldl_soleValue d.capabilities_unique
  simp only [unitDirectory_mem, textualLeaf_mem, RootScan.empty, capabilities]
  cases d.unit <;> cases d.leaf <;> rfl

theorem rootFields_eq : image.rootFields =
    { d.rom with unitSpecId := 0, unitSwVersion := 0, modelId := 0, vendor := none } := by
  obtain ⟨-, -, caps, ids, lo, -, -⟩ := layout.quadlets_of_head held
  rw [RomImage.rootFields, layout.root_eq held, caps, ids, lo, busInfo_eq]
  rfl

end Parse

/-- The scan of the unit directory finds what was described. -/
theorem addUnit_eq {image : RomImage} (rom : ConfigRom)
    (zero : rom.unitSpecId = 0 ∧ rom.unitSwVersion = 0 ∧ rom.modelId = 0)
    (held : layout.unitBlock ≠ [] → Holds image layout.unitAt layout.unitBlock) :
    image.addUnit rom (d.unit.map fun _ => layout.unitAt) =
      { rom with
        unitSpecId := d.rom.unitSpecId
        unitSwVersion := d.rom.unitSwVersion
        modelId := d.rom.modelId } := by
  obtain ⟨spec, version, model⟩ := zero
  cases present : d.unit with
  | none =>
      simp only [Description.rom, present, Option.map_none, RomImage.addUnit, Option.getD_none]
      rw [show soleValue (UnitEntry.value? 0x12) [] = rom.unitSpecId from spec.symm,
        show soleValue (UnitEntry.value? 0x13) [] = rom.unitSwVersion from version.symm,
        show soleValue (UnitEntry.value? 0x17) [] = rom.modelId from model.symm]
  | some entries =>
      simp only [unitBlock, present] at held
      obtain ⟨length, rest⟩ := holds_cons.mp (held (List.cons_ne_nil _ _))
      have unique := d.unit_unique entries present
      rw [Option.map_some, RomImage.addUnit,
        lengthAt_of_quadlet (d.unit_length entries present) length, scanUnit_map rom rest,
        foldl_describe_unit, spec, version, model, foldl_soleValue (unique 0x12 (by decide)),
        foldl_soleValue (unique 0x13 (by decide)), foldl_soleValue (unique 0x17 (by decide))]
      simp only [Description.rom, present, Option.getD_some]

/-- The text of the leaf is what was described. -/
theorem addLeaf_eq {image : RomImage} (rom : ConfigRom) (null : rom.vendor = none)
    (held : layout.leafBlock ≠ [] → Holds image layout.leafAt layout.leafBlock) :
    image.addLeaf rom (d.leaf.map fun _ => layout.leafAt) =
      { rom with vendor := d.rom.vendor } := by
  cases present : d.leaf with
  | none =>
      simp only [Description.rom, present, Option.map_none, RomImage.addLeaf]
      rw [← null]
  | some leaf =>
      simp only [leafBlock, present] at held
      obtain ⟨length, rest⟩ := holds_cons.mp (held (List.cons_ne_nil _ _))
      obtain ⟨-, rest⟩ := holds_cons.mp rest
      obtain ⟨-, text⟩ := holds_cons.mp rest
      have lengthAt := lengthAt_of_quadlet (d.leaf_length leaf present) length
      simp only [Description.rom, present, Option.map_some, RomImage.addLeaf, RomImage.text,
        lengthAt, Nat.add_sub_cancel]
      rw [← text]

/-- A ROM that holds the parts says what was described. -/
theorem parse_eq {image : RomImage} (head : Holds image 0 layout.head)
    (unit : layout.unitBlock ≠ [] → Holds image layout.unitAt layout.unitBlock)
    (leaf : layout.leafBlock ≠ [] → Holds image layout.leafAt layout.leafBlock) :
    image.parse = some d.rom := by
  rw [RomImage.parse, if_pos (layout.isGeneral head), if_pos (layout.hasMagic head),
    RomImage.fields, layout.root_eq head, layout.rootFields_eq head,
    layout.addUnit_eq _ ⟨rfl, rfl, rfl⟩ unit, layout.addLeaf_eq _ rfl leaf]

theorem leafFits {image : RomImage} (head : Holds image 0 layout.head)
    (held : layout.leafBlock ≠ [] → Holds image layout.leafAt layout.leafBlock) :
    image.LeafFits := by
  intro _ _ i found
  rw [layout.root_eq head] at found
  cases present : d.leaf with
  | none => simp [present] at found
  | some leaf =>
      simp only [present, Option.map_some, Option.some.injEq] at found
      subst found
      simp only [leafBlock, present] at held
      obtain ⟨length, -⟩ := holds_cons.mp (held (List.cons_ne_nil _ _))
      rw [lengthAt_of_quadlet (d.leaf_length leaf present) length]
      omega

end Layout

/-- **Parsing undoes layout.**  Whatever ROM is described, however it is laid
out and whatever else is in the memories: `readConfigRom` on a little-endian
host marks the ROM as valid and stores exactly the described structure. -/
theorem readConfigRom_layout {d : Description} (layout : Layout d) (memory : Memory)
    (device : FirewireDevice) :
    let rom := layout.store memory device.com.handle.port device.com.node
    FirewireDevice.readConfigRom .little (onMemory rom device) =
      .returned () (onMemory rom { device with configRom := d.rom, configRomValid := true }) := by
  obtain ⟨head, unit, leaf⟩ := layout.holds_store memory device.com
  intro rom
  rw [FirewireDevice.readConfigRom_eq (layout.leafFits head leaf),
    layout.parse_eq head unit leaf]
  rfl

/-- The ROM of a Phantom: its capabilities and its vendor, a unit directory and a
textual leaf. -/
def phantomDescription : Description where
  irmCap := 0
  cycleMasterCap := 1
  isoCap := 1
  busManagerCap := 0
  cycleClkAccuracy := 100
  maxRec := 8
  linkSpeed := 2
  vendorId := 0x000b99
  chipIdHi := 0
  chipIdLo := 7
  root :=
    [.other 0x03 0x000b99, .textualLeaf, .nodeCapabilities 0x0083c0, .unitDirectory]
  unit := some [⟨0x13, 1⟩, ⟨0x12, 0x000b99⟩, ⟨0x3a, 0⟩, ⟨0x17, 2⟩]
  leaf := some ⟨0, 0, [0x53656e73, 0x61626c65, 0]⟩
  root_length := by decide
  root_others := by
    intro key value member
    simp only [List.mem_cons, RootEntry.other.injEq, reduceCtorEq, List.not_mem_nil,
      or_false] at member
    rw [member.1]
    decide
  capabilities_unique := by decide
  unit_pointer := by decide
  leaf_pointer := by decide
  unit_length := by
    rintro entries ⟨⟩
    exact (by decide : 4 < 2 ^ 16)
  unit_unique := by
    rintro entries ⟨⟩
    decide +kernel
  leaf_length := by
    rintro leaf ⟨⟩
    exact (by decide : 3 + 2 < 2 ^ 16)

/-- The leaf in front of the unit directory. -/
def phantomLayout : Layout phantomDescription where
  unitAt := 20
  leafAt := 10
  filler _ := 0
  unit_later _ := by decide
  leaf_later _ := by decide
  unit_reached _ _ := Nat.lt_of_le_of_lt (Nat.sub_le _ _) (by decide)
  leaf_reached _ _ := Nat.lt_of_le_of_lt (Nat.sub_le _ _) (by decide)
  apart := by
    rintro entries ⟨⟩ leaf ⟨⟩
    exact .inr (by decide)

theorem readConfigRom_layout_phantom :
    let com : CommunicationLibraw1394 := ⟨0xffc0, ⟨0, 0⟩, none, none⟩
    let rom := phantomLayout.store (fun _ _ _ => 0) 0 0xffc0
    ∃ device, FirewireDevice.readConfigRom .little (onMemory rom (.new com)) =
        .returned () (onMemory rom device) ∧ device.configRomValid = true ∧
      device.configRom.maxAsyncBwritePayload = 512 ∧ device.configRom.nodeCapabilities = 0x0083c0 ∧
      device.configRom.unitSpecId = 0x000b99 ∧ device.configRom.unitSwVersion = 1 ∧
      device.configRom.modelId = 2 ∧ device.configRom.vendor =
        some [0x53, 0x65, 0x6e, 0x73, 0x61, 0x62, 0x6c, 0x65, 0, 0, 0, 0] :=
  ⟨_, readConfigRom_layout phantomLayout (fun _ _ _ => 0) (.new ⟨0xffc0, ⟨0, 0⟩, none, none⟩), rfl,
    by decide +kernel, by decide +kernel, by decide +kernel, by decide +kernel, by decide +kernel,
    by decide +kernel⟩

end LibPhantom
