import PhantomDrivers.LibPhantom.FirewireDevice
import PhantomDrivers.Raw1394.Memory

/-!
# The format of a configuration ROM

What a configuration ROM *says*, as a function of its bytes: `RomImage.parse`.
The parsers of the repository walk through the ROM with addresses or offsets
and fill a structure on the way; this one counts in quadlets and is pure.

* `RomImage.quadlet` — the `i`-th quadlet of the ROM.
* `RootScan`, `scanRoot` — the root directory: entries in order, a later one
  with the same key wins, pointers are relative to the entry itself.
* `unitEntry`, `scanUnit` — the unit directory.
* `RomImage.parse` — the stored fields; `none` for a wrong magic number.
* `RomImage.parseOn` — what the library makes of it, on a host of either byte
  order.
* `FirewireDevice.readConfigRom_eq` — `readConfigRom` computes `parse` on a
  little-endian host.
-/

namespace LibPhantom

open Semantics Raw1394

/-- The bytes of a configuration ROM, from its start on. -/
abbrev RomImage : Type := Nat → UInt8

/-- The key of a directory entry. -/
def entryKey (entry : UInt32) : UInt32 := entry >>> 24

/-- The value of a directory entry. -/
def entryValue (entry : UInt32) : UInt32 := entry &&& 0x00ffffff

theorem entryValue_lt (entry : UInt32) : (entryValue entry).toNat < 2 ^ 24 := by
  rw [entryValue, UInt32.toNat_and]
  exact Nat.lt_of_le_of_lt Nat.and_le_right (by decide)

/-- What the scan of the root directory has found so far. -/
structure RootScan where
  nodeCapabilities : UInt32
  /-- the quadlet the unit directory starts at -/
  unitDir : Option Nat
  /-- the quadlet the textual leaf starts at -/
  textualLeaf : Option Nat
deriving DecidableEq, Repr

/-- Nothing has been found yet. -/
def RootScan.empty : RootScan := ⟨0, none, none⟩

/-- The entry in quadlet `i`. -/
def RootScan.entry (scan : RootScan) (i : Nat) (entry : UInt32) : RootScan :=
  if entryKey entry = 0x0c then { scan with nodeCapabilities := entryValue entry }
  else if entryKey entry = 0xd1 then { scan with unitDir := some (i + (entryValue entry).toNat) }
  else if entryKey entry = 0x81 then
    { scan with textualLeaf := some (i + (entryValue entry).toNat) }
  else scan

/-- An entry of the unit directory. -/
def ConfigRom.unitEntry (rom : ConfigRom) (entry : UInt32) : ConfigRom :=
  if entryKey entry = 0x12 then { rom with unitSpecId := entryValue entry }
  else if entryKey entry = 0x13 then { rom with unitSwVersion := entryValue entry }
  else if entryKey entry = 0x17 then { rom with modelId := entryValue entry }
  else rom

/-- The second to the fourth data quadlet of the bus info block. -/
def ConfigRom.busInfo (rom : ConfigRom) (caps ids lo : UInt32) : ConfigRom :=
  { rom with
    irmCap := (caps >>> 31).toBitVec.setWidth 1
    cycleMasterCap := ((caps >>> 30) &&& 0x01).toBitVec.setWidth 1
    isoCap := ((caps >>> 29) &&& 0x01).toBitVec.setWidth 1
    busManagerCap := ((caps >>> 28) &&& 0x01).toBitVec.setWidth 1
    cycleClkAccuracy := ((caps >>> 16) &&& 0xff).toUInt8
    maxAsyncBwritePayload := (2 : UInt32) <<< ((caps >>> 12) &&& 0x0f)
    linkSpeed := caps &&& 7
    vendorId := ids >>> 8
    guidHi := ids &&& 0xff
    guidLo := lo }

namespace RomImage

variable (image : RomImage)

/-- The `i`-th quadlet. -/
def quadlet (i : Nat) : UInt32 :=
  beQuadlet (image (4 * i)) (image (4 * i + 1)) (image (4 * i + 2)) (image (4 * i + 3))

/-- The `i`-th quadlet as it lies in the memory of a host. -/
def seen (host : Endian) (i : Nat) : UInt32 :=
  host.quadlet (image (4 * i)) (image (4 * i + 1)) (image (4 * i + 2)) (image (4 * i + 3))

@[simp] theorem ntohl_seen (host : Endian) (i : Nat) :
    host.ntohl (image.seen host i) = image.quadlet i :=
  Endian.ntohl_quadlet ..

/-- Quadlets are compared in either byte order. -/
theorem seen_little_eq_iff {i : Nat} {value : UInt32} :
    image.seen .little i = Endian.little.ntohl value ↔ image.quadlet i = value :=
  Endian.little_quadlet_eq_iff

/-- `n` entries of the root directory, from quadlet `i` on. -/
def scanRoot : Nat → Nat → RootScan → RootScan
  | 0, _, scan => scan
  | n + 1, i, scan => scanRoot n (i + 1) (scan.entry i (image.quadlet i))

/-- `n` entries of the unit directory, from quadlet `i` on. -/
def scanUnit : Nat → Nat → ConfigRom → ConfigRom
  | 0, _, rom => rom
  | n + 1, i, rom => scanUnit n (i + 1) (rom.unitEntry (image.quadlet i))

/-- The length in the first quadlet of a directory or a leaf. -/
def lengthAt (i : Nat) : Nat := (image.quadlet i >>> 16).toNat

/-- The root directory; entries behind the sixteenth are not looked at. -/
def root : RootScan := image.scanRoot (min (image.lengthAt 5) 16) 6 .empty

/-- The ROM has the general format. -/
def IsGeneral : Prop := image.quadlet 0 >>> 24 = 4

/-- The magic number of the bus info block is the one of the bus. -/
def HasMagic : Prop := image.quadlet 1 = 0x31333934

instance : Decidable image.IsGeneral := inferInstanceAs (Decidable (_ = _))

instance : Decidable image.HasMagic := inferInstanceAs (Decidable (_ = _))

/-- The fields up to the root directory. -/
def rootFields : ConfigRom :=
  { ConfigRom.zero.busInfo (image.quadlet 2) (image.quadlet 3) (image.quadlet 4) with
    nodeCapabilities := image.root.nodeCapabilities }

/-- The fields of the unit directory added, if there is one. -/
def addUnit (rom : ConfigRom) : Option Nat → ConfigRom
  | none => rom
  | some i => image.scanUnit (image.lengthAt i) (i + 1) rom

/-- The text of the leaf at quadlet `i`: what its length covers behind the two
quadlets of the language. -/
def text (i : Nat) : List UInt8 :=
  bytesOf (fun k => image (4 * (i + 3) + k)) (4 * (image.lengthAt i - 2))

/-- The text of the textual leaf added, if there is one. -/
def addLeaf (rom : ConfigRom) : Option Nat → ConfigRom
  | none => rom
  | some i => { rom with vendor := some (image.text i) }

/-- What a ROM of the general format says. -/
def fields : ConfigRom :=
  image.addLeaf (image.addUnit image.rootFields image.root.unitDir) image.root.textualLeaf

/-- What the ROM says, if its magic number is right. -/
def parse : Option ConfigRom :=
  if image.IsGeneral then
    if image.HasMagic then some image.fields else none
  else some { ConfigRom.zero with vendorId := entryValue (image.quadlet 0) }

/-- If a textual leaf is pointed to, its length field is at least 2. -/
def LeafFits : Prop :=
  image.IsGeneral → image.HasMagic → ∀ i, image.root.textualLeaf = some i → 2 ≤ image.lengthAt i

/-- The magic number is the one the library looks for on a host: it does not
swap this quadlet. -/
def Accepted (host : Endian) : Prop := image.seen host 1 = 0x34393331

instance (host : Endian) : Decidable (image.Accepted host) := inferInstanceAs (Decidable (_ = _))

/-- What the library makes of the ROM on a host. -/
def parseOn (host : Endian) : Option ConfigRom :=
  if image.IsGeneral then
    if image.Accepted host then some image.fields else none
  else some { ConfigRom.zero with vendorId := entryValue (image.quadlet 0) }

/-- If the library reads a textual leaf on a host, its length is at least 2. -/
def LeafFitsOn (host : Endian) : Prop :=
  image.IsGeneral → image.Accepted host →
    ∀ i, image.root.textualLeaf = some i → 2 ≤ image.lengthAt i

/-- On a little-endian host the magic number is the right one. -/
theorem accepted_little : image.Accepted .little ↔ image.HasMagic := by
  rw [Accepted, show (0x34393331 : UInt32) = Endian.little.ntohl 0x31333934 by decide]
  exact seen_little_eq_iff image

theorem parseOn_little : image.parseOn .little = image.parse := by
  simp only [parseOn, parse, accepted_little]

theorem leafFitsOn_little : image.LeafFitsOn .little ↔ image.LeafFits := by
  simp only [LeafFitsOn, LeafFits, accepted_little]

theorem lengthAt_lt (i : Nat) : image.lengthAt i < 2 ^ 16 := by
  have := (image.quadlet i).toNat_lt
  rw [lengthAt, UInt32.toNat_shiftRight]
  show _ >>> 16 < _
  rw [Nat.shiftRight_eq_div_pow]
  omega

/-- A scan of the root directory finds pointers of its own entries only. -/
theorem scanRoot_pointers {n i : Nat} {scan : RootScan} {P : Nat → Prop}
    (reach : ∀ j < n, ∀ value < 2 ^ 24, P (i + j + value))
    (unitDir : ∀ k, scan.unitDir = some k → P k)
    (textualLeaf : ∀ k, scan.textualLeaf = some k → P k) :
    (∀ k, (image.scanRoot n i scan).unitDir = some k → P k) ∧
      ∀ k, (image.scanRoot n i scan).textualLeaf = some k → P k := by
  induction n generalizing i scan with
  | zero => exact ⟨unitDir, textualLeaf⟩
  | succ n ih =>
      have here := reach 0 (by omega) _ (entryValue_lt (image.quadlet i))
      refine ih (fun j inside value small => ?_) ?_ ?_
      · have there := reach (j + 1) (by omega) value small
        rwa [show i + (j + 1) = i + 1 + j by omega] at there
      · intro k
        unfold RootScan.entry
        split
        · exact unitDir k
        split
        · rintro ⟨⟩
          exact here
        split
        · exact unitDir k
        · exact unitDir k
      · intro k
        unfold RootScan.entry
        split
        · exact textualLeaf k
        split
        · exact textualLeaf k
        split
        · rintro ⟨⟩
          exact here
        · exact textualLeaf k

/-- The root directory points behind the start of the ROM, and not far. -/
theorem root_bounded :
    (∀ k, image.root.unitDir = some k → 0 < k ∧ k < 2 ^ 25) ∧
      ∀ k, image.root.textualLeaf = some k → 0 < k ∧ k < 2 ^ 25 := by
  refine image.scanRoot_pointers (fun j inside value small => ?_) nofun nofun
  omega

end RomImage

end LibPhantom
