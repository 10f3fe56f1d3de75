import PhantomDrivers.LibPhantom.Communication

/-!
# The configuration ROM of a node

`FirewireDevice.cpp`: the part of a device object that does not depend on the
platform.  It reads the configuration ROM of the node once and answers from
what it stored.

The ROM is parsed *in place*: `readConfigRom` fills the structure of the object
field by field, so a read that throws in the middle leaves a half-filled
structure behind, which only the two flags keep from being used.
-/

namespace LibPhantom

open Semantics Raw1394

/-- `struct config_rom`.  The one-bit fields of the source are bit vectors of
width one; `vendor` is the buffer the pointer leads to, if it is not null. -/
structure ConfigRom where
  irmCap : BitVec 1
  cycleMasterCap : BitVec 1
  isoCap : BitVec 1
  busManagerCap : BitVec 1
  cycleClkAccuracy : UInt8
  maxAsyncBwritePayload : UInt32
  linkSpeed : UInt32
  guidLo : UInt32
  guidHi : UInt32
  nodeCapabilities : UInt32
  vendorId : UInt32
  unitSpecId : UInt32
  unitSwVersion : UInt32
  modelId : UInt32
  vendor : Option (List UInt8)
deriving DecidableEq, Repr

/-- `memset(&configRom, 0, sizeof(struct config_rom))` -/
def ConfigRom.zero : ConfigRom := ⟨0, 0, 0, 0, 0, 0, 0, 0, 0, 0, 0, 0, 0, 0, none⟩

/-- A `FirewireDevice`. -/
structure FirewireDevice where
  com : CommunicationLibraw1394
  configRom : ConfigRom
  configRomRead : Bool
  configRomValid : Bool
deriving DecidableEq, Repr

/-- `CSR_REGISTER_BASE + CSR_CONFIG_ROM` -/
def CONFIG_ROM_ADDR : UInt64 := 0xfffff0000000 + 0x400

/-- What a method of a device works on: the bus and the fields of its object. -/
structure DeviceState (β : Type) where
  bus : β
  device : FirewireDevice

namespace FirewireDevice

variable {β : Type} [Bus β]

/-- The device after its construction. -/
def new (com : CommunicationLibraw1394) : FirewireDevice := ⟨com, .zero, false, false⟩

/-- `FirewireDevice::read` -/
def read (address : UInt64) (length : UInt32) : Call Exn (DeviceState β) (List UInt8) := do
  let s ← get
  Call.within DeviceState.bus (fun b s => { s with bus := b }) (s.device.com.read address length)

/-- `FirewireDevice::write` -/
def write (address : UInt64) (data : List UInt8) : Call Exn (DeviceState β) Unit := do
  let s ← get
  Call.within DeviceState.bus (fun b s => { s with bus := b }) (s.device.com.write address data)

/-- A read of four bytes into an integer of the host. -/
def readQuadlet (endian : Endian) (address : UInt64) : Call Exn (DeviceState β) UInt32 := do
  let buffer ← read address 4
  return endian.decode buffer

/-- Assignments to fields of `configRom`. -/
def modifyRom (f : ConfigRom → ConfigRom) : Call Exn (DeviceState β) Unit :=
  modify fun s => { s with device := { s.device with configRom := f s.device.configRom } }

/-- The second to the fourth data quadlet of the bus info block, from the
address of the magic number on; the address of the last one. -/
def readBusInfo (endian : Endian) (addr : UInt64) : Call Exn (DeviceState β) UInt64 := do
  let addr := addr + 4
  let quadlet := endian.ntohl (← readQuadlet endian addr)
  modifyRom fun rom =>
    { rom with
      irmCap := (quadlet >>> 31).toBitVec.setWidth 1
      cycleMasterCap := ((quadlet >>> 30) &&& 0x01).toBitVec.setWidth 1
      isoCap := ((quadlet >>> 29) &&& 0x01).toBitVec.setWidth 1
      busManagerCap := ((quadlet >>> 28) &&& 0x01).toBitVec.setWidth 1
      cycleClkAccuracy := ((quadlet >>> 16) &&& 0xff).toUInt8
      maxAsyncBwritePayload := (2 : UInt32) <<< ((quadlet >>> 12) &&& 0x0f)
      linkSpeed := quadlet &&& 7 }
  let addr := addr + 4
  let quadlet := endian.ntohl (← readQuadlet endian addr)
  modifyRom fun rom => { rom with vendorId := quadlet >>> 8, guidHi := quadlet &&& 0xff }
  let addr := addr + 4
  let quadlet := endian.ntohl (← readQuadlet endian addr)
  modifyRom fun rom => { rom with guidLo := quadlet }
  return addr

/-- The scan of the root directory: the number of entries left, the address of
the previous one, and `unit_dir_addr` and `textual_leaf_addr` so far. -/
def scanRootDirectory (endian : Endian) :
    Nat → UInt64 → UInt64 → UInt64 → Call Exn (DeviceState β) (UInt64 × UInt64)
  | 0, _, unitDirAddr, textualLeafAddr => return (unitDirAddr, textualLeafAddr)
  | entries + 1, addr, unitDirAddr, textualLeafAddr => do
      let addr := addr + 4
      let quadlet := endian.ntohl (← readQuadlet endian addr)
      let value := quadlet &&& 0x00ffffff
      if quadlet >>> 24 = 0x0c then
        modifyRom fun rom => { rom with nodeCapabilities := value }
        scanRootDirectory endian entries addr unitDirAddr textualLeafAddr
      else if quadlet >>> 24 = 0xd1 then
        scanRootDirectory endian entries addr (addr + (value * 4).toUInt64) textualLeafAddr
      else if quadlet >>> 24 = 0x81 then
        scanRootDirectory endian entries addr unitDirAddr (addr + (value * 4).toUInt64)
      else
        -- 0x03 and 0x8d are known but not stored
        scanRootDirectory endian entries addr unitDirAddr textualLeafAddr

/-- The scan of the unit directory: the number of entries left and the address
of the previous one. -/
def scanUnitDirectory (endian : Endian) : Nat → UInt64 → Call Exn (DeviceState β) Unit
  | 0, _ => return ()
  | entries + 1, addr => do
      let addr := addr + 4
      let quadlet := endian.ntohl (← readQuadlet endian addr)
      let value := quadlet &&& 0x00ffffff
      modifyRom fun rom =>
        if quadlet >>> 24 = 0x12 then { rom with unitSpecId := value }
        else if quadlet >>> 24 = 0x13 then { rom with unitSwVersion := value }
        else if quadlet >>> 24 = 0x17 then { rom with modelId := value }
        else rom
      scanUnitDirectory endian entries addr

/-- The root directory, from the address of the last bus info quadlet on. -/
def readRootDirectory (endian : Endian) (addr : UInt64) :
    Call Exn (DeviceState β) (UInt64 × UInt64) := do
  let addr := addr + 4
  let quadlet := endian.ntohl (← readQuadlet endian addr)
  let len := quadlet >>> 16
  let len := if len > 16 then 16 else len
  scanRootDirectory endian len.toNat addr 0 0

/-- `if (unit_dir_addr > 0) …` -/
def readUnitDirectory (endian : Endian) (unitDirAddr : UInt64) :
    Call Exn (DeviceState β) Unit := do
  if unitDirAddr > 0 then
    let quadlet := endian.ntohl (← readQuadlet endian unitDirAddr)
    let len := quadlet >>> 16
    scanUnitDirectory endian len.toNat unitDirAddr

/-- `if (textual_leaf_addr > 0) …`: the buffer is allocated before it is
filled. -/
def readTextualLeaf (endian : Endian) (textualLeafAddr : UInt64) :
    Call Exn (DeviceState β) Unit := do
  if textualLeafAddr > 0 then
    let quadlet := endian.ntohl (← readQuadlet endian textualLeafAddr)
    let len := quadlet >>> 16
    let len := (len - 2) * 4
    modifyRom fun rom => { rom with vendor := some (List.replicate len.toNat 0) }
    let buffer ← read (textualLeafAddr + 12) len
    modifyRom fun rom => { rom with vendor := some buffer }

/-- `FirewireDevice::readConfigRom` -/
def readConfigRom (endian : Endian) : Call Exn (DeviceState β) Unit := do
  let addr := CONFIG_ROM_ADDR
  modifyRom fun _ => .zero
  let quadlet := endian.ntohl (← readQuadlet endian addr)
  if quadlet >>> 24 ≠ 4 then
    modifyRom fun rom => { rom with vendorId := quadlet &&& 0x00ffffff }
    modify fun s => { s with device := { s.device with configRomValid := true } }
  else
    let addr := addr + 4
    -- the magic number is compared as the host sees it, without `ntohl`
    let quadlet ← readQuadlet endian addr
    if quadlet ≠ 0x34393331 then
      return ()
    else
      let addr ← readBusInfo endian addr
      let (unitDirAddr, textualLeafAddr) ← readRootDirectory endian addr
      readUnitDirectory endian unitDirAddr
      readTextualLeaf endian textualLeafAddr
      modify fun s => { s with device := { s.device with configRomValid := true } }

/-- `FirewireDevice::getConfigRom` -/
def getConfigRom (endian : Endian) : Call Exn (DeviceState β) (Option ConfigRom) := do
  if !(← get).device.configRomRead then
    readConfigRom endian
    modify fun s => { s with device := { s.device with configRomRead := true } }
  let device := (← get).device
  return if device.configRomValid then some device.configRom else none

/-- `FirewireDevice::getVendorId` -/
def getVendorId (endian : Endian) : Call Exn (DeviceState β) UInt32 := do
  match ← getConfigRom endian with
  | none => return 0
  | some crom => return crom.vendorId

/-- `FirewireDevice::getVendorName` -/
def getVendorName (endian : Endian) : Call Exn (DeviceState β) (Option (List UInt8)) := do
  match ← getConfigRom endian with
  | none => return none
  | some crom => return crom.vendor

/-- `FirewireDevice::isSensableDevice`: the vendor word is compared as the host
sees it. -/
def isSensableDevice (endian : Endian) : Call Exn (DeviceState β) Bool := do
  if (← getVendorId endian) ≠ 0x000b99 then
    return false
  else
    let vendor ← readQuadlet endian 0x1006000c
    if vendor ≠ 0x00990b00 then
      return false
    else
      return true

end FirewireDevice

end LibPhantom
