import PhantomDrivers.LibPhantom.IsoRegisters
import PhantomDrivers.LibPhantom.Library
import PhantomDrivers.RevEng.EasyCom
import PhantomDrivers.Semantics.Packing
import PhantomDrivers.Semantics.Runs

/-!
# The reference driver

`rev-eng/omni.c`.  The driver keeps a table of the devices it found.  It sets
them up one after the other, and then waits in a loop until some of them have
data: it lets libraw1394 deliver what has arrived, computes the forces from the
state of the buttons, and lets libraw1394 fetch the packets to send.

libraw1394 calls the handlers of the driver.  What it delivers is chosen by the
environment: `RecvEvent` for the handle that receives, a number of requests for
the handle that transmits.  The packets requested while a transmission is being
started are the `prefill` of `initialiseDevice`.

* `Omni` — the table, the local variables of `main`, and the state of
  libraw1394.  The record of what happened is kept for the theorems only.
* `initialiseDevice`, `recvHandler`, `xmitHandler`, `busresetHandler`,
  `updateForces` — the functions.
* `Driver`, `driver` — `main` behind the scan, as a system whose actions are the
  choices of the environment.
-/

namespace RevEng

open Semantics Raw1394
open LibPhantom (ADDR_XMIT_CHANNEL ADDR_RECV_CHANNEL ADDR_CONTROL ADDR_CONTROL_enable_iso
  CHANNELS_AVAILABLE_ADDR IsoContext)

/-! ## Data -/

/-- `struct data_read`, as the bytes of its memory. -/
abbrev DataRead : Type := List UInt8

namespace DataRead

/-- `sizeof(struct data_read)` -/
def size : Nat := 44

/-- Static memory. -/
def zero : DataRead := List.replicate size 0

variable (data : DataRead)

/-- `status.bits` -/
def status : BitVec 8 := (data.getD 19 0).toBitVec

/-- The bit-fields of `status`, in the order of their declaration.  They begin
with the lowest bit or with the highest bit, like the bytes of the host. -/
def bits (host : Endian) : Fin 8 → Bool := (host.flags 8).symm (status data)

/-- `status.button1`: pressed if it is clear -/
def button1 (host : Endian) : Bool := bits data host 0

/-- `status.button2`: pressed if it is clear -/
def button2 (host : Endian) : Bool := bits data host 1

/-- `status.docked`: docked if it is clear -/
def docked (host : Endian) : Bool := bits data host 2

@[simp] theorem bits_zero (host : Endian) : bits zero host = fun _ => false := by
  cases host <;> decide

end DataRead

/-- `struct data_write` -/
structure DataWrite where
  forceX : Int16
  forceY : Int16
  forceZ : Int16
  status : BitVec 16
  unused1 : UInt32
  unused2 : UInt32
deriving DecidableEq, Repr

namespace DataWrite

/-- `fill_default_data` -/
def fillDefaultData : DataWrite := ⟨0x500, 0x7ff, 0x7ff, 0x53c0, 0, 0⟩

/-- The bit-fields of `status`, in the order of their declaration. -/
def bits (data : DataWrite) (host : Endian) : Fin 16 → Bool := (host.flags 16).symm data.status

/-- An assignment to a bit-field of `status`. -/
def setBit (data : DataWrite) (host : Endian) (bit : Fin 16) (value : Bool) : DataWrite :=
  { data with status := host.flags 16 (Function.update (data.bits host) bit value) }

/-- `status.motors_on` -/
def motorsOn (data : DataWrite) (host : Endian) : Bool := data.bits host 3

/-- The interaction with the buttons: the bits `motors_on`, `dl_flash` and
`dl_fflash`. -/
def withButtons (force : DataWrite) (host : Endian) (data : DataRead) : DataWrite :=
  ((force.setBit host 3 !data.button1 host).setBit host 0 !data.button1 host).setBit host 1
    !data.button2 host

@[simp] theorem bits_setBit (data : DataWrite) (host : Endian) (bit : Fin 16) (value : Bool) :
    (data.setBit host bit value).bits host = Function.update (data.bits host) bit value :=
  Equiv.symm_apply_apply _ _

/-- The motors are on while the first button is pressed, which reads as 0. -/
theorem motorsOn_withButtons (force : DataWrite) (host : Endian) (data : DataRead) :
    (force.withButtons host data).motorsOn host = !data.button1 host := by
  simp [withButtons, motorsOn]

/-- The default forces leave the motors off, if the bit-fields begin with the
lowest bit; else `0x53c0` has `motors_on` set. -/
theorem motorsOn_fillDefaultData (host : Endian) :
    fillDefaultData.motorsOn host = (host == .big) := by
  cases host <;> decide

end DataWrite

/-- `struct device_info`; a null handle is `none`, the channel -1 is `none`. -/
structure DeviceInfo where
  port : Nat
  node : UInt16
  configHandle : Option Handle
  recvHandle : Option Handle
  xmitHandle : Option Handle
  fdRecv : Nat
  fdXmit : Nat
  recvChannel : Option Nat
  xmitChannel : Option Nat
  phantomData : DataRead
  forceData : DataWrite
deriving DecidableEq

/-- What happens between the driver and its devices. -/
inductive Event where
  /-- a packet of the device was received -/
  | received (device : Nat) (data : DataRead)
  /-- the forces for the device were computed -/
  | updated (device : Nat)
  /-- a packet was sent to the device -/
  | transmitted (device : Nat) (data : DataWrite)
  /-- `raw1394_reset_bus` -/
  | reset
deriving DecidableEq

/-- The machine: with libraw1394 it knows the descriptor of a handle, and the
results of `fcntl` on it. -/
structure Machine extends Host where
  /-- `raw1394_get_fd` -/
  fd : Handle → Nat
  /-- `F_GETFL`, if it succeeds -/
  getFlags : Nat → Option UInt32
  /-- whether `F_SETFL` succeeds -/
  setFlags : Nat → UInt32 → Bool

/-- The whole state. -/
structure Omni (β : Type) where
  bus : β
  nextHandle : Nat
  /-- the isochronous contexts of the handles -/
  contexts : Handle → Option IsoContext
  /-- the handles with `busreset_handler` -/
  resetHandlers : Handle → Bool
  devices : List DeviceInfo
  phantomDocked : Bool
  button2Pressed : Bool
  trace : List Event

/-! ## Access to the state -/

theorem getElem?_modify_eq_some {α : Type} {l : List α} {f : α → α} {i j : Nat} {b : α} :
    (l.modify i f)[j]? = some b ↔ ∃ a, l[j]? = some a ∧ (if i = j then f a else a) = b := by
  rw [List.getElem?_modify]
  exact Option.map_eq_some_iff

section Access

variable {β : Type}

/-- `devices[device]` -/
def deviceInfo (device : Nat) : Call Empty (Omni β) DeviceInfo := do
  match (← get).devices[device]? with
  | none => Call.undefined
  | some info => return info

/-- Assignments to fields of `devices[device]`. -/
def modifyDevice (device : Nat) (f : DeviceInfo → DeviceInfo) : Call Empty (Omni β) Unit :=
  modify fun s => { s with devices := s.devices.modify device f }

theorem deviceInfo_eq_returned {device : Nat} {info : DeviceInfo} {s s' : Omni β} :
    deviceInfo device s = .returned info s' ↔ s.devices[device]? = some info ∧ s = s' := by
  rw [deviceInfo, Call.bind_apply, Call.get_apply, Outcome.andThen_returned]
  cases s.devices[device]? with
  | none => simp
  | some found => simp

/-- A null handle cannot be used. -/
def followHandle (handle : Option Handle) : Call Empty (Omni β) Handle :=
  match handle with
  | none => Call.undefined
  | some handle => return handle

theorem followHandle_eq_returned {found : Option Handle} {handle : Handle} {s s' : Omni β} :
    followHandle found s = .returned handle s' ↔ found = some handle ∧ s = s' := by
  cases found with
  | none => simp [followHandle]
  | some found => simp [followHandle]

/-- Something happens. -/
def record (event : Event) : Call Empty (Omni β) Unit :=
  modify fun s => { s with trace := s.trace ++ [event] }

/-- Transactions. -/
def onBus {α : Type} (accesses : Call Empty β α) : Call Empty (Omni β) α :=
  Call.within Omni.bus (fun b s => { s with bus := b }) accesses

/-- `raw1394_new_handle_on_port` -/
def newHandle (port : Nat) : Call Empty (Omni β) Handle where
  run s := .returned ⟨s.nextHandle, port⟩ { s with nextHandle := s.nextHandle + 1 }

/-- `raw1394_iso_recv_init` and `raw1394_iso_xmit_init`: a handle that already
has a context keeps it. -/
def isoInit (handle : Handle) (receiving : Bool) (channel : Nat) : Call Empty (Omni β) Unit :=
  modify fun s =>
    match s.contexts handle with
    | some _ => s
    | none => { s with contexts := Function.update s.contexts handle (some ⟨receiving, channel⟩) }

/-- `xmit_handler`: the packet it fills in, if it finds the handle. -/
def xmitHandler (handle : Handle) : Call Empty (Omni β) (Option DataWrite) := do
  return ((← get).devices.find? fun info => info.xmitHandle = some handle).map
    DeviceInfo.forceData

/-- libraw1394 requests packets for the device, through its handle. -/
def requestPackets (device : Nat) (handle : Handle) : Nat → Call Empty (Omni β) Unit
  | 0 => return ()
  | requests + 1 => do
      match ← xmitHandler handle with
      | some data => record (.transmitted device data)
      | none => return ()
      requestPackets device handle requests

/-- The index the search in a handler ends with. -/
def findRecv (devices : List DeviceInfo) (handle : Handle) : Option Nat :=
  devices.findIdx? fun info => info.recvHandle = some handle

/-- `recv_handler` -/
def recvHandler (handle : Handle) (data : Nat → UInt8) : Call Empty (Omni β) Unit := do
  match findRecv (← get).devices handle with
  | none => return ()
  | some device =>
      modifyDevice device fun info => { info with phantomData := bytesOf data DataRead.size }

end Access

/-! ## Setting up a device -/

/-- `O_NONBLOCK` -/
def O_NONBLOCK : UInt32 := 0x800

/-- `set_fd_blocking`: whether an error occurred. -/
def setFdBlocking (machine : Machine) (fd : Nat) (block : Bool) : Bool :=
  match machine.getFlags fd with
  | none => true
  | some flags =>
      !machine.setFlags fd (if block then flags &&& ~~~O_NONBLOCK else flags ||| O_NONBLOCK)

/-- The two searches for a free channel: the second one goes on behind the index
the first one ended with. -/
def freeChannels (channels : UInt64) : Option Nat × Option Nat :=
  let recv := (List.range 64).find? (LibPhantom.Library.CHANNEL_IS_FREE channels)
  let xmit := ((List.range 64).drop (recv.getD 64 + 1)).find?
    (LibPhantom.Library.CHANNEL_IS_FREE channels)
  (recv, xmit)

variable {β : Type}

/-- `if (full_init) …`: whether it went well. -/
def openHandles (machine : Machine) (device : Nat) : Call Empty (Omni β) Bool := do
  let port := (← deviceInfo device).port
  let recv ← newHandle port
  modifyDevice device fun info => { info with recvHandle := some recv }
  let xmit ← newHandle port
  modifyDevice device fun info => { info with xmitHandle := some xmit }
  let config ← newHandle port
  modifyDevice device fun info => { info with configHandle := some config }
  modify fun s => { s with resetHandlers := Function.update s.resetHandlers recv true }
  modifyDevice device fun info =>
    { info with fdRecv := machine.fd recv, fdXmit := machine.fd xmit }
  return !(setFdBlocking machine (machine.fd recv) false ||
    setFdBlocking machine (machine.fd xmit) false)

variable [Bus β]

/-- The search for two free channels. -/
def findChannels (machine : Machine) (device : Nat) (config : Handle) :
    Call Empty (Omni β) (Option (Nat × Nat)) := do
  match ← onBus (readData config (machine.irmId config.port) CHANNELS_AVAILABLE_ADDR 8) with
  | .error _ => return none
  | .ok buffer =>
      let found := freeChannels (LibPhantom.Library.channelsAvailable machine.endian buffer)
      modifyDevice device fun info =>
        { info with recvChannel := found.1, xmitChannel := found.2 }
      match found with
      | (some recv, some xmit) => return some (recv, xmit)
      | _ => return none

/-- `raw1394_channel_modify`, without a look at the result. -/
def channelModify (config : Handle) (channel : Nat) (mode : Modify) :
    Call Empty (Omni β) Unit :=
  modify fun s => { s with bus := (Bus.channelModify config channel mode s.bus).2 }

/-- `write_data_char`: whether it succeeds. -/
def written (handle : Handle) (node : UInt16) (address : UInt64) (buf : UInt8) :
    Call Empty β Bool := do
  match ← writeDataChar handle node address buf with
  | .error _ => return false
  | .ok _ => return true

/-- The end of the accesses: the transfer is enabled. -/
def enableTransfer (config : Handle) (node : UInt16) : Call Empty β Bool := do
  match ← readDataChar config node ADDR_CONTROL with
  | .error _ => return false
  | .ok bufc => written config node ADDR_CONTROL (bufc ||| ADDR_CONTROL_enable_iso)

/-- The accesses to the registers of the device: whether all went well. -/
def configureRegisters (config : Handle) (node : UInt16) (recv xmit : UInt8) :
    Call Empty β Bool := do
  if !(← written config node ADDR_XMIT_CHANNEL xmit) then return false else
  if !(← written config node ADDR_RECV_CHANNEL recv) then return false else
  if !(← getExpectedChar config node ADDR_RECV_CHANNEL recv) then return false else
  -- a value is written and read back to see whether the device works
  if !(← written config node ADDR_RECV_CHANNEL 0x40) then return false else
  if !(← getExpectedChar config node ADDR_RECV_CHANNEL 0x40) then return false else
  if !(← written config node ADDR_RECV_CHANNEL recv) then return false else
  if !(← getExpectedChar config node 0x1083 0xc0) then return false else
  if !(← getExpectedChar config node 0x1082 0x00) then return false else
  enableTransfer config node

/-- The isochronous transfers.  Starting a transmission may request packets. -/
def startTransfers (device : Nat) (recv xmit prefill : Nat) : Call Empty (Omni β) Unit := do
  let info ← deviceInfo device
  isoInit (← followHandle info.recvHandle) true recv
  let handle ← followHandle info.xmitHandle
  isoInit handle false xmit
  requestPackets device handle prefill

/-- The part of `initialise_device` behind the handles: whether it returns
0. -/
def configureDevice (machine : Machine) (device prefill : Nat) : Call Empty (Omni β) Bool := do
  let info ← deviceInfo device
  let config ← followHandle info.configHandle
  match ← findChannels machine device config with
  | none => return false
  | some (recv, xmit) =>
      channelModify config recv .alloc
      channelModify config xmit .alloc
      if !(← onBus (configureRegisters config info.node (UInt8.ofNat recv) (UInt8.ofNat xmit))) then
        return false
      else
        startTransfers device recv xmit prefill
        return true

/-- `initialise_device`: whether it returns 0. -/
def initialiseDevice (machine : Machine) (device : Nat) (fullInit : Bool) (prefill : Nat) :
    Call Empty (Omni β) Bool := do
  if fullInit then
    if !(← openHandles machine device) then return false
    else configureDevice machine device prefill
  else configureDevice machine device prefill

/-- `busreset_handler` -/
def busresetHandler (machine : Machine) (handle : Handle) (prefill : Nat) :
    Call Empty (Omni β) Unit := do
  match findRecv (← get).devices handle with
  | none => return ()
  | some device =>
      let _ ← initialiseDevice machine device false prefill
      return ()

/-! ## The main loop -/

/-- What libraw1394 may deliver through the handle that receives. -/
inductive RecvEvent where
  | packet (data : Nat → UInt8)
  | busReset (prefill : Nat)

/-- The handlers libraw1394 calls in one `raw1394_loop_iterate` on the handle
that receives from the device. -/
def deliver (machine : Machine) (device : Nat) (handle : Handle) :
    List RecvEvent → Call Empty (Omni β) Unit
  | [] => return ()
  | event :: events => do
      match event with
      | .packet data =>
          record (.received device (bytesOf data DataRead.size))
          recvHandler handle data
      | .busReset prefill =>
          if (← get).resetHandlers handle then
            busresetHandler machine handle prefill
      deliver machine device handle events

omit [Bus β] in
/-- A click with button 2 of the first device resets the bus. -/
def noteClick (host : Endian) (phantomData : DataRead) : Call Empty (Omni β) Unit := do
  if phantomData.button2 host = false then
    modify fun s => { s with button2Pressed := true }
  else if (← get).button2Pressed then
    modify fun s => { s with button2Pressed := false }
    record .reset

omit [Bus β] in
/-- The interaction with the buttons. -/
def updateForces (host : Endian) (device : Nat) : Call Empty (Omni β) Unit := do
  let phantomData := (← deviceInfo device).phantomData
  modifyDevice device fun info =>
    { info with forceData := info.forceData.withButtons host phantomData }
  record (.updated device)
  if device = 0 then
    noteClick host phantomData

omit [Bus β] in
/-- `if(devices[0].phantom_data.status.docked) phantom_docked = 1;` -/
def noteDocked (host : Endian) : Call Empty (Omni β) Unit := do
  let info ← deviceInfo 0
  if info.phantomData.docked host then
    modify fun s => { s with phantomDocked := true }

/-- `errno` says that a `raw1394_loop_iterate` that failed did not just find
nothing; `none` stands for a return value 0. -/
def wentWrong : Option Errno → Bool
  | none => false
  | some e => e != 0 && e != EAGAIN

/-- Where `main` is. -/
inductive Point where
  /-- before `initialise_device(device, 1)` -/
  | initialising (device : Nat)
  /-- at the head of the loop, before `select` -/
  | selecting
  /-- in the loop over the devices, with the descriptors that are ready -/
  | visiting (device : Nat) (ready : Nat → Bool)
  /-- before the packets for the device are fetched -/
  | transmitting (device : Nat) (ready : Nat → Bool)
  /-- behind the loop -/
  | finished

/-- What the environment chooses, and steps of the driver without a choice. -/
inductive Choice where
  | initialise (prefill : Nat)
  /-- the descriptors `select` reports; `none` if it timed out -/
  | select (ready : Option (Nat → Bool))
  | receive (events : List RecvEvent) (result : Option Errno)
  | transmit (requests : Nat) (result : Option Errno)
  | proceed

/-- `main` behind the scan. -/
structure Driver (β : Type) where
  omni : Omni β
  point : Point

/-- A device that was found. -/
def foundDevice (port : Nat) (node : UInt16) : DeviceInfo where
  port
  node
  configHandle := none
  recvHandle := none
  xmitHandle := none
  fdRecv := 0
  fdXmit := 0
  recvChannel := some 0
  xmitChannel := some 0
  phantomData := .zero
  forceData := .fillDefaultData

/-- The scan has found these nodes. -/
def Driver.start (bus : β) (found : List (Nat × UInt16)) : Driver β where
  omni :=
    { bus
      nextHandle := 0
      contexts := fun _ => none
      resetHandlers := fun _ => false
      devices := found.map fun place => foundDevice place.1 place.2
      phantomDocked := false
      button2Pressed := false
      trace := [] }
  point := if found.isEmpty then .finished else .initialising 0

/-- The calls of a choice: where `main` goes on. -/
def driverCall (machine : Machine) : Point → Choice → Call Empty (Omni β) Point
  | .initialising device, .initialise prefill => do
      if !(← initialiseDevice machine device true prefill) then return .finished
      else if device + 1 < (← get).devices.length then return .initialising (device + 1)
      else return .selecting
  | .selecting, .select ready => do
      noteDocked machine.endian
      match ready with
      | none => return .finished
      | some ready => return .visiting 0 ready
  | .visiting device ready, .receive events result => do
      let info ← deviceInfo device
      if !ready info.fdRecv then Call.undefined
      else
        deliver machine device (← followHandle info.recvHandle) events
        if wentWrong result then return .finished
        else
          updateForces machine.endian device
          return .transmitting device ready
  | .transmitting device ready, .transmit requests result => do
      let info ← deviceInfo device
      requestPackets device (← followHandle info.xmitHandle) requests
      if wentWrong result then return .finished
      else return .visiting (device + 1) ready
  | .visiting device ready, .proceed => do
      match (← get).devices[device]? with
      | some info => if ready info.fdRecv then Call.undefined else return .visiting (device + 1) ready
      | none =>
          let info ← deviceInfo 0
          if info.phantomData.docked machine.endian || !(← get).phantomDocked then return .selecting
          else return .finished
  | _, _ => Call.undefined

/-- The runs of the driver. -/
def driver (machine : Machine) : System (Driver β) Choice where
  step s choice :=
    match driverCall machine s.point choice s.omni with
    | .returned point omni => some ⟨omni, point⟩
    | _ => none

end RevEng
