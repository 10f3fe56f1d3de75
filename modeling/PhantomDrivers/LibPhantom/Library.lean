import PhantomDrivers.LibPhantom.FirewireDevice
import PhantomDrivers.LibPhantom.OpenDevices

/-!
# The state of the library

The objects of the library refer to each other by pointers and share static
tables, so one state holds them all.  A method that follows a dangling or
uninitialised pointer has no defined behaviour.

* `FirewireDeviceLibraw1394`, `PhantomIsoChannel`, `Phantom`,
  `DeviceIteratorLibraw1394` — the objects.
* `Library` — the heaps of live objects, the static variables, and the bus.  Two
  records are kept for the theorems only: what happened to the handles of
  libraw1394, and which changes of the allocation of channels were
  acknowledged.
* `newDevice`, `deleteDevice`, `deviceIsOpen`, `getFreeChannel`,
  `claimChannel`, `releaseChannel` — `FirewireDeviceLibraw1394.cpp`.

A destructor may throw, as in the C++ of the time the source was written; the
memory of its object is freed all the same.
-/

namespace LibPhantom

open Semantics Raw1394

/-- What happens to a handle of libraw1394. -/
inductive HandleEvent where
  | opened (id : Nat)
  | used (id : Nat)
  | destroyed (id : Nat)
deriving DecidableEq, Repr

/-- An acknowledged change of the allocation of isochronous channels. -/
structure ChannelEvent where
  mode : Modify
  port : Nat
  channel : Nat
deriving DecidableEq, Repr

/-- A `FirewireDeviceLibraw1394`. -/
structure FirewireDeviceLibraw1394 extends FirewireDevice where
  handle : Handle
  port : Nat
  node : UInt16
  irmNode : UInt16
deriving DecidableEq, Repr

/-- A `PhantomIsoChannel`; it owns its two communication objects. -/
structure PhantomIsoChannel where
  firewireDevice : Ptr
  receiving : Bool
  com : CommunicationLibraw1394
  comConfig : CommunicationLibraw1394
  channel : Nat
deriving DecidableEq, Repr

/-- A `Phantom`; the pointers to the channels are `none` as long as they are
uninitialised. -/
structure Phantom where
  firewireDevice : Ptr
  started : Bool
  xmitChannel : Option Ptr
  recvChannel : Option Ptr
deriving DecidableEq, Repr

/-- A `DeviceIteratorLibraw1394`. -/
structure DeviceIteratorLibraw1394 where
  port : Nat
  node : Nat
  nodes : Nat
  handle : Option Handle
deriving DecidableEq, Repr

/-- The whole state. -/
structure Library (β : Type) where
  bus : β
  nextHandle : Nat
  handleLog : List HandleEvent
  ledger : List ChannelEvent
  openDevices : OpenDevices
  /-- `DeviceIteratorLibraw1394::ports`, once it is known -/
  ports : Option Nat
  devices : Heap FirewireDeviceLibraw1394
  isoChannels : Heap PhantomIsoChannel
  phantoms : Heap Phantom
  iterators : Heap DeviceIteratorLibraw1394

/-- `CSR_REGISTER_BASE + CSR_CHANNELS_AVAILABLE_HI` -/
def CHANNELS_AVAILABLE_ADDR : UInt64 := 0xfffff0000000 + 0x224

namespace Library

variable {β : Type}

/-- A program that has just started. -/
def initial (bus : β) : Library β where
  bus
  nextHandle := 0
  handleLog := []
  ledger := []
  openDevices := .initial
  ports := none
  devices := .empty
  isoChannels := .empty
  phantoms := .empty
  iterators := .empty

/-! ## Handles and communication objects -/

/-- `raw1394_new_handle_on_port` -/
def newHandle (port : Nat) : Call Exn (Library β) Handle where
  run s := .returned ⟨s.nextHandle, port⟩
    { s with
      nextHandle := s.nextHandle + 1
      handleLog := s.handleLog ++ [.opened s.nextHandle] }

/-- A handle is passed to libraw1394. -/
def useHandle (handle : Handle) : Call Exn (Library β) Unit :=
  modify fun s => { s with handleLog := s.handleLog ++ [.used handle.id] }

/-- `raw1394_destroy_handle` -/
def destroyHandle (handle : Handle) : Call Exn (Library β) Unit :=
  modify fun s => { s with handleLog := s.handleLog ++ [.destroyed handle.id] }

/-- The constructor of `CommunicationLibraw1394`. -/
def newCommunication (port : Nat) (node : UInt16) :
    Call Exn (Library β) CommunicationLibraw1394 := do
  let handle ← newHandle port
  useHandle handle
  return ⟨node, handle, none, none⟩

/-- The destructor of `CommunicationLibraw1394`. -/
def deleteCommunication (com : CommunicationLibraw1394) : Call Exn (Library β) Unit :=
  destroyHandle com.handle

/-! ## Devices -/

/-- Follow a pointer to a device. -/
def device (p : Ptr) : Call Exn (Library β) FirewireDeviceLibraw1394 := do
  match (← get).devices p with
  | none => Call.undefined
  | some device => return device

/-- Call a method of `FirewireDevice`. -/
def onDevice {α : Type} (p : Ptr) (method : Call Exn (DeviceState β) α) :
    Call Exn (Library β) α := do
  let device ← device p
  useHandle device.com.handle
  Call.within (fun s => ⟨s.bus, device.toFirewireDevice⟩)
    (fun t s =>
      { s with
        bus := t.bus
        devices := s.devices.modify p fun d => { d with toFirewireDevice := t.device } })
    method

/-- `FirewireDeviceLibraw1394::createCommunication` -/
def createCommunication (p : Ptr) : Call Exn (Library β) CommunicationLibraw1394 := do
  let device ← device p
  newCommunication device.port device.node

/-- The constructor of `FirewireDeviceLibraw1394`. -/
def newDevice (host : Host) (port : Nat) (node : UInt16) : Call Exn (Library β) Ptr := do
  let this := (← get).devices.next
  let com ← newCommunication port node
  match (← get).openDevices.register this with
  | none => Call.undefined
  | some table =>
      modify fun s => { s with openDevices := table }
      let handle ← newHandle port
      useHandle handle
      modify fun s =>
        { s with devices := s.devices.alloc ⟨.new com, handle, port, node, host.irmId port⟩ }
      return this

/-- The destructor of `FirewireDeviceLibraw1394`, and `delete`. -/
def deleteDevice (p : Ptr) : Call Exn (Library β) Unit := do
  let device ← device p
  match (← get).openDevices.unregister p with
  | none => Call.undefined
  | some table =>
      modify fun s => { s with openDevices := table }
      destroyHandle device.handle
      deleteCommunication device.com
      modify fun s => { s with devices := s.devices.free p }

/-- The loop of `deviceIsOpen`, with the given number of iterations left at
index `i`. -/
def searchOpen (port : Nat) (node : UInt16) : Nat → Nat → Call Exn (Library β) Bool
  | 0, _ => return false
  | n + 1, i => do
      match (← get).openDevices.slots[i]? with
      | some (some p) =>
          let device ← device p
          if device.port = port ∧ device.node = node then
            return true
          else
            searchOpen port node n (i + 1)
      | _ => Call.undefined

/-- `FirewireDeviceLibraw1394::deviceIsOpen` -/
def deviceIsOpen (port : Nat) (node : UInt16) : Call Exn (Library β) Bool := do
  searchOpen port node (← get).openDevices.number 0

/-! ### What the functions do to the state -/

section Equations

variable {s : Library β} {host : Host} {port : Nat} {node : UInt16} {table : OpenDevices}
  {p : Ptr} {d : FirewireDeviceLibraw1394}

/-- A live pointer can be followed. -/
theorem device_of_live (live : s.devices p = some d) : device p s = .returned d s := by
  simp [device, live]

/-- What a deleted object holds is not known. -/
theorem device_of_dead (dead : s.devices p = none) :
    (device p : Call Exn (Library β) _) s = .undefined := by
  simp [device, dead]

/-- The device a constructor makes. -/
def constructed (host : Host) (port : Nat) (node : UInt16) (s : Library β) :
    FirewireDeviceLibraw1394 where
  toFirewireDevice := .new ⟨node, ⟨s.nextHandle, port⟩, none, none⟩
  handle := ⟨s.nextHandle + 1, port⟩
  port
  node
  irmNode := host.irmId port

/-- The state a constructor leaves behind. -/
def afterNewDevice (host : Host) (port : Nat) (node : UInt16) (table : OpenDevices)
    (s : Library β) : Library β :=
  { s with
    nextHandle := s.nextHandle + 1 + 1
    handleLog := s.handleLog ++ [.opened s.nextHandle] ++ [.used s.nextHandle] ++
      [.opened (s.nextHandle + 1)] ++ [.used (s.nextHandle + 1)]
    openDevices := table
    devices := s.devices.alloc (s.constructed host port node) }

/-- The constructor opens two handles and enters its object into the table. -/
theorem newDevice_eq (registered : s.openDevices.register s.devices.next = some table) :
    newDevice host port node s =
      .returned s.devices.next (s.afterNewDevice host port node table) := by
  simp [newDevice, newCommunication, newHandle, useHandle, registered, afterNewDevice,
    constructed]

/-- The state a destructor leaves behind. -/
def afterDeleteDevice (p : Ptr) (d : FirewireDeviceLibraw1394) (table : OpenDevices)
    (s : Library β) : Library β :=
  { s with
    handleLog := s.handleLog ++ [.destroyed d.handle.id] ++ [.destroyed d.com.handle.id]
    openDevices := table
    devices := s.devices.free p }

/-- The destructor destroys both handles and takes its object out of the table. -/
theorem deleteDevice_eq (live : s.devices p = some d)
    (unregistered : s.openDevices.unregister p = some table) :
    deleteDevice p s = .returned () (s.afterDeleteDevice p d table) := by
  simp [deleteDevice, device_of_live live, unregistered, destroyHandle, deleteCommunication,
    afterDeleteDevice]

/-- The search for an open device finds one exactly if one of the entries from
`i` on is for this port and node. -/
theorem searchOpen_spec {entries : List Ptr} {n i : Nat}
    (lists : s.openDevices.Lists entries) (whole : i + n = entries.length)
    (alive : ∀ q ∈ entries, ∃ d, s.devices q = some d) :
    ∃ found, searchOpen port node n i s = .returned found s ∧
      (found = true ↔ ∃ q ∈ entries.drop i, ∃ d, s.devices q = some d ∧
        d.port = port ∧ d.node = node) := by
  induction n generalizing i with
  | zero =>
      refine ⟨false, rfl, ?_⟩
      rw [List.drop_eq_nil_of_le (by omega)]
      simp
  | succ n ih =>
      have inside : i < entries.length := by omega
      have slot : s.openDevices.slots[i]? = some (some entries[i]) := by
        rw [lists.entry i inside, List.getElem?_eq_getElem inside]
      obtain ⟨d, live⟩ := alive entries[i] (List.getElem_mem inside)
      have step : searchOpen port node (n + 1) i s =
          if d.port = port ∧ d.node = node then .returned true s
          else searchOpen port node n (i + 1) s := by
        simp only [searchOpen, Call.bind_apply, Call.get_apply, Outcome.andThen_returned, slot,
          device_of_live live]
        split <;> rfl
      rw [step, List.drop_eq_getElem_cons inside]
      by_cases hit : d.port = port ∧ d.node = node
      · rw [if_pos hit]
        exact ⟨true, rfl, fun _ => ⟨entries[i], List.mem_cons_self, d, live, hit⟩, fun _ => rfl⟩
      · rw [if_neg hit]
        obtain ⟨found, searched, spec⟩ := ih (i := i + 1) (by omega)
        refine ⟨found, searched, spec.trans ?_⟩
        constructor
        · rintro ⟨q, member, rest⟩
          exact ⟨q, List.mem_cons_of_mem _ member, rest⟩
        · rintro ⟨q, member, d', live', same⟩
          rcases List.mem_cons.mp member with rfl | later
          · rw [live] at live'
            obtain rfl := Option.some.inj live'
            exact absurd same hit
          · exact ⟨q, later, d', live', same⟩

/-- With live entries only, `deviceIsOpen` says whether one of them is for this port and
node. -/
theorem deviceIsOpen_spec {entries : List Ptr} (lists : s.openDevices.Lists entries)
    (alive : ∀ q ∈ entries, ∃ d, s.devices q = some d) :
    ∃ found, deviceIsOpen port node s = .returned found s ∧
      (found = true ↔ ∃ q ∈ entries, ∃ d, s.devices q = some d ∧
        d.port = port ∧ d.node = node) := by
  have whole : 0 + s.openDevices.number = entries.length := by rw [lists.number, Nat.zero_add]
  exact searchOpen_spec lists whole alive

end Equations

/-! ## Isochronous channels -/

/-- `CHANNEL_IS_FREE` -/
def CHANNEL_IS_FREE (channels : UInt64) (channel : Nat) : Bool :=
  channels &&& ((1 : UInt64) <<< UInt64.ofNat (63 - channel)) != 0

/-- The register as the code assembles it: two quadlets, swapped if need be. -/
def channelsAvailable (endian : Endian) (buffer : List UInt8) : UInt64 :=
  (endian.ntohl (endian.decode buffer)).toUInt64 <<< 32 |||
    (endian.ntohl (endian.decode (buffer.drop 4))).toUInt64

/-- The loop of `getFreeChannel`. -/
def firstFree (channels : UInt64) : Option Nat :=
  (List.range 64).find? (CHANNEL_IS_FREE channels)

variable [Bus β]

/-- `FirewireDeviceLibraw1394::getFreeChannel` -/
def getFreeChannel (host : Host) (p : Ptr) : Call Exn (Library β) Nat := do
  let device ← device p
  useHandle device.com.handle
  let buffer ← Call.within bus (fun b s => { s with bus := b })
    (CommunicationLibraw1394.readNode device.com.handle device.irmNode CHANNELS_AVAILABLE_ADDR 8)
  match firstFree (channelsAvailable host.endian buffer) with
  | some channel => return channel
  | none => throw (.text "No free isochronous channels available")

/-- `raw1394_channel_modify` on the handle of a device; a change that is
acknowledged goes into the ledger. -/
def channelModify (device : FirewireDeviceLibraw1394) (channel : Nat) (mode : Modify) :
    Call Exn (Library β) Bool where
  run s :=
    match Bus.channelModify device.handle channel mode s.bus with
    | (true, b) =>
        .returned true
          { s with bus := b, ledger := s.ledger ++ [⟨mode, device.handle.port, channel⟩] }
    | (false, b) => .returned false { s with bus := b }

/-- `FirewireDeviceLibraw1394::claimChannel` -/
def claimChannel (p : Ptr) (channel : Nat) : Call Exn (Library β) Unit := do
  let device ← device p
  useHandle device.handle
  if !(← channelModify device channel .alloc) then
    throw (.text "Failed to claim channel")

/-- `FirewireDeviceLibraw1394::releaseChannel` -/
def releaseChannel (p : Ptr) (channel : Nat) : Call Exn (Library β) Unit := do
  let device ← device p
  useHandle device.handle
  if !(← channelModify device channel .free) then
    throw (.text "Failed to claim channel")

end Library

end LibPhantom
