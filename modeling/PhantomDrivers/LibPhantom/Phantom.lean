import PhantomDrivers.LibPhantom.PhantomIsoChannel

/-!
# Phantoms

`Phantom.cpp` without the search for a device: starting and stopping the
isochronous communication, and the destructor.

* `newPhantom`, `startPhantom`, `stopPhantom`, `deletePhantom` — the methods.
* `Running` — a started Phantom with its two channel objects, which is what
  `stopPhantom` expects.
* `TouchesOnly` — the frame of a method: which objects it leaves alone.
-/

namespace LibPhantom

open Semantics Raw1394

namespace Library

variable {β : Type} [Bus β]

/-- Follow a pointer to a Phantom. -/
def phantom (p : Ptr) : Call Exn (Library β) Phantom := do
  match (← get).phantoms p with
  | none => Call.undefined
  | some phantom => return phantom

/-- Assignments to fields of a Phantom. -/
def modifyPhantom (p : Ptr) (f : Phantom → Phantom) : Call Exn (Library β) Unit :=
  modify fun s => { s with phantoms := s.phantoms.modify p f }

/-- A pointer of a Phantom to one of its channel objects. -/
def channelPtr (p : Ptr) (member : Phantom → Option Ptr) : Call Exn (Library β) Ptr := do
  match member (← phantom p) with
  | none => Call.undefined
  | some q => return q

/-- The constructor of `Phantom`. -/
def newPhantom (firewireDevice : Ptr) : Call Exn (Library β) Ptr := do
  let this := (← get).phantoms.next
  modify fun s => { s with phantoms := s.phantoms.alloc ⟨firewireDevice, false, none, none⟩ }
  return this

/-- The inner `try` block of `startPhantom`. -/
def newXmitChannel (host : Host) (p : Ptr) : Call Exn (Library β) Unit := do
  try
    let xmit ← newChannel host (← phantom p).firewireDevice false
    modifyPhantom p fun phantom => { phantom with xmitChannel := some xmit }
  catch e =>
    deleteChannel (← channelPtr p Phantom.recvChannel)
    throw e

/-- The outer `try` block. -/
def newChannels (host : Host) (p : Ptr) : Call Exn (Library β) Unit := do
  let recv ← newChannel host (← phantom p).firewireDevice true
  modifyPhantom p fun phantom => { phantom with recvChannel := some recv }
  newXmitChannel host p

/-- `recv_channel->start(); xmit_channel->start();` -/
def startChannels (p : Ptr) : Call Exn (Library β) Unit := do
  startChannel (← channelPtr p Phantom.recvChannel)
  startChannel (← channelPtr p Phantom.xmitChannel)

/-- `Phantom::startPhantom` -/
def startPhantom (host : Host) (p : Ptr) : Call Exn (Library β) Unit := do
  if (← phantom p).started then
    throw (.text "This phantom device is already started")
  else
    modifyPhantom p fun phantom => { phantom with started := true }
    try
      newChannels host p
    catch e =>
      modifyPhantom p fun phantom => { phantom with started := false }
      throw e
    startChannels p

/-- `recv_channel->stop(); xmit_channel->stop();` -/
def stopChannels (p : Ptr) : Call Exn (Library β) Unit := do
  stopChannel (← channelPtr p Phantom.recvChannel)
  stopChannel (← channelPtr p Phantom.xmitChannel)

/-- `delete recv_channel; delete xmit_channel;` -/
def deleteChannels (p : Ptr) : Call Exn (Library β) Unit := do
  deleteChannel (← channelPtr p Phantom.recvChannel)
  deleteChannel (← channelPtr p Phantom.xmitChannel)

/-- `Phantom::stopPhantom` -/
def stopPhantom (p : Ptr) : Call Exn (Library β) Unit := do
  if !(← phantom p).started then
    return ()
  else
    modifyPhantom p fun phantom => { phantom with started := false }
    stopChannels p
    deleteChannels p

/-- The destructor of `BaseDevice`, and the end of `delete` on a Phantom. -/
def deleteBaseDevice (p : Ptr) : Call Exn (Library β) Unit := do
  deleteDevice (← phantom p).firewireDevice
  modify fun s => { s with phantoms := s.phantoms.free p }

/-- `delete` on a Phantom.  If `stopPhantom` throws, the destructor of the base
class still runs. -/
def deletePhantom (p : Ptr) : Call Exn (Library β) Unit := do
  try
    stopPhantom p
  catch e =>
    deleteBaseDevice p
    throw e
  deleteBaseDevice p

/-! ## Started Phantoms -/

/-- A started Phantom with its channel objects: the state `stopPhantom` expects
and `startPhantom` leaves behind. -/
structure Running (s : Library β) (p : Ptr) (d : FirewireDeviceLibraw1394) (r x : Ptr)
    (recv xmit : PhantomIsoChannel) : Prop where
  phantom : ∃ dev, s.phantoms p = some ⟨dev, true, some x, some r⟩ ∧
    s.devices dev = some d ∧ recv.firewireDevice = dev ∧ xmit.firewireDevice = dev
  recvLive : s.isoChannels r = some recv
  xmitLive : s.isoChannels x = some xmit
  different : r ≠ x

section Equations

variable {s : Library β} {p r x : Ptr} {d : FirewireDeviceLibraw1394}
  {recv xmit : PhantomIsoChannel}

omit [Bus β] in
/-- A live pointer can be followed. -/
theorem phantom_of_live {ph : Phantom} (live : s.phantoms p = some ph) :
    Library.phantom p s = .returned ph s := by
  simp [Library.phantom, live]

omit [Bus β] in
/-- So can a channel that is there. -/
theorem channelPtr_of_some {ph : Phantom} {member : Phantom → Option Ptr} {q : Ptr}
    (live : s.phantoms p = some ph) (points : member ph = some q) :
    channelPtr p member s = .returned q s := by
  simp [channelPtr, phantom_of_live live, points]

omit [Bus β] in
theorem modifyPhantom_apply (f : Phantom → Phantom) :
    modifyPhantom p f s =
      .returned () { s with phantoms := s.phantoms.modify p f } := rfl

/-- The Phantom is marked as started. -/
def markStarted (p : Ptr) (s : Library β) : Library β :=
  { s with phantoms := s.phantoms.modify p fun phantom => { phantom with started := true } }

/-- The Phantom is marked as stopped. -/
def markStopped (p : Ptr) (s : Library β) : Library β :=
  { s with phantoms := s.phantoms.modify p fun phantom => { phantom with started := false } }

/-- A channel object whose transfer has been started. -/
def transferred (q : Ptr) (c : PhantomIsoChannel) : PhantomIsoChannel :=
  { c with com := startTransfer q c }

/-- A channel object whose transfer has been stopped. -/
def stopped (c : PhantomIsoChannel) : PhantomIsoChannel := { c with com := c.com.stopIsoTransfer }

omit [Bus β] in
/-- The stopped channel object keeps everything but its handler. -/
theorem afterStop_self {q : Ptr} {c : PhantomIsoChannel} {b : β} (live : s.isoChannels q = some c) :
    (s.afterStop q c b).isoChannels q = some (stopped c) := by
  show (s.isoChannels.modify q _) q = _
  rw [Heap.modify_self, live]
  rfl

omit [Bus β] in
/-- Other channel objects are left alone by `stop`. -/
theorem afterStop_of_ne {q q' : Ptr} {c : PhantomIsoChannel} {b : β} (different : q' ≠ q) :
    (s.afterStop q c b).isoChannels q' = s.isoChannels q' :=
  Heap.modify_of_ne _ different

omit [Bus β] in
/-- The started channel object has its handler. -/
theorem afterStart_self {q : Ptr} {c : PhantomIsoChannel} {b : β}
    (live : s.isoChannels q = some c) :
    (s.afterStart q c b).isoChannels q = some (transferred q c) := by
  show (s.isoChannels.modify q _) q = _
  rw [Heap.modify_self, live]
  rfl

omit [Bus β] in
/-- Other channel objects are left alone by `start`. -/
theorem afterStart_of_ne {q q' : Ptr} {c : PhantomIsoChannel} {b : β} (different : q' ≠ q) :
    (s.afterStart q c b).isoChannels q' = s.isoChannels q' :=
  Heap.modify_of_ne _ different

omit [Bus β] in
/-- The Phantom keeps running while its receive channel is started. -/
theorem Running.startRecv (running : Running s p d r x recv xmit) (b : β) :
    Running (s.afterStart r recv b) p d r x (transferred r recv) xmit where
  phantom := running.phantom
  recvLive := afterStart_self running.recvLive
  xmitLive := (afterStart_of_ne running.different.symm).trans running.xmitLive
  different := running.different

omit [Bus β] in
/-- The Phantom keeps running while its transmit channel is started. -/
theorem Running.startXmit (running : Running s p d r x recv xmit) (b : β) :
    Running (s.afterStart x xmit b) p d r x recv (transferred x xmit) where
  phantom := running.phantom
  recvLive := (afterStart_of_ne running.different).trans running.recvLive
  xmitLive := afterStart_self running.xmitLive
  different := running.different

end Equations

/-! ## Frames -/

/-- Nothing has changed but the bus, the records about handles and channels,
and some of the channel objects. -/
structure TouchesOnly (changed : List Ptr) (s s' : Library β) : Prop where
  phantoms : s'.phantoms = s.phantoms
  devices : s'.devices = s.devices
  openDevices : s'.openDevices = s.openDevices
  ports : s'.ports = s.ports
  iterators : s'.iterators = s.iterators
  next : s'.isoChannels.next = s.isoChannels.next
  others : ∀ q ∉ changed, s'.isoChannels q = s.isoChannels q

namespace TouchesOnly

variable {changed changed' : List Ptr} {q : Ptr} {s s₁ s₂ : Library β} {c : PhantomIsoChannel}
  {d : FirewireDeviceLibraw1394} {b b₁ b₂ : β}

omit [Bus β] in
/-- More channels may be listed than were touched. -/
theorem mono (touches : TouchesOnly changed s s₁) (included : changed ⊆ changed') :
    TouchesOnly changed' s s₁ :=
  { touches with others := fun q apart => touches.others q fun member => apart (included member) }

omit [Bus β] in
/-- Two calls one after the other. -/
theorem trans (first : TouchesOnly changed s s₁) (second : TouchesOnly changed s₁ s₂) :
    TouchesOnly changed s s₂ where
  phantoms := second.phantoms.trans first.phantoms
  devices := second.devices.trans first.devices
  openDevices := second.openDevices.trans first.openDevices
  ports := second.ports.trans first.ports
  iterators := second.iterators.trans first.iterators
  next := second.next.trans first.next
  others q apart := (second.others q apart).trans (first.others q apart)

omit [Bus β] in
/-- `start` touches its own channel. -/
theorem afterStart : TouchesOnly [q] s (s.afterStart q c b) where
  phantoms := rfl
  devices := rfl
  openDevices := rfl
  ports := rfl
  iterators := rfl
  next := rfl
  others _ apart := Heap.modify_of_ne _ (List.ne_of_not_mem_cons apart)

omit [Bus β] in
/-- The register accesses touch no object at all. -/
theorem afterStopRegisters : TouchesOnly changed s (s.afterStopRegisters c b) :=
  ⟨rfl, rfl, rfl, rfl, rfl, rfl, fun _ _ => rfl⟩

omit [Bus β] in
/-- `stop` touches its own channel. -/
theorem afterStop : TouchesOnly [q] s (s.afterStop q c b) where
  phantoms := rfl
  devices := rfl
  openDevices := rfl
  ports := rfl
  iterators := rfl
  next := rfl
  others _ apart := Heap.modify_of_ne _ (List.ne_of_not_mem_cons apart)

omit [Bus β] in
/-- The destructor touches its own channel. -/
theorem afterDelete : TouchesOnly [q] s (s.afterDelete q c d b₁ b₂) where
  phantoms := rfl
  devices := rfl
  openDevices := rfl
  ports := rfl
  iterators := rfl
  next := rfl
  others _ apart := Heap.free_of_ne (List.ne_of_not_mem_cons apart)

omit [Bus β] in
/-- What a `delete` that throws leaves behind. -/
theorem freed {log : List HandleEvent} : TouchesOnly [q] s
    { s with bus := b, handleLog := log, isoChannels := s.isoChannels.free q } where
  phantoms := rfl
  devices := rfl
  openDevices := rfl
  ports := rfl
  iterators := rfl
  next := rfl
  others _ apart := Heap.free_of_ne (List.ne_of_not_mem_cons apart)

end TouchesOnly

end Library

end LibPhantom
