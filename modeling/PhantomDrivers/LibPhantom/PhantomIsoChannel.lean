import PhantomDrivers.LibPhantom.IsoRegisters
import PhantomDrivers.LibPhantom.Library

/-!
# Channel objects

`PhantomIsoChannel.cpp` on the state of the library.  A channel object claims
its channel in the constructor and gives it back in the destructor, behind
another `stop`.

* `newChannel`, `startChannel`, `stopChannel`, `deleteChannel` — the methods.
* `Claims`, `ClaimFails`, `Releases` — the answers of the isochronous resource
  manager they depend on.
* `afterNewChannel`, `afterStart`, `afterStop`, `afterDelete` — the states they
  leave behind when they return; the lemmas next to them say when they do.
-/

namespace LibPhantom

open Semantics Raw1394

namespace Library

variable {β : Type} [Bus β]

/-- Follow a pointer to a channel object. -/
def isoChannel (p : Ptr) : Call Exn (Library β) PhantomIsoChannel := do
  match (← get).isoChannels p with
  | none => Call.undefined
  | some channel => return channel

/-- The register accesses of a method, through `com_config`. -/
def onRegisters (com : CommunicationLibraw1394) (accesses : Call Exn β Unit) :
    Call Exn (Library β) Unit := do
  useHandle com.handle
  Call.within bus (fun b s => { s with bus := b }) accesses

/-- The constructor of `PhantomIsoChannel`. -/
def newChannel (host : Host) (firewireDevice : Ptr) (receiving : Bool) :
    Call Exn (Library β) Ptr := do
  let com ← createCommunication firewireDevice
  let comConfig ← createCommunication firewireDevice
  let channel ← getFreeChannel host firewireDevice
  claimChannel firewireDevice channel
  let this := (← get).isoChannels.next
  modify fun s =>
    { s with
      isoChannels := s.isoChannels.alloc ⟨firewireDevice, receiving, com, comConfig, channel⟩ }
  return this

/-- `com->startRecvIsoTransfer` or `com->startXmitIsoTransfer` -/
def startTransfer (p : Ptr) (c : PhantomIsoChannel) : CommunicationLibraw1394 :=
  if c.receiving then c.com.startRecvIsoTransfer c.channel p
  else c.com.startXmitIsoTransfer c.channel p

/-- `PhantomIsoChannel::start` -/
def startChannel (p : Ptr) : Call Exn (Library β) Unit := do
  let c ← isoChannel p
  useHandle c.com.handle
  modify fun s =>
    { s with isoChannels := s.isoChannels.modify p fun c => { c with com := startTransfer p c } }
  onRegisters c.comConfig (PhantomIsoChannel.startRegisters c.comConfig c.receiving c.channel)

/-- `PhantomIsoChannel::stop` -/
def stopChannel (p : Ptr) : Call Exn (Library β) Unit := do
  let c ← isoChannel p
  onRegisters c.comConfig (PhantomIsoChannel.stopRegisters c.comConfig)
  useHandle c.com.handle
  modify fun s =>
    { s with
      isoChannels := s.isoChannels.modify p fun c => { c with com := c.com.stopIsoTransfer } }

/-- The destructor of `PhantomIsoChannel`. -/
def destroyChannel (p : Ptr) : Call Exn (Library β) Unit := do
  stopChannel p
  let c ← isoChannel p
  releaseChannel c.firewireDevice c.channel
  deleteCommunication c.com
  deleteCommunication c.comConfig

/-- The memory of a channel object is freed. -/
def freeChannel (p : Ptr) : Call Exn (Library β) Unit :=
  modify fun s => { s with isoChannels := s.isoChannels.free p }

/-- `delete` on a channel object. -/
def deleteChannel (p : Ptr) : Call Exn (Library β) Unit := do
  try
    destroyChannel p
  catch e =>
    freeChannel p
    throw e
  freeChannel p

/-! ## Answers of the isochronous resource manager -/

/-- The search for a free channel, started on the bus `b`, is answered with
this register. -/
def SearchAnswered (d : FirewireDeviceLibraw1394) (buffer : List UInt8) (b b' : β) : Prop :=
  CommunicationLibraw1394.ReadLoop d.com.handle d.irmNode CHANNELS_AVAILABLE_ADDR
    (8 : UInt32).toNat 0 [] b (.returned buffer b')

/-- The search finds the channel `c`, and it can be claimed. -/
def Claims (host : Host) (d : FirewireDeviceLibraw1394) (c : Nat) (b b' : β) : Prop :=
  ∃ buffer b₁, SearchAnswered d buffer b b₁ ∧
    firstFree (channelsAvailable host.endian buffer) = some c ∧
    Bus.channelModify d.handle c .alloc b₁ = (true, b')

/-- The search fails, finds no free channel, or finds one that cannot be
claimed any more. -/
def ClaimFails (host : Host) (d : FirewireDeviceLibraw1394) (b b' : β) : Prop :=
  (∃ shortfall, CommunicationLibraw1394.ReadLoop d.com.handle d.irmNode CHANNELS_AVAILABLE_ADDR
      (8 : UInt32).toNat 0 [] b (.thrown shortfall b')) ∨
    ∃ buffer b₁, SearchAnswered d buffer b b₁ ∧
      (firstFree (channelsAvailable host.endian buffer) = none ∧ b' = b₁ ∨
        ∃ c, firstFree (channelsAvailable host.endian buffer) = some c ∧
          Bus.channelModify d.handle c .alloc b₁ = (false, b'))

/-- The channel can be given back. -/
def Releases (d : FirewireDeviceLibraw1394) (c : Nat) (b b' : β) : Prop :=
  Bus.channelModify d.handle c .free b = (true, b')

/-- A claim succeeds or fails. -/
theorem claims_or_fails (host : Host) (d : FirewireDeviceLibraw1394) (b : β) :
    (∃ c b', Claims host d c b b') ∨ ∃ b', ClaimFails host d b b' := by
  obtain ⟨outcome, loop, -⟩ := CommunicationLibraw1394.exists_readLoop d.com.handle d.irmNode
    CHANNELS_AVAILABLE_ADDR 8 b
  cases outcome with
  | returned buffer b₁ =>
      cases search : firstFree (channelsAvailable host.endian buffer) with
      | none => exact .inr ⟨b₁, .inr ⟨buffer, b₁, loop, .inl ⟨search, rfl⟩⟩⟩
      | some c =>
          obtain ⟨r, b', attempt⟩ : ∃ r b', Bus.channelModify d.handle c .alloc b₁ = (r, b') :=
            ⟨_, _, rfl⟩
          cases r with
          | true => exact .inl ⟨c, b', buffer, b₁, loop, search, attempt⟩
          | false => exact .inr ⟨b', .inr ⟨buffer, b₁, loop, .inr ⟨c, search, attempt⟩⟩⟩
  | thrown shortfall b₁ => exact .inr ⟨b₁, .inl ⟨shortfall, loop⟩⟩
  | undefined => exact absurd rfl (loop.defined (by decide) rfl)

/-! ## Construction -/

section Construction

variable {s : Library β} {host : Host} {p : Ptr} {d : FirewireDeviceLibraw1394} {b' : β}
  {buffer : List UInt8} {c : Nat}

/-- The search returns the first channel that is free. -/
theorem getFreeChannel_of_found (live : s.devices p = some d)
    (searched : SearchAnswered d buffer s.bus b')
    (found : firstFree (channelsAvailable host.endian buffer) = some c) :
    getFreeChannel host p s = .returned c
      { s with bus := b', handleLog := s.handleLog ++ [.used d.com.handle.id] } := by
  have read : CommunicationLibraw1394.readNode d.com.handle d.irmNode CHANNELS_AVAILABLE_ADDR 8
      s.bus = .returned buffer b' := by
    rw [CommunicationLibraw1394.readNode_eq searched]
    rfl
  simp [getFreeChannel, device_of_live live, useHandle, read, found]

/-- It throws if there is none. -/
theorem getFreeChannel_of_none (live : s.devices p = some d)
    (searched : SearchAnswered d buffer s.bus b')
    (none : firstFree (channelsAvailable host.endian buffer) = none) :
    getFreeChannel host p s = .thrown (.text "No free isochronous channels available")
      { s with bus := b', handleLog := s.handleLog ++ [.used d.com.handle.id] } := by
  have read : CommunicationLibraw1394.readNode d.com.handle d.irmNode CHANNELS_AVAILABLE_ADDR 8
      s.bus = .returned buffer b' := by
    rw [CommunicationLibraw1394.readNode_eq searched]
    rfl
  simp [getFreeChannel, device_of_live live, useHandle, read, none]

/-- It throws if the register cannot be read. -/
theorem getFreeChannel_of_error (live : s.devices p = some d)
    {shortfall : CommunicationLibraw1394.Shortfall}
    (failed : CommunicationLibraw1394.ReadLoop d.com.handle d.irmNode CHANNELS_AVAILABLE_ADDR
      (8 : UInt32).toNat 0 [] s.bus (.thrown shortfall b')) :
    getFreeChannel host p s =
      .thrown (.failedTransfer CHANNELS_AVAILABLE_ADDR d.irmNode shortfall.errno)
        { s with bus := b', handleLog := s.handleLog ++ [.used d.com.handle.id] } := by
  have read : CommunicationLibraw1394.readNode d.com.handle d.irmNode CHANNELS_AVAILABLE_ADDR 8
      s.bus = .thrown (.failedTransfer CHANNELS_AVAILABLE_ADDR d.irmNode shortfall.errno) b' := by
    rw [CommunicationLibraw1394.readNode_eq failed]
    rfl
  simp [getFreeChannel, device_of_live live, useHandle, read]

/-- A claim goes to the ledger. -/
theorem claimChannel_of_ok (live : s.devices p = some d)
    (claimed : Bus.channelModify d.handle c .alloc s.bus = (true, b')) :
    claimChannel p c s = .returned ()
      { s with
        bus := b'
        handleLog := s.handleLog ++ [.used d.handle.id]
        ledger := s.ledger ++ [⟨.alloc, d.handle.port, c⟩] } := by
  simp [claimChannel, device_of_live live, useHandle, channelModify, claimed]

theorem claimChannel_of_refused (live : s.devices p = some d)
    (refused : Bus.channelModify d.handle c .alloc s.bus = (false, b')) :
    claimChannel p c s = .thrown (.text "Failed to claim channel")
      { s with bus := b', handleLog := s.handleLog ++ [.used d.handle.id] } := by
  simp [claimChannel, device_of_live live, useHandle, channelModify, refused]

/-- What is given back goes to the ledger, too. -/
theorem releaseChannel_of_ok (live : s.devices p = some d) (released : Releases d c s.bus b') :
    releaseChannel p c s = .returned ()
      { s with
        bus := b'
        handleLog := s.handleLog ++ [.used d.handle.id]
        ledger := s.ledger ++ [⟨.free, d.handle.port, c⟩] } := by
  unfold Releases at released
  simp [releaseChannel, device_of_live live, useHandle, channelModify, released]

theorem releaseChannel_of_refused (live : s.devices p = some d)
    (refused : ∀ b', ¬Releases d c s.bus b') :
    ∃ b', releaseChannel p c s = .thrown (.text "Failed to claim channel")
      { s with bus := b', handleLog := s.handleLog ++ [.used d.handle.id] } := by
  obtain ⟨r, b', attempt⟩ : ∃ r b', Bus.channelModify d.handle c .free s.bus = (r, b') :=
    ⟨_, _, rfl⟩
  cases r with
  | true => exact absurd attempt (refused b')
  | false =>
      refine ⟨b', ?_⟩
      simp [releaseChannel, device_of_live live, useHandle, channelModify, attempt]

omit [Bus β] in
theorem createCommunication_of_live (live : s.devices p = some d) :
    createCommunication p s = .returned ⟨d.node, ⟨s.nextHandle, d.port⟩, none, none⟩
      { s with
        nextHandle := s.nextHandle + 1
        handleLog := s.handleLog ++ [.opened s.nextHandle] ++ [.used s.nextHandle] } := by
  simp [createCommunication, device_of_live live, newCommunication, newHandle, useHandle]

/-- The channel object a constructor makes. -/
def claimedChannel (p : Ptr) (d : FirewireDeviceLibraw1394) (receiving : Bool) (c : Nat)
    (s : Library β) : PhantomIsoChannel where
  firewireDevice := p
  receiving
  com := ⟨d.node, ⟨s.nextHandle, d.port⟩, none, none⟩
  comConfig := ⟨d.node, ⟨s.nextHandle + 1, d.port⟩, none, none⟩
  channel := c

/-- The state after the two communication objects of a channel object are
made. -/
def communicating (s : Library β) : Library β :=
  { s with
    nextHandle := s.nextHandle + 1 + 1
    handleLog := s.handleLog ++ [.opened s.nextHandle] ++ [.used s.nextHandle] ++
      [.opened (s.nextHandle + 1)] ++ [.used (s.nextHandle + 1)] }

/-- The state after the construction of a channel object. -/
def afterNewChannel (p : Ptr) (d : FirewireDeviceLibraw1394) (receiving : Bool) (c : Nat)
    (b' : β) (s : Library β) : Library β :=
  { s.communicating with
    bus := b'
    handleLog := s.communicating.handleLog ++ [.used d.com.handle.id] ++ [.used d.handle.id]
    ledger := s.ledger ++ [⟨.alloc, d.handle.port, c⟩]
    isoChannels := s.isoChannels.alloc (s.claimedChannel p d receiving c) }

/-- The first half of the constructor. -/
theorem newChannel_eq (live : s.devices p = some d) (receiving : Bool) :
    newChannel host p receiving s =
      (getFreeChannel host p s.communicating).andThen fun channel =>
        claimChannel p channel >>= fun _ => do
          let this := (← get).isoChannels.next
          modify fun t =>
            { t with
              isoChannels := t.isoChannels.alloc (s.claimedChannel p d receiving channel) }
          return this := by
  have live' : (s.communicating).devices p = some d := live
  simp only [newChannel, Call.bind_apply, createCommunication_of_live live,
    Outcome.andThen_returned]
  rw [createCommunication_of_live (by exact live)]
  rfl

/-- The constructor claims a channel and opens two handles. -/
theorem newChannel_of_claims (live : s.devices p = some d) (receiving : Bool)
    (claims : Claims host d c s.bus b') :
    newChannel host p receiving s =
      .returned s.isoChannels.next (s.afterNewChannel p d receiving c b') := by
  obtain ⟨buffer, b₁, searched, found, claimed⟩ := claims
  have search := getFreeChannel_of_found (s := s.communicating) live searched found
  rw [newChannel_eq live, search, Outcome.andThen_returned, Call.bind_apply,
    claimChannel_of_ok (by exact live) (by exact claimed)]
  rfl

/-- A constructor that fails to claim a channel leaves its communication
objects behind, and nothing else. -/
theorem newChannel_of_fails (live : s.devices p = some d) (receiving : Bool)
    (fails : ClaimFails host d s.bus b') :
    ∃ e log, newChannel host p receiving s =
      .thrown e { s.communicating with bus := b', handleLog := log } := by
  rw [newChannel_eq live]
  rcases fails with ⟨shortfall, failed⟩ | ⟨buffer, b₁, searched, rest⟩
  · rw [getFreeChannel_of_error (s := s.communicating) live failed]
    exact ⟨_, _, rfl⟩
  · rcases rest with ⟨nothing, rfl⟩ | ⟨c, found, refused⟩
    · rw [getFreeChannel_of_none (s := s.communicating) live searched nothing]
      exact ⟨_, _, rfl⟩
    · rw [getFreeChannel_of_found (s := s.communicating) live searched found,
        Outcome.andThen_returned, Call.bind_apply,
        claimChannel_of_refused (by exact live) (by exact refused)]
      exact ⟨_, _, rfl⟩

end Construction

/-! ## Start, stop and destruction -/

section Methods

variable {s : Library β} {q : Ptr} {c : PhantomIsoChannel} {d : FirewireDeviceLibraw1394}
  {b' : β} {accesses : Call Exn β Unit}

omit [Bus β] in
theorem isoChannel_of_live (live : s.isoChannels q = some c) :
    isoChannel q s = .returned c s := by
  simp [isoChannel, live]

omit [Bus β] in
theorem onRegisters_of_returned (com : CommunicationLibraw1394)
    (returned : accesses s.bus = .returned () b') :
    onRegisters com accesses s =
      .returned () { s with bus := b', handleLog := s.handleLog ++ [.used com.handle.id] } := by
  simp [onRegisters, useHandle, returned]

omit [Bus β] in
/-- Register accesses that do not return throw, and touch the bus only. -/
theorem onRegisters_of_not_returned (com : CommunicationLibraw1394)
    (defined : PhantomIsoChannel.Defined (accesses s.bus))
    (unanswered : ∀ b', accesses s.bus ≠ .returned () b') :
    ∃ e b', onRegisters com accesses s =
      .thrown e { s with bus := b', handleLog := s.handleLog ++ [.used com.handle.id] } := by
  cases outcome : accesses s.bus with
  | returned _ b' => exact absurd outcome (unanswered b')
  | thrown e b' => exact ⟨e, b', by simp [onRegisters, useHandle, outcome]⟩
  | undefined =>
      rw [outcome] at defined
      exact defined.elim

/-- The transfer of a channel object has been started on the host. -/
def transferring (q : Ptr) (c : PhantomIsoChannel) (s : Library β) : Library β :=
  { s with
    handleLog := s.handleLog ++ [.used c.com.handle.id]
    isoChannels := s.isoChannels.modify q fun c => { c with com := startTransfer q c } }

/-- The state after `start`. -/
def afterStart (q : Ptr) (c : PhantomIsoChannel) (b' : β) (s : Library β) : Library β :=
  { s.transferring q c with
    bus := b'
    handleLog := (s.transferring q c).handleLog ++ [.used c.comConfig.handle.id] }

theorem startChannel_eq (live : s.isoChannels q = some c) :
    startChannel q s = onRegisters c.comConfig
      (PhantomIsoChannel.startRegisters c.comConfig c.receiving c.channel)
      (s.transferring q c) := by
  simp only [startChannel, Call.bind_apply, isoChannel_of_live live, Outcome.andThen_returned,
    useHandle, Call.modify_apply]
  rfl

/-- `start`, where the bus answers. -/
theorem startChannel_of_answered (live : s.isoChannels q = some c)
    (answered : PhantomIsoChannel.StartAnswered c.comConfig c.receiving c.channel s.bus b') :
    startChannel q s = .returned () (s.afterStart q c b') := by
  rw [startChannel_eq live]
  exact onRegisters_of_returned _ (PhantomIsoChannel.startRegisters_eq_returned.mpr answered)

/-- A `start` that throws has started the transfer on the host. -/
theorem startChannel_of_unanswered (live : s.isoChannels q = some c)
    (unanswered : ∀ b', ¬PhantomIsoChannel.StartAnswered c.comConfig c.receiving c.channel
      s.bus b') :
    ∃ e b', startChannel q s = .thrown e (s.afterStart q c b') := by
  rw [startChannel_eq live]
  refine onRegisters_of_not_returned _ PhantomIsoChannel.defined_startRegisters ?_
  intro b' returned
  exact unanswered b' (PhantomIsoChannel.startRegisters_eq_returned.mp returned)

/-- The state after the register accesses of `stop`. -/
def afterStopRegisters (c : PhantomIsoChannel) (b' : β) (s : Library β) : Library β :=
  { s with bus := b', handleLog := s.handleLog ++ [.used c.comConfig.handle.id] }

/-- The state after `stop`. -/
def afterStop (q : Ptr) (c : PhantomIsoChannel) (b' : β) (s : Library β) : Library β :=
  { s.afterStopRegisters c b' with
    handleLog := (s.afterStopRegisters c b').handleLog ++ [.used c.com.handle.id]
    isoChannels := s.isoChannels.modify q fun c => { c with com := c.com.stopIsoTransfer } }

/-- `stop`, where the bus answers. -/
theorem stopChannel_of_answered (live : s.isoChannels q = some c)
    (answered : PhantomIsoChannel.StopAnswered c.comConfig s.bus b') :
    stopChannel q s = .returned () (s.afterStop q c b') := by
  have accesses := onRegisters_of_returned c.comConfig
    (PhantomIsoChannel.stopRegisters_eq_returned.mpr answered)
  simp only [stopChannel, Call.bind_apply, isoChannel_of_live live, Outcome.andThen_returned,
    accesses, useHandle, Call.modify_apply]
  rfl

/-- Where the bus does not answer, `stop` throws and keeps the handler. -/
theorem stopChannel_of_unanswered (live : s.isoChannels q = some c)
    (unanswered : ∀ b', ¬PhantomIsoChannel.StopAnswered c.comConfig s.bus b') :
    ∃ e b', stopChannel q s = .thrown e (s.afterStopRegisters c b') := by
  have not_returned : ∀ b', PhantomIsoChannel.stopRegisters c.comConfig s.bus ≠
      .returned () b' := by
    intro b' returned
    exact unanswered b' (PhantomIsoChannel.stopRegisters_eq_returned.mp returned)
  obtain ⟨e, b', thrown⟩ := onRegisters_of_not_returned c.comConfig
    PhantomIsoChannel.defined_stopRegisters not_returned
  refine ⟨e, b', ?_⟩
  simp only [stopChannel, Call.bind_apply, isoChannel_of_live live, Outcome.andThen_returned,
    thrown, Outcome.andThen_thrown]
  rfl

/-- The state after `delete`, if the channel could be given back. -/
def afterDelete (q : Ptr) (c : PhantomIsoChannel) (d : FirewireDeviceLibraw1394) (b₁ b₂ : β)
    (s : Library β) : Library β :=
  { s with
    bus := b₂
    handleLog := (s.afterStop q c b₁).handleLog ++ [.used d.handle.id] ++
      [.destroyed c.com.handle.id] ++ [.destroyed c.comConfig.handle.id]
    ledger := s.ledger ++ [⟨.free, d.handle.port, c.channel⟩]
    isoChannels := s.isoChannels.free q }

theorem deleteChannel_of_answered {b₁ b₂ : β} (live : s.isoChannels q = some c)
    (liveDevice : s.devices c.firewireDevice = some d)
    (answered : PhantomIsoChannel.StopAnswered c.comConfig s.bus b₁)
    (released : Releases d c.channel b₁ b₂) :
    deleteChannel q s = .returned () (s.afterDelete q c d b₁ b₂) := by
  have stopped := stopChannel_of_answered live answered
  have liveStopped : (s.afterStop q c b₁).isoChannels q =
      some { c with com := c.com.stopIsoTransfer } := by
    show (s.isoChannels.modify q _) q = _
    rw [Heap.modify_self, live]
    rfl
  have releases := releaseChannel_of_ok (s := s.afterStop q c b₁) (p := c.firewireDevice)
    liveDevice released
  simp only [deleteChannel, destroyChannel, Call.bind_apply, Call.tryCatch_apply, stopped,
    Outcome.andThen_returned, isoChannel_of_live liveStopped, releases, deleteCommunication,
    destroyHandle, Call.modify_apply, Outcome.rescue_returned, freeChannel]
  simp only [afterStop, afterStopRegisters, afterDelete, Heap.free_modify]
  rfl

/-- A `delete` that throws does not give the channel back, but its object is
gone. -/
theorem deleteChannel_of_unanswered (live : s.isoChannels q = some c)
    (liveDevice : s.devices c.firewireDevice = some d)
    (unanswered : ∀ b₁ b₂, PhantomIsoChannel.StopAnswered c.comConfig s.bus b₁ →
      ¬Releases d c.channel b₁ b₂) :
    ∃ e b' log, deleteChannel q s =
      .thrown e
        { s with bus := b', handleLog := log, isoChannels := s.isoChannels.free q } := by
  by_cases answered : ∃ b₁, PhantomIsoChannel.StopAnswered c.comConfig s.bus b₁
  · obtain ⟨b₁, answered⟩ := answered
    have stopped := stopChannel_of_answered live answered
    have liveStopped : (s.afterStop q c b₁).isoChannels q =
        some { c with com := c.com.stopIsoTransfer } := by
      show (s.isoChannels.modify q _) q = _
      rw [Heap.modify_self, live]
      rfl
    obtain ⟨b₂, refused⟩ := releaseChannel_of_refused (s := s.afterStop q c b₁)
      (p := c.firewireDevice) liveDevice fun b₂ => unanswered b₁ b₂ answered
    simp only [deleteChannel, destroyChannel, Call.bind_apply, Call.tryCatch_apply, stopped,
      Outcome.andThen_returned, isoChannel_of_live liveStopped, refused, Outcome.andThen_thrown,
      Outcome.rescue_thrown, freeChannel, Call.modify_apply, Call.throw_apply]
    simp only [afterStop, afterStopRegisters, Heap.free_modify]
    exact ⟨_, _, _, rfl⟩
  · obtain ⟨e, b', thrown⟩ := stopChannel_of_unanswered live (not_exists.mp answered)
    simp only [deleteChannel, destroyChannel, Call.bind_apply, Call.tryCatch_apply, thrown,
      Outcome.andThen_thrown, Outcome.rescue_thrown, freeChannel, Call.modify_apply,
      Outcome.andThen_returned, Call.throw_apply]
    exact ⟨_, _, _, rfl⟩

end Methods

end Library

end LibPhantom
