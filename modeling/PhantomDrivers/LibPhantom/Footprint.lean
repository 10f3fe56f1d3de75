import PhantomDrivers.LibPhantom.BusAssertions
import PhantomDrivers.LibPhantom.SearchFrames
import PhantomDrivers.Raw1394.BusRecord

/-!
# What the library writes

The nodes of a FireWire bus belong to all kinds of devices, and a byte that is
written to the wrong one may do anything.  A program may use the library as it
likes, on any bus and with any failures: the library writes to the nodes of the
Phantoms it has found, and to nobody else.

* `ClientAction`, `clients` — the programs, with every method of the library but
  those that pass a write of the program on.
* `LawfulWrite` — what may be written.
* `Confined` — the invariant: a channel object talks to the node of a Phantom.
* `always_lawfulWrites` — every write of every run is lawful.
-/

namespace LibPhantom

open Semantics Raw1394

/-- What a program does with the library. -/
inductive ClientAction where
  | createInstance
  | next (i : Ptr)
  | deleteIterator (i : Ptr)
  | read (p : Ptr) (address : UInt64) (length : UInt32)
  | getVendorId (p : Ptr)
  | getVendorName (p : Ptr)
  | isSensableDevice (p : Ptr)
  | getFreeChannel (p : Ptr)
  | claimChannel (p : Ptr) (channel : Nat)
  | releaseChannel (p : Ptr) (channel : Nat)
  | deleteDevice (p : Ptr)
  | findPhantom (serial : UInt32)
  | readDeviceSerial (p : Ptr)
  | startPhantom (p : Ptr)
  | stopPhantom (p : Ptr)
  | isoIterate (p : Ptr) (recv xmit : LoopIteration)
  | deletePhantom (p : Ptr)
deriving DecidableEq, Repr

/-- A program, on a bus that records what is written, and the nodes of the
Phantoms it has found. -/
structure Client (β : Type) where
  library : Library (BusRecord β)
  found : List (Nat × UInt16)

namespace Library

variable {β : Type}

/-- The node of a Phantom. -/
def nodeOf (s : Library β) (p : Ptr) : List (Nat × UInt16) :=
  (((s.phantoms p).bind fun phantom => s.devices phantom.firewireDevice).map fun d =>
    (d.port, d.node)).toList

variable [Bus β]

/-- The call of an action, but for the search. -/
def clientCall (host : Host) (s : Library β) : ClientAction → Option (Library β)
  | .createInstance => (createInstance host s).state?
  | .next i => (next host i s).state?
  | .deleteIterator i => (deleteIterator i s).state?
  | .read p address length => (onDevice p (FirewireDevice.read address length) s).state?
  | .getVendorId p => (onDevice p (FirewireDevice.getVendorId host.endian) s).state?
  | .getVendorName p => (onDevice p (FirewireDevice.getVendorName host.endian) s).state?
  | .isSensableDevice p => (onDevice p (FirewireDevice.isSensableDevice host.endian) s).state?
  | .getFreeChannel p => (getFreeChannel host p s).state?
  | .claimChannel p channel => (claimChannel p channel s).state?
  | .releaseChannel p channel => (releaseChannel p channel s).state?
  | .deleteDevice p => (deleteDevice p s).state?
  | .findPhantom _ => none
  | .readDeviceSerial p => (readPhantomSerial host p s).state?
  | .startPhantom p => (startPhantom host p s).state?
  | .stopPhantom p => (stopPhantom p s).state?
  | .isoIterate p recv xmit => (isoIterate p recv xmit s).state?
  | .deletePhantom p => (deletePhantom p s).state?

end Library

variable {β : Type} [Bus β]

/-- The search, and what it finds. -/
def Client.search (host : Host) (client : Client β) (serial : UInt32) : Option (Client β) :=
  match Library.findPhantom host serial client.library with
  | .returned (some p) library => some ⟨library, client.found ++ library.nodeOf p⟩
  | .returned none library => some ⟨library, client.found⟩
  | .thrown _ library => some ⟨library, client.found⟩
  | .undefined => none

/-- The runs of programs that use the library.  They go on after an exception,
and nothing follows a call that has no defined behaviour. -/
def clients (host : Host) : System (Client β) ClientAction where
  step client action :=
    match action with
    | .findPhantom serial => client.search host serial
    | action => (client.library.clientCall host action).map fun library => { client with library }

/-- A program that has just started. -/
def Client.initial (bus : β) : Client β := ⟨Library.initial (.opened bus), []⟩

/-! ## Lawful writes -/

/-- A single byte for a register of a Phantom that was found.  The registers of
the channels get the number of a channel that was claimed on the port, or the
value that tests the device; the control register gets values with the enabling
bit. -/
structure LawfulWrite (found : List (Nat × UInt16)) (ledger : List ChannelEvent)
    (write : SentWrite) : Prop where
  node : (write.port, write.node) ∈ found
  register : ∃ channel byte, ⟨.alloc, write.port, channel⟩ ∈ ledger ∧ write.data = [byte] ∧
    IsChannelWrite channel write.address byte

theorem LawfulWrite.mono {found found' : List (Nat × UInt16)} {ledger ledger' : List ChannelEvent}
    {write : SentWrite} (lawful : LawfulWrite found ledger write) (more : found ⊆ found')
    (later : ledger ⊆ ledger') : LawfulWrite found' ledger' write := by
  obtain ⟨channel, byte, claimed, register⟩ := lawful.register
  exact ⟨more lawful.node, channel, byte, later claimed, register⟩

/-- The invariant. -/
structure Confined (found : List (Nat × UInt16)) (s : Library (BusRecord β)) : Prop where
  writes : ∀ write ∈ s.bus.writes, LawfulWrite found s.ledger write
  channels : ∀ q c, s.isoChannels q = some c →
    (c.comConfig.handle.port, c.comConfig.node) ∈ found ∧
      ⟨.alloc, c.comConfig.handle.port, c.channel⟩ ∈ s.ledger
  phantoms : ∀ p ph, s.phantoms p = some ph → ph.firewireDevice < s.devices.next ∧
    ∀ d, s.devices ph.firewireDevice = some d → (d.port, d.node) ∈ found
  handles : ∀ p d, s.devices p = some d → d.handle.port = d.port

namespace Confined

open Library

variable {host : Host} {found found' : List (Nat × UInt16)} {s s' : Library (BusRecord β)}
  {p q i : Ptr} {c : PhantomIsoChannel} {d : FirewireDeviceLibraw1394}

omit [Bus β] in
theorem initial (bus : β) : Confined [] (Client.initial bus).library where
  writes _ member := absurd member List.not_mem_nil
  channels _ _ live := nomatch live
  phantoms _ _ live := nomatch live
  handles _ _ live := nomatch live

omit [Bus β] in
theorem mono (confined : Confined found s) (more : found ⊆ found') : Confined found' s where
  writes write member := (confined.writes write member).mono more (List.Subset.refl _)
  channels q c live := ⟨more (confined.channels q c live).1, (confined.channels q c live).2⟩
  phantoms p ph live :=
    ⟨(confined.phantoms p ph live).1, fun d open' => more ((confined.phantoms p ph live).2 d open')⟩
  handles := confined.handles

omit [Bus β] in
theorem stable (found : List (Nat × UInt16)) :
    Stable (Confined found : Library (BusRecord β) → Prop) where
  handles s _ _ _ _ _ confined :=
    ⟨confined.writes, confined.channels, confined.phantoms, confined.handles⟩
  opened s host port node table confined := by
    refine ⟨confined.writes, confined.channels, fun p ph live => ?_, ?_⟩
    · obtain ⟨older, owned⟩ := confined.phantoms p ph live
      refine ⟨Nat.lt_succ_of_lt older, fun d open' => owned d ?_⟩
      rcases Heap.alloc_eq_some.mp open' with ⟨new, -⟩ | old
      · exact absurd new (Nat.ne_of_lt older)
      · exact old
    · intro p d live
      rcases Heap.alloc_eq_some.mp live with ⟨-, rfl⟩ | old
      · rfl
      · exact confined.handles p d old
  deleted s p d table confined := by
    refine ⟨confined.writes, confined.channels, fun q ph live => ?_, ?_⟩
    · obtain ⟨older, owned⟩ := confined.phantoms q ph live
      exact ⟨older, fun d open' => owned d (Heap.free_eq_some.mp open').2⟩
    · exact fun q d live => confined.handles q d (Heap.free_eq_some.mp live).2

omit [Bus β] in
/-- The fields of a device that its methods change do not matter. -/
theorem modifyDevice (confined : Confined found s) (p : Ptr) (device : FirewireDevice)
    (bus : BusRecord β) (same : bus.writes = s.bus.writes) :
    Confined found
      { s with bus, devices := s.devices.modify p fun d => { d with toFirewireDevice := device } } := by
  have before (q : Ptr) (d : FirewireDeviceLibraw1394)
      (live : (s.devices.modify p fun d => { d with toFirewireDevice := device }) q = some d) :
      ∃ d', s.devices q = some d' ∧ d'.port = d.port ∧ d'.node = d.node ∧ d'.handle = d.handle := by
    obtain ⟨d', old, rfl⟩ := (Heap.modify_eq_some _).mp live
    refine ⟨d', old, ?_⟩
    split
    · exact ⟨rfl, rfl, rfl⟩
    · exact ⟨rfl, rfl, rfl⟩
  refine ⟨same ▸ confined.writes, confined.channels, fun q ph live => ?_, fun q d live => ?_⟩
  · obtain ⟨older, owned⟩ := confined.phantoms q ph live
    refine ⟨older, fun d open' => ?_⟩
    obtain ⟨d', old, port, node, -⟩ := before _ d open'
    have member := owned d' old
    rwa [port, node] at member
  · obtain ⟨d', old, port, -, handle⟩ := before q d live
    rw [← port, ← handle]
    exact confined.handles q d' old

/-! ## Devices -/

/-- What no read changes. -/
theorem survivesReads_writes (writes : List SentWrite) :
    SurvivesReads fun b : BusRecord β => b.writes = writes :=
  fun _ _ _ _ _ same => same

omit [Bus β] in
theorem onDevice {α : Type} {method : Call Exn (DeviceState (BusRecord β)) α}
    (reading : ∀ writes, method.Preserves fun t => t.bus.writes = writes) :
    (onDevice p method).Preserves (Confined found) := by
  refine Call.preserves_bind Stable.device fun d => ?_
  refine Call.preserves_bind ((stable found).useHandle _) fun _ s confined => ?_
  rw [Call.within_apply, Outcome.leaves_mapState]
  have kept := reading s.bus.writes
    (⟨s.bus, d.toFirewireDevice⟩ : DeviceState (BusRecord β)) rfl
  exact kept.imp (fun _ t => confined.modifyDevice p t.device t.bus) fun _ t =>
    confined.modifyDevice p t.device t.bus

omit [Bus β] in
/-- A read of the register of the free channels. -/
theorem withBus (confined : Confined found s) {bus : BusRecord β}
    (same : bus.writes = s.bus.writes) : Confined found { s with bus } :=
  ⟨same ▸ confined.writes, confined.channels, confined.phantoms, confined.handles⟩

theorem getFreeChannel : (getFreeChannel host p).Preserves (Confined (β := β) found) := by
  refine Call.preserves_bind Stable.device fun d => ?_
  refine Call.preserves_bind ((stable found).useHandle _) fun _ => ?_
  refine Call.preserves_bind (fun s confined => ?_) fun buffer => ?_
  · rw [Call.within_apply, Outcome.leaves_mapState]
    have kept : (CommunicationLibraw1394.readNode d.com.handle d.irmNode CHANNELS_AVAILABLE_ADDR 8
        s.bus).Leaves _ _ :=
      CommunicationLibraw1394.upholds_readNode (survivesReads_writes s.bus.writes).reading 8 s.bus rfl
    exact kept.imp (fun _ _ same => confined.withBus same) fun _ _ same => confined.withBus same
  · split
    · exact Call.preserves_pure _
    · exact Call.preserves_throw _

omit [Bus β] in
/-- What an acknowledged change adds to the ledger does no harm. -/
theorem withLedger (confined : Confined found s) {bus : BusRecord β}
    (same : bus.writes = s.bus.writes) (event : ChannelEvent) :
    Confined found { s with bus, ledger := s.ledger ++ [event] } where
  writes write member := by
    rw [same] at member
    exact (confined.writes write member).mono (List.Subset.refl _) (List.subset_append_left _ _)
  channels q c live :=
    ⟨(confined.channels q c live).1, List.mem_append_left _ (confined.channels q c live).2⟩
  phantoms := confined.phantoms
  handles := confined.handles

theorem writes_of_channelModify {handle : Handle} {channel : Nat} {mode : Modify}
    {acknowledged : Bool} {b b' : BusRecord β}
    (change : Bus.channelModify handle channel mode b = (acknowledged, b')) :
    b'.writes = b.writes :=
  (congrArg (fun r => r.2.writes) change).symm

theorem channelModify (d : FirewireDeviceLibraw1394) (channel : Nat) (mode : Modify) :
    (channelModify d channel mode).Preserves (Confined (β := β) found) := by
  intro s confined
  obtain ⟨acknowledged, b, change⟩ : ∃ acknowledged b,
      Bus.channelModify d.handle channel mode s.bus = (acknowledged, b) := ⟨_, _, rfl⟩
  have same : b.writes = s.bus.writes := writes_of_channelModify change
  cases acknowledged with
  | true =>
      simp only [Library.channelModify, change]
      exact confined.withLedger same _
  | false =>
      simp only [Library.channelModify, change]
      exact confined.withBus same

theorem claimChannel (channel : Nat) :
    (claimChannel p channel).Preserves (Confined (β := β) found) := by
  refine Call.preserves_bind Stable.device fun d => ?_
  refine Call.preserves_bind ((stable found).useHandle _) fun _ => ?_
  refine Call.preserves_bind (channelModify d channel .alloc) fun acknowledged => ?_
  exact Call.preserves_ite (Call.preserves_throw _) (Call.preserves_pure _)

theorem releaseChannel (channel : Nat) :
    (releaseChannel p channel).Preserves (Confined (β := β) found) := by
  refine Call.preserves_bind Stable.device fun d => ?_
  refine Call.preserves_bind ((stable found).useHandle _) fun _ => ?_
  refine Call.preserves_bind (channelModify d channel .free) fun acknowledged => ?_
  exact Call.preserves_ite (Call.preserves_throw _) (Call.preserves_pure _)

/-! ## Channels -/

/-- The constructor of a channel for a device whose node may be written. -/
theorem newChannel (confined : Confined found s) {dev : Ptr} (receiving : Bool)
    (owned : ∀ d, s.devices dev = some d → (d.port, d.node) ∈ found) :
    (newChannel host dev receiving s).Leaves (fun _ => Confined found)
      fun _ => Confined found := by
  cases live : s.devices dev with
  | none =>
      rw [Library.newChannel, Call.bind_apply, Library.createCommunication, Call.bind_apply,
        device_of_dead live]
      trivial
  | some d =>
      have communicating : Confined found s.communicating :=
        (stable found).handles s _ _ s.ports s.iterators s.openDevices confined
      rcases claims_or_fails host d s.bus with ⟨channel, b, claims⟩ | ⟨b, fails⟩
      · rw [newChannel_of_claims live receiving claims]
        obtain ⟨buffer, b₁, searched, -, claimed⟩ := claims
        have read : b₁.writes = s.bus.writes :=
          searched.leaves (survivesReads_writes s.bus.writes).reading rfl
        have same : b.writes = s.bus.writes := (writes_of_channelModify claimed).trans read
        have ledgered := communicating.withLedger same ⟨.alloc, d.handle.port, channel⟩
        refine ⟨ledgered.writes, fun q c live' => ?_, ledgered.phantoms, ledgered.handles⟩
        rcases Heap.alloc_eq_some.mp live' with ⟨-, rfl⟩ | old
        · refine ⟨owned d live, List.mem_append_right _ ?_⟩
          rw [confined.handles dev d live]
          exact List.mem_singleton_self _
        · exact ledgered.channels q c old
      · obtain ⟨e, log, thrown⟩ := newChannel_of_fails live receiving fails
        rw [thrown]
        have same : b.writes = s.bus.writes := by
          rcases fails with ⟨shortfall, failed⟩ | ⟨buffer, b₁, searched, rest⟩
          · exact failed.leaves (survivesReads_writes s.bus.writes).reading rfl
          · have read : b₁.writes = s.bus.writes :=
              searched.leaves (survivesReads_writes s.bus.writes).reading rfl
            rcases rest with ⟨-, rfl⟩ | ⟨channel, -, refused⟩
            · exact read
            · exact (writes_of_channelModify refused).trans read
        exact (stable found).handles _ s.communicating.nextHandle log s.ports s.iterators
          s.openDevices (communicating.withBus same)

omit [Bus β] in
theorem isoChannel : (isoChannel q).Preserves (Confined (β := β) found) := by
  refine Call.preserves_bind Call.preserves_get fun s => ?_
  split
  · exact Call.preserves_undefined
  · exact Call.preserves_pure _

/-- A channel object writes to the node of its Phantom. -/
theorem survivesRegisters (ledger : List ChannelEvent)
    (owned : (c.comConfig.handle.port, c.comConfig.node) ∈ found)
    (claimed : ⟨.alloc, c.comConfig.handle.port, c.channel⟩ ∈ ledger) :
    SurvivesRegisters (fun b : BusRecord β => ∀ write ∈ b.writes, LawfulWrite found ledger write)
      c.comConfig c.channel := by
  intro address byte b lawful holds write member
  rw [BusRecord.writes_write, List.mem_append, List.mem_singleton] at member
  rcases member with old | rfl
  · exact holds write old
  · exact ⟨owned, c.channel, byte, claimed, rfl, lawful⟩

omit [Bus β] in
/-- Accesses to the registers of a channel. -/
theorem onRegisters (confined : Confined found s) {com : CommunicationLibraw1394}
    {accesses : Call Exn (BusRecord β) Unit}
    (lawful : accesses.Preserves fun b => ∀ write ∈ b.writes, LawfulWrite found s.ledger write) :
    (onRegisters com accesses s).Leaves (fun _ => Confined found) fun _ => Confined found := by
  have used := (stable found).useHandle (F := fun _ => Confined found) com.handle s confined
  rw [Library.onRegisters, Call.bind_apply]
  show ((Call.within _ _ accesses) _).Leaves _ _
  rw [Call.within_apply, Outcome.leaves_mapState]
  have kept := lawful s.bus confined.writes
  have after (b : BusRecord β) (writes : ∀ write ∈ b.writes, LawfulWrite found s.ledger write) :
      Confined found { s with bus := b, handleLog := s.handleLog ++ [.used com.handle.id] } :=
    ⟨writes, used.channels, used.phantoms, used.handles⟩
  exact kept.imp (fun _ => after) fun _ => after

omit [Bus β] in
/-- The transfer of a channel object is a matter of the host. -/
theorem modifyChannel (confined : Confined found s) (f : PhantomIsoChannel → PhantomIsoChannel)
    (same : ∀ c, (f c).comConfig = c.comConfig ∧ (f c).channel = c.channel) :
    Confined found { s with isoChannels := s.isoChannels.modify q f } := by
  refine ⟨confined.writes, fun r c live => ?_, confined.phantoms, confined.handles⟩
  obtain ⟨c', old, rfl⟩ := (Heap.modify_eq_some f).mp live
  split
  · rw [(same c').1, (same c').2]
    exact confined.channels r c' old
  · exact confined.channels r c' old

theorem startChannel : (startChannel q).Preserves (Confined (β := β) found) := by
  intro s confined
  cases live : s.isoChannels q with
  | none =>
      rw [Library.startChannel, Call.bind_apply, Library.isoChannel, Call.bind_apply,
        Call.get_apply, Outcome.andThen_returned, live]
      trivial
  | some c =>
      rw [startChannel_eq live]
      obtain ⟨owned, claimed⟩ := confined.channels q c live
      have used := (stable found).useHandle (F := fun _ => Confined found) c.com.handle s confined
      have transferring : Confined found (s.transferring q c) :=
        modifyChannel used (fun c => { c with com := startTransfer q c }) fun c => ⟨rfl, rfl⟩
      refine transferring.onRegisters ?_
      exact PhantomIsoChannel.preserves_startRegisters (fun _ _ _ _ _ same => same)
        (survivesRegisters s.ledger owned claimed)

theorem stopChannel : (stopChannel q).Preserves (Confined (β := β) found) := by
  intro s confined
  cases live : s.isoChannels q with
  | none =>
      rw [Library.stopChannel, Call.bind_apply, Library.isoChannel, Call.bind_apply,
        Call.get_apply, Outcome.andThen_returned, live]
      trivial
  | some c =>
      obtain ⟨owned, claimed⟩ := confined.channels q c live
      rw [Library.stopChannel, Call.bind_apply, isoChannel_of_live live, Outcome.andThen_returned]
      refine Call.leaves_bind (confined.onRegisters ?_) fun _ s₁ confined₁ => ?_
      · exact PhantomIsoChannel.preserves_stopRegisters (fun _ _ _ _ _ same => same)
          (survivesRegisters s.ledger owned claimed)
      refine Call.leaves_bind ((stable found).useHandle _ s₁ confined₁) fun _ s₂ confined₂ => ?_
      exact confined₂.modifyChannel _ fun c => ⟨rfl, rfl⟩

omit [Bus β] in
theorem freeChannel : (freeChannel q).Preserves (Confined (β := β) found) := by
  refine Call.preserves_modify fun s confined => ?_
  refine ⟨confined.writes, fun r c live => ?_, confined.phantoms, confined.handles⟩
  exact confined.channels r c (Heap.free_eq_some.mp live).2

theorem deleteChannel : (deleteChannel q).Preserves (Confined (β := β) found) := by
  have destroyed : (destroyChannel q).Preserves (Confined (β := β) found) := by
    refine Call.preserves_bind stopChannel fun _ => ?_
    refine Call.preserves_bind isoChannel fun c => ?_
    refine Call.preserves_bind (releaseChannel c.channel) fun _ => ?_
    refine Call.preserves_bind ((stable found).destroyHandle _) fun _ => ?_
    exact (stable found).destroyHandle _
  refine Call.preserves_bind (Call.preserves_tryCatch destroyed fun e => ?_) fun _ => freeChannel
  exact Call.preserves_bind freeChannel fun _ => Call.preserves_throw _

/-! ## Phantoms -/

omit [Bus β] in
theorem phantom : (Library.phantom p).Preserves (Confined (β := β) found) := by
  refine Call.preserves_bind Call.preserves_get fun s => ?_
  split
  · exact Call.preserves_undefined
  · exact Call.preserves_pure _

omit [Bus β] in
theorem channelPtr (member : Phantom → Option Ptr) :
    (channelPtr p member).Preserves (Confined (β := β) found) := by
  refine Call.preserves_bind phantom fun ph => ?_
  split
  · exact Call.preserves_undefined
  · exact Call.preserves_pure _

omit [Bus β] in
/-- A Phantom never changes its device. -/
theorem modifyPhantom {f : Phantom → Phantom}
    (same : ∀ ph, (f ph).firewireDevice = ph.firewireDevice) :
    (modifyPhantom p f).Preserves (Confined (β := β) found) := by
  intro s confined
  refine ⟨confined.writes, confined.channels, fun q ph live => ?_, confined.handles⟩
  obtain ⟨ph', old, rfl⟩ := (Heap.modify_eq_some f).mp live
  split
  · rw [same ph']
    exact confined.phantoms q ph' old
  · exact confined.phantoms q ph' old

/-- A channel for the device of a Phantom. -/
theorem newPhantomChannel (receiving : Bool) {store : Ptr → Call Exn (Library (BusRecord β)) Unit}
    (stores : ∀ r, (store r).Preserves (Confined found)) :
    (do
      let r ← Library.newChannel host (← Library.phantom p).firewireDevice receiving
      store r).Preserves (Confined found) := by
  intro s confined
  cases live : s.phantoms p with
  | none =>
      have dead : (Library.phantom p : Call Exn (Library (BusRecord β)) _) s = .undefined := by
        simp [Library.phantom, live]
      rw [Call.bind_apply, dead]
      trivial
  | some ph =>
      rw [Call.bind_apply, phantom_of_live live, Outcome.andThen_returned]
      have owned := (confined.phantoms p ph live).2
      exact Call.leaves_bind (confined.newChannel receiving owned) fun r s₁ => stores r s₁

theorem newXmitChannel : (newXmitChannel host p).Preserves (Confined (β := β) found) := by
  refine Call.preserves_tryCatch ?_ fun e => ?_
  · exact newPhantomChannel false fun xmit => modifyPhantom fun _ => rfl
  · refine Call.preserves_bind (channelPtr _) fun r => ?_
    exact Call.preserves_bind deleteChannel fun _ => Call.preserves_throw _

theorem newChannels : (newChannels host p).Preserves (Confined (β := β) found) := by
  refine newPhantomChannel true fun recv => ?_
  exact Call.preserves_bind (modifyPhantom fun _ => rfl) fun _ => newXmitChannel

theorem startPhantom : (startPhantom host p).Preserves (Confined (β := β) found) := by
  have started : (startChannels p).Preserves (Confined (β := β) found) := by
    refine Call.preserves_bind (channelPtr _) fun r => ?_
    refine Call.preserves_bind startChannel fun _ => ?_
    exact Call.preserves_bind (channelPtr _) fun x => startChannel
  refine Call.preserves_bind phantom fun ph => ?_
  refine Call.preserves_ite (Call.preserves_throw _) ?_
  refine Call.preserves_bind (modifyPhantom fun _ => rfl) fun _ => ?_
  refine Call.preserves_bind ?_ fun _ => started
  refine Call.preserves_tryCatch newChannels fun e => ?_
  exact Call.preserves_bind (modifyPhantom fun _ => rfl) fun _ => Call.preserves_throw _

theorem stopPhantom : (stopPhantom p).Preserves (Confined (β := β) found) := by
  refine Call.preserves_bind phantom fun ph => ?_
  refine Call.preserves_ite (Call.preserves_pure _) ?_
  refine Call.preserves_bind (modifyPhantom fun _ => rfl) fun _ => ?_
  refine Call.preserves_bind ?_ fun _ => ?_
  · refine Call.preserves_bind (channelPtr _) fun r => ?_
    refine Call.preserves_bind stopChannel fun _ => ?_
    exact Call.preserves_bind (channelPtr _) fun x => stopChannel
  · refine Call.preserves_bind (channelPtr _) fun r => ?_
    refine Call.preserves_bind deleteChannel fun _ => ?_
    exact Call.preserves_bind (channelPtr _) fun x => deleteChannel

theorem deletePhantom : (deletePhantom p).Preserves (Confined (β := β) found) := by
  have deletedBase : (deleteBaseDevice p).Preserves (Confined (β := β) found) := by
    refine Call.preserves_bind phantom fun ph => ?_
    refine Call.preserves_bind (stable found).deleteDevice fun _ => ?_
    refine Call.preserves_modify fun s confined => ?_
    refine ⟨confined.writes, confined.channels, fun q ph live => ?_, confined.handles⟩
    exact confined.phantoms q ph (Heap.free_eq_some.mp live).2
  refine Call.preserves_bind ?_ fun _ => deletedBase
  refine Call.preserves_tryCatch stopPhantom fun e => ?_
  exact Call.preserves_bind deletedBase fun _ => Call.preserves_throw _

theorem readDeviceSerial : (readDeviceSerial host p).Preserves (Confined (β := β) found) :=
  onDevice fun writes => FirewireDevice.upholds_readQuadlet (survivesReads_writes writes).reading _

omit [Bus β] in
/-- The handlers of the packets change no object. -/
theorem isoIterate (recv xmit : LoopIteration) :
    (isoIterate p recv xmit).Preserves (Confined (β := β) found) := by
  have handled (com : CommunicationLibraw1394) (packets : Nat) :
      (handlePackets com packets).Preserves (Confined (β := β) found) := by
    induction packets with
    | zero => exact Call.preserves_pure _
    | succ packets ih =>
        refine Call.preserves_bind ?_ fun _ => ih
        rw [callbackHandler]
        split
        · exact Call.preserves_undefined
        · exact Call.preserves_bind isoChannel fun _ => Call.preserves_pure _
  have iterated (r : Ptr) (iteration : LoopIteration) :
      (iterateChannel r iteration).Preserves (Confined (β := β) found) := by
    refine Call.preserves_bind isoChannel fun c => ?_
    refine Call.preserves_bind ?_ fun errno => ?_
    · refine Call.preserves_bind ((stable found).useHandle _) fun _ => ?_
      exact Call.preserves_bind (handled _ _) fun _ => Call.preserves_pure _
    · split
      · exact Call.preserves_pure _
      · exact Call.preserves_ite (Call.preserves_throw _) (Call.preserves_pure _)
  refine Call.preserves_bind (channelPtr _) fun r => ?_
  refine Call.preserves_bind (iterated r recv) fun _ => ?_
  exact Call.preserves_bind (channelPtr _) fun x => iterated x xmit

/-! ## The search -/

omit [Bus β] in
/-- The assertion during the examination of a device. -/
theorem stable_candidate (found : List (Nat × UInt16)) (device : Ptr) :
    Stable fun s : Library (BusRecord β) => Confined found s ∧ device < s.devices.next where
  handles s n log ports iterators table kept :=
    ⟨(stable found).handles s n log ports iterators table kept.1, kept.2⟩
  opened s host port node table kept :=
    ⟨(stable found).opened s host port node table kept.1, Nat.lt_succ_of_lt kept.2⟩
  deleted s p d table kept := ⟨(stable found).deleted s p d table kept.1, kept.2⟩

omit [Bus β] in
/-- The node of a new Phantom is found. -/
theorem newPhantom (confined : Confined found s) {device : Ptr} (older : device < s.devices.next) :
    Confined (found ++ (s.withPhantom device).nodeOf s.phantoms.next) (s.withPhantom device) := by
  obtain ⟨writes, channels, phantoms, handles⟩ :=
    confined.mono (List.subset_append_left found
      ((s.withPhantom device).nodeOf s.phantoms.next))
  refine ⟨writes, channels, fun p ph live => ?_, handles⟩
  rcases Heap.alloc_eq_some.mp live with ⟨-, rfl⟩ | old
  · refine ⟨older, fun d open' => List.mem_append_right _ ?_⟩
    have created : (s.withPhantom device).phantoms s.phantoms.next =
        some ⟨device, false, none, none⟩ := Heap.alloc_next ..
    have examined : (s.withPhantom device).devices device = some d := open'
    rw [nodeOf, created, Option.bind_some, examined]
    exact List.mem_singleton_self _
  · exact phantoms p ph old

/-- The new Phantom gets the node of the device that was examined. -/
theorem examine (confined : Confined found s) (serial : UInt32) (device : Ptr) :
    (examine host serial i device s).Leaves
      (fun r s' => (∀ p, r = some p → Confined (found ++ s'.nodeOf p) s') ∧
        (r = none → Confined found s'))
      fun _ => Confined found := by
  cases live : s.devices device with
  | none =>
      have dead : (Library.examine host serial i device : Call Exn (Library (BusRecord β)) _) s =
          .undefined := by
        simp [Library.examine, Library.onDevice, device_of_dead live]
      rw [dead]
      trivial
  | some d =>
      -- no device with this pointer is made during the call
      have older : (fun s => device < s.devices.next) s := Heap.lt_next live
      have asked {α : Type} {method : Call Exn (DeviceState (BusRecord β)) α}
          (reading : ∀ writes, method.Preserves fun t => t.bus.writes = writes) :
          (Library.onDevice device method).Preserves
            fun s => Confined found s ∧ device < s.devices.next := by
        refine (onDevice reading).and ?_
        refine Call.preserves_bind Stable.device fun d => ?_
        refine Call.preserves_bind (Call.preserves_modify fun s older => older) fun _ => ?_
        exact Call.preserves_within fun _ _ older => older
      have dropped {s : Library (BusRecord β)} (confined : Confined found s) :
          ((do Library.deleteDevice device; return none :
              Call Exn (Library (BusRecord β)) (Option Ptr)) s).Leaves
            (fun r s' => (∀ p, r = some p → Confined (found ++ s'.nodeOf p) s') ∧
              (r = none → Confined found s'))
            fun _ => Confined found :=
        Call.leaves_bind ((stable found).deleteDevice s confined) fun _ _ confined =>
          ⟨fun p taken => absurd taken (Option.some_ne_none p).symm, fun _ => confined⟩
      refine Call.leaves_bind ((asked (fun writes => FirewireDevice.upholds_isSensableDevice
        (survivesReads_writes writes).reading) s ⟨confined, older⟩).imp (fun _ _ kept => kept)
          fun _ _ kept => kept.1) fun sensable s₁ kept₁ => ?_
      refine Call.leaves_ite (fun _ => ?_) fun _ => dropped kept₁.1
      refine Call.leaves_bind ((asked (fun writes => FirewireDevice.upholds_readQuadlet
        (survivesReads_writes writes).reading _) s₁ kept₁).imp (fun _ _ kept => kept)
          fun _ _ kept => kept.1) fun deviceSerial s₂ kept₂ => ?_
      refine Call.leaves_ite (fun _ => dropped kept₂.1) fun _ => ?_
      refine Call.leaves_bind ((stable_candidate found device).deleteIterator s₂ kept₂)
        fun _ s₃ kept₃ => ?_
      refine ⟨fun p taken => ?_, fun missing => absurd missing (Option.some_ne_none _)⟩
      obtain rfl := Option.some.inj taken
      exact kept₃.1.newPhantom kept₃.2

/-- A search, however it ends. -/
theorem findPhantom (serial : UInt32) (s : Library (BusRecord β)) (confined : Confined found s) :
    (findPhantom host serial s).Leaves
      (fun r s' => (∀ p, r = some p → Confined (found ++ s'.nodeOf p) s') ∧
        (r = none → Confined found s'))
      fun _ => Confined found := by
  refine Call.leaves_bind ((stable found).createInstance s confined) fun i s₁ confined₁ => ?_
  refine Call.leaves_bind (Stable.iterator s₁ confined₁) fun it s₂ confined₂ => ?_
  refine leaves_findPhantomFrom (I := Confined found) (J := fun _ => Confined found) ?_ ?_ _
    confined₂
  · intro s confined
    refine ((stable found).next s confined).imp (fun r s' confined' => ?_) fun _ _ kept => kept
    refine ⟨fun _ _ => confined', fun _ => ?_⟩
    refine ((stable found).deleteIterator s' confined').imp (fun _ _ kept => ?_) fun _ _ kept => kept
    exact ⟨fun p taken => absurd taken (Option.some_ne_none p).symm, fun _ => kept⟩
  · intro device s confined
    refine (confined.examine serial device).imp (fun r s' kept => ?_) fun _ _ kept => kept
    exact ⟨fun p taken => ⟨fun p' same => Option.some.inj same ▸ kept.1 p taken,
      fun missing => absurd missing (Option.some_ne_none _)⟩, kept.2⟩

end Confined

/-! ## Runs -/

namespace Client

variable {host : Host} {client client' : Client β} {action : ClientAction}

theorem confined_search {serial : UInt32} (confined : Confined client.found client.library)
    (searched : client.search host serial = some client') :
    Confined client'.found client'.library := by
  have looked : (Library.findPhantom host serial client.library).Leaves _ _ :=
    Confined.findPhantom serial client.library confined
  rw [Client.search] at searched
  split at searched
  · next p library outcome =>
      rw [outcome] at looked
      cases searched
      exact looked.1 p rfl
  · next library outcome =>
      rw [outcome] at looked
      cases searched
      exact looked.2 rfl
  · next e library outcome =>
      rw [outcome] at looked
      cases searched
      exact looked
  · cases searched

theorem confined_call {library : Library (BusRecord β)}
    (confined : Confined client.found client.library)
    (called : client.library.clientCall host action = some library) :
    Confined client.found library := by
  cases action with
  | createInstance => exact ((Confined.stable _).createInstance _ confined).of_state? called
  | next i => exact ((Confined.stable _).next _ confined).of_state? called
  | deleteIterator i => exact ((Confined.stable _).deleteIterator _ confined).of_state? called
  | read p address length =>
      exact (Confined.onDevice (fun writes => FirewireDevice.upholds_read
        (Confined.survivesReads_writes writes).reading _ _) _ confined).of_state? called
  | getVendorId p =>
      exact (Confined.onDevice (fun writes => FirewireDevice.upholds_getVendorId
        (Confined.survivesReads_writes writes).reading) _ confined).of_state? called
  | getVendorName p =>
      exact (Confined.onDevice (fun writes => FirewireDevice.upholds_getVendorName
        (Confined.survivesReads_writes writes).reading) _ confined).of_state? called
  | isSensableDevice p =>
      exact (Confined.onDevice (fun writes => FirewireDevice.upholds_isSensableDevice
        (Confined.survivesReads_writes writes).reading) _ confined).of_state? called
  | getFreeChannel p => exact (Confined.getFreeChannel _ confined).of_state? called
  | claimChannel p channel => exact (Confined.claimChannel channel _ confined).of_state? called
  | releaseChannel p channel => exact (Confined.releaseChannel channel _ confined).of_state? called
  | deleteDevice p => exact ((Confined.stable _).deleteDevice _ confined).of_state? called
  | findPhantom serial => exact nomatch called
  | readDeviceSerial p =>
      refine (Call.preserves_bind Confined.phantom (fun ph => ?_) _ confined).of_state? called
      exact Confined.readDeviceSerial
  | startPhantom p => exact (Confined.startPhantom _ confined).of_state? called
  | stopPhantom p => exact (Confined.stopPhantom _ confined).of_state? called
  | isoIterate p recv xmit => exact (Confined.isoIterate recv xmit _ confined).of_state? called
  | deletePhantom p => exact (Confined.deletePhantom _ confined).of_state? called

theorem confined_step (confined : Confined client.found client.library)
    (stepped : (clients host).step client action = some client') :
    Confined client'.found client'.library := by
  have kept {action : ClientAction}
      (called : (client.library.clientCall host action).map
        (fun library => { client with library }) = some client') :
      Confined client'.found client'.library := by
    obtain ⟨library, left, rfl⟩ := Option.map_eq_some_iff.mp called
    exact @confined_call β _ host client action library confined left
  cases action with
  | findPhantom serial => exact confined_search confined stepped
  | _ => exact kept stepped

end Client

/-- **Every write is lawful.**  In every state of every run, whatever program,
bus and failures: each write that was sent went to the node of a Phantom that a
search of the program had found, to one of the three registers of a channel, with a
single byte; what the channel registers got is a channel the library had claimed
on that port or the value that tests the device, and no write of the control register took the
enabling bit away. -/
theorem always_lawfulWrites (host : Host) (bus : β) (actions : List ClientAction) :
    (clients host).Always
      (fun client => ∀ write ∈ client.library.bus.writes,
        LawfulWrite client.found client.library.ledger write)
      (Client.initial bus) actions := by
  refine System.always_iff_prefix.mpr fun before _ client reached => ?_
  have confined : Confined client.found client.library :=
    System.run_induction (P := fun client : Client β => Confined client.found client.library)
      (Confined.initial bus) (fun _ _ _ => Client.confined_step) reached
  exact confined.writes

end LibPhantom
