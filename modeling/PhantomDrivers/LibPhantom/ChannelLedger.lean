import PhantomDrivers.LibPhantom.PhantomRuns
import PhantomDrivers.LibPhantom.ReliableBus
import PhantomDrivers.Semantics.Leases

/-!
# The ledger of channels

Any number of Phantoms are connected, started, stopped and destroyed, while
other nodes take channels and give them back at any time.  The devices answer
all register accesses; the manager of the channels may refuse whatever it
likes.

* `ledgerRuns` — the runs.  What other nodes do between two transactions of one
  call is part of the bus.
* `Balanced` — the invariant.  It is kept by every step (`Balanced.step`).
* `ledger_balanced` — the channels held by the library are those of the live
  channel objects, and every claim was released once or is still held.
-/

namespace LibPhantom

open Semantics Raw1394

/-- What can happen to Phantoms and to channels. -/
inductive LedgerAction where
  | phantom (action : PhantomAction)
  | foreign (act : ForeignAct)

namespace Library

/-- The keys are the channels of the ports. -/
abbrev ChannelKey : Type := Nat × Nat

/-- The library holds the channel. -/
def Held (b : ManagedBus) (k : ChannelKey) : Prop := b.allocation k.1 k.2 = some .library

/-- The channel of a channel object. -/
def channelKey (c : PhantomIsoChannel) : ChannelKey := (c.comConfig.handle.port, c.channel)

/-- An entry of the ledger as an event of its channel. -/
def ledgerEntry (event : ChannelEvent) : ChannelKey × Bool :=
  ((event.port, event.channel), decide (event.mode = .alloc))

section Held

variable {b b' : ManagedBus} {port channel : Nat} {k : ChannelKey}

theorem held_of_elapses (elapses : b.Elapses b') : Held b' k ↔ Held b k := elapses.held k.1 k.2

/-- What is written to registers does not matter. -/
theorem held_of_written {memory : Memory} (elapses : ManagedBus.Elapses { b with memory } b') :
    Held b' k ↔ Held b k := elapses.held k.1 k.2

theorem held_assign_library :
    Held { b with allocation := b.allocation.assign port channel (some .library) } k ↔
      k = (port, channel) ∨ Held b k := by
  obtain ⟨p, c⟩ := k
  by_cases same : p = port ∧ c = channel
  · obtain ⟨rfl, rfl⟩ := same
    simp [Held]
  · have apart : (p, c) ≠ (port, channel) := fun h => same (Prod.mk.inj h)
    simp [Held, Allocation.assign_of_ne same, apart]

theorem held_assign_none :
    Held { b with allocation := b.allocation.assign port channel none } k ↔
      k ≠ (port, channel) ∧ Held b k := by
  obtain ⟨p, c⟩ := k
  by_cases same : p = port ∧ c = channel
  · obtain ⟨rfl, rfl⟩ := same
    simp [Held]
  · have apart : (p, c) ≠ (port, channel) := fun h => same (Prod.mk.inj h)
    simp [Held, Allocation.assign_of_ne same, apart]

end Held

/-! ## The invariant -/

/-- A live channel object belongs to a started Phantom and configures its
device. -/
structure Belongs (s : Library ManagedBus) (q : Ptr) (c : PhantomIsoChannel) (p : Ptr)
    (d : FirewireDeviceLibraw1394) : Prop where
  owns : Owns s p q
  device : s.devices c.firewireDevice = some d
  phantom : ∀ ph, s.phantoms p = some ph → ph.firewireDevice = c.firewireDevice
  configures : Configures c.comConfig d.port d.node

/-- What holds in all runs on a reliable bus. -/
structure Balanced (s : Library ManagedBus) : Prop where
  sound : Sound s
  reliable : s.bus.Reliable
  serves : ∀ p ph d, s.phantoms p = some ph → s.devices ph.firewireDevice = some d →
    PhantomIsoChannel.Serves s.bus.memory d.port d.node ∧ d.handle.port = d.port
  belongs : ∀ q c, s.isoChannels q = some c → ∃ p d, Belongs s q c p d
  leases : Leases (Held s.bus) s.isoChannels channelKey (s.ledger.map ledgerEntry)

variable {s s' : Library ManagedBus} {host : Host} {p p' q r x : Ptr} {ph ph' : Phantom}
  {d : FirewireDeviceLibraw1394} {c recv xmit : PhantomIsoChannel} {changed : List Ptr}

/-- A method of another Phantom does not matter. -/
theorem Belongs.frame (belongs : Belongs s q c p' d) (frame : MethodFrame p changed s s')
    (different : p' ≠ p) : Belongs s' q c p' d where
  owns := by
    obtain ⟨ph, live, rest⟩ := belongs.owns
    exact ⟨ph, (frame.others p' different).trans live, rest⟩
  device := frame.devices ▸ belongs.device
  phantom ph live := belongs.phantom ph ((frame.others p' different).symm.trans live)
  configures := belongs.configures

/-- The channel objects of a running Phantom belong to it. -/
theorem Running.belongs (running : Running s p d r x recv xmit)
    (recvConfig : Configures recv.comConfig d.port d.node)
    (xmitConfig : Configures xmit.comConfig d.port d.node) :
    Belongs s r recv p d ∧ Belongs s x xmit p d := by
  obtain ⟨dev, live, deviceLive, recvDevice, xmitDevice⟩ := running.phantom
  refine ⟨⟨running.owns.1, recvDevice ▸ deviceLive, ?_, recvConfig⟩,
    ⟨running.owns.2, xmitDevice ▸ deviceLive, ?_, xmitConfig⟩⟩
  · intro ph live'
    rw [live] at live'
    exact (Option.some.inj live') ▸ recvDevice.symm
  · intro ph live'
    rw [live] at live'
    exact (Option.some.inj live') ▸ xmitDevice.symm

/-- A method keeps the invariant if it leaves nothing but channel objects of
its own and those of other Phantoms. -/
theorem Balanced.method (balanced : Balanced s) (sound : Sound s')
    (frame : MethodFrame p changed s s') (live : s.phantoms p = some ph)
    (live' : s'.phantoms p = some ph') (device : ph'.firewireDevice = ph.firewireDevice)
    (reliable : s'.bus.Reliable)
    (served : ∀ port node, PhantomIsoChannel.Serves s.bus.memory port node →
      PhantomIsoChannel.Serves s'.bus.memory port node)
    (objects : ∀ q c, s'.isoChannels q = some c →
      (∃ d, Belongs s' q c p d) ∨ s.isoChannels q = some c ∧ ¬Owns s p q)
    (leases : Leases (Held s'.bus) s'.isoChannels channelKey (s'.ledger.map ledgerEntry)) :
    Balanced s' where
  sound
  reliable
  serves q ph₁ d₁ live₁ device₁ := by
    have before : ∃ ph₀, s.phantoms q = some ph₀ ∧ s.devices ph₀.firewireDevice = some d₁ := by
      rw [frame.devices] at device₁
      rcases eq_or_ne q p with rfl | different
      · rw [live'] at live₁
        obtain rfl := Option.some.inj live₁
        exact ⟨ph, live, device ▸ device₁⟩
      · exact ⟨ph₁, (frame.others q different).symm.trans live₁, device₁⟩
    obtain ⟨ph₀, live₀, device₀⟩ := before
    obtain ⟨serves, port⟩ := balanced.serves q ph₀ d₁ live₀ device₀
    exact ⟨served _ _ serves, port⟩
  belongs q c there := by
    rcases objects q c there with ⟨d, belongs⟩ | ⟨before, notOwn⟩
    · exact ⟨p, d, belongs⟩
    · obtain ⟨p', d, belongs⟩ := balanced.belongs q c before
      have different : p' ≠ p := by
        rintro rfl
        exact notOwn belongs.owns
      exact ⟨p', d, belongs.frame frame different⟩
  leases

/-! ## Starting -/

/-- A Phantom that is not started owns nothing. -/
theorem not_owns_of_idle (live : s.phantoms p = some ph) (idle : ph.started = false) :
    ¬Owns s p q := by
  rintro ⟨ph', live', started, -⟩
  rw [live] at live'
  obtain rfl := Option.some.inj live'
  rw [idle] at started
  cases started

section Leases

variable {b b' : ManagedBus} {objects : Heap PhantomIsoChannel} {ledger : List ChannelEvent}

/-- A claim that succeeds, and the object made of it. -/
theorem leases_claim {channel : Nat}
    (leases : Leases (Held b) objects channelKey (ledger.map ledgerEntry))
    (claims : Claims host d channel b b') (key : channelKey c = (d.handle.port, channel)) :
    Leases (Held b') (objects.alloc c) channelKey
      (List.map ledgerEntry (ledger ++ [⟨.alloc, d.handle.port, channel⟩])) := by
  obtain ⟨-, fresh, elapses⟩ := elapses_of_claims claims
  have claimed : Leases (Held b') (objects.alloc c) channelKey
      (ledger.map ledgerEntry ++ [(channelKey c, true)]) := by
    refine leases.claim ?_ fun k => ?_
    · rw [key]
      exact fresh
    · rw [held_of_elapses elapses, held_assign_library, key]
  rw [key] at claimed
  rw [List.map_append]
  exact claimed

/-- A release, and the object that is deleted. -/
theorem leases_release {channel : Nat}
    (leases : Leases (Held b) objects channelKey (ledger.map ledgerEntry))
    (live : objects q = some c) (key : channelKey c = (d.handle.port, channel)) :
    Leases
      (Held { b with allocation := b.allocation.assign d.handle.port channel none })
      (objects.free q) channelKey
      (List.map ledgerEntry (ledger ++ [⟨.free, d.handle.port, channel⟩])) := by
  have released : Leases
      (Held { b with allocation := b.allocation.assign d.handle.port channel none })
      (objects.free q) channelKey (ledger.map ledgerEntry ++ [(channelKey c, false)]) := by
    refine leases.release live fun k => ?_
    rw [held_assign_none, key]
  rw [key] at released
  rw [List.map_append]
  exact released

end Leases

/-- The configuration objects that `startPhantom` makes. -/
theorem configures_configOf (id : Nat) : Configures (configOf d id) d.port d.node := ⟨rfl, rfl⟩

/-- The key of a channel object of a device. -/
theorem channelKey_of_configures {c : PhantomIsoChannel}
    (configures : Configures c.comConfig d.port d.node) (port : d.handle.port = d.port) :
    channelKey c = (d.handle.port, c.channel) := by
  rw [channelKey, port, configures.port]

/-- What is left to show of a start: the bus, the channel objects and the
leases. -/
theorem Balanced.of_start (balanced : Balanced s) (live : s.phantoms p = some ph)
    (idle : ph.started = false) (liveDevice : s.devices ph.firewireDevice = some d)
    (ended : (startPhantom host p s).state? = some s') (reliable : s'.bus.Reliable)
    (served : ∀ port node, PhantomIsoChannel.Serves s.bus.memory port node →
      PhantomIsoChannel.Serves s'.bus.memory port node)
    (objects : ∀ q c, s'.isoChannels q = some c →
      (∃ d, Belongs s' q c p d) ∨ s.isoChannels q = some c)
    (leases : Leases (Held s'.bus) s'.isoChannels channelKey (s'.ledger.map ledgerEntry)) :
    Balanced s' := by
  obtain ⟨t, ph', state, frame, live', device, -⟩ := startPhantom_frame host live idle liveDevice
  obtain rfl : t = s' := Option.some.inj (state.symm.trans ended)
  obtain ⟨t', state', sound⟩ := balanced.sound.start host live
  obtain rfl : t = t' := Option.some.inj (state.symm.trans state')
  refine balanced.method sound frame live live' device reliable served ?_ leases
  intro q c there
  exact (objects q c there).imp id fun old => ⟨old, not_owns_of_idle live idle⟩

/-- A start that fails to claim a channel. -/
theorem Balanced.start_fails (balanced : Balanced s) (live : s.phantoms p = some ph)
    (idle : ph.started = false) (liveDevice : s.devices ph.firewireDevice = some d)
    {b₁ : ManagedBus} (fails : ClaimFails host d s.bus b₁) :
    ∃ s', (startPhantom host p s).state? = some s' ∧ Balanced s' := by
  obtain ⟨e, log, thrown⟩ := startPhantom_of_fails live idle liveDevice fails
  have ended := congrArg Outcome.state? thrown
  have elapses := elapses_of_claimFails fails
  refine ⟨_, ended, balanced.of_start live idle liveDevice ended
    (elapses.reliable balanced.reliable) ?_ ?_ ?_⟩
  · intro port node serves
    show PhantomIsoChannel.Serves b₁.memory port node
    rwa [elapses.memory]
  · exact fun q c there => .inr there
  · exact balanced.leases.congr fun k => held_of_elapses elapses

/-- A start that claims one channel and gives it back. -/
theorem Balanced.start_rollback (balanced : Balanced s) (live : s.phantoms p = some ph)
    (idle : ph.started = false) (liveDevice : s.devices ph.firewireDevice = some d) {c₁ : Nat}
    {b₁ b₂ : ManagedBus} (claims : Claims host d c₁ s.bus b₁) (fails : ClaimFails host d b₁ b₂) :
    ∃ s', (startPhantom host p s).state? = some s' ∧ Balanced s' := by
  obtain ⟨serves, port⟩ := balanced.serves p ph d live liveDevice
  obtain ⟨-, -, claimed⟩ := elapses_of_claims claims
  have after₂ := claimed.trans (elapses_of_claimFails fails)
  -- The roll back stops the transfer and releases the channel.
  obtain ⟨b₃, stops, elapses₃⟩ := stopAnswered_of_configures
    (configures_configOf (d := d) (s.nextHandle + 1)) (after₂.reliable balanced.reliable)
    (after₂.memory ▸ serves)
  have after₃ := (after₂.withMemory _).trans elapses₃
  obtain ⟨b₄, releases, elapses₄⟩ :=
    releases_of_held ((after₃.held d.handle.port c₁).mpr Allocation.assign_self)
  have after₄ := (after₃.assign ..).trans elapses₄
  obtain ⟨e, log, thrown⟩ :=
    startPhantom_of_rollback live idle liveDevice claims fails stops releases
  have ended := congrArg Outcome.state? thrown
  refine ⟨_, ended, balanced.of_start live idle liveDevice ended
    (after₄.reliable balanced.reliable) ?_ ?_ ?_⟩
  · intro port node serves
    have memory : b₄.memory = PhantomIsoChannel.stopMemory b₂.memory d.port d.node := after₄.memory
    show PhantomIsoChannel.Serves b₄.memory port node
    rw [memory, after₂.memory]
    exact serves.stopMemory
  · intro q c there
    obtain ⟨old, there⟩ := Heap.free_eq_some.mp there
    rcases Heap.alloc_eq_some.mp there with ⟨new, -⟩ | there
    · exact absurd new old
    · exact .inr there
  · have key := channelKey_of_configures (c := s.recvOf ph.firewireDevice d c₁)
      (configures_configOf _) port
    have leases₁ := leases_claim balanced.leases claims key
    have leases₃ := leases₁.congr fun k =>
      (held_of_written elapses₃).trans (held_of_elapses (elapses_of_claimFails fails))
    have leases₄ := (leases_release leases₃ (Heap.alloc_next ..) key).congr fun k =>
      held_of_elapses elapses₄
    rw [← List.append_cons] at leases₄
    exact leases₄

/-- A start that succeeds. -/
theorem Balanced.start_claims (balanced : Balanced s) (live : s.phantoms p = some ph)
    (idle : ph.started = false) (liveDevice : s.devices ph.firewireDevice = some d) {c₁ c₂ : Nat}
    {b₁ b₂ : ManagedBus} (claims₁ : Claims host d c₁ s.bus b₁) (claims₂ : Claims host d c₂ b₁ b₂) :
    ∃ s', (startPhantom host p s).state? = some s' ∧ Balanced s' := by
  obtain ⟨serves, port⟩ := balanced.serves p ph d live liveDevice
  obtain ⟨small₁, -, elapses₁⟩ := elapses_of_claims claims₁
  obtain ⟨small₂, -, elapses₂⟩ := elapses_of_claims claims₂
  have memory₂ : b₂.memory = s.bus.memory := elapses₂.memory.trans elapses₁.memory
  have reliable₂ : b₂.Reliable := elapses₂.reliable (elapses₁.reliable balanced.reliable)
  obtain ⟨b₃, b₄, start₁, start₂, elapses₄⟩ := startAnswered_of_claims
    reliable₂ (memory₂ ▸ serves) small₁ small₂ (s.nextHandle + 1) (s.nextHandle + 3)
  -- The state after both claims, and after both `start`s.
  have running := running_withChannels live liveDevice c₁ c₂ b₁ b₂
  have running' := (running.startRecv b₃).startXmit b₄
  have started := (startPhantom_of_claims live idle liveDevice claims₁ claims₂).trans
    (startChannels_of_answered running start₁ start₂)
  have ended := congrArg Outcome.state? started
  refine ⟨_, ended, balanced.of_start live idle liveDevice ended
    (elapses₄.reliable reliable₂) ?_ ?_ ?_⟩
  · intro port node serves
    show PhantomIsoChannel.Serves b₄.memory port node
    rw [elapses₄.memory, memory₂]
    exact serves.startMemory.startMemory
  · obtain ⟨recvBelongs, xmitBelongs⟩ := running'.belongs (configures_configOf _)
      (configures_configOf _)
    intro q c there
    rcases eq_or_ne q s.isoChannels.next with rfl | notRecv
    · rw [running'.recvLive] at there
      exact .inl ⟨d, Option.some.inj there ▸ recvBelongs⟩
    rcases eq_or_ne q (s.isoChannels.next + 1) with rfl | notXmit
    · rw [running'.xmitLive] at there
      exact .inl ⟨d, Option.some.inj there ▸ xmitBelongs⟩
    rw [afterStart_of_ne notXmit, afterStart_of_ne notRecv] at there
    rcases Heap.alloc_eq_some.mp there with ⟨new, -⟩ | there
    · exact absurd new notXmit
    rcases Heap.alloc_eq_some.mp there with ⟨new, -⟩ | there
    · exact absurd new notRecv
    · exact .inr there
  · have leases₁ := leases_claim balanced.leases claims₁ (channelKey_of_configures
      (c := s.recvOf ph.firewireDevice d c₁) (configures_configOf _) port)
    have leases₂ := leases_claim leases₁ claims₂ (channelKey_of_configures
      (c := s.xmitOf ph.firewireDevice d c₂) (configures_configOf _) port)
    have leases₄ := leases₂.congr fun k => held_of_written elapses₄
    have leases₅ := (leases₄.modify (p := s.isoChannels.next)
      (f := fun c => { c with com := startTransfer s.isoChannels.next c }) fun _ => rfl).modify
      (p := s.isoChannels.next + 1)
      (f := fun c => { c with com := startTransfer (s.isoChannels.next + 1) c }) fun _ => rfl
    exact leases₅

/-- Whatever the manager answers, a start keeps the balance. -/
theorem Balanced.start (balanced : Balanced s) (host : Host) (live : s.phantoms p = some ph) :
    ∃ s', (startPhantom host p s).state? = some s' ∧ Balanced s' := by
  cases started : ph.started with
  | true =>
      rw [startPhantom_of_started live started]
      exact ⟨s, rfl, balanced⟩
  | false =>
      obtain ⟨d, liveDevice⟩ := balanced.sound.connected p ph live
      rcases claims_or_fails host d s.bus with ⟨c₁, b₁, claims₁⟩ | ⟨b₁, fails⟩
      · rcases claims_or_fails host d b₁ with ⟨c₂, b₂, claims₂⟩ | ⟨b₂, fails⟩
        · exact balanced.start_claims live started liveDevice claims₁ claims₂
        · exact balanced.start_rollback live started liveDevice claims₁ fails
      · exact balanced.start_fails live started liveDevice fails

/-! ## Stopping -/

/-- The channel objects of a running Phantom, and their channels. -/
theorem Balanced.running (balanced : Balanced s) (running : Running s p d r x recv xmit) :
    PhantomIsoChannel.Serves s.bus.memory d.port d.node ∧ d.handle.port = d.port ∧
      Configures recv.comConfig d.port d.node ∧ Configures xmit.comConfig d.port d.node := by
  obtain ⟨dev, live, deviceLive, recvDevice, xmitDevice⟩ := running.phantom
  obtain ⟨serves, port⟩ := balanced.serves p _ d live deviceLive
  have configures (q : Ptr) (c : PhantomIsoChannel) (there : s.isoChannels q = some c)
      (device : c.firewireDevice = dev) : Configures c.comConfig d.port d.node := by
    obtain ⟨p', d', belongs⟩ := balanced.belongs q c there
    have sameDevice := belongs.device
    rw [device, deviceLive] at sameDevice
    obtain rfl := Option.some.inj sameDevice
    exact belongs.configures
  exact ⟨serves, port, configures r recv running.recvLive recvDevice,
    configures x xmit running.xmitLive xmitDevice⟩

theorem Balanced.stop (balanced : Balanced s) (live : s.phantoms p = some ph) :
    ∃ s' ph', (stopPhantom p s).state? = some s' ∧ Balanced s' ∧ s'.phantoms p = some ph' ∧
      ph'.started = false := by
  obtain ⟨s', ph', state, sound, live', idle, device⟩ := balanced.sound.stop live
  refine ⟨s', ph', state, ?_, live', idle⟩
  cases started : ph.started with
  | false =>
      rw [stopPhantom_of_idle live started] at state
      cases state
      exact balanced
  | true =>
      obtain ⟨d, r, x, recv, xmit, running⟩ := balanced.sound.running p ph live started
      obtain ⟨serves, port, recvConfig, xmitConfig⟩ := balanced.running running
      have recvKey := channelKey_of_configures recvConfig port
      have xmitKey := channelKey_of_configures xmitConfig port
      have held (q : Ptr) (c : PhantomIsoChannel) (there : s.isoChannels q = some c)
          (configures : Configures c.comConfig d.port d.node) :
          s.bus.allocation d.handle.port c.channel = some .library :=
        (balanced.leases.held_iff (d.handle.port, c.channel)).mpr
          ⟨q, c, there, channelKey_of_configures configures port⟩
      have different : recv.channel ≠ xmit.channel := by
        intro same
        refine running.different (balanced.leases.distinct r x recv xmit running.recvLive
          running.xmitLive ?_)
        rw [recvKey, xmitKey, same]
      obtain ⟨b', answered, elapses⟩ := stopPhantomAnswered_of_serves balanced.reliable serves
        recvConfig xmitConfig (held r recv running.recvLive recvConfig)
        (held x xmit running.xmitLive xmitConfig) different
      obtain ⟨log, returned⟩ := stopPhantom_of_answered running answered
      obtain ⟨s'', state', frame, -⟩ := stopPhantom_frame running
      obtain rfl : s' = s'' := Option.some.inj (state.symm.trans state')
      rw [returned] at state
      cases state
      refine balanced.method sound frame live live' device (elapses.reliable balanced.reliable)
        ?_ ?_ ?_
      · intro port node serves
        show PhantomIsoChannel.Serves b'.memory port node
        rw [elapses.memory]
        exact serves.stopMemory
      · intro q c there
        obtain ⟨notXmit, there⟩ := Heap.free_eq_some.mp there
        obtain ⟨notRecv, there⟩ := Heap.free_eq_some.mp there
        refine .inr ⟨there, fun owns => ?_⟩
        rcases owns.of_running running with same | same
        · exact notRecv same
        · exact notXmit same
      · have xmitLive : (s.isoChannels.free r) x = some xmit :=
          Heap.free_eq_some.mpr ⟨running.different.symm, running.xmitLive⟩
        have leases₁ := leases_release balanced.leases running.recvLive recvKey
        have leases₂ := leases_release leases₁ xmitLive xmitKey
        have leases₃ := leases₂.congr fun k => elapses.held k.1 k.2
        rw [← List.append_cons] at leases₃
        exact leases₃

/-! ## The other steps -/

/-- The end of `delete` on a Phantom that is not started. -/
theorem Balanced.deleteBaseDevice (balanced : Balanced s) (live : s.phantoms p = some ph)
    (idle : ph.started = false) :
    ∃ s', Library.deleteBaseDevice p s = .returned () s' ∧ Balanced s' := by
  obtain ⟨d, table, liveDevice, deleted, sound⟩ := balanced.sound.deleteBaseDevice live
  refine ⟨_, deleted, sound, balanced.reliable, ?_, ?_, balanced.leases⟩
  · intro q ph' d' live' device'
    exact balanced.serves q ph' d' (Heap.free_eq_some.mp live').2 (Heap.free_eq_some.mp device').2
  · intro q c there
    obtain ⟨p', d', belongs⟩ := balanced.belongs q c there
    obtain ⟨ph', live', started, points⟩ := id belongs.owns
    have different : p' ≠ p := by
      rintro rfl
      exact not_owns_of_idle live idle belongs.owns
    have otherDevice : c.firewireDevice ≠ ph.firewireDevice := by
      intro same
      exact different (balanced.sound.apart p' p ph' ph live' live
        ((belongs.phantom ph' live').trans same))
    refine ⟨p', d', ⟨ph', Heap.free_eq_some.mpr ⟨different, live'⟩, started, points⟩,
      Heap.free_eq_some.mpr ⟨otherDevice, belongs.device⟩, ?_, belongs.configures⟩
    exact fun ph'' live'' => belongs.phantom ph'' (Heap.free_eq_some.mp live'').2

theorem Balanced.destroy (balanced : Balanced s) (live : s.phantoms p = some ph) :
    ∃ s', (deletePhantom p s).state? = some s' ∧ Balanced s' := by
  obtain ⟨t, ph', stopped, balanced', live', idle⟩ := balanced.stop live
  obtain ⟨s', deleted, balanced''⟩ := balanced'.deleteBaseDevice live' idle
  exact ⟨s', deletePhantom_state stopped deleted, balanced''⟩

theorem Balanced.connect (balanced : Balanced s) (host : Host) {port : Nat} {node : UInt16}
    (serves : PhantomIsoChannel.Serves s.bus.memory port node) :
    ∃ s', (connectPhantom host port node s).state? = some s' ∧ Balanced s' := by
  obtain ⟨table, connected, sound⟩ := balanced.sound.connect host port node
  refine ⟨_, congrArg Outcome.state? connected, sound, balanced.reliable, ?_, ?_, balanced.leases⟩
  · intro p ph d live device
    rcases Heap.alloc_eq_some.mp live with ⟨-, rfl⟩ | live
    · obtain rfl := Option.some.inj ((Heap.alloc_next ..).symm.trans device)
      exact ⟨serves, rfl⟩
    · obtain ⟨d', liveDevice⟩ := balanced.sound.connected p ph live
      obtain rfl := Option.some.inj ((Heap.alloc_of_live liveDevice).symm.trans device)
      exact balanced.serves p ph d' live liveDevice
  · intro q c there
    obtain ⟨p, d, belongs⟩ := balanced.belongs q c there
    obtain ⟨ph, live, started, points⟩ := id belongs.owns
    refine ⟨p, d, ⟨ph, Heap.alloc_of_live live, started, points⟩,
      Heap.alloc_of_live belongs.device, ?_, belongs.configures⟩
    intro ph' live'
    obtain rfl := Option.some.inj ((Heap.alloc_of_live live).symm.trans live')
    exact belongs.phantom ph live

/-- Other nodes do not touch the channels of the library. -/
def foreign (act : ForeignAct) (s : Library ManagedBus) : Library ManagedBus :=
  { s with bus := { s.bus with allocation := s.bus.allocation.foreign act } }

theorem Balanced.foreign (balanced : Balanced s) (act : ForeignAct) :
    Balanced (s.foreign act) where
  sound := balanced.sound.of_resources rfl
  reliable := balanced.reliable
  serves := balanced.serves
  belongs q c there := by
    obtain ⟨p, d, belongs⟩ := balanced.belongs q c there
    exact ⟨p, d, belongs.owns, belongs.device, belongs.phantom, belongs.configures⟩
  leases := balanced.leases.congr fun _ => Allocation.foreign_eq_library act

/-! ## Runs -/

instance (memory : Memory) (port : Nat) (node : UInt16) :
    Decidable (PhantomIsoChannel.Serves memory port node) :=
  decidable_of_iff (memory port node 0x1083 = 0xc0 ∧ memory port node 0x1082 = 0)
    ⟨fun h => ⟨h.1, h.2⟩, fun h => ⟨h.1, h.2⟩⟩

/-- The runs of any number of Phantoms beside other nodes.  A device that is
connected answers the status registers as expected. -/
def ledgerRuns (host : Host) : System (Library ManagedBus) LedgerAction where
  step s
    | .phantom (.connect port node) =>
        if PhantomIsoChannel.Serves s.bus.memory port node then
          phantomCall host s (.connect port node)
        else none
    | .phantom action => phantomCall host s action
    | .foreign act => some (s.foreign act)

/-- The object of the action is alive, and a device that is connected
answers. -/
def Enabled (s : Library ManagedBus) : LedgerAction → Prop
  | .phantom (.connect port node) => PhantomIsoChannel.Serves s.bus.memory port node
  | .phantom action => Possible s action
  | .foreign _ => True

/-- Every enabled action is defined, and keeps the balance. -/
theorem Balanced.step (balanced : Balanced s) (host : Host) {a : LedgerAction}
    (enabled : Enabled s a) : ∃ s', (ledgerRuns host).step s a = some s' ∧ Balanced s' := by
  cases a with
  | foreign act => exact ⟨s.foreign act, rfl, balanced.foreign act⟩
  | phantom action =>
      cases action with
      | connect port node =>
          obtain ⟨s', connected, balanced'⟩ := balanced.connect host enabled
          exact ⟨s', (if_pos enabled).trans connected, balanced'⟩
      | start p =>
          obtain ⟨ph, live⟩ := enabled
          obtain ⟨s', started, balanced'⟩ := balanced.start host live
          exact ⟨s', (if_pos (Option.isSome_of_eq_some live)).trans started, balanced'⟩
      | stop p =>
          obtain ⟨ph, live⟩ := enabled
          obtain ⟨s', _, stopped, balanced', -⟩ := balanced.stop live
          exact ⟨s', (if_pos (Option.isSome_of_eq_some live)).trans stopped, balanced'⟩
      | destroy p =>
          obtain ⟨ph, live⟩ := enabled
          obtain ⟨s', destroyed, balanced'⟩ := balanced.destroy live
          exact ⟨s', (if_pos (Option.isSome_of_eq_some live)).trans destroyed, balanced'⟩

theorem enabled_of_step {a : LedgerAction} (stepped : (ledgerRuns host).step s a = some s') :
    Enabled s a := by
  cases a with
  | foreign act => trivial
  | phantom action =>
      cases action with
      | connect port node =>
          by_contra silent
          rw [show (ledgerRuns host).step s (.phantom (.connect port node)) = none from
            if_neg silent] at stepped
          cases stepped
      | start p =>
          have stepped' : (phantomRuns host).step s (.start p) = some s' := stepped
          exact possible_of_step stepped'
      | stop p =>
          have stepped' : (phantomRuns host).step s (.stop p) = some s' := stepped
          exact possible_of_step stepped'
      | destroy p =>
          have stepped' : (phantomRuns host).step s (.destroy p) = some s' := stepped
          exact possible_of_step stepped'

/-- What a caller may rely on. -/
structure ChannelsBalance (s : Library ManagedBus) : Prop where
  /-- The library holds exactly the channels of its live channel objects. -/
  held : ∀ port channel, s.bus.allocation port channel = some .library ↔
    ∃ q c, s.isoChannels q = some c ∧ c.comConfig.handle.port = port ∧ c.channel = channel
  /-- No two of them have the same channel. -/
  distinct : ∀ q q' c c', s.isoChannels q = some c → s.isoChannels q' = some c' →
    c.comConfig.handle.port = c'.comConfig.handle.port → c.channel = c'.channel → q = q'
  /-- None of them has the channel of another node. -/
  apart : ∀ q c, s.isoChannels q = some c →
    s.bus.allocation c.comConfig.handle.port c.channel ≠ some .other
  /-- Claims and releases of a channel take turns, and it was claimed last if it
  is held. -/
  released : ∀ port channel, ∃ last,
    TakesTurns (eventsOf (port, channel) (s.ledger.map ledgerEntry)) last ∧
      (last = true ↔ s.bus.allocation port channel = some .library)
  /-- Without channel objects, nothing is held. -/
  idle : (∀ q, s.isoChannels q = none) →
    ∀ port channel, s.bus.allocation port channel ≠ some .library

theorem Balanced.channelsBalance (balanced : Balanced s) : ChannelsBalance s := by
  have held (port channel : Nat) : s.bus.allocation port channel = some .library ↔
      ∃ q c, s.isoChannels q = some c ∧ c.comConfig.handle.port = port ∧ c.channel = channel := by
    refine (balanced.leases.held_iff (port, channel)).trans ?_
    simp only [channelKey, Prod.mk.injEq]
  refine ⟨held, ?_, ?_, fun port channel => balanced.leases.turns (port, channel), ?_⟩
  · intro q q' c c' there there' samePort sameChannel
    exact balanced.leases.distinct q q' c c' there there' (Prod.ext samePort sameChannel)
  · intro q c there
    rw [(held _ _).mpr ⟨q, c, there, rfl, rfl⟩]
    simp
  · intro none port channel busy
    obtain ⟨q, c, there, -⟩ := (held port channel).mp busy
    rw [none q] at there
    cases there

theorem balanced_initial (bus : ManagedBus) (reliable : bus.Reliable)
    (unheld : ∀ port channel, bus.allocation port channel ≠ some .library) :
    Balanced (Library.initial bus) where
  sound := sound_initial bus
  reliable
  serves _ _ _ live := by cases live
  belongs _ _ there := by cases there
  leases := leases_empty fun k => unheld k.1 k.2

/-- **The ledger of channels.**  In every run of any number of Phantoms beside
other nodes, on a bus whose register accesses do not fail, the channels held by
the library are exactly those of its live channel objects, all of them are
distinct, and every claim was released once or is still held.  No step of such
a run is undefined. -/
theorem ledger_balanced (host : Host) (bus : ManagedBus) (reliable : bus.Reliable)
    (unheld : ∀ port channel, bus.allocation port channel ≠ some .library)
    (actions : List LedgerAction) (s' : Library ManagedBus)
    (reached : (ledgerRuns host).run (Library.initial bus) actions = some s') :
    ChannelsBalance s' ∧ ∀ a, Enabled s' a → ((ledgerRuns host).step s' a).isSome := by
  have balanced : Balanced s' := by
    refine System.run_induction (balanced_initial bus reliable unheld) ?_ reached
    intro s a s₁ balanced stepped
    obtain ⟨s₂, stepped₂, balanced'⟩ := balanced.step host (enabled_of_step stepped)
    rw [stepped] at stepped₂
    exact Option.some.inj stepped₂ ▸ balanced'
  refine ⟨balanced.channelsBalance, fun a enabled => ?_⟩
  obtain ⟨s₂, stepped, -⟩ := balanced.step host enabled
  exact Option.isSome_of_eq_some stepped

/-- All channels are free, but another node takes the channel 0 between the
first search and the first claim. -/
def contended : ManagedBus where
  memory _ _ address := if address = 0x1083 then 0xc0 else 0
  irm _ := 0xffc1
  allocation _ _ := none
  turns := [⟨[], none, none⟩, ⟨[], none, none⟩, ⟨[.takes 0 0], none, none⟩]

theorem ledger_balanced_contended :
    ∃ s', (ledgerRuns twoNodes).run (Library.initial contended)
        [.phantom (.connect 0 0xffc0), .phantom (.start 0), .phantom (.start 0),
          .foreign (.takes 0 3), .phantom (.destroy 0)] = some s' ∧ ChannelsBalance s' := by
  have runs : ((ledgerRuns twoNodes).run (Library.initial contended)
      [.phantom (.connect 0 0xffc0), .phantom (.start 0), .phantom (.start 0),
        .foreign (.takes 0 3), .phantom (.destroy 0)]).isSome := by decide
  obtain ⟨s', reached⟩ := Option.isSome_iff_exists.mp runs
  refine ⟨s', reached, (ledger_balanced twoNodes contended ?_ ?_ _ s' reached).1⟩
  · simp [ManagedBus.Reliable, contended]
  · simp [contended]

end Library

end LibPhantom
