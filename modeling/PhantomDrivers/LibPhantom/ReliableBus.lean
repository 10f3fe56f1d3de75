import PhantomDrivers.LibPhantom.StopPhantom

/-!
# The library on a reliable bus

On a bus with managers whose register accesses do not fail, a device that
answers the two status registers as expected lets `start` and `stop` return.
What they do is then a function of the memories: a method goes from `b` to some
state that elapses from `b` with the memory changed.

* `Serves` — the status registers read as expected.
* `startMemory`, `stopMemory` — what `start` and `stop` do to the registers.
* `startAnswered_of_serves`, `stopAnswered_of_serves` — they are answered.
* `elapses_of_claims`, `elapses_of_claimFails`, `releases_of_held` — the
  channels.
-/

namespace LibPhantom

open Semantics Raw1394

namespace PhantomIsoChannel

variable {b b₁ b₂ : ManagedBus} {com : CommunicationLibraw1394} {address : UInt64}
  {c c' : UInt8} {memory : Memory} {port channel : Nat} {node : UInt16} {receiving : Bool}

/-- The device answers the two status registers as expected. -/
structure Serves (memory : Memory) (port : Nat) (node : UInt16) : Prop where
  status₀ : memory port node 0x1083 = 0xc0
  status₁ : memory port node 0x1082 = 0

/-! ## Memories -/

/-- The registers after `start` has told the device its channel. -/
def announceMemory (memory : Memory) (port : Nat) (node : UInt16) (receiving : Bool)
    (channel : Nat) : Memory :=
  if receiving then
    ((memory.store port node ADDR_RECV_CHANNEL [UInt8.ofNat channel]).store port node
      ADDR_RECV_CHANNEL [0x40]).store port node ADDR_RECV_CHANNEL [UInt8.ofNat channel]
  else memory.store port node ADDR_XMIT_CHANNEL [UInt8.ofNat channel]

/-- The registers after the end of `start`. -/
def enableMemory (memory : Memory) (port : Nat) (node : UInt16) : Memory :=
  if memory port node ADDR_CONTROL &&& ADDR_CONTROL_enable_iso = 0 then
    memory.store port node ADDR_CONTROL
      [memory port node ADDR_CONTROL ||| ADDR_CONTROL_enable_iso]
  else memory

/-- The registers after `start`. -/
def startMemory (memory : Memory) (port : Nat) (node : UInt16) (receiving : Bool)
    (channel : Nat) : Memory :=
  enableMemory (announceMemory memory port node receiving channel) port node

/-- The registers after `stop`. -/
def stopMemory (memory : Memory) (port : Nat) (node : UInt16) : Memory :=
  if memory port node ADDR_CONTROL &&& ADDR_CONTROL_enable_iso ≠ 0 then
    memory.store port node ADDR_CONTROL
      [memory port node ADDR_CONTROL &&& ADDR_CONTROL_enable_iso]
  else memory

/-- The methods write three registers only, on their own node. -/
theorem announceMemory_of_ne {p : Nat} {n : UInt16} (notRecv : address ≠ ADDR_RECV_CHANNEL)
    (notXmit : address ≠ ADDR_XMIT_CHANNEL) :
    announceMemory memory port node receiving channel p n address = memory p n address := by
  unfold announceMemory
  split
  · rw [Memory.store_singleton_of_ne notRecv, Memory.store_singleton_of_ne notRecv,
      Memory.store_singleton_of_ne notRecv]
  · rw [Memory.store_singleton_of_ne notXmit]

theorem enableMemory_of_ne {p : Nat} {n : UInt16} (notControl : address ≠ ADDR_CONTROL) :
    enableMemory memory port node p n address = memory p n address := by
  unfold enableMemory
  split
  · rw [Memory.store_singleton_of_ne notControl]
  · rfl

theorem stopMemory_of_ne {p : Nat} {n : UInt16} (notControl : address ≠ ADDR_CONTROL) :
    stopMemory memory port node p n address = memory p n address := by
  unfold stopMemory
  split
  · rw [Memory.store_singleton_of_ne notControl]
  · rfl

theorem Serves.announceMemory {p : Nat} {n : UInt16} (serves : Serves memory p n) :
    Serves (announceMemory memory port node receiving channel) p n where
  status₀ := (announceMemory_of_ne (by decide) (by decide)).trans serves.status₀
  status₁ := (announceMemory_of_ne (by decide) (by decide)).trans serves.status₁

theorem Serves.startMemory {p : Nat} {n : UInt16} (serves : Serves memory p n) :
    Serves (startMemory memory port node receiving channel) p n where
  status₀ := (enableMemory_of_ne (by decide)).trans serves.announceMemory.status₀
  status₁ := (enableMemory_of_ne (by decide)).trans serves.announceMemory.status₁

theorem Serves.stopMemory {p : Nat} {n : UInt16} (serves : Serves memory p n) :
    Serves (stopMemory memory port node) p n where
  status₀ := (stopMemory_of_ne (by decide)).trans serves.status₀
  status₁ := (stopMemory_of_ne (by decide)).trans serves.status₁

/-- A second `stop` changes nothing. -/
theorem stopMemory_stopMemory :
    stopMemory (stopMemory memory port node) port node = stopMemory memory port node := by
  by_cases on : memory port node ADDR_CONTROL &&& ADDR_CONTROL_enable_iso ≠ 0
  · have once : stopMemory memory port node = memory.store port node ADDR_CONTROL
        [memory port node ADDR_CONTROL &&& ADDR_CONTROL_enable_iso] := if_pos on
    have again : memory port node ADDR_CONTROL &&& ADDR_CONTROL_enable_iso &&&
        ADDR_CONTROL_enable_iso = memory port node ADDR_CONTROL &&& ADDR_CONTROL_enable_iso := by
      rw [UInt8.and_assoc, UInt8.and_self]
    rw [once, stopMemory, Memory.store_singleton_self, again, if_pos on,
      Memory.store_store_singleton]
  · have off : stopMemory memory port node = memory := if_neg on
    rw [off, off]

/-! ## Accesses -/

theorem reads_of_reliable (reliable : b.Reliable) (com : CommunicationLibraw1394)
    (address : UInt64) (plain : ¬ManagedBus.IsManagerRegister address) :
    ∃ b', Reads com address (b.memory com.handle.port com.node address) b b' ∧ b.Elapses b' := by
  obtain ⟨block, b', settles, value, elapses⟩ :=
    reliable.read com.handle com.node 1 plain
  exact ⟨b', ⟨block, settles, value⟩, elapses⟩

theorem writes_of_reliable (reliable : b.Reliable) (com : CommunicationLibraw1394)
    (address : UInt64) (c : UInt8) :
    ∃ b', Writes com address c b b' ∧
      ManagedBus.Elapses
        { b with memory := b.memory.store com.handle.port com.node address [c] } b' := by
  obtain ⟨b', attempt, elapses⟩ := reliable.write com.handle com.node address [c]
  exact ⟨b', .inl attempt, elapses⟩

/-- Where nothing fails, the status registers are answered. -/
theorem statusAnswered_of_serves (reliable : b.Reliable) (com : CommunicationLibraw1394)
    (serves : Serves b.memory com.handle.port com.node) :
    ∃ b', StatusAnswered com b b' ∧ b.Elapses b' := by
  obtain ⟨b₁, first, elapses₁⟩ :=
    reads_of_reliable reliable com 0x1083 (by decide)
  obtain ⟨b₂, second, elapses₂⟩ :=
    reads_of_reliable (elapses₁.reliable reliable) com 0x1082 (by decide)
  rw [serves.status₀] at first
  rw [elapses₁.memory, serves.status₁] at second
  exact ⟨b₂, ⟨b₁, first, second⟩, elapses₁.trans elapses₂⟩

theorem enableAnswered_of_reliable (reliable : b.Reliable) (com : CommunicationLibraw1394) :
    ∃ b', EnableAnswered com b b' ∧
      ManagedBus.Elapses
        { b with memory := enableMemory b.memory com.handle.port com.node } b' := by
  obtain ⟨b₁, read, elapses₁⟩ :=
    reads_of_reliable reliable com ADDR_CONTROL (by decide)
  unfold enableMemory
  by_cases off : b.memory com.handle.port com.node ADDR_CONTROL &&& ADDR_CONTROL_enable_iso = 0
  · obtain ⟨b₂, written, elapses₂⟩ := writes_of_reliable
      (elapses₁.reliable reliable) com ADDR_CONTROL
      (b.memory com.handle.port com.node ADDR_CONTROL ||| ADDR_CONTROL_enable_iso)
    rw [if_pos off]
    refine ⟨b₂, ⟨_, b₁, read, ?_⟩, (elapses₁.store ..).trans elapses₂⟩
    rw [if_pos off]
    exact written
  · rw [if_neg off]
    refine ⟨b₁, ⟨_, b₁, read, ?_⟩, elapses₁⟩
    rw [if_neg off]

theorem disableAnswered_of_reliable (reliable : b.Reliable) (com : CommunicationLibraw1394) :
    ∃ b', DisableAnswered com b b' ∧
      ManagedBus.Elapses
        { b with memory := stopMemory b.memory com.handle.port com.node } b' := by
  obtain ⟨b₁, read, elapses₁⟩ :=
    reads_of_reliable reliable com ADDR_CONTROL (by decide)
  unfold stopMemory
  by_cases on : b.memory com.handle.port com.node ADDR_CONTROL &&& ADDR_CONTROL_enable_iso ≠ 0
  · obtain ⟨b₂, written, elapses₂⟩ := writes_of_reliable
      (elapses₁.reliable reliable) com ADDR_CONTROL
      (b.memory com.handle.port com.node ADDR_CONTROL &&& ADDR_CONTROL_enable_iso)
    rw [if_pos on]
    refine ⟨b₂, ⟨_, b₁, read, ?_⟩, (elapses₁.store ..).trans elapses₂⟩
    rw [if_pos on]
    exact written
  · rw [if_neg on]
    refine ⟨b₁, ⟨_, b₁, read, ?_⟩, elapses₁⟩
    rw [if_neg on]

/-- Where nothing fails, `stop` is answered. -/
theorem stopAnswered_of_serves (reliable : b.Reliable)
    (serves : Serves b.memory com.handle.port com.node) :
    ∃ b', StopAnswered com b b' ∧
      ManagedBus.Elapses { b with memory := stopMemory b.memory com.handle.port com.node } b' := by
  obtain ⟨b₁, status, elapses₁⟩ := statusAnswered_of_serves reliable com serves
  obtain ⟨b₂, disabled, elapses₂⟩ := disableAnswered_of_reliable (elapses₁.reliable reliable) com
  rw [elapses₁.memory] at elapses₂
  exact ⟨b₂, ⟨b₁, status, disabled⟩, (elapses₁.withMemory _).trans elapses₂⟩

/-- A receiving device gets its channel, a test value, and its channel
again. -/
theorem recvAnswered_of_reliable (reliable : b.Reliable) (small : channel < 256)
    (announced : b.memory com.handle.port com.node ADDR_RECV_CHANNEL = UInt8.ofNat channel) :
    ∃ b', RecvAnswered com channel b b' ∧
      ManagedBus.Elapses
        { b with
          memory := (b.memory.store com.handle.port com.node ADDR_RECV_CHANNEL [0x40]).store
            com.handle.port com.node ADDR_RECV_CHANNEL [UInt8.ofNat channel] } b' := by
  obtain ⟨b₁, read₁, elapses₁⟩ :=
    reads_of_reliable reliable com ADDR_RECV_CHANNEL (by decide)
  obtain ⟨b₂, write₁, elapses₂⟩ :=
    writes_of_reliable (elapses₁.reliable reliable) com ADDR_RECV_CHANNEL 0x40
  have tested := (elapses₁.store ..).trans elapses₂
  have reliable₂ : b₂.Reliable := tested.reliable reliable
  obtain ⟨b₃, read₂, elapses₃⟩ :=
    reads_of_reliable reliable₂ com ADDR_RECV_CHANNEL (by decide)
  obtain ⟨b₄, write₂, elapses₄⟩ := writes_of_reliable
    (elapses₃.reliable reliable₂) com ADDR_RECV_CHANNEL (UInt8.ofNat channel)
  rw [announced] at read₁
  rw [tested.memory] at read₂
  dsimp only at read₂
  rw [Memory.store_singleton_self] at read₂
  have understood : (UInt8.ofNat channel).toNat = channel := by
    rw [UInt8.toNat_ofNat', Nat.mod_eq_of_lt small]
  exact ⟨b₄, ⟨_, b₁, b₂, b₃, read₁, understood, write₁, read₂, write₂⟩,
    ((tested.trans elapses₃).store ..).trans elapses₄⟩

/-- Where nothing fails, `start` is answered. -/
theorem startAnswered_of_serves (reliable : b.Reliable) (com : CommunicationLibraw1394)
    (receiving : Bool) (small : channel < 256) (serves : Serves b.memory com.handle.port com.node) :
    ∃ b', StartAnswered com receiving channel b b' ∧
      ManagedBus.Elapses
        { b with
          memory := startMemory b.memory com.handle.port com.node receiving channel } b' := by
  -- First the device is told its channel, and the channel is confirmed.
  obtain ⟨b₁, written, b₂, confirmed, announced⟩ : ∃ b₁,
      Writes com (if receiving then ADDR_RECV_CHANNEL else ADDR_XMIT_CHANNEL)
        (UInt8.ofNat channel) b b₁ ∧
      ∃ b₂, (if receiving then RecvAnswered com channel b₁ b₂ else b₂ = b₁) ∧
        ManagedBus.Elapses
          { b with
            memory := announceMemory b.memory com.handle.port com.node receiving channel } b₂ := by
    cases receiving with
    | true =>
        obtain ⟨b₁, written, elapses₁⟩ := writes_of_reliable reliable com
          ADDR_RECV_CHANNEL (UInt8.ofNat channel)
        have reliable₁ : b₁.Reliable := elapses₁.reliable reliable
        have announced : b₁.memory com.handle.port com.node ADDR_RECV_CHANNEL =
            UInt8.ofNat channel := by
          rw [elapses₁.memory]
          exact Memory.store_singleton_self _
        obtain ⟨b₂, confirmed, elapses₂⟩ := recvAnswered_of_reliable reliable₁ small announced
        exact ⟨b₁, written, b₂, confirmed, ((elapses₁.store ..).store ..).trans elapses₂⟩
    | false =>
        obtain ⟨b₁, written, elapses₁⟩ := writes_of_reliable reliable com
          ADDR_XMIT_CHANNEL (UInt8.ofNat channel)
        exact ⟨b₁, written, b₁, rfl, elapses₁⟩
  have reliable₂ : b₂.Reliable := announced.reliable reliable
  obtain ⟨b₃, status, elapses₃⟩ := statusAnswered_of_serves reliable₂ com
    (announced.memory ▸ serves.announceMemory)
  obtain ⟨b₄, enabled, elapses₄⟩ :=
    enableAnswered_of_reliable (elapses₃.reliable reliable₂) com
  rw [elapses₃.memory, announced.memory] at elapses₄
  exact ⟨b₄, ⟨b₁, b₂, b₃, written, confirmed, status, enabled⟩,
    ((announced.trans elapses₃).withMemory _).trans elapses₄⟩

end PhantomIsoChannel

namespace Library

variable {host : Host} {d : FirewireDeviceLibraw1394} {c : Nat} {b b' : ManagedBus}

/-- The search for a channel changes nothing. -/
theorem elapses_of_readLoop {handle : Handle} {node : UInt16} {address : UInt64}
    {length pos : Nat} {buffer : List UInt8}
    {outcome : Outcome CommunicationLibraw1394.Shortfall ManagedBus (List UInt8)}
    (loop : CommunicationLibraw1394.ReadLoop handle node address length pos buffer b outcome)
    (state : outcome.state? = some b') : b.Elapses b' := by
  induction loop with
  | done =>
      cases state
      exact .refl _
  | chunk _ settles _ _ ih => exact (ManagedBus.elapses_of_settles settles).trans (ih state)
  | overflow => cases state
  | failed _ settles =>
      cases state
      exact ManagedBus.elapses_of_settles settles

/-- A claimed channel was not held by the library before. -/
theorem elapses_of_claims (claims : Claims host d c b b') :
    c < 64 ∧ b.allocation d.handle.port c ≠ some .library ∧
      ManagedBus.Elapses
        { b with allocation := b.allocation.assign d.handle.port c (some .library) } b' := by
  obtain ⟨buffer, b₁, searched, -, taken⟩ := claims
  have search := elapses_of_readLoop searched rfl
  obtain ⟨small, fresh, elapses⟩ := ManagedBus.elapses_of_alloc taken
  refine ⟨small, ?_, (search.assign ..).trans elapses⟩
  intro held
  exact fresh ((search.held ..).mpr held)

/-- A failed claim changes nothing. -/
theorem elapses_of_claimFails (fails : ClaimFails host d b b') : b.Elapses b' := by
  rcases fails with ⟨shortfall, failed⟩ | ⟨buffer, b₁, searched, ⟨-, rfl⟩ | ⟨c, -, refused⟩⟩
  · exact elapses_of_readLoop failed rfl
  · exact elapses_of_readLoop searched rfl
  · exact (elapses_of_readLoop searched rfl).trans (ManagedBus.elapses_of_refused refused)

/-- A channel that the library holds can be given back. -/
theorem releases_of_held (held : b.allocation d.handle.port c = some .library) :
    ∃ b', Releases d c b b' ∧
      ManagedBus.Elapses
        { b with allocation := b.allocation.assign d.handle.port c none } b' :=
  ManagedBus.free_of_held held

/-! ## Starting a Phantom -/

/-- The registers after `startPhantom`. -/
def startedMemory (memory : Memory) (port : Nat) (node : UInt16) (recv xmit : Nat) : Memory :=
  PhantomIsoChannel.startMemory (PhantomIsoChannel.startMemory memory port node true recv) port
    node false xmit

/-- Where nothing fails, two claimed channels can be started. -/
theorem startAnswered_of_claims {recv xmit : Nat} (reliable : b.Reliable)
    (serves : PhantomIsoChannel.Serves b.memory d.port d.node) (recvSmall : recv < 64)
    (xmitSmall : xmit < 64) (id id' : Nat) :
    ∃ b₁ b₂, PhantomIsoChannel.StartAnswered (configOf d id) true recv b b₁ ∧
      PhantomIsoChannel.StartAnswered (configOf d id') false xmit b₁ b₂ ∧ ManagedBus.Elapses
        { b with memory := startedMemory b.memory d.port d.node recv xmit } b₂ := by
  obtain ⟨b₁, start₁, elapses₁⟩ := PhantomIsoChannel.startAnswered_of_serves
    reliable (configOf d id) true (Nat.lt_trans recvSmall (by decide)) serves
  obtain ⟨b₂, start₂, elapses₂⟩ := PhantomIsoChannel.startAnswered_of_serves
    (elapses₁.reliable reliable) (configOf d id') false
    (Nat.lt_trans xmitSmall (by decide)) (elapses₁.memory ▸ serves.startMemory)
  rw [elapses₁.memory] at elapses₂
  exact ⟨b₁, b₂, start₁, start₂, (elapses₁.withMemory _).trans elapses₂⟩

/-! ## Stopping a Phantom -/

/-- A communication object for a node. -/
structure Configures (com : CommunicationLibraw1394) (port : Nat) (node : UInt16) : Prop where
  port : com.handle.port = port
  node : com.node = node

variable {recv xmit : PhantomIsoChannel} {port : Nat} {node : UInt16}

theorem stopAnswered_of_configures {com : CommunicationLibraw1394}
    (configures : Configures com port node) (reliable : b.Reliable)
    (serves : PhantomIsoChannel.Serves b.memory port node) :
    ∃ b', PhantomIsoChannel.StopAnswered com b b' ∧ ManagedBus.Elapses
      { b with memory := PhantomIsoChannel.stopMemory b.memory port node } b' := by
  obtain ⟨rfl, rfl⟩ := configures
  exact PhantomIsoChannel.stopAnswered_of_serves reliable serves

/-- A `stop` that has nothing to do. -/
theorem stopAnswered_of_idle {com : CommunicationLibraw1394}
    (configures : Configures com port node) (reliable : b.Reliable)
    (serves : PhantomIsoChannel.Serves b.memory port node)
    (idle : PhantomIsoChannel.stopMemory b.memory port node = b.memory) :
    ∃ b', PhantomIsoChannel.StopAnswered com b b' ∧ b.Elapses b' := by
  obtain ⟨b', stop, elapses⟩ := stopAnswered_of_configures configures reliable serves
  rw [idle] at elapses
  exact ⟨b', stop, elapses⟩

/-- Where nothing fails, a Phantom with two channels can be stopped. -/
theorem stopPhantomAnswered_of_serves (reliable : b.Reliable)
    (serves : PhantomIsoChannel.Serves b.memory port node)
    (recvConfig : Configures recv.comConfig port node)
    (xmitConfig : Configures xmit.comConfig port node)
    (recvHeld : b.allocation d.handle.port recv.channel = some .library)
    (xmitHeld : b.allocation d.handle.port xmit.channel = some .library)
    (different : recv.channel ≠ xmit.channel) :
    ∃ b', StopPhantomAnswered d recv xmit b b' ∧ ManagedBus.Elapses
      { b with
        memory := PhantomIsoChannel.stopMemory b.memory port node
        allocation := (b.allocation.assign d.handle.port recv.channel none).assign d.handle.port
          xmit.channel none } b' := by
  -- The first `stop` changes the registers, and the three after it do not.
  obtain ⟨b₁, stop₁, after₁⟩ := stopAnswered_of_configures recvConfig reliable serves
  have again {b' : ManagedBus} {com : CommunicationLibraw1394} (configures : Configures com port node)
      (reliable' : b'.Reliable)
      (memory : b'.memory = PhantomIsoChannel.stopMemory b.memory port node) :
      ∃ b'', PhantomIsoChannel.StopAnswered com b' b'' ∧ b'.Elapses b'' := by
    refine stopAnswered_of_idle configures reliable' (memory ▸ serves.stopMemory) ?_
    rw [memory, PhantomIsoChannel.stopMemory_stopMemory]
  obtain ⟨b₂, stop₂, elapses₂⟩ := again xmitConfig (after₁.reliable reliable) after₁.memory
  have after₂ := after₁.trans elapses₂
  obtain ⟨b₃, stop₃, elapses₃⟩ := again recvConfig (after₂.reliable reliable) after₂.memory
  have after₃ := after₂.trans elapses₃
  obtain ⟨b₄, release₁, elapses₄⟩ := releases_of_held ((after₃.held ..).mpr recvHeld)
  have after₄ := (after₃.assign ..).trans elapses₄
  obtain ⟨b₅, stop₄, elapses₅⟩ := again xmitConfig (after₄.reliable reliable) after₄.memory
  have after₅ := after₄.trans elapses₅
  have xmitStill : b₅.allocation d.handle.port xmit.channel = some .library := by
    refine (after₅.held ..).mpr ?_
    exact (Allocation.assign_of_ne fun same => different same.2.symm).trans xmitHeld
  obtain ⟨b₆, release₂, elapses₆⟩ := releases_of_held xmitStill
  exact ⟨b₆, ⟨b₁, b₂, b₃, b₄, b₅, stop₁, stop₂, stop₃, release₁, stop₄, release₂⟩,
    (after₅.assign ..).trans elapses₆⟩

end Library

end LibPhantom
