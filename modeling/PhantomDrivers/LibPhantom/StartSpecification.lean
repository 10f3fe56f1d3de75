import PhantomDrivers.LibPhantom.ChannelsAvailable
import PhantomDrivers.LibPhantom.ReliableBus
import PhantomDrivers.Raw1394.QuietBus
import PhantomDrivers.Semantics.LeastSearch

/-!
# What starting a device means

On a quiet bus, starting a device is a relation between two states of the bus:
the first two channels that nobody holds are taken, the device is told both and
its transfer is enabled, all provided that its status registers are as
expected.  No order of the accesses is part of this.

* `Starts` — the relation; `Starts.unique`, `exists_starts_iff` — it is a partial
  function, and where it is defined.
* `startMemory_eq`, `startedMemory_eq` — what `PhantomIsoChannel::start` writes,
  without the detours.
* `claims_iff`, `StartAnswered.quiet` — the two halves of `startPhantom`.
* `startPhantom_starts`, `startPhantom_of_starts` — `startPhantom` starts the
  device.
-/

namespace LibPhantom

open Semantics Raw1394

/-! ## The relation -/

/-- The first channel that nobody holds. -/
structure FirstFree (holders : Nat → Option Holder) (c : Nat) : Prop where
  inside : c < 64
  free : holders c = none
  first : ∀ c' < c, holders c' ≠ none

/-- The registers of a started device. -/
def startedRegisters (memory : Memory) (port : Nat) (node : UInt16) (recv xmit : Nat) : Memory :=
  ((memory.store port node ADDR_XMIT_CHANNEL [UInt8.ofNat xmit]).store port node
    ADDR_RECV_CHANNEL [UInt8.ofNat recv]).store port node ADDR_CONTROL
      [memory port node ADDR_CONTROL ||| ADDR_CONTROL_enable_iso]

/-- **Starting a device.**  The bus is in the state `b'` after the device has
been started on the two channels. -/
structure Starts (port : Nat) (node : UInt16) (recv xmit : Nat) (b b' : ManagedBus) : Prop where
  serves : PhantomIsoChannel.Serves b.memory port node
  recvFree : FirstFree (b.allocation port) recv
  /-- the first one that is left when `recv` is taken -/
  xmitFree : FirstFree (b.allocation.assign port recv (some .library) port) xmit
  after : b' =
    { b with
      memory := startedRegisters b.memory port node recv xmit
      allocation := (b.allocation.assign port recv (some .library)).assign port xmit
        (some .library) }

section Relation

variable {holders : Nat → Option Holder} {port recv xmit recv' xmit' c c' : Nat} {node : UInt16}
  {b b₁ b₂ : ManagedBus}

theorem firstFree_iff_isLeast :
    FirstFree holders c ↔ IsLeast {c | c < 64 ∧ holders c = none} c := by
  constructor
  · rintro ⟨inside, free, first⟩
    refine ⟨⟨inside, free⟩, ?_⟩
    rintro c' ⟨-, nobody⟩
    by_contra before
    exact first c' (Nat.lt_of_not_le before) nobody
  · rintro ⟨⟨inside, free⟩, least⟩
    refine ⟨inside, free, fun c' before nobody => ?_⟩
    exact Nat.not_le_of_lt before (least ⟨Nat.lt_trans before inside, nobody⟩)

theorem FirstFree.unique (first : FirstFree holders c) (second : FirstFree holders c') :
    c = c' :=
  (firstFree_iff_isLeast.mp first).unique (firstFree_iff_isLeast.mp second)

theorem exists_firstFree_iff :
    (∃ c, FirstFree holders c) ↔ ∃ c < 64, holders c = none := by
  constructor
  · rintro ⟨c, first⟩
    exact ⟨c, first.inside, first.free⟩
  · intro some
    obtain ⟨inside, free⟩ := Nat.find_spec some
    refine ⟨Nat.find some, inside, free, fun c earlier nobody => ?_⟩
    exact Nat.find_min some earlier ⟨Nat.lt_trans earlier inside, nobody⟩

/-- A device is started in one way only. -/
theorem Starts.unique (first : Starts port node recv xmit b b₁)
    (second : Starts port node recv' xmit' b b₂) : recv = recv' ∧ xmit = xmit' ∧ b₁ = b₂ := by
  obtain rfl := first.recvFree.unique second.recvFree
  obtain rfl := first.xmitFree.unique second.xmitFree
  exact ⟨rfl, rfl, first.after.trans second.after.symm⟩

/-- A device can be started if two channels are free and the status registers
are as expected. -/
theorem exists_starts_iff : (∃ recv xmit b', Starts port node recv xmit b b') ↔
    (∃ c < 64, ∃ c' < 64, c ≠ c' ∧ b.allocation port c = none ∧ b.allocation port c' = none) ∧
      b.memory port node 0x1083 = 0xc0 ∧ b.memory port node 0x1082 = 0 := by
  constructor
  · rintro ⟨recv, xmit, b', starts⟩
    have different : recv ≠ xmit := by
      rintro rfl
      have busy := starts.xmitFree.free
      rw [Allocation.assign_self] at busy
      cases busy
    have free := starts.xmitFree.free
    rw [Allocation.assign_of_ne fun same => different same.2.symm] at free
    exact ⟨⟨recv, starts.recvFree.inside, xmit, starts.xmitFree.inside, different,
      starts.recvFree.free, free⟩, starts.serves.status₀, starts.serves.status₁⟩
  · rintro ⟨⟨c, inside, c', inside', different, free, free'⟩, status₀, status₁⟩
    obtain ⟨recv, recvFree⟩ := exists_firstFree_iff.mpr ⟨c, inside, free⟩
    -- At least one of the two is still free.
    have left : ∃ k < 64, b.allocation.assign port recv (some .library) port k = none := by
      by_cases same : c = recv
      · refine ⟨c', inside', ?_⟩
        rw [Allocation.assign_of_ne fun both => different (same.trans both.2.symm)]
        exact free'
      · refine ⟨c, inside, ?_⟩
        rw [Allocation.assign_of_ne fun both => same both.2]
        exact free
    obtain ⟨xmit, xmitFree⟩ := exists_firstFree_iff.mpr left
    exact ⟨recv, xmit, _, ⟨status₀, status₁⟩, recvFree, xmitFree, rfl⟩

end Relation

/-! ## What `start` writes -/

namespace PhantomIsoChannel

variable {b b' : ManagedBus} {com : CommunicationLibraw1394} {address : UInt64} {c : UInt8}
  {memory : Memory} {port channel : Nat} {node : UInt16} {receiving : Bool}

theorem or_enable_of_set : ∀ c : BitVec 8, c &&& 8#8 ≠ 0 → c ||| 8#8 = c := by
  decide +kernel

/-- The end of `start` sets the bit, whether it looks at it or not. -/
theorem enableMemory_eq : enableMemory memory port node = memory.store port node ADDR_CONTROL
    [memory port node ADDR_CONTROL ||| ADDR_CONTROL_enable_iso] := by
  unfold enableMemory
  split
  · rfl
  · next set =>
      have same : memory port node ADDR_CONTROL ||| ADDR_CONTROL_enable_iso =
          memory port node ADDR_CONTROL := by
        refine UInt8.toBitVec_inj.mp (or_enable_of_set _ fun clear => set ?_)
        exact UInt8.toBitVec_inj.mp clear
      rw [same, Memory.store_singleton_same]

theorem startMemory_recv : startMemory memory port node true channel =
    (memory.store port node ADDR_RECV_CHANNEL [UInt8.ofNat channel]).store port node ADDR_CONTROL
      [memory port node ADDR_CONTROL ||| ADDR_CONTROL_enable_iso] := by
  have announced : announceMemory memory port node true channel =
      memory.store port node ADDR_RECV_CHANNEL [UInt8.ofNat channel] := by
    rw [announceMemory, if_pos rfl, Memory.store_store_singleton, Memory.store_store_singleton]
  rw [startMemory, announced, enableMemory_eq, Memory.store_singleton_of_ne (by decide)]

theorem startMemory_xmit : startMemory memory port node false channel =
    (memory.store port node ADDR_XMIT_CHANNEL [UInt8.ofNat channel]).store port node ADDR_CONTROL
      [memory port node ADDR_CONTROL ||| ADDR_CONTROL_enable_iso] := by
  have announced : announceMemory memory port node false channel =
      memory.store port node ADDR_XMIT_CHANNEL [UInt8.ofNat channel] := if_neg Bool.false_ne_true
  rw [startMemory, announced, enableMemory_eq, Memory.store_singleton_of_ne (by decide)]

/-- Both `start`s together write the registers of a started device. -/
theorem startedMemory_eq (recv xmit : Nat) : Library.startedMemory memory port node recv xmit =
    startedRegisters memory port node recv xmit := by
  have once : memory port node ADDR_CONTROL ||| ADDR_CONTROL_enable_iso |||
      ADDR_CONTROL_enable_iso = memory port node ADDR_CONTROL ||| ADDR_CONTROL_enable_iso := by
    rw [UInt8.or_assoc, UInt8.or_self]
  have channels : (memory.store port node ADDR_RECV_CHANNEL [UInt8.ofNat recv]).store port node
      ADDR_XMIT_CHANNEL [UInt8.ofNat xmit] =
        (memory.store port node ADDR_XMIT_CHANNEL [UInt8.ofNat xmit]).store port node
          ADDR_RECV_CHANNEL [UInt8.ofNat recv] := Memory.store_singleton_comm (by decide) _ _
  rw [Library.startedMemory, startMemory_recv, startMemory_xmit, Memory.store_singleton_self, once,
    Memory.store_singleton_comm (show ADDR_CONTROL ≠ ADDR_XMIT_CHANNEL by decide),
    Memory.store_store_singleton, channels, startedRegisters]

/-! ### On a quiet bus -/

theorem Reads.quiet (reads : Reads com address c b b') (quiet : b.Quiet)
    (plain : ¬ManagedBus.IsManagerRegister address) :
    b' = b ∧ c = b.memory com.handle.port com.node address := by
  obtain ⟨block, settles, rfl⟩ := reads
  obtain ⟨delivered, rfl⟩ := quiet.settles_read settles
  rw [Except.ok.inj delivered]
  exact ⟨rfl, ManagedBus.byte_register plain _ _⟩

theorem Writes.quiet (writes : Writes com address c b b') (quiet : b.Quiet) :
    b' = { b with memory := b.memory.store com.handle.port com.node address [c] } := by
  rcases writes with stored | again
  · exact (Prod.mk.inj (stored.symm.trans quiet.write)).2
  · cases (Prod.mk.inj (again.symm.trans quiet.write)).1

theorem StatusAnswered.quiet (answered : StatusAnswered com b b') (quiet : b.Quiet) :
    b' = b ∧ Serves b.memory com.handle.port com.node := by
  obtain ⟨b₁, first, second⟩ := answered
  obtain ⟨rfl, status₀⟩ := first.quiet quiet (by decide)
  obtain ⟨rfl, status₁⟩ := second.quiet quiet (by decide)
  exact ⟨rfl, status₀.symm, status₁.symm⟩

theorem EnableAnswered.quiet (answered : EnableAnswered com b b') (quiet : b.Quiet) :
    b' = { b with memory := enableMemory b.memory com.handle.port com.node } := by
  obtain ⟨c, b₁, read, rest⟩ := answered
  obtain ⟨rfl, rfl⟩ := read.quiet quiet (by decide)
  unfold enableMemory
  split at rest
  · next clear => rw [if_pos clear, rest.quiet quiet]
  · next set => rw [if_neg set, rest]

theorem RecvAnswered.quiet (answered : RecvAnswered com channel b b') (quiet : b.Quiet) :
    b' =
      { b with
        memory := (b.memory.store com.handle.port com.node ADDR_RECV_CHANNEL [0x40]).store
          com.handle.port com.node ADDR_RECV_CHANNEL [UInt8.ofNat channel] } := by
  obtain ⟨c, b₁, b₂, b₃, read₁, -, write₁, read₂, write₂⟩ := answered
  obtain ⟨rfl, -⟩ := read₁.quiet quiet (by decide)
  obtain rfl := write₁.quiet quiet
  obtain ⟨rfl, -⟩ := read₂.quiet quiet (by decide)
  exact write₂.quiet quiet

/-- What `start` does if it returns. -/
theorem StartAnswered.quiet (answered : StartAnswered com receiving channel b b')
    (quiet : b.Quiet) :
    b' =
        { b with memory := startMemory b.memory com.handle.port com.node receiving channel } ∧
      Serves b.memory com.handle.port com.node := by
  obtain ⟨b₁, b₂, b₃, written, confirmed, status, enabled⟩ := answered
  obtain rfl := written.quiet quiet
  have announced : b₂ =
      { b with
        memory := announceMemory b.memory com.handle.port com.node receiving channel } := by
    unfold announceMemory
    cases receiving with
    | true => exact RecvAnswered.quiet confirmed quiet
    | false => exact confirmed
  subst announced
  obtain ⟨rfl, serves⟩ := status.quiet quiet
  refine ⟨enabled.quiet quiet, ?_, ?_⟩
  · rw [← serves.status₀]
    exact (announceMemory_of_ne (by decide) (by decide)).symm
  · rw [← serves.status₁]
    exact (announceMemory_of_ne (by decide) (by decide)).symm

end PhantomIsoChannel

namespace Library

/-! ## The search for a channel -/

section Search

variable {holders : Nat → Option Holder} {channels : UInt64} {c : Nat} {host : Host}
  {d : FirewireDeviceLibraw1394} {b b' : ManagedBus} {buffer : List UInt8}

/-- The search looks for a channel that nobody holds, if the register says which
those are. -/
theorem firstFree_iff
    (register : ∀ c < 64, CHANNEL_IS_FREE channels c = true ↔ holders c = none) :
    firstFree channels = some c ↔ FirstFree holders c := by
  rw [firstFree_iff_isLeast, firstFree, find?_range_eq_some_iff register]

/-- A device object as its constructor makes it, on a bus whose manager it
knows. -/
structure Placed (d : FirewireDeviceLibraw1394) (b : ManagedBus) : Prop where
  com : d.com.handle.port = d.port
  handle : d.handle.port = d.port
  irm : d.irmNode = b.irm d.port

theorem placed_constructed {β : Type} {port : Nat} {node : UInt16}
    (managed : b.irm port = host.irmId port) (s : Library β) :
    Placed (s.constructed host port node) b :=
  ⟨rfl, rfl, managed.symm⟩

/-- The register, as the device object reads it. -/
def register (d : FirewireDeviceLibraw1394) (b : ManagedBus) (i : Nat) : UInt8 :=
  b.byte d.com.handle.port d.irmNode (CHANNELS_AVAILABLE_ADDR + UInt64.ofNat i)

/-- The register arrives in two chunks. -/
theorem searchAnswered_of_chunks {b₁ b₂ : ManagedBus}
    (front : Settles
      (Bus.read d.com.handle d.irmNode (CHANNELS_AVAILABLE_ADDR + UInt64.ofNat 0) 4) b
      (.ok fun i => b.byte d.com.handle.port d.irmNode
        (CHANNELS_AVAILABLE_ADDR + UInt64.ofNat 0 + UInt64.ofNat i)) b₁)
    (back : Settles
      (Bus.read d.com.handle d.irmNode (CHANNELS_AVAILABLE_ADDR + UInt64.ofNat (0 + 4)) 4) b₁
      (.ok fun i => b.byte d.com.handle.port d.irmNode
        (CHANNELS_AVAILABLE_ADDR + UInt64.ofNat (0 + 4) + UInt64.ofNat i)) b₂) :
    SearchAnswered d (bytesOf (register d b) 8) b b₂ := by
  have second (i : Nat) : CHANNELS_AVAILABLE_ADDR + UInt64.ofNat (0 + 4) + UInt64.ofNat i =
      CHANNELS_AVAILABLE_ADDR + UInt64.ofNat (4 + i) := by
    rw [UInt64.ofNat_add 4 i, UInt64.add_assoc]
  have loop : CommunicationLibraw1394.ReadLoop d.com.handle d.irmNode CHANNELS_AVAILABLE_ADDR
      (8 : UInt32).toNat 0 [] b _ :=
    .chunk (by decide) front (by decide) (.chunk (by decide) back (by decide) (.done (by decide)))
  simp only [second] at loop
  exact loop

theorem searchAnswered_of_quiet (quiet : b.Quiet) :
    SearchAnswered d (bytesOf (register d b) 8) b b :=
  searchAnswered_of_chunks (.ended quiet.read (by simp)) (.ended quiet.read (by simp))

theorem SearchAnswered.quiet (searched : SearchAnswered d buffer b b') (quiet : b.Quiet) :
    buffer = bytesOf (register d b) 8 ∧ b' = b :=
  Outcome.returned.inj (CommunicationLibraw1394.ReadLoop.unique searched
    (searchAnswered_of_quiet quiet))

theorem Placed.register (placed : Placed d b) (endian : Endian) {c : Nat} (inside : c < 64) :
    CHANNEL_IS_FREE (channelsAvailable endian (bytesOf (register d b) 8)) c = true ↔
      b.allocation d.port c = none := by
  refine channelIsFree_iff endian b d.port (fun i small => ?_) inside
  rw [Library.register, placed.com, placed.irm]
  exact byte_available b d.port small

/-- A claim leaves the bus quiet and its manager in place. -/
theorem Placed.assign (placed : Placed d b) (quiet : b.Quiet)
    (taken : b' = { b with allocation := b.allocation.assign d.port c (some .library) }) :
    b'.Quiet ∧ Placed d b' := by
  subst taken
  exact ⟨quiet, placed.com, placed.handle, placed.irm⟩

/-- A claim takes the first channel that nobody holds. -/
theorem claims_iff (host : Host) (quiet : b.Quiet) (placed : Placed d b) : Claims host d c b b' ↔
    FirstFree (b.allocation d.port) c ∧
      b' = { b with allocation := b.allocation.assign d.port c (some .library) } := by
  have found := firstFree_iff (c := c) fun c inside => placed.register host.endian inside
  constructor
  · rintro ⟨buffer, b₁, searched, here, taken⟩
    obtain ⟨rfl, rfl⟩ := searched.quiet quiet
    have first := found.mp here
    have free := first.free
    rw [← placed.handle] at free
    rw [quiet.alloc_of_free first.inside free, placed.handle] at taken
    exact ⟨first, (Prod.mk.inj taken).2.symm⟩
  · rintro ⟨first, rfl⟩
    have free := first.free
    rw [← placed.handle] at free
    refine ⟨_, b, searchAnswered_of_quiet quiet, found.mpr first, ?_⟩
    rw [quiet.alloc_of_free first.inside free, placed.handle]

end Search

/-! ## Starting a Phantom -/

section Start

/-- A started Phantom receives and transmits on these channels: its channel
objects have them, and so do their isochronous contexts. -/
def TransfersOn {β : Type} (s : Library β) (p : Ptr) (recv xmit : Nat) : Prop :=
  ∃ d r x k l, Running s p d r x k l ∧ k.channel = recv ∧
    k.com.context = some ⟨true, recv⟩ ∧ l.channel = xmit ∧ l.com.context = some ⟨false, xmit⟩

variable {host : Host} {p : Ptr} {ph : Phantom} {d : FirewireDeviceLibraw1394}

/-- **How `startPhantom` returns**, on any bus. -/
theorem startPhantom_eq_returned {β : Type} [Bus β] {s s' : Library β} {u : Unit}
    (live : s.phantoms p = some ph) (idle : ph.started = false)
    (liveDevice : s.devices ph.firewireDevice = some d) :
    startPhantom host p s = .returned u s' ↔
      ∃ recv xmit b₁ b₂ b₃ b₄, Claims host d recv s.bus b₁ ∧ Claims host d xmit b₁ b₂ ∧
        PhantomIsoChannel.StartAnswered (configOf d (s.nextHandle + 1)) true recv b₂ b₃ ∧
        PhantomIsoChannel.StartAnswered (configOf d (s.nextHandle + 3)) false xmit b₃ b₄ ∧
        s' = ((s.withChannels p ph.firewireDevice d recv xmit b₁ b₂).afterStart s.isoChannels.next
          (s.recvOf ph.firewireDevice d recv) b₃).afterStart (s.isoChannels.next + 1)
            (s.xmitOf ph.firewireDevice d xmit) b₄ := by
  constructor
  · intro returned
    rcases claims_or_fails host d s.bus with ⟨recv, b₁, claims₁⟩ | ⟨b₁, fails⟩
    · rcases claims_or_fails host d b₁ with ⟨xmit, b₂, claims₂⟩ | ⟨b₂, fails⟩
      · rw [startPhantom_of_claims live idle liveDevice claims₁ claims₂] at returned
        have running := running_withChannels live liveDevice recv xmit b₁ b₂
        by_cases starts : ∃ b₃ b₄,
            PhantomIsoChannel.StartAnswered (configOf d (s.nextHandle + 1)) true recv b₂ b₃ ∧
              PhantomIsoChannel.StartAnswered (configOf d (s.nextHandle + 3)) false xmit b₃ b₄
        · obtain ⟨b₃, b₄, first, second⟩ := starts
          rw [startChannels_of_answered running first second] at returned
          exact ⟨recv, xmit, b₁, b₂, b₃, b₄, claims₁, claims₂, first, second,
            (Outcome.returned.inj returned).2.symm⟩
        · obtain ⟨e, s₁, _, _, thrown, -⟩ := startChannels_of_unanswered running
            fun b₃ b₄ first second => starts ⟨b₃, b₄, first, second⟩
          rw [thrown] at returned
          cases returned
      · -- The first channel is given back, or it is not.
        by_cases stops : ∃ b₃ b₄,
            PhantomIsoChannel.StopAnswered (configOf d (s.nextHandle + 1)) b₂ b₃ ∧
              Releases d recv b₃ b₄
        · obtain ⟨b₃, b₄, stops, releases⟩ := stops
          obtain ⟨e, log, thrown⟩ :=
            startPhantom_of_rollback live idle liveDevice claims₁ fails stops releases
          rw [thrown] at returned
          cases returned
        · obtain ⟨e, b', log, thrown⟩ := startPhantom_of_stuck live idle liveDevice claims₁ fails
            fun b₃ b₄ answered releases => stops ⟨b₃, b₄, answered, releases⟩
          rw [thrown] at returned
          cases returned
    · obtain ⟨e, log, thrown⟩ := startPhantom_of_fails live idle liveDevice fails
      rw [thrown] at returned
      cases returned
  · rintro ⟨recv, xmit, b₁, b₂, b₃, b₄, claims₁, claims₂, first, second, rfl⟩
    rw [startPhantom_of_claims live idle liveDevice claims₁ claims₂]
    exact startChannels_of_answered (running_withChannels live liveDevice ..) first second

variable {s s' : Library ManagedBus} {b' : ManagedBus} {recv xmit : Nat} {u : Unit}

/-- On a quiet bus, `startPhantom` starts the device if it returns. -/
theorem startPhantom_starts (quiet : s.bus.Quiet) (placed : Placed d s.bus)
    (live : s.phantoms p = some ph) (idle : ph.started = false)
    (liveDevice : s.devices ph.firewireDevice = some d)
    (returned : startPhantom host p s = .returned u s') :
    ∃ recv xmit, Starts d.port d.node recv xmit s.bus s'.bus ∧ TransfersOn s' p recv xmit := by
  obtain ⟨recv, xmit, b₁, b₂, b₃, b₄, claims₁, claims₂, start₁, start₂, rfl⟩ :=
    (startPhantom_eq_returned live idle liveDevice).mp returned
  refine ⟨recv, xmit, ?_, ?_⟩
  · obtain ⟨recvFree, taken⟩ := (claims_iff host quiet placed).mp claims₁
    obtain ⟨quiet₁, placed₁⟩ := placed.assign quiet taken
    subst taken
    obtain ⟨xmitFree, rfl⟩ := (claims_iff host quiet₁ placed₁).mp claims₂
    obtain ⟨rfl, serves⟩ := start₁.quiet quiet
    obtain ⟨rfl, -⟩ := start₂.quiet quiet
    refine ⟨serves, recvFree, xmitFree, ?_⟩
    rw [← PhantomIsoChannel.startedMemory_eq]
    rfl
  · have running := running_withChannels live liveDevice recv xmit b₁ b₂
    exact ⟨d, _, _, _, _, (running.startRecv b₃).startXmit b₄, rfl, rfl, rfl, rfl⟩

/-- On a quiet bus, `startPhantom` returns if the device can be started. -/
theorem startPhantom_of_starts (host : Host) (quiet : s.bus.Quiet) (placed : Placed d s.bus)
    (live : s.phantoms p = some ph) (idle : ph.started = false)
    (liveDevice : s.devices ph.firewireDevice = some d)
    (starts : Starts d.port d.node recv xmit s.bus b') :
    ∃ s', startPhantom host p s = .returned () s' := by
  have claims₁ := (claims_iff host quiet placed).mpr ⟨starts.recvFree, rfl⟩
  obtain ⟨quiet₁, placed₁⟩ := placed.assign (c := recv) quiet rfl
  have claims₂ := (claims_iff host quiet₁ placed₁).mpr ⟨starts.xmitFree, rfl⟩
  obtain ⟨quiet₂, -⟩ := placed₁.assign (c := xmit) quiet₁ rfl
  obtain ⟨b₃, b₄, start₁, start₂, -⟩ := startAnswered_of_claims quiet₂.reliable starts.serves
    starts.recvFree.inside starts.xmitFree.inside (s.nextHandle + 1) (s.nextHandle + 3)
  exact ⟨_, (startPhantom_eq_returned live idle liveDevice).mpr
    ⟨recv, xmit, _, _, b₃, b₄, claims₁, claims₂, start₁, start₂, rfl⟩⟩

end Start

end Library

end LibPhantom
