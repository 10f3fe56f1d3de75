import PhantomDrivers.LibPhantom.StartSpecification
import PhantomDrivers.LibPhantom.MemoryReads
import PhantomDrivers.Semantics.LeastSearch
import PhantomDrivers.Semantics.Runs

/-!
# The search for a free channel

`getFreeChannel` scans the register of the manager from the channel 0 on.  It
is compared with the register as a number, and with what the calls of
`claimChannel` and `releaseChannel` have made of it.

* `findsLeast_of_answered` — the search, by the register that answers it.
* `channelCalls` — any sequence of searches, claims and releases, on any device
  objects.
* `Accounted`, `Accounted.step` — the allocation is what the calls say it is.
* `freeChannel_least` — the search finds the least channel whose bit is set, and
  this is the least one that is not claimed.
-/

namespace LibPhantom

open Semantics Raw1394

namespace Library

/-! ## One search -/

/-- **A search**, by the register that it is answered with. -/
theorem findsLeast_of_answered {β : Type} [Bus β] {s : Library β} {host : Host} {p : Ptr}
    {d : FirewireDeviceLibraw1394} {b' : β} {buffer : List UInt8} {free : Nat → Prop}
    (live : s.devices p = some d) (searched : SearchAnswered d buffer s.bus b')
    (bits : ∀ c < 64,
      CHANNEL_IS_FREE (channelsAvailable host.endian buffer) c = true ↔ free c) :
    FindsLeast (getFreeChannel host p s) 64 free := by
  cases found : firstFree (channelsAvailable host.endian buffer) with
  | some c => exact findsLeast_of_found bits found (getFreeChannel_of_found live searched found)
  | none => exact findsLeast_of_none bits found (getFreeChannel_of_none live searched found)

/-! ## The register -/

/-- The bits of the value, counted from the most significant one of the
register. -/
theorem channelIsFree_eq_octlet (endian : Endian) (block : Nat → UInt8) {c : Nat} (small : c < 64) :
    CHANNEL_IS_FREE (channelsAvailable endian (bytesOf block 8)) c =
      (beOctlet block).testBit (63 - c) := by
  rw [channelIsFree_eq_testBit _ small, testBit_channelsAvailable _ _ (by omega),
    testBit_beOctlet _ (by omega)]

/-- The register of a node arrives, unless the read fails for good. -/
theorem searchAnswered_of_memory {b : MemoryBus} {d : FirewireDeviceLibraw1394}
    (soft : MemoryBus.hardFailureWithin 2 b.faults = false) :
    ∃ b', SearchAnswered d
      (bytesOf (b.memory.block d.com.handle.port d.irmNode CHANNELS_AVAILABLE_ADDR) 8) b b' := by
  obtain ⟨outcome, loop, -⟩ := CommunicationLibraw1394.exists_readLoop d.com.handle d.irmNode
    CHANNELS_AVAILABLE_ADDR 8 b
  have defined := loop.defined (by decide) rfl
  have ends := ends_readLoop_of_memory loop defined
  cases outcome with
  | returned buffer b' =>
      have filled : buffer = bytesOf
          (b.memory.block d.com.handle.port d.irmNode (CHANNELS_AVAILABLE_ADDR + UInt64.ofNat 0)) 8 :=
        ends.2
      rw [show UInt64.ofNat 0 = 0 from rfl, UInt64.add_zero] at filled
      exact ⟨b', filled ▸ loop⟩
  | thrown shortfall b' =>
      rw [hardFailureWithin_of_thrown loop (by decide) rfl] at soft
      cases soft
  | undefined => exact absurd rfl defined

/-- A register of the manager arrives on an undisturbed bus. -/
theorem searchAnswered_of_undisturbed {b : ManagedBus} {d : FirewireDeviceLibraw1394}
    (undisturbed : b.Undisturbed) (placed : Placed d b) :
    ∃ turns, ManagedBus.Undisturbed { b with turns } ∧
      SearchAnswered d (bytesOf (register d b) 8) b { b with turns } := by
  have manages : d.irmNode = b.irm d.com.handle.port := by rw [placed.com, placed.irm]
  obtain ⟨turns₁, undisturbed₁, front⟩ := undisturbed.settles_read d.com.handle
    (CHANNELS_AVAILABLE_ADDR + UInt64.ofNat 0) 4 manages (by decide)
  obtain ⟨turns₂, undisturbed₂, back⟩ := undisturbed₁.settles_read d.com.handle
    (CHANNELS_AVAILABLE_ADDR + UInt64.ofNat (0 + 4)) 4 manages (by decide)
  exact ⟨turns₂, undisturbed₂, searchAnswered_of_chunks front back⟩

/-! ## Claims and releases -/

/-- A call on a device object. -/
inductive ChannelCall where
  | search (p : Ptr)
  | claim (p : Ptr) (channel : Nat)
  | release (p : Ptr) (channel : Nat)

/-- The state after a call that returns. -/
def returnState? {β : Type} {α : Type} : Outcome Exn (Library β) α → Option (Library β)
  | .returned _ s => some s
  | .thrown _ _ => none
  | .undefined => none

/-- The calls.  Claims and releases succeed; a search may find no channel. -/
def channelCalls {β : Type} [Bus β] (host : Host) : System (Library β) ChannelCall where
  step s call :=
    match call with
    | .search p => (getFreeChannel host p s).state?
    | .claim p channel => returnState? (claimChannel p channel s)
    | .release p channel => returnState? (releaseChannel p channel s)

/-- Note down whether a channel of the port of a device is claimed. -/
def note (devices : Heap FirewireDeviceLibraw1394) (p : Ptr) (channel : Nat)
    (claimed : Nat → Nat → Bool) (now : Bool) : Nat → Nat → Bool := fun port c =>
  if (devices p).map (·.port) = some port ∧ c = channel then now else claimed port c

/-- The channels that are claimed after one more call. -/
def account (devices : Heap FirewireDeviceLibraw1394) (claimed : Nat → Nat → Bool) :
    ChannelCall → Nat → Nat → Bool
  | .search _ => claimed
  | .claim p channel => note devices p channel claimed true
  | .release p channel => note devices p channel claimed false

/-- The channels that somebody holds. -/
def claimed (s : Library ManagedBus) : Nat → Nat → Bool := fun port c =>
  (s.bus.allocation port c).isSome

/-- The channels that are claimed after the calls: the last call counts that
names the channel, and without one it is as it was. -/
def claimedAfter (s : Library ManagedBus) (calls : List ChannelCall) : Nat → Nat → Bool :=
  calls.foldl (account s.devices) (claimed s)

/-- What the calls keep. -/
structure Accounted (devices : Heap FirewireDeviceLibraw1394) (s : Library ManagedBus) : Prop where
  undisturbed : s.bus.Undisturbed
  placed : ∀ p d, s.devices p = some d → Placed d s.bus
  devices : s.devices = devices

section Calls

variable {s s' : Library ManagedBus} {host : Host} {p : Ptr} {d : FirewireDeviceLibraw1394}
  {devices : Heap FirewireDeviceLibraw1394} {call : ChannelCall} {c : Nat}
  {allocation : Allocation} {turns : List Turn}

/-- A call of `raw1394` changes the allocation at most. -/
theorem Accounted.of_bus (accounted : Accounted devices s)
    (undisturbed : ManagedBus.Undisturbed { s.bus with turns })
    (bus : s'.bus = { s.bus with turns, allocation }) (same : s'.devices = s.devices) :
    Accounted devices s' where
  undisturbed := by
    rw [bus]
    exact undisturbed
  placed p d live := by
    rw [same] at live
    have placed := accounted.placed p d live
    exact ⟨placed.com, placed.handle, by rw [bus]; exact placed.irm⟩
  devices := same.trans accounted.devices

/-- A search finds the least channel that nobody holds. -/
theorem Accounted.findsLeast (accounted : Accounted devices s) (host : Host)
    (live : s.devices p = some d) :
    FindsLeast (getFreeChannel host p s) 64 fun c => claimed s d.port c = false := by
  have placed := accounted.placed p d live
  obtain ⟨turns, -, searched⟩ := searchAnswered_of_undisturbed accounted.undisturbed placed
  refine findsLeast_of_answered live searched fun c inside => ?_
  rw [placed.register host.endian inside, claimed, Option.isSome_eq_false_iff,
    Option.isNone_iff_eq_none]

/-- A search leaves the allocation alone. -/
theorem Accounted.search (accounted : Accounted devices s)
    (searched : (getFreeChannel host p s).state? = some s') :
    Accounted devices s' ∧ claimed s' = claimed s := by
  cases live : s.devices p with
  | none =>
      rw [getFreeChannel, Call.bind_apply, device_of_dead live] at searched
      cases searched
  | some d =>
      obtain ⟨turns, undisturbed, answered⟩ :=
        searchAnswered_of_undisturbed accounted.undisturbed (accounted.placed p d live)
      have bus : s'.bus = { s.bus with turns } ∧ s'.devices = s.devices := by
        cases found : firstFree (channelsAvailable host.endian (bytesOf (register d s.bus) 8)) with
        | some c =>
            rw [getFreeChannel_of_found live answered found] at searched
            cases searched
            exact ⟨rfl, rfl⟩
        | none =>
            rw [getFreeChannel_of_none live answered found] at searched
            cases searched
            exact ⟨rfl, rfl⟩
      refine ⟨accounted.of_bus undisturbed bus.1 bus.2, ?_⟩
      ext port k
      rw [claimed, claimed, bus.1]

/-- What a claim or a release that is acknowledged does to the account. -/
theorem Accounted.modify (accounted : Accounted devices s) (live : s.devices p = some d)
    {mode : Modify} {b' : ManagedBus}
    (change : Bus.channelModify d.handle c mode s.bus = (true, b')) (bus : s'.bus = b')
    (same : s'.devices = s.devices) :
    Accounted devices s' ∧
      claimed s' = note devices p c (claimed s) (decide (mode = .alloc)) := by
  subst bus
  obtain ⟨turns, undisturbed, after⟩ := accounted.undisturbed.modify change
  refine ⟨accounted.of_bus undisturbed after same, ?_⟩
  ext port k
  have placed := accounted.placed p d live
  rw [claimed, after, note, ← accounted.devices, live, placed.handle]
  by_cases here : port = d.port ∧ k = c
  · obtain ⟨rfl, rfl⟩ := here
    cases mode <;> simp
  · have elsewhere : ¬((some d).map (·.port) = some port ∧ k = c) := fun h =>
      here ⟨(Option.some.inj h.1).symm, h.2⟩
    rw [if_neg elsewhere, claimed]
    exact congrArg Option.isSome (Allocation.assign_of_ne here)

/-- A claim or a release that returns has been acknowledged. -/
theorem acknowledged_of_returned {β : Type} [Bus β] {s s' : Library β} {mode : Modify}
    {e : Exn} {u : Unit}
    (returned : (do
      let d ← device p
      useHandle d.handle
      if !(← channelModify d c mode) then throw e : Call Exn (Library β) Unit) s =
        .returned u s') :
    ∃ d, s.devices p = some d ∧ Bus.channelModify d.handle c mode s.bus = (true, s'.bus) ∧
      s'.devices = s.devices := by
  cases live : s.devices p with
  | none =>
      rw [Call.bind_apply, device_of_dead live] at returned
      cases returned
  | some d =>
      obtain ⟨r, b', attempt⟩ : ∃ r b', Bus.channelModify d.handle c mode s.bus = (r, b') :=
        ⟨_, _, rfl⟩
      cases r with
      | false => simp [device_of_live live, useHandle, channelModify, attempt] at returned
      | true =>
          have state :
              { s with
                bus := b'
                handleLog := s.handleLog ++ [.used d.handle.id]
                ledger := s.ledger ++ [⟨mode, d.handle.port, c⟩] } = s' := by
            simpa [device_of_live live, useHandle, channelModify, attempt] using returned
          subst state
          exact ⟨d, rfl, attempt, rfl⟩

theorem returnState?_eq_some {β : Type} {o : Outcome Exn (Library β) Unit} {s' : Library β} :
    returnState? o = some s' ↔ o = .returned () s' := by
  cases o <;> simp [returnState?]

/-- **One call.**  The account is kept. -/
theorem Accounted.step (accounted : Accounted devices s)
    (stepped : (channelCalls host).step s call = some s') :
    Accounted devices s' ∧ claimed s' = account devices (claimed s) call := by
  cases call with
  | search p => exact accounted.search stepped
  | claim p channel =>
      obtain ⟨d, live, change, same⟩ :=
        acknowledged_of_returned (returnState?_eq_some.mp stepped)
      exact accounted.modify live change rfl same
  | release p channel =>
      obtain ⟨d, live, change, same⟩ :=
        acknowledged_of_returned (returnState?_eq_some.mp stepped)
      exact accounted.modify live change rfl same

/-- **All calls.** -/
theorem Accounted.run (accounted : Accounted devices s) {calls : List ChannelCall}
    (reached : (channelCalls host).run s calls = some s') :
    Accounted devices s' ∧ claimed s' = calls.foldl (account devices) (claimed s) :=
  System.run_foldl accounted (fun _ _ _ kept stepped => kept.step stepped) reached

/-- Noting a claim and then a release of a channel that is not claimed. -/
theorem note_note {before : Nat → Nat → Bool} (live : devices p = some d)
    (unclaimed : before d.port c = false) :
    note devices p c (note devices p c before true) false = before := by
  ext port k
  unfold note
  rw [live]
  split
  · next here =>
      obtain ⟨same, rfl⟩ := here
      obtain rfl : d.port = port := Option.some.inj same
      exact unclaimed.symm
  · rfl

/-- What was claimed can be released, and is found again. -/
theorem Accounted.again (accounted : Accounted devices s) (host : Host)
    (live : s.devices p = some d) {s₁ s₂ : Library ManagedBus} {u : Unit}
    (found : getFreeChannel host p s = .returned c s₁)
    (taken : claimChannel p c s₁ = .returned u s₂) :
    ∃ s₃ s₄, releaseChannel p c s₂ = .returned () s₃ ∧
      getFreeChannel host p s₃ = .returned c s₄ := by
  have least := ((accounted.findsLeast host live).returns c).mp ⟨s₁, found⟩
  -- The search, the claim and the release, one after the other.
  obtain ⟨accounted₁, claimed₁⟩ := accounted.search (congrArg Outcome.state? found)
  obtain ⟨d₁, live₁, change₁, same₁⟩ := acknowledged_of_returned taken
  rw [accounted₁.devices, ← accounted.devices, live] at live₁
  obtain rfl : d = d₁ := Option.some.inj live₁
  have live₁ : s₁.devices p = some d := by rw [accounted₁.devices, ← accounted.devices, live]
  obtain ⟨accounted₂, claimed₂⟩ := accounted₁.modify live₁ change₁ rfl same₁
  have live₂ : s₂.devices p = some d := same₁ ▸ live₁
  have held : s₂.bus.allocation d.handle.port c ≠ none := by
    have now : claimed s₂ d.port c = true := by
      rw [claimed₂, note, ← accounted.devices, live]
      exact if_pos ⟨rfl, rfl⟩
    rw [(accounted.placed p d live).handle]
    exact Option.isSome_iff_ne_none.mp now
  obtain ⟨b', released⟩ := accounted₂.undisturbed.free_of_held held
  obtain ⟨s₃, returned, bus₃, same₃⟩ : ∃ s₃, releaseChannel p c s₂ = .returned () s₃ ∧
      s₃.bus = b' ∧ s₃.devices = s₂.devices := ⟨_, releaseChannel_of_ok live₂ released, rfl, rfl⟩
  obtain ⟨accounted₃, claimed₃⟩ := accounted₂.modify live₂ released bus₃ same₃
  have free : claimed s₁ d.port c = false := by
    rw [claimed₁]
    exact least.1.2
  have unchanged : claimed s₃ = claimed s := by
    rw [claimed₃, claimed₂]
    exact (note_note (accounted₁.devices ▸ live₁) free).trans claimed₁
  have last := (accounted₃.findsLeast host (same₃ ▸ live₂)).returns c
  rw [unchanged] at last
  obtain ⟨s₄, found₄⟩ := last.mpr least
  exact ⟨s₃, s₄, returned, found₄⟩

end Calls

/-- **The search for a free channel.**  Whatever the register holds, the search
finds the least channel whose bit is set, counted from the most significant one,
and throws exactly if no bit is set.  After any claims and releases that
succeeded, this is the least channel that is not claimed; and it is found again
after it has been claimed and released. -/
theorem freeChannel_least (host : Host) :
    (∀ (s : Library MemoryBus) (p : Ptr) (d : FirewireDeviceLibraw1394), s.devices p = some d →
      MemoryBus.hardFailureWithin 2 s.bus.faults = false →
      FindsLeast (getFreeChannel host p s) 64 fun c =>
        (beOctlet (s.bus.memory.block d.com.handle.port d.irmNode
          CHANNELS_AVAILABLE_ADDR)).testBit (63 - c) = true) ∧
    ∀ (s s' : Library ManagedBus) (calls : List ChannelCall) (p : Ptr)
      (d : FirewireDeviceLibraw1394), s.bus.Undisturbed →
      (∀ p d, s.devices p = some d → Placed d s.bus) →
      (channelCalls host).run s calls = some s' → s'.devices p = some d →
        (FindsLeast (getFreeChannel host p s') 64 fun c => claimedAfter s calls d.port c = false) ∧
        ∀ c s₁ s₂, getFreeChannel host p s' = .returned c s₁ →
          claimChannel p c s₁ = .returned () s₂ →
          ∃ s₃ s₄, releaseChannel p c s₂ = .returned () s₃ ∧
            getFreeChannel host p s₃ = .returned c s₄ := by
  constructor
  · intro s p d live soft
    obtain ⟨b', searched⟩ := searchAnswered_of_memory (d := d) soft
    refine findsLeast_of_answered live searched fun c inside => ?_
    rw [channelIsFree_eq_octlet _ _ inside]
  · intro s s' calls p d undisturbed placed reached live
    obtain ⟨accounted, claims⟩ := Accounted.run ⟨undisturbed, placed, rfl⟩ reached
    refine ⟨?_, fun c s₁ s₂ found taken => accounted.again host live found taken⟩
    have finds := accounted.findsLeast host live
    rw [claims] at finds
    exact finds

/-- A device object on the bus. -/
def oneDevice {β : Type} (bus : β) : Library β :=
  (Library.initial bus).afterNewDevice twoNodes 0 0xffc0 .initial

/-- The register says that the channels 9 and 63 are free; it has to be asked
for twice. -/
def sparse : MemoryBus where
  memory _ _ address :=
    if address = 0xfffff0000225 then 0x40 else if address = 0xfffff000022b then 1 else 0
  faults := [some EAGAIN]

/-- The manager is busy once, after it has given two channels away. -/
def busyOnce : ManagedBus where
  memory _ _ _ := 0
  irm _ := 0xffc1
  allocation _ channel := if channel = 5 then some .other else none
  turns := [⟨[], none, none⟩, ⟨[], none, none⟩, ⟨[], none, some EAGAIN⟩]

theorem freeChannel_least_used :
    IsLeast {c | c < 64 ∧
      (beOctlet (sparse.memory.block 0 0xffc1 CHANNELS_AVAILABLE_ADDR)).testBit (63 - c) = true} 9 ∧
    ∃ s', (channelCalls twoNodes).run (oneDevice busyOnce)
        [.claim 0 0, .claim 0 1, .search 0, .release 0 0] = some s' ∧
      IsLeast {c | c < 64 ∧ claimedAfter (oneDevice busyOnce)
        [.claim 0 0, .claim 0 1, .search 0, .release 0 0] 0 c = false} 0 ∧
      ∃ s₁ s₂ s₃ s₄, getFreeChannel twoNodes 0 s' = .returned 0 s₁ ∧
        claimChannel 0 0 s₁ = .returned () s₂ ∧ releaseChannel 0 0 s₂ = .returned () s₃ ∧
        getFreeChannel twoNodes 0 s₃ = .returned 0 s₄ := by
  obtain ⟨registers, runs⟩ := freeChannel_least twoNodes
  refine ⟨((registers (oneDevice sparse) 0 _ rfl rfl).returns 9).mp ⟨_, rfl⟩, _, rfl, ?_⟩
  have undisturbed : (oneDevice busyOnce).bus.Undisturbed := by
    simp [ManagedBus.Undisturbed, oneDevice, afterNewDevice, initial, busyOnce]
  have placed (p : Ptr) (d : FirewireDeviceLibraw1394)
      (live : (oneDevice busyOnce).devices p = some d) : Placed d (oneDevice busyOnce).bus := by
    rcases Heap.alloc_eq_some.mp live with ⟨-, rfl⟩ | empty
    · exact placed_constructed rfl _
    · cases empty
  obtain ⟨finds, again⟩ := runs _ _ [.claim 0 0, .claim 0 1, .search 0, .release 0 0] 0 _
    undisturbed placed rfl rfl
  refine ⟨(finds.returns 0).mp ⟨_, rfl⟩, ?_⟩
  obtain ⟨s₃, s₄, released, found⟩ := again 0 _ _ rfl rfl
  exact ⟨_, _, s₃, s₄, rfl, rfl, released, found⟩

end Library

end LibPhantom
