import PhantomDrivers.LibPhantom.StopPhantom

/-!
# Runs of Phantoms

Phantoms are connected, started, stopped and destroyed in any order, on any bus
and with any pattern of failures.

* `phantomRuns` — the system.
* `Sound` — the invariant of all runs: the device of a Phantom is alive and its
  own, and a started Phantom is `Running` with two channel objects of its own.
* `sound_run` — it holds in every reachable state, and no step is undefined
  there (`phantomRuns_step_isSome`).  So `stopPhantom` is only ever called on a
  Phantom that it can stop or that is stopped already.
-/

namespace LibPhantom

open Semantics Raw1394

/-- What can happen to Phantoms. -/
inductive PhantomAction where
  | connect (port : Nat) (node : UInt16)
  | start (p : Ptr)
  | stop (p : Ptr)
  | destroy (p : Ptr)
deriving DecidableEq, Repr

namespace Library

variable {β : Type}

section System

variable [Bus β]

/-- A device is opened, and a Phantom is made of it. -/
def connectPhantom (host : Host) (port : Nat) (node : UInt16) : Call Exn (Library β) Ptr := do
  newPhantom (← newDevice host port node)

/-- The call of an action; a method is only called on a live Phantom. -/
def phantomCall (host : Host) (s : Library β) : PhantomAction → Option (Library β)
  | .connect port node => (connectPhantom host port node s).state?
  | .start p => if (s.phantoms p).isSome then (startPhantom host p s).state? else none
  | .stop p => if (s.phantoms p).isSome then (stopPhantom p s).state? else none
  | .destroy p => if (s.phantoms p).isSome then (deletePhantom p s).state? else none

/-- The runs of any number of Phantoms. -/
def phantomRuns (host : Host) : System (Library β) PhantomAction where
  step s a := phantomCall host s a

end System

/-- The object is the Phantom the action is about, or it is made by it. -/
def Possible (s : Library β) : PhantomAction → Prop
  | .connect _ _ => True
  | .start p => ∃ ph, s.phantoms p = some ph
  | .stop p => ∃ ph, s.phantoms p = some ph
  | .destroy p => ∃ ph, s.phantoms p = some ph

/-- A started Phantom points to the channel object. -/
def Owns (s : Library β) (p q : Ptr) : Prop :=
  ∃ ph, s.phantoms p = some ph ∧ ph.started = true ∧
    (ph.recvChannel = some q ∨ ph.xmitChannel = some q)

/-- What holds in all runs. -/
structure Sound (s : Library β) : Prop where
  counted : Counted s
  connected : ∀ p ph, s.phantoms p = some ph → ∃ d, s.devices ph.firewireDevice = some d
  apart : ∀ p p' ph ph', s.phantoms p = some ph → s.phantoms p' = some ph' →
    ph.firewireDevice = ph'.firewireDevice → p = p'
  running : ∀ p ph, s.phantoms p = some ph → ph.started = true →
    ∃ d r x recv xmit, Running s p d r x recv xmit
  unshared : ∀ p p' q, Owns s p q → Owns s p' q → p = p'

variable {s s' t : Library β} {host : Host} {p r x : Ptr} {ph ph' : Phantom}
  {d : FirewireDeviceLibraw1394} {recv xmit : PhantomIsoChannel} {changed : List Ptr}

theorem sound_initial (bus : β) : Sound (Library.initial bus) where
  counted := counted_initial bus
  connected _ _ live := nomatch live
  apart _ _ _ _ live := nomatch live
  running _ _ live := nomatch live
  unshared _ _ _ owns := nomatch owns.choose_spec.1

/-- What the invariant is about. -/
def resources (s : Library β) :
    OpenDevices × Heap FirewireDeviceLibraw1394 × Heap Phantom × Heap PhantomIsoChannel :=
  (s.openDevices, s.devices, s.phantoms, s.isoChannels)

/-- The rest of the state does not matter. -/
theorem Sound.of_resources (sound : Sound s) (same : resources s' = resources s) : Sound s' := by
  obtain ⟨bus, nextHandle, handleLog, ledger, openDevices, ports, devices, isoChannels, phantoms,
    iterators⟩ := s
  obtain ⟨bus', nextHandle', handleLog', ledger', openDevices', ports', devices', isoChannels',
    phantoms', iterators'⟩ := s'
  obtain ⟨⟩ := same
  refine ⟨sound.counted, sound.connected, sound.apart, ?_, sound.unshared⟩
  intro p ph live started
  obtain ⟨d, r, x, recv, xmit, running⟩ := sound.running p ph live started
  exact ⟨d, r, x, recv, xmit, running.phantom, running.recvLive, running.xmitLive,
    running.different⟩

/-! ## Frames of methods -/

/-- A method of the Phantom `p` leaves the devices, the other Phantoms and all
but some of the channel objects alone. -/
structure MethodFrame (p : Ptr) (changed : List Ptr) (s s' : Library β) : Prop where
  devices : s'.devices = s.devices
  openDevices : s'.openDevices = s.openDevices
  others : ∀ q ≠ p, s'.phantoms q = s.phantoms q
  channels : ∀ q c, q ∉ changed → s.isoChannels q = some c → s'.isoChannels q = some c

theorem MethodFrame.touches (frame : MethodFrame p changed s t)
    (touches : TouchesOnly changed t s') : MethodFrame p changed s s' where
  devices := touches.devices.trans frame.devices
  openDevices := touches.openDevices.trans frame.openDevices
  others q different := (congrFun (congrArg Heap.cells touches.phantoms) q).trans
    (frame.others q different)
  channels q c apart live := (touches.others q apart).trans (frame.channels q c apart live)

theorem Owns.live (sound : Sound s) (owns : Owns s p r) : ∃ c, s.isoChannels r = some c := by
  obtain ⟨ph, live, started, points⟩ := owns
  obtain ⟨d, r', x', recv, xmit, running⟩ := sound.running p ph live started
  obtain ⟨dev, live', -⟩ := running.phantom
  rw [live] at live'
  obtain rfl := Option.some.inj live'
  rcases points with same | same
  · obtain rfl := Option.some.inj same
    exact ⟨recv, running.recvLive⟩
  · obtain rfl := Option.some.inj same
    exact ⟨xmit, running.xmitLive⟩

theorem Running.owns (running : Running s p d r x recv xmit) : Owns s p r ∧ Owns s p x := by
  obtain ⟨dev, live, -⟩ := running.phantom
  exact ⟨⟨_, live, rfl, .inl rfl⟩, ⟨_, live, rfl, .inr rfl⟩⟩

theorem Owns.of_running (running : Running s p d r x recv xmit) {q : Ptr} (owns : Owns s p q) :
    q = r ∨ q = x := by
  obtain ⟨dev, live, -⟩ := running.phantom
  obtain ⟨ph, live', -, points⟩ := owns
  rw [live] at live'
  obtain rfl := Option.some.inj live'
  exact points.imp (fun same => (Option.some.inj same).symm) fun same =>
    (Option.some.inj same).symm

/-- A method keeps the invariant if it only changes channel objects of its own,
and leaves its Phantom stopped or running. -/
theorem Sound.method (sound : Sound s) (live : s.phantoms p = some ph)
    (frame : MethodFrame p changed s s') (own : ∀ q ∈ changed, ∀ p' ≠ p, ¬Owns s p' q)
    (live' : s'.phantoms p = some ph') (device : ph'.firewireDevice = ph.firewireDevice)
    (runs : ph'.started = true →
      ∃ d r x recv xmit, Running s' p d r x recv xmit ∧ r ∈ changed ∧ x ∈ changed) :
    Sound s' := by
  -- Every Phantom has the device it had.
  have before (q : Ptr) (ph₁ : Phantom) (live₁ : s'.phantoms q = some ph₁) :
      ∃ ph₀, s.phantoms q = some ph₀ ∧ ph₀.firewireDevice = ph₁.firewireDevice := by
    rcases eq_or_ne q p with rfl | different
    · rw [live'] at live₁
      obtain rfl := Option.some.inj live₁
      exact ⟨ph, live, device.symm⟩
    · rw [frame.others q different] at live₁
      exact ⟨ph₁, live₁, rfl⟩
  have ownsOther (q : Ptr) (different : q ≠ p) (r : Ptr) : Owns s' q r ↔ Owns s q r := by
    rw [Owns, Owns, frame.others q different]
  have ownsChanged (r : Ptr) (owns : Owns s' p r) : r ∈ changed := by
    obtain ⟨ph₁, live₁, started, -⟩ := id owns
    rw [live'] at live₁
    obtain rfl := Option.some.inj live₁
    obtain ⟨d, r', x', recv, xmit, running, inRecv, inXmit⟩ := runs started
    rcases owns.of_running running with rfl | rfl
    · exact inRecv
    · exact inXmit
  refine ⟨?_, ?_, ?_, ?_, ?_⟩
  · obtain ⟨entries, lists, length⟩ := sound.counted
    exact ⟨entries, frame.openDevices ▸ lists, frame.devices ▸ length⟩
  · intro q ph₁ live₁
    obtain ⟨ph₀, live₀, same⟩ := before q ph₁ live₁
    rw [frame.devices, ← same]
    exact sound.connected q ph₀ live₀
  · intro q q' ph₁ ph₁' live₁ live₁' same
    obtain ⟨ph₀, live₀, same₀⟩ := before q ph₁ live₁
    obtain ⟨ph₀', live₀', same₀'⟩ := before q' ph₁' live₁'
    exact sound.apart q q' ph₀ ph₀' live₀ live₀' (same₀.trans (same.trans same₀'.symm))
  · intro q ph₁ live₁ started
    rcases eq_or_ne q p with rfl | different
    · rw [live'] at live₁
      obtain rfl := Option.some.inj live₁
      obtain ⟨d, r, x, recv, xmit, running, -⟩ := runs started
      exact ⟨d, r, x, recv, xmit, running⟩
    · have live₀ := live₁
      rw [frame.others q different] at live₀
      obtain ⟨d, r, x, recv, xmit, running⟩ := sound.running q ph₁ live₀ started
      obtain ⟨dev, there, deviceLive, recvDevice, xmitDevice⟩ := running.phantom
      refine ⟨d, r, x, recv, xmit, ⟨dev, ?_, ?_, recvDevice, xmitDevice⟩, ?_, ?_,
        running.different⟩
      · rw [frame.others q different, there]
      · rw [frame.devices, deviceLive]
      · exact frame.channels r recv (fun inside => own r inside q different running.owns.1)
          running.recvLive
      · exact frame.channels x xmit (fun inside => own x inside q different running.owns.2)
          running.xmitLive
  · intro q q' r owns owns'
    rcases eq_or_ne q p with rfl | different
    · rcases eq_or_ne q' q with rfl | different'
      · rfl
      · exact absurd ((ownsOther q' different' r).mp owns')
          (own r (ownsChanged r owns) q' different')
    · rcases eq_or_ne q' p with rfl | different'
      · exact absurd ((ownsOther q different r).mp owns) (own r (ownsChanged r owns') q different)
      · exact sound.unshared q q' r ((ownsOther q different r).mp owns)
          ((ownsOther q' different' r).mp owns')

theorem MethodFrame.withChannels {dev : Ptr} {c₁ c₂ : Nat} {b₁ b₂ : β} :
    MethodFrame p changed s (s.withChannels p dev d c₁ c₂ b₁ b₂) where
  devices := rfl
  openDevices := rfl
  others q different := by
    show (((s.phantoms.modify p _).modify p _).modify p _) q = _
    rw [Heap.modify_of_ne _ different, Heap.modify_of_ne _ different,
      Heap.modify_of_ne _ different]
  channels _ _ _ live := Heap.alloc_of_live (Heap.alloc_of_live live)

theorem MethodFrame.rollback {dev : Ptr} {c : Nat} {b : β} {log : List HandleEvent}
    {ledger : List ChannelEvent} (inside : s.isoChannels.next ∈ changed) :
    MethodFrame p changed s
      { s.afterRollback p dev d c with bus := b, handleLog := log, ledger } where
  devices := rfl
  openDevices := rfl
  others _ different := Heap.modify_of_ne _ different
  channels q k apart live := by
    have notNew : q ≠ s.isoChannels.next := by
      rintro rfl
      exact apart inside
    show ((s.isoChannels.alloc _).free s.isoChannels.next) q = _
    rw [Heap.free_of_ne notNew, Heap.alloc_of_live live]

theorem MethodFrame.markStopped : MethodFrame p changed s (s.markStopped p) where
  devices := rfl
  openDevices := rfl
  others _ different := Heap.modify_of_ne _ different
  channels _ _ _ live := live

/-! ## Devices come and go -/

theorem Sound.withDevice (sound : Sound s) {port : Nat} {node : UInt16} {table : OpenDevices}
    (counted : Counted (s.afterNewDevice host port node table)) :
    Sound (s.afterNewDevice host port node table) where
  counted := counted
  connected q ph live := by
    obtain ⟨d, liveDevice⟩ := sound.connected q ph live
    exact ⟨d, Heap.alloc_of_live liveDevice⟩
  apart := sound.apart
  running q ph live started := by
    obtain ⟨d, r, x, recv, xmit, running⟩ := sound.running q ph live started
    obtain ⟨dev, there, deviceLive, recvDevice, xmitDevice⟩ := running.phantom
    exact ⟨d, r, x, recv, xmit, ⟨dev, there, Heap.alloc_of_live deviceLive, recvDevice,
      xmitDevice⟩, running.recvLive, running.xmitLive, running.different⟩
  unshared := sound.unshared

/-- A device that belongs to no Phantom may go. -/
theorem Sound.withoutDevice (sound : Sound s) {dev : Ptr} {table : OpenDevices}
    (free : ∀ q ph, s.phantoms q = some ph → ph.firewireDevice ≠ dev)
    (counted : Counted (s.afterDeleteDevice dev d table)) :
    Sound (s.afterDeleteDevice dev d table) where
  counted := counted
  connected q ph live := by
    obtain ⟨d', liveDevice⟩ := sound.connected q ph live
    exact ⟨d', Heap.free_eq_some.mpr ⟨free q ph live, liveDevice⟩⟩
  apart := sound.apart
  running q ph live started := by
    obtain ⟨d', r, x, recv, xmit, running⟩ := sound.running q ph live started
    obtain ⟨dev', there, deviceLive, recvDevice, xmitDevice⟩ := running.phantom
    exact ⟨d', r, x, recv, xmit, ⟨dev', there,
      Heap.free_eq_some.mpr ⟨free q _ there, deviceLive⟩, recvDevice, xmitDevice⟩,
      running.recvLive, running.xmitLive, running.different⟩
  unshared := sound.unshared

/-- A method of a device changes that device. -/
theorem Sound.modifyDevice (sound : Sound s) (dev : Ptr)
    (f : FirewireDeviceLibraw1394 → FirewireDeviceLibraw1394) :
    Sound { s with devices := s.devices.modify dev f } where
  counted := by
    obtain ⟨entries, lists, length⟩ := sound.counted
    refine ⟨entries, lists, ?_⟩
    rw [length, Heap.live_modify]
  connected q ph live := by
    obtain ⟨d, liveDevice⟩ := sound.connected q ph live
    exact ⟨_, (Heap.modify_eq_some _).mpr ⟨d, liveDevice, rfl⟩⟩
  apart := sound.apart
  running q ph live started := by
    obtain ⟨d, r, x, recv, xmit, running⟩ := sound.running q ph live started
    obtain ⟨dev', there, deviceLive, recvDevice, xmitDevice⟩ := running.phantom
    exact ⟨_, r, x, recv, xmit, ⟨dev', there, (Heap.modify_eq_some _).mpr ⟨d, deviceLive, rfl⟩,
      recvDevice, xmitDevice⟩, running.recvLive, running.xmitLive, running.different⟩
  unshared := sound.unshared

/-- A device that belongs to no Phantom may get one. -/
theorem Sound.newPhantom (sound : Sound s) {dev : Ptr} (live : s.devices dev = some d)
    (free : ∀ q ph, s.phantoms q = some ph → ph.firewireDevice ≠ dev) :
    Sound { s with phantoms := s.phantoms.alloc ⟨dev, false, none, none⟩ } := by
  refine ⟨sound.counted, ?_, ?_, ?_, ?_⟩
  · exact Heap.forall_alloc ⟨d, live⟩ sound.connected
  · exact Heap.distinct_alloc sound.apart free
  · intro q ph live' started
    rcases Heap.alloc_eq_some.mp live' with ⟨rfl, rfl⟩ | live'
    · exact absurd started Bool.false_ne_true
    · obtain ⟨d', r, x, recv, xmit, running⟩ := sound.running q ph live' started
      obtain ⟨dev', there, rest⟩ := running.phantom
      exact ⟨d', r, x, recv, xmit, ⟨dev', Heap.alloc_of_live there, rest⟩, running.recvLive,
        running.xmitLive, running.different⟩
  · intro q q' r owns owns'
    have before (q : Ptr) (owns : Owns { s with
        phantoms := s.phantoms.alloc ⟨dev, false, none, none⟩ } q r) : Owns s q r := by
      obtain ⟨ph, live', started, points⟩ := owns
      rcases Heap.alloc_eq_some.mp live' with ⟨-, rfl⟩ | live'
      · exact absurd started Bool.false_ne_true
      · exact ⟨ph, live', started, points⟩
    exact sound.unshared q q' r (before q owns) (before q' owns')

theorem Sound.freePhantom (sound : Sound s) (p : Ptr) :
    Sound { s with phantoms := s.phantoms.free p } := by
  refine ⟨sound.counted, ?_, ?_, ?_, ?_⟩
  · intro q ph live
    exact sound.connected q ph (Heap.free_eq_some.mp live).2
  · intro q q' ph ph' live₁ live₂ same
    exact sound.apart q q' ph ph' (Heap.free_eq_some.mp live₁).2 (Heap.free_eq_some.mp live₂).2
      same
  · intro q ph live started
    obtain ⟨different, live⟩ := Heap.free_eq_some.mp live
    obtain ⟨d, r, x, recv, xmit, running⟩ := sound.running q ph live started
    obtain ⟨dev, there, rest⟩ := running.phantom
    exact ⟨d, r, x, recv, xmit, ⟨dev, Heap.free_eq_some.mpr ⟨different, there⟩, rest⟩,
      running.recvLive, running.xmitLive, running.different⟩
  · intro q q' r owns owns'
    have before (q : Ptr) (owns : Owns { s with phantoms := s.phantoms.free p } q r) :
        Owns s q r := by
      obtain ⟨ph, live, rest⟩ := owns
      exact ⟨ph, (Heap.free_eq_some.mp live).2, rest⟩
    exact sound.unshared q q' r (before q owns) (before q' owns')

/-- The end of `delete` on a Phantom. -/
theorem Sound.deleteBaseDevice (sound : Sound s) (live : s.phantoms p = some ph) :
    ∃ d table, s.devices ph.firewireDevice = some d ∧
      Library.deleteBaseDevice p s = .returned ()
        { s.afterDeleteDevice ph.firewireDevice d table with phantoms := s.phantoms.free p } ∧
      Sound { s.afterDeleteDevice ph.firewireDevice d table with
        phantoms := s.phantoms.free p } := by
  obtain ⟨d, liveDevice⟩ := sound.connected p ph live
  obtain ⟨table, deleted, counted⟩ := sound.counted.deleteDevice liveDevice
  refine ⟨d, table, liveDevice, ?_, (sound.freePhantom p).withoutDevice ?_ counted⟩
  · simp only [Library.deleteBaseDevice, Call.bind_apply, phantom_of_live live,
      Outcome.andThen_returned, deleted, Call.modify_apply]
    rfl
  · intro q ph' live' same
    obtain ⟨different, live'⟩ := Heap.free_eq_some.mp live'
    exact different (sound.apart q p ph' ph live' live same)

/-! ## What the methods do -/

variable [Bus β]

/-- However the two `start`s end, the Phantom keeps running. -/
theorem startChannels_frame (running : Running s p d r x recv xmit) :
    ∃ s' recv' xmit', (startChannels p s).state? = some s' ∧ TouchesOnly [r, x] s s' ∧
      Running s' p d r x recv' xmit' := by
  by_cases answered : ∃ b₁ b₂,
      PhantomIsoChannel.StartAnswered recv.comConfig recv.receiving recv.channel s.bus b₁ ∧
        PhantomIsoChannel.StartAnswered xmit.comConfig xmit.receiving xmit.channel b₁ b₂
  · obtain ⟨b₁, b₂, first, second⟩ := answered
    rw [startChannels_of_answered running first second]
    refine ⟨_, _, _, rfl, ?_, (running.startRecv b₁).startXmit b₂⟩
    exact (TouchesOnly.afterStart.mono (by simp)).trans (TouchesOnly.afterStart.mono (by simp))
  · obtain ⟨e, s', recv', xmit', thrown, touches, -, running'⟩ :=
      startChannels_of_unanswered running fun b₁ b₂ first second =>
        answered ⟨b₁, b₂, first, second⟩
    rw [thrown]
    exact ⟨s', recv', xmit', rfl, touches, running'⟩

/-- `startPhantom` leaves the Phantom stopped, or running with two new channel
objects. -/
theorem startPhantom_frame (host : Host) (live : s.phantoms p = some ph)
    (idle : ph.started = false) (liveDevice : s.devices ph.firewireDevice = some d) :
    ∃ s' ph', (startPhantom host p s).state? = some s' ∧
      MethodFrame p [s.isoChannels.next, s.isoChannels.next + 1] s s' ∧
      s'.phantoms p = some ph' ∧ ph'.firewireDevice = ph.firewireDevice ∧
      (ph'.started = true → ∃ recv xmit,
        Running s' p d s.isoChannels.next (s.isoChannels.next + 1) recv xmit) := by
  have modified (f : Phantom → Phantom) : (s.phantoms.modify p f) p = some (f ph) := by
    rw [Heap.modify_self, live]
    rfl
  rcases claims_or_fails host d s.bus with ⟨c₁, b₁, claims₁⟩ | ⟨b₁, fails⟩
  · rcases claims_or_fails host d b₁ with ⟨c₂, b₂, claims₂⟩ | ⟨b₂, fails⟩
    · obtain ⟨s', recv', xmit', started, touches, running⟩ :=
        startChannels_frame (running_withChannels live liveDevice c₁ c₂ b₁ b₂)
      have kept : s'.phantoms p = _ :=
        (congrFun (congrArg Heap.cells touches.phantoms) p).trans
          (withChannels_live live c₁ c₂ b₁ b₂)
      rw [startPhantom_of_claims live idle liveDevice claims₁ claims₂]
      exact ⟨s', _, started, MethodFrame.withChannels.touches touches, kept, rfl,
        fun _ => ⟨recv', xmit', running⟩⟩
    · by_cases answered : ∃ b₃ b₄,
          PhantomIsoChannel.StopAnswered (configOf d (s.nextHandle + 1)) b₂ b₃ ∧
            Releases d c₁ b₃ b₄
      · obtain ⟨b₃, b₄, stops, releases⟩ := answered
        obtain ⟨e, log, thrown⟩ :=
          startPhantom_of_rollback live idle liveDevice claims₁ fails stops releases
        rw [thrown]
        exact ⟨_, _, rfl, .rollback List.mem_cons_self, modified _, rfl,
          fun started => absurd started Bool.false_ne_true⟩
      · obtain ⟨e, b', log, thrown⟩ := startPhantom_of_stuck live idle liveDevice claims₁ fails
          fun b₃ b₄ stops releases => answered ⟨b₃, b₄, stops, releases⟩
        rw [thrown]
        exact ⟨_, _, rfl, .rollback List.mem_cons_self, modified _, rfl,
          fun started => absurd started Bool.false_ne_true⟩
  · obtain ⟨e, log, thrown⟩ := startPhantom_of_fails live idle liveDevice fails
    rw [thrown]
    exact ⟨_, _, rfl, ⟨rfl, rfl, fun q different => Heap.modify_of_ne _ different,
      fun _ _ _ there => there⟩, modified _, rfl,
      fun started => absurd started Bool.false_ne_true⟩

/-- `stopPhantom` leaves a running Phantom stopped. -/
theorem stopPhantom_frame (running : Running s p d r x recv xmit) :
    ∃ s', (stopPhantom p s).state? = some s' ∧ MethodFrame p [r, x] s s' ∧
      s'.phantoms p = some ⟨recv.firewireDevice, false, some x, some r⟩ := by
  by_cases answered : ∃ b', StopPhantomAnswered d recv xmit s.bus b'
  · obtain ⟨b', answered⟩ := answered
    obtain ⟨log, returned⟩ := stopPhantom_of_answered running answered
    rw [returned]
    refine ⟨_, rfl, ⟨rfl, rfl, fun q different => Heap.modify_of_ne _ different, ?_⟩,
      running.markStopped_phantoms⟩
    intro q c apart live
    rw [List.mem_cons, List.mem_singleton, not_or] at apart
    show ((s.isoChannels.free r).free x) q = _
    rw [Heap.free_of_ne apart.2, Heap.free_of_ne apart.1, live]
  · obtain ⟨e, s', thrown, touches, -⟩ :=
      stopPhantom_of_unanswered running (not_exists.mp answered)
    rw [thrown]
    refine ⟨s', rfl, MethodFrame.markStopped.touches touches, ?_⟩
    rw [touches.phantoms, running.markStopped_phantoms]

/-! ## Steps and runs -/

theorem stopPhantom_of_idle (live : s.phantoms p = some ph) (idle : ph.started = false) :
    stopPhantom p s = .returned () s := by
  simp [stopPhantom, phantom_of_live live, idle]

theorem startPhantom_of_started (live : s.phantoms p = some ph) (started : ph.started = true) :
    startPhantom host p s = .thrown (.text "This phantom device is already started") s := by
  simp [startPhantom, phantom_of_live live, started]

omit [Bus β] in
theorem Sound.connect (sound : Sound s) (host : Host) (port : Nat) (node : UInt16) :
    ∃ table, connectPhantom host port node s = .returned s.phantoms.next
        { s.afterNewDevice host port node table with
          phantoms := s.phantoms.alloc ⟨s.devices.next, false, none, none⟩ } ∧
      Sound { s.afterNewDevice host port node table with
        phantoms := s.phantoms.alloc ⟨s.devices.next, false, none, none⟩ } := by
  obtain ⟨table, constructed, counted⟩ := sound.counted.newDevice host port node
  have sound' : Sound (s.afterNewDevice host port node table) := sound.withDevice counted
  refine ⟨table, ?_, sound'.newPhantom (Heap.alloc_next ..) ?_⟩
  · simp only [connectPhantom, Library.newPhantom, Call.bind_apply, constructed,
      Outcome.andThen_returned, Call.get_apply, Call.modify_apply, Call.pure_apply]
    rfl
  · -- The new device is not the device of another Phantom.
    intro p ph live
    obtain ⟨d, liveDevice⟩ := sound.connected p ph live
    exact Nat.ne_of_lt (Heap.lt_next liveDevice)

theorem Sound.start (sound : Sound s) (host : Host) (live : s.phantoms p = some ph) :
    ∃ s', (startPhantom host p s).state? = some s' ∧ Sound s' := by
  cases started : ph.started with
  | true =>
      rw [startPhantom_of_started live started]
      exact ⟨s, rfl, sound⟩
  | false =>
      obtain ⟨d, liveDevice⟩ := sound.connected p ph live
      obtain ⟨s', ph', state, frame, live', device, runs⟩ :=
        startPhantom_frame host live started liveDevice
      refine ⟨s', state, sound.method live frame ?_ live' device ?_⟩
      · -- The new channel objects did not exist before.
        intro q new p' _ owns
        obtain ⟨c, there⟩ := owns.live sound
        have old := Heap.lt_next there
        rw [List.mem_cons, List.mem_singleton] at new
        rcases new with rfl | rfl
        · exact Nat.lt_irrefl _ old
        · exact Nat.not_succ_lt_self old
      · intro started'
        obtain ⟨recv, xmit, running⟩ := runs started'
        exact ⟨d, _, _, recv, xmit, running, by simp, by simp⟩

theorem Sound.stop (sound : Sound s) (live : s.phantoms p = some ph) :
    ∃ s' ph', (stopPhantom p s).state? = some s' ∧ Sound s' ∧ s'.phantoms p = some ph' ∧
      ph'.started = false ∧ ph'.firewireDevice = ph.firewireDevice := by
  cases started : ph.started with
  | false =>
      rw [stopPhantom_of_idle live started]
      exact ⟨s, ph, rfl, sound, live, started, rfl⟩
  | true =>
      obtain ⟨d, r, x, recv, xmit, running⟩ := sound.running p ph live started
      obtain ⟨s', state, frame, live'⟩ := stopPhantom_frame running
      have device : recv.firewireDevice = ph.firewireDevice := by
        obtain ⟨dev, there, -, rfl, -⟩ := running.phantom
        rw [live] at there
        rw [Option.some.inj there]
      refine ⟨s', _, state, sound.method live frame ?_ live' device fun started' =>
        absurd started' Bool.false_ne_true, live', rfl, device⟩
      intro q mine p' different owns
      rw [List.mem_cons, List.mem_singleton] at mine
      rcases mine with rfl | rfl
      · exact different (sound.unshared p' p q owns running.owns.1)
      · exact different (sound.unshared p' p q owns running.owns.2)

/-- `delete` on a Phantom stops it and deletes its device, however the stop
ends. -/
theorem deletePhantom_state (stopped : (stopPhantom p s).state? = some t)
    (deleted : Library.deleteBaseDevice p t = .returned () s') :
    (deletePhantom p s).state? = some s' := by
  simp only [deletePhantom, Call.bind_apply, Call.tryCatch_apply]
  cases outcome : stopPhantom p s with
  | returned _ t' =>
      rw [outcome] at stopped
      obtain rfl := Option.some.inj stopped
      rw [Outcome.rescue_returned, Outcome.andThen_returned, deleted]
      rfl
  | thrown e t' =>
      rw [outcome] at stopped
      obtain rfl := Option.some.inj stopped
      rw [Outcome.rescue_thrown, Call.bind_apply, deleted]
      rfl
  | undefined =>
      rw [outcome] at stopped
      cases stopped

theorem Sound.destroy (sound : Sound s) (live : s.phantoms p = some ph) :
    ∃ s', (deletePhantom p s).state? = some s' ∧ Sound s' := by
  obtain ⟨t, ph', stopped, sound', live', -⟩ := sound.stop live
  obtain ⟨d, table, -, deleted, sound''⟩ := sound'.deleteBaseDevice live'
  exact ⟨_, deletePhantom_state stopped deleted, sound''⟩

/-- Every possible action is defined, and keeps the invariant. -/
theorem Sound.step (sound : Sound s) (host : Host) {a : PhantomAction} (possible : Possible s a) :
    ∃ s', (phantomRuns host).step s a = some s' ∧ Sound s' := by
  cases a with
  | connect port node =>
      obtain ⟨table, connected, sound'⟩ := sound.connect host port node
      exact ⟨_, congrArg Outcome.state? connected, sound'⟩
  | start p =>
      obtain ⟨ph, live⟩ := possible
      obtain ⟨s', state, sound'⟩ := sound.start host live
      exact ⟨s', (if_pos (Option.isSome_of_eq_some live)).trans state, sound'⟩
  | stop p =>
      obtain ⟨ph, live⟩ := possible
      obtain ⟨s', _, state, sound', -⟩ := sound.stop live
      exact ⟨s', (if_pos (Option.isSome_of_eq_some live)).trans state, sound'⟩
  | destroy p =>
      obtain ⟨ph, live⟩ := possible
      obtain ⟨s', state, sound'⟩ := sound.destroy live
      exact ⟨s', (if_pos (Option.isSome_of_eq_some live)).trans state, sound'⟩

/-- Only possible actions happen. -/
theorem possible_of_step {a : PhantomAction} (stepped : (phantomRuns host).step s a = some s') :
    Possible s a := by
  have alive {p : Ptr} {next : Option (Library β)}
      (stepped : (if (s.phantoms p).isSome then next else none) = some s') :
      ∃ ph, s.phantoms p = some ph := by
    split at stepped
    · next live => exact Option.isSome_iff_exists.mp live
    · cases stepped
  cases a with
  | connect port node => trivial
  | start p => exact alive stepped
  | stop p => exact alive stepped
  | destroy p => exact alive stepped

/-- **Runs of Phantoms.**  Whatever fails on the bus, in every reachable state
started Phantoms are running on devices and channel objects of their own. -/
theorem sound_run (host : Host) (bus : β) (actions : List PhantomAction)
    (reached : (phantomRuns host).run (Library.initial bus) actions = some s') : Sound s' := by
  refine System.run_induction (sound_initial bus) ?_ reached
  intro s a s₁ sound stepped
  obtain ⟨s₂, stepped₂, sound'⟩ := sound.step host (possible_of_step stepped)
  rw [stepped] at stepped₂
  exact Option.some.inj stepped₂ ▸ sound'

end Library

end LibPhantom
