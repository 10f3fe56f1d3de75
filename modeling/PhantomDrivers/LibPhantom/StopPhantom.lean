import PhantomDrivers.LibPhantom.StartPhantom

/-!
# Stopping a Phantom

`stopPhantom` clears `started` before it does anything else.  If one of its
register accesses then throws, the Phantom counts as stopped while its channels
are still claimed, and no later call can give them back.

* `StopPhantomAnswered` — all accesses are answered as expected.
* `stopPhantom_of_answered`, `stopPhantom_of_unanswered` — the two ways in which
  the call ends.
* `StopsOrRuns` — what a caller hopes for in both cases.
-/

namespace LibPhantom

open Semantics Raw1394

namespace Library

variable {β : Type} [Bus β]

/-- All that `stopPhantom` asks of the bus is answered as expected: `stop` runs
twice on each channel, and both channels can be given back. -/
def StopPhantomAnswered (d : FirewireDeviceLibraw1394) (recv xmit : PhantomIsoChannel)
    (b b' : β) : Prop :=
  ∃ b₁ b₂ b₃ b₄ b₅, PhantomIsoChannel.StopAnswered recv.comConfig b b₁ ∧
    PhantomIsoChannel.StopAnswered xmit.comConfig b₁ b₂ ∧
    PhantomIsoChannel.StopAnswered recv.comConfig b₂ b₃ ∧ Releases d recv.channel b₃ b₄ ∧
    PhantomIsoChannel.StopAnswered xmit.comConfig b₄ b₅ ∧ Releases d xmit.channel b₅ b'

section Halves

variable {s : Library β} {p r x : Ptr} {d : FirewireDeviceLibraw1394}
  {recv xmit : PhantomIsoChannel} {ph : Phantom}

/-- The two `stop`s. -/
theorem stopChannels_of_answered (live : s.phantoms p = some ph)
    (pointsRecv : ph.recvChannel = some r) (pointsXmit : ph.xmitChannel = some x)
    (recvLive : s.isoChannels r = some recv) (xmitLive : s.isoChannels x = some xmit)
    (different : r ≠ x) {b₁ b₂ : β}
    (first : PhantomIsoChannel.StopAnswered recv.comConfig s.bus b₁)
    (second : PhantomIsoChannel.StopAnswered xmit.comConfig b₁ b₂) :
    stopChannels p s =
      .returned () ((s.afterStop r recv b₁).afterStop x xmit b₂) := by
  have live' : (s.afterStop r recv b₁).phantoms p = some ph := live
  have xmitLive' : (s.afterStop r recv b₁).isoChannels x = some xmit := by
    rw [afterStop_of_ne different.symm, xmitLive]
  simp only [stopChannels, Call.bind_apply, channelPtr_of_some live pointsRecv,
    Outcome.andThen_returned, stopChannel_of_answered recvLive first,
    channelPtr_of_some live' pointsXmit]
  exact stopChannel_of_answered xmitLive' second

/-- If one of the two `stop`s is not answered, nothing is given back. -/
theorem stopChannels_of_unanswered (live : s.phantoms p = some ph)
    (pointsRecv : ph.recvChannel = some r) (pointsXmit : ph.xmitChannel = some x)
    (recvLive : s.isoChannels r = some recv) (xmitLive : s.isoChannels x = some xmit)
    (different : r ≠ x)
    (unanswered : ∀ b₁ b₂, PhantomIsoChannel.StopAnswered recv.comConfig s.bus b₁ →
      ¬PhantomIsoChannel.StopAnswered xmit.comConfig b₁ b₂) :
    ∃ e s', stopChannels p s = .thrown e s' ∧ TouchesOnly [r, x] s s' ∧
      s'.ledger = s.ledger := by
  simp only [stopChannels, Call.bind_apply, channelPtr_of_some live pointsRecv,
    Outcome.andThen_returned]
  by_cases first : ∃ b₁, PhantomIsoChannel.StopAnswered recv.comConfig s.bus b₁
  · obtain ⟨b₁, first⟩ := first
    have live' : (s.afterStop r recv b₁).phantoms p = some ph := live
    have xmitLive' : (s.afterStop r recv b₁).isoChannels x = some xmit := by
      rw [afterStop_of_ne different.symm, xmitLive]
    obtain ⟨e, b₂, thrown⟩ := stopChannel_of_unanswered xmitLive' fun b₂ =>
      unanswered b₁ b₂ first
    rw [stopChannel_of_answered recvLive first, Outcome.andThen_returned, Call.bind_apply,
      channelPtr_of_some live' pointsXmit, Outcome.andThen_returned, thrown]
    refine ⟨e, _, rfl, ?_, rfl⟩
    exact (TouchesOnly.afterStop.mono (by simp)).trans TouchesOnly.afterStopRegisters
  · obtain ⟨e, b₁, thrown⟩ := stopChannel_of_unanswered recvLive (not_exists.mp first)
    rw [thrown, Outcome.andThen_thrown]
    exact ⟨e, _, rfl, TouchesOnly.afterStopRegisters, rfl⟩

/-- The two `delete`s. -/
theorem deleteChannels_of_answered (live : s.phantoms p = some ph)
    (pointsRecv : ph.recvChannel = some r) (pointsXmit : ph.xmitChannel = some x)
    (recvLive : s.isoChannels r = some recv) (xmitLive : s.isoChannels x = some xmit)
    (recvDevice : s.devices recv.firewireDevice = some d)
    (xmitDevice : s.devices xmit.firewireDevice = some d) (different : r ≠ x) {b₁ b₂ b₃ b₄ : β}
    (first : PhantomIsoChannel.StopAnswered recv.comConfig s.bus b₁)
    (released : Releases d recv.channel b₁ b₂)
    (second : PhantomIsoChannel.StopAnswered xmit.comConfig b₂ b₃)
    (released' : Releases d xmit.channel b₃ b₄) :
    deleteChannels p s = .returned ()
      ((s.afterDelete r recv d b₁ b₂).afterDelete x xmit d b₃ b₄) := by
  have live' : (s.afterDelete r recv d b₁ b₂).phantoms p = some ph := live
  have xmitLive' : (s.afterDelete r recv d b₁ b₂).isoChannels x = some xmit := by
    show (s.isoChannels.free r) x = _
    rw [Heap.free_of_ne different.symm, xmitLive]
  simp only [deleteChannels, Call.bind_apply, channelPtr_of_some live pointsRecv,
    Outcome.andThen_returned, deleteChannel_of_answered recvLive recvDevice first released,
    channelPtr_of_some live' pointsXmit]
  exact deleteChannel_of_answered xmitLive' xmitDevice second released'

/-- If one of the two `delete`s is not answered, the transmit channel is not
given back. -/
theorem deleteChannels_of_unanswered (live : s.phantoms p = some ph)
    (pointsRecv : ph.recvChannel = some r) (pointsXmit : ph.xmitChannel = some x)
    (recvLive : s.isoChannels r = some recv) (xmitLive : s.isoChannels x = some xmit)
    (recvDevice : s.devices recv.firewireDevice = some d)
    (xmitDevice : s.devices xmit.firewireDevice = some d) (different : r ≠ x)
    (unanswered : ∀ b₁ b₂ b₃ b₄, PhantomIsoChannel.StopAnswered recv.comConfig s.bus b₁ →
      Releases d recv.channel b₁ b₂ → PhantomIsoChannel.StopAnswered xmit.comConfig b₂ b₃ →
        ¬Releases d xmit.channel b₃ b₄) :
    ∃ e s', deleteChannels p s = .thrown e s' ∧ TouchesOnly [r, x] s s' ∧
      (s'.ledger = s.ledger ∨
        s'.ledger = s.ledger ++ [⟨.free, d.handle.port, recv.channel⟩]) := by
  simp only [deleteChannels, Call.bind_apply, channelPtr_of_some live pointsRecv,
    Outcome.andThen_returned]
  by_cases first : ∃ b₁ b₂, PhantomIsoChannel.StopAnswered recv.comConfig s.bus b₁ ∧
      Releases d recv.channel b₁ b₂
  · obtain ⟨b₁, b₂, first, released⟩ := first
    have live' : (s.afterDelete r recv d b₁ b₂).phantoms p = some ph := live
    have xmitLive' : (s.afterDelete r recv d b₁ b₂).isoChannels x = some xmit := by
      show (s.isoChannels.free r) x = _
      rw [Heap.free_of_ne different.symm, xmitLive]
    obtain ⟨e, b', log, thrown⟩ := deleteChannel_of_unanswered
      (s := s.afterDelete r recv d b₁ b₂) xmitLive' xmitDevice fun b₃ b₄ =>
        unanswered b₁ b₂ b₃ b₄ first released
    rw [deleteChannel_of_answered recvLive recvDevice first released, Outcome.andThen_returned,
      Call.bind_apply, channelPtr_of_some live' pointsXmit, Outcome.andThen_returned, thrown]
    refine ⟨e, _, rfl, ?_, .inr rfl⟩
    exact (TouchesOnly.afterDelete.mono (by simp)).trans (TouchesOnly.freed.mono (by simp))
  · have failed : ∀ b₁ b₂, PhantomIsoChannel.StopAnswered recv.comConfig s.bus b₁ →
        ¬Releases d recv.channel b₁ b₂ := fun b₁ b₂ answered released =>
      first ⟨b₁, b₂, answered, released⟩
    obtain ⟨e, b', log, thrown⟩ := deleteChannel_of_unanswered recvLive recvDevice failed
    rw [thrown, Outcome.andThen_thrown]
    exact ⟨e, _, rfl, TouchesOnly.freed.mono (by simp), .inl rfl⟩

end Halves

section Stop

variable {s : Library β} {p r x : Ptr} {d : FirewireDeviceLibraw1394}
  {recv xmit : PhantomIsoChannel}

omit [Bus β] in
theorem Running.markStopped_phantoms (running : Running s p d r x recv xmit) :
    (s.markStopped p).phantoms p = some ⟨recv.firewireDevice, false, some x, some r⟩ := by
  obtain ⟨dev, live, -, rfl, -⟩ := running.phantom
  show (s.phantoms.modify p _) p = _
  rw [Heap.modify_self, live]
  rfl

omit [Bus β] in
/-- What is left of the channel objects after the two `stop`s. -/
theorem Running.afterStops (running : Running s p d r x recv xmit) (b₁ b₂ : β) :
    (((s.markStopped p).afterStop r recv b₁).afterStop x xmit b₂).isoChannels r =
        some (stopped recv) ∧
      (((s.markStopped p).afterStop r recv b₁).afterStop x xmit b₂).isoChannels x =
        some (stopped xmit) := by
  constructor
  · rw [afterStop_of_ne running.different]
    exact afterStop_self running.recvLive
  · refine afterStop_self ?_
    rw [afterStop_of_ne running.different.symm]
    exact running.xmitLive

/-- A started Phantom is marked as stopped first. -/
theorem stopPhantom_eq (running : Running s p d r x recv xmit) :
    stopPhantom p s = (stopChannels p >>= fun _ => deleteChannels p) (s.markStopped p) := by
  obtain ⟨dev, live, -⟩ := running.phantom
  simp only [stopPhantom, Call.bind_apply, phantom_of_live live, Outcome.andThen_returned,
    Bool.not_true, Bool.false_eq_true, if_false, modifyPhantom_apply]
  rfl

theorem stopPhantom_of_answered (running : Running s p d r x recv xmit) {b' : β}
    (answered : StopPhantomAnswered d recv xmit s.bus b') :
    ∃ log, stopPhantom p s = .returned ()
      { s.markStopped p with
        bus := b'
        handleLog := log
        ledger := s.ledger ++
          [⟨.free, d.handle.port, recv.channel⟩, ⟨.free, d.handle.port, xmit.channel⟩]
        isoChannels := (s.isoChannels.free r).free x } := by
  obtain ⟨b₁, b₂, b₃, b₄, b₅, stop₁, stop₂, stop₃, release₁, stop₄, release₂⟩ := answered
  obtain ⟨dev, -, liveDevice, recvDevice, xmitDevice⟩ := running.phantom
  have stops := stopChannels_of_answered running.markStopped_phantoms rfl rfl running.recvLive
    running.xmitLive running.different stop₁ stop₂
  -- The objects that are deleted are the stopped ones.
  let t := ((s.markStopped p).afterStop r recv b₁).afterStop x xmit b₂
  obtain ⟨recvStopped, xmitStopped⟩ := running.afterStops b₁ b₂
  have deletes := deleteChannels_of_answered (s := t) running.markStopped_phantoms rfl rfl
    recvStopped xmitStopped (d := d) (recvDevice ▸ liveDevice) (xmitDevice ▸ liveDevice)
    running.different stop₃ release₁ stop₄ release₂
  have channels : (t.isoChannels.free r).free x = (s.isoChannels.free r).free x := by
    show ((((s.isoChannels.modify r _).modify x _).free r).free x) = _
    rw [Heap.free_modify_of_ne _ running.different.symm, Heap.free_modify, Heap.free_modify]
  refine ⟨(t.afterDelete r (stopped recv) d b₃ b₄).afterDelete x (stopped xmit) d b₅ b' |>.handleLog,
    ?_⟩
  rw [stopPhantom_eq running, Call.bind_apply, stops, Outcome.andThen_returned, deletes, ← channels,
    List.append_cons s.ledger]
  rfl

theorem stopPhantom_of_unanswered (running : Running s p d r x recv xmit)
    (unanswered : ∀ b', ¬StopPhantomAnswered d recv xmit s.bus b') :
    ∃ e s', stopPhantom p s = .thrown e s' ∧ TouchesOnly [r, x] (s.markStopped p) s' ∧
      (s'.ledger = s.ledger ∨
        s'.ledger = s.ledger ++ [⟨.free, d.handle.port, recv.channel⟩]) := by
  obtain ⟨dev, -, liveDevice, recvDevice, xmitDevice⟩ := running.phantom
  rw [stopPhantom_eq running, Call.bind_apply]
  by_cases stops : ∃ b₁ b₂, PhantomIsoChannel.StopAnswered recv.comConfig s.bus b₁ ∧
      PhantomIsoChannel.StopAnswered xmit.comConfig b₁ b₂
  · obtain ⟨b₁, b₂, stop₁, stop₂⟩ := stops
    have stops := stopChannels_of_answered running.markStopped_phantoms rfl rfl running.recvLive
      running.xmitLive running.different stop₁ stop₂
    let t := ((s.markStopped p).afterStop r recv b₁).afterStop x xmit b₂
    obtain ⟨recvStopped, xmitStopped⟩ := running.afterStops b₁ b₂
    have failed : ∀ b₃ b₄ b₅ b₆, PhantomIsoChannel.StopAnswered recv.comConfig b₂ b₃ →
        Releases d recv.channel b₃ b₄ → PhantomIsoChannel.StopAnswered xmit.comConfig b₄ b₅ →
          ¬Releases d xmit.channel b₅ b₆ := by
      intro b₃ b₄ b₅ b₆ stop₃ release₁ stop₄ release₂
      exact unanswered b₆ ⟨b₁, b₂, b₃, b₄, b₅, stop₁, stop₂, stop₃, release₁, stop₄, release₂⟩
    obtain ⟨e, s', thrown, touches, ledger⟩ := deleteChannels_of_unanswered (s := t)
      running.markStopped_phantoms rfl rfl recvStopped xmitStopped (d := d)
      (recvDevice ▸ liveDevice) (xmitDevice ▸ liveDevice) running.different failed
    rw [stops, Outcome.andThen_returned, thrown]
    refine ⟨e, s', rfl, TouchesOnly.trans ?_ touches, ledger⟩
    exact (TouchesOnly.afterStop.mono (by simp)).trans (TouchesOnly.afterStop.mono (by simp))
  · obtain ⟨e, s', thrown, touches, ledger⟩ := stopChannels_of_unanswered
      running.markStopped_phantoms rfl rfl running.recvLive running.xmitLive running.different
      fun b₁ b₂ stop₁ stop₂ => stops ⟨b₁, b₂, stop₁, stop₂⟩
    rw [thrown, Outcome.andThen_thrown]
    exact ⟨e, s', rfl, touches, .inl ledger⟩

/-! ## What a caller hopes for -/

/-- The Phantom is stopped, both channels have been given back, and their
objects are deleted. -/
def Stops (s : Library β) (p : Ptr) (d : FirewireDeviceLibraw1394) (r x : Ptr)
    (recv xmit : PhantomIsoChannel) (s' : Library β) : Prop :=
  ∃ ph released, s'.phantoms p = some ph ∧ ph.started = false ∧ s'.isoChannels r = none ∧
    s'.isoChannels x = none ∧ s'.ledger = s.ledger ++ released ∧
    released.Perm [⟨.free, d.handle.port, recv.channel⟩, ⟨.free, d.handle.port, xmit.channel⟩]

/-- The Phantom is still started and has given nothing back. -/
def KeepsRunning (s : Library β) (p : Ptr) (d : FirewireDeviceLibraw1394) (r x : Ptr)
    (s' : Library β) : Prop :=
  ∃ recv xmit, Running s' p d r x recv xmit ∧ s'.ledger = s.ledger

/-- The Phantom is stopped and has given its channels back, or it can be
stopped again. -/
def StopsOrRuns (s : Library β) (p : Ptr) (d : FirewireDeviceLibraw1394) (r x : Ptr)
    (recv xmit : PhantomIsoChannel) (s' : Library β) : Prop :=
  Stops s p d r x recv xmit s' ∨ KeepsRunning s p d r x s'

/-- Without an expected answer, the Phantom counts as stopped though at most
one of its channels has been given back. -/
theorem stopPhantom_abandons (running : Running s p d r x recv xmit)
    (unanswered : ∀ b', ¬StopPhantomAnswered d recv xmit s.bus b') :
    ∃ e s', stopPhantom p s = .thrown e s' ∧ ¬StopsOrRuns s p d r x recv xmit s' := by
  obtain ⟨e, s', thrown, touches, ledger⟩ := stopPhantom_of_unanswered running unanswered
  refine ⟨e, s', thrown, ?_⟩
  rintro (⟨_, released, -, -, -, -, appended, perm⟩ | ⟨_, _, running', -⟩)
  · have two : released.length = 2 := perm.length_eq
    have length := congrArg List.length appended
    rw [List.length_append, two] at length
    rcases ledger with same | one
    · rw [same] at length
      omega
    · rw [one, List.length_append, List.length_singleton] at length
      omega
  · obtain ⟨_, live, -⟩ := running'.phantom
    rw [touches.phantoms, running.markStopped_phantoms] at live
    cases live

/-- **Stopping a Phantom.**  `stopPhantom` leaves the Phantom stopped with both
channels given back, or still started with both channels held, if and only if
all its accesses are answered as expected. -/
theorem stopPhantom_stopsOrRuns_iff (running : Running s p d r x recv xmit) :
    (stopPhantom p s).Ends (fun _ => StopsOrRuns s p d r x recv xmit)
        (fun _ => StopsOrRuns s p d r x recv xmit) ↔
      ∃ b', StopPhantomAnswered d recv xmit s.bus b' := by
  constructor
  · intro ends
    by_contra unanswered
    obtain ⟨e, s', thrown, abandons⟩ := stopPhantom_abandons running (not_exists.mp unanswered)
    exact abandons (ends.of_thrown thrown)
  · rintro ⟨b', answered⟩
    obtain ⟨log, returned⟩ := stopPhantom_of_answered running answered
    rw [returned]
    refine .inl ⟨_, _, running.markStopped_phantoms, rfl, ?_, ?_, rfl, .refl _⟩
    · show ((s.isoChannels.free r).free x) r = none
      rw [Heap.free_of_ne running.different, Heap.free_self]
    · exact Heap.free_self ..

end Stop

/-! ## A started Phantom -/

/-- It receives on channel 0. -/
def omniRecv : PhantomIsoChannel :=
  ⟨0, true, ⟨0xffc0, ⟨2, 0⟩, some 0, some ⟨true, 0⟩⟩, ⟨0xffc0, ⟨3, 0⟩, none, none⟩, 0⟩

/-- It transmits on channel 1. -/
def omniXmit : PhantomIsoChannel :=
  ⟨0, false, ⟨0xffc0, ⟨4, 0⟩, some 1, some ⟨false, 1⟩⟩, ⟨0xffc0, ⟨5, 0⟩, none, none⟩, 1⟩

/-- A Phantom started on the device. -/
def startedOmni (bus : ManagedBus) : Library ManagedBus :=
  { Library.initial bus with
    devices := Heap.empty.alloc omni
    phantoms := Heap.empty.alloc ⟨0, true, some 1, some 0⟩
    isoChannels := (Heap.empty.alloc omniRecv).alloc omniXmit }

theorem running_startedOmni (bus : ManagedBus) :
    Running (startedOmni bus) 0 omni 0 1 omniRecv omniXmit :=
  ⟨⟨0, rfl, rfl, rfl, rfl⟩, rfl, rfl, by decide⟩

/-- The library holds the first two channels of port 0; the device answers as it should,
and nothing fails. -/
def twoChannels : ManagedBus := { failingAfter 2 0 with turns := [] }

/-- All accesses are answered, so the Phantom is stopped and both channels are given
back. -/
theorem stopPhantom_stopsOrRuns_twoChannels :
    ∃ s', stopPhantom 0 (startedOmni twoChannels) = .returned () s' ∧
      StopsOrRuns (startedOmni twoChannels) 0 omni 0 1 omniRecv omniXmit s' := by
  have running := running_startedOmni twoChannels
  let one : ManagedBus :=
    { twoChannels with allocation := twoChannels.allocation.assign 0 0 none }
  let both : ManagedBus := { one with allocation := one.allocation.assign 0 1 none }
  have stops (b : ManagedBus) (quiet : b.Quiet) (memory : b.memory = twoChannels.memory)
      (com : CommunicationLibraw1394) : PhantomIsoChannel.StopAnswered com b b := by
    refine stopAnswered_of_quiet quiet com ?_ ?_ ?_
    · rw [memory]
      rfl
    · rw [memory]
      rfl
    · rw [memory]
      exact UInt8.zero_and
  have answered : StopPhantomAnswered omni omniRecv omniXmit twoChannels both :=
    ⟨twoChannels, twoChannels, twoChannels, one, one, stops twoChannels rfl rfl _,
      stops twoChannels rfl rfl _, stops twoChannels rfl rfl _, rfl, stops one rfl rfl _, rfl⟩
  obtain ⟨log, returned⟩ := stopPhantom_of_answered running answered
  have ends := (stopPhantom_stopsOrRuns_iff running).mpr ⟨both, answered⟩
  exact ⟨_, returned, ends.of_returned returned⟩

/-- If its first read fails, `stopPhantom` leaves the Phantom stopped with both
channels still claimed. -/
theorem stopPhantom_abandons_failing :
    ¬∀ (s : Library ManagedBus) (p r x : Ptr) (d : FirewireDeviceLibraw1394)
      (recv xmit : PhantomIsoChannel), Running s p d r x recv xmit →
        (stopPhantom p s).Ends (fun _ => StopsOrRuns s p d r x recv xmit)
          (fun _ => StopsOrRuns s p d r x recv xmit) := by
  intro claim
  have running := running_startedOmni (failingAfter 2 0)
  have unanswered : ∀ b', ¬StopPhantomAnswered omni omniRecv omniXmit (failingAfter 2 0) b' := by
    rintro b' ⟨b₁, -, -, -, -, ⟨b₂, ⟨b₃, ⟨block, settles, -⟩, -⟩, -⟩, -⟩
    have failed : Settles (Bus.read (β := ManagedBus) omniRecv.comConfig.handle
        omniRecv.comConfig.node 0x1083 1) (failingAfter 2 0) (.error 110)
        { failingAfter 2 0 with turns := [] } :=
      .ended rfl (by simp [EAGAIN])
    cases (settles.unique failed).1
  obtain ⟨e, s', thrown, abandons⟩ := stopPhantom_abandons running unanswered
  exact abandons ((claim _ _ _ _ _ _ _ running).of_thrown thrown)

end Library

end LibPhantom
