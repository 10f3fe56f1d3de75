import PhantomDrivers.LibPhantom.DeviceLifecycle
import PhantomDrivers.Raw1394.QuietBus
import PhantomDrivers.LibPhantom.Phantom
import PhantomDrivers.Raw1394.Manager

/-!
# Starting a Phantom

`startPhantom` claims two channels and then starts both.  The two constructions
stand in `try` blocks that undo what was done; the two `start`s stand behind
them, so that an exception there leaves the Phantom started with both channels
claimed.

* `newXmitChannel_of_…`, `newChannels_of_…` — the two `try` blocks.
* `startPhantom_of_…` — the ways in which the call ends, by the answers of the
  bus.
* `RollsBack` — what a caller hopes for when the call throws.
* `StartPhantomAnswered` — the answers with which it happens.
-/

namespace LibPhantom

open Semantics Raw1394

namespace Library

variable {β : Type} [Bus β]

/-- The state after the receive channel was constructed. -/
def withRecv (p dev : Ptr) (d : FirewireDeviceLibraw1394) (c : Nat) (b : β) (s : Library β) :
    Library β :=
  { s.afterNewChannel dev d true c b with
    phantoms := s.phantoms.modify p fun phantom =>
      { phantom with recvChannel := some s.isoChannels.next } }

/-- The state after the transmit channel was constructed. -/
def withXmit (p dev : Ptr) (d : FirewireDeviceLibraw1394) (c : Nat) (b : β) (s : Library β) :
    Library β :=
  { s.afterNewChannel dev d false c b with
    phantoms := s.phantoms.modify p fun phantom =>
      { phantom with xmitChannel := some s.isoChannels.next } }

/-- The communication object with a handle of its own that configures a
channel. -/
def configOf (d : FirewireDeviceLibraw1394) (id : Nat) : CommunicationLibraw1394 :=
  ⟨d.node, ⟨id, d.port⟩, none, none⟩

/-! ## The `try` blocks -/

section Blocks

variable {s : Library β} {host : Host} {p dev r : Ptr} {ph : Phantom}
  {d : FirewireDeviceLibraw1394} {k : PhantomIsoChannel} {c c₁ c₂ : Nat} {b₁ b₂ b₃ b₄ : β}

theorem newXmitChannel_of_claims (live : s.phantoms p = some ph)
    (liveDevice : s.devices ph.firewireDevice = some d) (claims : Claims host d c s.bus b₁) :
    newXmitChannel host p s = .returned () (s.withXmit p ph.firewireDevice d c b₁) := by
  simp only [newXmitChannel, Call.bind_apply, Call.tryCatch_apply, phantom_of_live live,
    Outcome.andThen_returned, newChannel_of_claims liveDevice false claims, modifyPhantom_apply,
    Outcome.rescue_returned]
  rfl

/-- If the transmit channel cannot be claimed, the receive channel is given
back again. -/
theorem newXmitChannel_of_fails (live : s.phantoms p = some ph)
    (liveDevice : s.devices ph.firewireDevice = some d) (points : ph.recvChannel = some r)
    (recvLive : s.isoChannels r = some k) (recvDevice : k.firewireDevice = ph.firewireDevice)
    (fails : ClaimFails host d s.bus b₁)
    (answered : PhantomIsoChannel.StopAnswered k.comConfig b₁ b₂)
    (released : Releases d k.channel b₂ b₃) :
    ∃ e log, newXmitChannel host p s =
      .thrown e
        { s with
          bus := b₃
          nextHandle := s.nextHandle + 2
          handleLog := log
          ledger := s.ledger ++ [⟨.free, d.handle.port, k.channel⟩]
          isoChannels := s.isoChannels.free r } := by
  obtain ⟨e, log, thrown⟩ := newChannel_of_fails liveDevice false fails
  let t : Library β := { s.communicating with bus := b₁, handleLog := log }
  have live' : t.phantoms p = some ph := live
  have deletes := deleteChannel_of_answered (s := t) (q := r) recvLive
    (recvDevice ▸ liveDevice) answered released
  simp only [newXmitChannel, Call.bind_apply, Call.tryCatch_apply, phantom_of_live live,
    Outcome.andThen_returned, thrown, Outcome.andThen_thrown, Outcome.rescue_thrown]
  rw [channelPtr_of_some live' points, Outcome.andThen_returned, Call.bind_apply, deletes]
  exact ⟨e, _, rfl⟩

/-- If that fails, too, the receive channel stays claimed. -/
theorem newXmitChannel_of_stuck (live : s.phantoms p = some ph)
    (liveDevice : s.devices ph.firewireDevice = some d) (points : ph.recvChannel = some r)
    (recvLive : s.isoChannels r = some k) (recvDevice : k.firewireDevice = ph.firewireDevice)
    (fails : ClaimFails host d s.bus b₁)
    (unanswered : ∀ b₂ b₃, PhantomIsoChannel.StopAnswered k.comConfig b₁ b₂ →
      ¬Releases d k.channel b₂ b₃) :
    ∃ e b' log, newXmitChannel host p s =
      .thrown e
        { s with
          bus := b'
          nextHandle := s.nextHandle + 2
          handleLog := log
          isoChannels := s.isoChannels.free r } := by
  obtain ⟨e, log, thrown⟩ := newChannel_of_fails liveDevice false fails
  let t : Library β := { s.communicating with bus := b₁, handleLog := log }
  have live' : t.phantoms p = some ph := live
  obtain ⟨e', b', log', stuck⟩ := deleteChannel_of_unanswered (s := t) (q := r) recvLive
    (recvDevice ▸ liveDevice) unanswered
  simp only [newXmitChannel, Call.bind_apply, Call.tryCatch_apply, phantom_of_live live,
    Outcome.andThen_returned, thrown, Outcome.andThen_thrown, Outcome.rescue_thrown]
  rw [channelPtr_of_some live' points, Outcome.andThen_returned, Call.bind_apply, stuck]
  exact ⟨e', b', log', rfl⟩

theorem newChannels_of_claims (live : s.phantoms p = some ph)
    (liveDevice : s.devices ph.firewireDevice = some d) (claims : Claims host d c s.bus b₁) :
    newChannels host p s = newXmitChannel host p (s.withRecv p ph.firewireDevice d c b₁) := by
  simp only [newChannels, Call.bind_apply, phantom_of_live live, Outcome.andThen_returned,
    newChannel_of_claims liveDevice true claims, modifyPhantom_apply]
  rfl

theorem newChannels_of_fails (live : s.phantoms p = some ph)
    (liveDevice : s.devices ph.firewireDevice = some d) (fails : ClaimFails host d s.bus b₁) :
    ∃ e log, newChannels host p s =
      .thrown e { s with bus := b₁, nextHandle := s.nextHandle + 2, handleLog := log } := by
  obtain ⟨e, log, thrown⟩ := newChannel_of_fails liveDevice true fails
  simp only [newChannels, Call.bind_apply, phantom_of_live live, Outcome.andThen_returned, thrown,
    Outcome.andThen_thrown]
  exact ⟨e, log, rfl⟩

end Blocks

/-! ## The whole call -/

section Start

variable {s : Library β} {host : Host} {p : Ptr} {ph : Phantom} {d : FirewireDeviceLibraw1394}
  {c c₁ c₂ : Nat} {b₁ b₂ b₃ b₄ : β}

omit [Bus β] in
theorem markStarted_live (live : s.phantoms p = some ph) :
    (s.markStarted p).phantoms p = some { ph with started := true } := by
  show (s.phantoms.modify p _) p = _
  rw [Heap.modify_self, live]
  rfl

omit [Bus β] in
theorem withRecv_live {dev : Ptr} (live : s.phantoms p = some ph) :
    (s.withRecv p dev d c b₁).phantoms p =
      some { ph with recvChannel := some s.isoChannels.next } := by
  show (s.phantoms.modify p _) p = _
  rw [Heap.modify_self, live]
  rfl

/-- A Phantom that is not started is marked as started first. -/
theorem startPhantom_eq (live : s.phantoms p = some ph) (idle : ph.started = false) :
    startPhantom host p s =
      (((newChannels host p (s.markStarted p)).rescue fun e => do
          modifyPhantom p fun phantom => { phantom with started := false }
          throw e).andThen fun _ => startChannels p) := by
  simp only [startPhantom, Call.bind_apply, phantom_of_live live, Outcome.andThen_returned, idle,
    Bool.false_eq_true, if_false, modifyPhantom_apply, Call.tryCatch_apply]
  rfl

/-- The first claim fails. -/
theorem startPhantom_of_fails (live : s.phantoms p = some ph) (idle : ph.started = false)
    (liveDevice : s.devices ph.firewireDevice = some d) (fails : ClaimFails host d s.bus b₁) :
    ∃ e log, startPhantom host p s =
      .thrown e
        { s.markStopped p with
          bus := b₁
          nextHandle := s.nextHandle + 2
          handleLog := log } := by
  obtain ⟨e, log, thrown⟩ := newChannels_of_fails (s := s.markStarted p) (markStarted_live live)
    liveDevice fails
  rw [startPhantom_eq live idle, thrown]
  refine ⟨e, log, ?_⟩
  simp only [Outcome.rescue_thrown, Call.bind_apply, modifyPhantom_apply, Outcome.andThen_returned,
    Call.throw_apply, Outcome.andThen_thrown, markStarted, markStopped, Heap.modify_modify]
  rfl

/-- The receive channel that `startPhantom` constructs. -/
def recvOf (dev : Ptr) (d : FirewireDeviceLibraw1394) (c : Nat) (s : Library β) :
    PhantomIsoChannel :=
  s.claimedChannel dev d true c

omit [Bus β] in
theorem withRecv_channel {dev : Ptr} :
    (s.withRecv p dev d c b₁).isoChannels s.isoChannels.next = some (s.recvOf dev d c) :=
  Heap.alloc_next ..

/-- What `startPhantom` leaves behind if it claimed the receive channel only:
the object is gone. -/
def afterRollback (p dev : Ptr) (d : FirewireDeviceLibraw1394) (c : Nat) (s : Library β) :
    Library β :=
  { s with
    nextHandle := s.nextHandle + 4
    phantoms := s.phantoms.modify p fun phantom =>
      { phantom with started := false, recvChannel := some s.isoChannels.next }
    isoChannels := (s.isoChannels.alloc (s.recvOf dev d c)).free s.isoChannels.next }

/-- The second claim fails, and the first channel is given back. -/
theorem startPhantom_of_rollback (live : s.phantoms p = some ph) (idle : ph.started = false)
    (liveDevice : s.devices ph.firewireDevice = some d) (claims : Claims host d c s.bus b₁)
    (fails : ClaimFails host d b₁ b₂)
    (answered : PhantomIsoChannel.StopAnswered (configOf d (s.nextHandle + 1)) b₂ b₃)
    (released : Releases d c b₃ b₄) :
    ∃ e log, startPhantom host p s =
      .thrown e
        { s.afterRollback p ph.firewireDevice d c with
          bus := b₄
          handleLog := log
          ledger := s.ledger ++ [⟨.alloc, d.handle.port, c⟩, ⟨.free, d.handle.port, c⟩] } := by
  let t := (s.markStarted p).withRecv p ph.firewireDevice d c b₁
  have recvLive : t.isoChannels s.isoChannels.next = some (s.recvOf ph.firewireDevice d c) :=
    withRecv_channel (s := s.markStarted p)
  obtain ⟨e, log, thrown⟩ := newXmitChannel_of_fails (s := t)
    (withRecv_live (markStarted_live live)) liveDevice rfl recvLive rfl fails answered released
  rw [startPhantom_eq live idle,
    newChannels_of_claims (s := s.markStarted p) (markStarted_live live) liveDevice claims, thrown,
    List.append_cons s.ledger]
  refine ⟨e, log, ?_⟩
  simp only [Outcome.rescue_thrown, Call.bind_apply, modifyPhantom_apply, Outcome.andThen_returned,
    Call.throw_apply, Outcome.andThen_thrown, t, markStarted, withRecv, Heap.modify_modify]
  rfl

/-- The second claim fails, and the first channel cannot be given back. -/
theorem startPhantom_of_stuck (live : s.phantoms p = some ph) (idle : ph.started = false)
    (liveDevice : s.devices ph.firewireDevice = some d) (claims : Claims host d c s.bus b₁)
    (fails : ClaimFails host d b₁ b₂)
    (unanswered : ∀ b₃ b₄, PhantomIsoChannel.StopAnswered (configOf d (s.nextHandle + 1)) b₂ b₃ →
      ¬Releases d c b₃ b₄) :
    ∃ e b' log, startPhantom host p s =
      .thrown e
        { s.afterRollback p ph.firewireDevice d c with
          bus := b'
          handleLog := log
          ledger := s.ledger ++ [⟨.alloc, d.handle.port, c⟩] } := by
  let t := (s.markStarted p).withRecv p ph.firewireDevice d c b₁
  have recvLive : t.isoChannels s.isoChannels.next = some (s.recvOf ph.firewireDevice d c) :=
    withRecv_channel (s := s.markStarted p)
  obtain ⟨e, b', log, thrown⟩ := newXmitChannel_of_stuck (s := t)
    (withRecv_live (markStarted_live live)) liveDevice rfl recvLive rfl fails unanswered
  rw [startPhantom_eq live idle,
    newChannels_of_claims (s := s.markStarted p) (markStarted_live live) liveDevice claims, thrown]
  refine ⟨e, b', log, ?_⟩
  simp only [Outcome.rescue_thrown, Call.bind_apply, modifyPhantom_apply, Outcome.andThen_returned,
    Call.throw_apply, Outcome.andThen_thrown, t, markStarted, withRecv, Heap.modify_modify]
  rfl

/-- The transmit channel that `startPhantom` constructs. -/
def xmitOf (dev : Ptr) (d : FirewireDeviceLibraw1394) (c : Nat) (s : Library β) :
    PhantomIsoChannel where
  firewireDevice := dev
  receiving := false
  com := ⟨d.node, ⟨s.nextHandle + 2, d.port⟩, none, none⟩
  comConfig := configOf d (s.nextHandle + 3)
  channel := c

/-- The state when both channels are claimed. -/
def withChannels (p dev : Ptr) (d : FirewireDeviceLibraw1394) (c₁ c₂ : Nat) (b₁ b₂ : β)
    (s : Library β) : Library β :=
  ((s.markStarted p).withRecv p dev d c₁ b₁).withXmit p dev d c₂ b₂

omit [Bus β] in
theorem withChannels_live {dev : Ptr} (live : s.phantoms p = some ph) (c₁ c₂ : Nat)
    (b₁ b₂ : β) :
    (s.withChannels p dev d c₁ c₂ b₁ b₂).phantoms p =
      some ⟨ph.firewireDevice, true, some (s.isoChannels.next + 1), some s.isoChannels.next⟩ := by
  show (((s.phantoms.modify p _).modify p _).modify p _) p = _
  rw [Heap.modify_self, Heap.modify_self, Heap.modify_self, live]
  rfl

omit [Bus β] in
/-- Then the Phantom is running, but its transfers have not been started. -/
theorem running_withChannels (live : s.phantoms p = some ph)
    (liveDevice : s.devices ph.firewireDevice = some d) (c₁ c₂ : Nat) (b₁ b₂ : β) :
    Running (s.withChannels p ph.firewireDevice d c₁ c₂ b₁ b₂) p d s.isoChannels.next
      (s.isoChannels.next + 1) (s.recvOf ph.firewireDevice d c₁)
      (s.xmitOf ph.firewireDevice d c₂) where
  phantom := ⟨ph.firewireDevice, withChannels_live live c₁ c₂ b₁ b₂, liveDevice, rfl, rfl⟩
  recvLive := Heap.alloc_of_live (Heap.alloc_next ..)
  xmitLive := Heap.alloc_next ..
  different := Nat.ne_of_lt (Nat.lt_succ_self _)

/-- Both claims succeed. -/
theorem startPhantom_of_claims (live : s.phantoms p = some ph) (idle : ph.started = false)
    (liveDevice : s.devices ph.firewireDevice = some d) (claims₁ : Claims host d c₁ s.bus b₁)
    (claims₂ : Claims host d c₂ b₁ b₂) :
    startPhantom host p s =
      startChannels p (s.withChannels p ph.firewireDevice d c₁ c₂ b₁ b₂) := by
  have xmit := newXmitChannel_of_claims (s := (s.markStarted p).withRecv p ph.firewireDevice d c₁ b₁)
    (withRecv_live (markStarted_live live)) liveDevice claims₂
  rw [startPhantom_eq live idle,
    newChannels_of_claims (s := s.markStarted p) (markStarted_live live) liveDevice claims₁, xmit]
  rfl

end Start

/-! ## The two `start`s -/

section StartChannels

variable {s : Library β} {p r x : Ptr} {d : FirewireDeviceLibraw1394}
  {recv xmit : PhantomIsoChannel}

omit [Bus β] in
theorem Running.channelPtrs (running : Running s p d r x recv xmit) :
    channelPtr p Phantom.recvChannel s = .returned r s ∧
      channelPtr p Phantom.xmitChannel s = .returned x s := by
  obtain ⟨dev, live, -⟩ := running.phantom
  exact ⟨channelPtr_of_some live rfl, channelPtr_of_some live rfl⟩

theorem startChannels_of_answered (running : Running s p d r x recv xmit) {b₁ b₂ : β}
    (first : PhantomIsoChannel.StartAnswered recv.comConfig recv.receiving recv.channel s.bus b₁)
    (second : PhantomIsoChannel.StartAnswered xmit.comConfig xmit.receiving xmit.channel b₁ b₂) :
    startChannels p s = .returned () ((s.afterStart r recv b₁).afterStart x xmit b₂) := by
  have running' := running.startRecv b₁
  simp only [startChannels, Call.bind_apply, running.channelPtrs.1, Outcome.andThen_returned,
    startChannel_of_answered running.recvLive first, running'.channelPtrs.2]
  exact startChannel_of_answered running'.xmitLive second

/-- If one of the two `start`s is not answered, the Phantom keeps running. -/
theorem startChannels_of_unanswered (running : Running s p d r x recv xmit)
    (unanswered : ∀ b₁ b₂,
      PhantomIsoChannel.StartAnswered recv.comConfig recv.receiving recv.channel s.bus b₁ →
        ¬PhantomIsoChannel.StartAnswered xmit.comConfig xmit.receiving xmit.channel b₁ b₂) :
    ∃ e s' recv' xmit', startChannels p s = .thrown e s' ∧ TouchesOnly [r, x] s s' ∧
      s'.ledger = s.ledger ∧ Running s' p d r x recv' xmit' := by
  simp only [startChannels, Call.bind_apply, running.channelPtrs.1, Outcome.andThen_returned]
  by_cases first : ∃ b₁,
      PhantomIsoChannel.StartAnswered recv.comConfig recv.receiving recv.channel s.bus b₁
  · obtain ⟨b₁, first⟩ := first
    have running' := running.startRecv b₁
    obtain ⟨e, b₂, thrown⟩ := startChannel_of_unanswered running'.xmitLive fun b₂ =>
      unanswered b₁ b₂ first
    rw [startChannel_of_answered running.recvLive first, Outcome.andThen_returned,
      Call.bind_apply, running'.channelPtrs.2, Outcome.andThen_returned, thrown]
    refine ⟨e, _, _, _, rfl, ?_, rfl, running'.startXmit b₂⟩
    exact (TouchesOnly.afterStart.mono (by simp)).trans (TouchesOnly.afterStart.mono (by simp))
  · obtain ⟨e, b₁, thrown⟩ := startChannel_of_unanswered running.recvLive (not_exists.mp first)
    rw [thrown, Outcome.andThen_thrown]
    exact ⟨e, _, _, _, rfl, TouchesOnly.afterStart.mono (by simp), rfl, running.startRecv b₁⟩

end StartChannels

/-! ## What a caller hopes for -/

/-- The Phantom is not started, and every channel claimed since `s` was given
back. -/
def RollsBack (s : Library β) (p : Ptr) (s' : Library β) : Prop :=
  (∃ ph, s'.phantoms p = some ph ∧ ph.started = false) ∧
    ∃ events, s'.ledger = s.ledger ++ events ∧ ∀ port channel,
      events.count ⟨.alloc, port, channel⟩ = events.count ⟨.free, port, channel⟩

/-- The first claim fails; or the second one does and the first channel can be
given back; or all accesses of both `start`s are answered as expected. -/
def StartPhantomAnswered (host : Host) (d : FirewireDeviceLibraw1394) (s : Library β) : Prop :=
  (∃ b', ClaimFails host d s.bus b') ∨
  (∃ c b₁ b₂ b₃ b₄, Claims host d c s.bus b₁ ∧ ClaimFails host d b₁ b₂ ∧
    PhantomIsoChannel.StopAnswered (configOf d (s.nextHandle + 1)) b₂ b₃ ∧ Releases d c b₃ b₄) ∨
  ∃ c₁ c₂ b₁ b₂ b₃ b₄, Claims host d c₁ s.bus b₁ ∧ Claims host d c₂ b₁ b₂ ∧
    PhantomIsoChannel.StartAnswered (configOf d (s.nextHandle + 1)) true c₁ b₂ b₃ ∧
    PhantomIsoChannel.StartAnswered (configOf d (s.nextHandle + 3)) false c₂ b₃ b₄

section RollsBack

variable {s : Library β} {host : Host} {p : Ptr} {ph : Phantom} {d : FirewireDeviceLibraw1394}

/-- Both channels are claimed, and a `start` throws: the Phantom keeps
running. -/
theorem startPhantom_keeps (live : s.phantoms p = some ph) (idle : ph.started = false)
    (liveDevice : s.devices ph.firewireDevice = some d) {c₁ c₂ : Nat} {b₁ b₂ : β}
    (claims₁ : Claims host d c₁ s.bus b₁) (claims₂ : Claims host d c₂ b₁ b₂)
    (unanswered : ∀ b₃ b₄,
      PhantomIsoChannel.StartAnswered (configOf d (s.nextHandle + 1)) true c₁ b₂ b₃ →
        ¬PhantomIsoChannel.StartAnswered (configOf d (s.nextHandle + 3)) false c₂ b₃ b₄) :
    ∃ e s', startPhantom host p s = .thrown e s' ∧ ¬RollsBack s p s' := by
  obtain ⟨e, s', recv', xmit', thrown, -, -, running⟩ :=
    startChannels_of_unanswered (running_withChannels live liveDevice ..) unanswered
  refine ⟨e, s', (startPhantom_of_claims live idle liveDevice claims₁ claims₂).trans thrown, ?_⟩
  rintro ⟨⟨ph', live', idle'⟩, -⟩
  obtain ⟨dev, started, -⟩ := running.phantom
  rw [started] at live'
  cases live'
  cases idle'

/-- The first channel is not given back. -/
theorem startPhantom_loses (live : s.phantoms p = some ph) (idle : ph.started = false)
    (liveDevice : s.devices ph.firewireDevice = some d) {c : Nat} {b₁ b₂ : β}
    (claims : Claims host d c s.bus b₁) (fails : ClaimFails host d b₁ b₂)
    (unanswered : ∀ b₃ b₄,
      PhantomIsoChannel.StopAnswered (configOf d (s.nextHandle + 1)) b₂ b₃ →
        ¬Releases d c b₃ b₄) :
    ∃ e s', startPhantom host p s = .thrown e s' ∧ ¬RollsBack s p s' := by
  obtain ⟨e, b', log, thrown⟩ := startPhantom_of_stuck live idle liveDevice claims fails unanswered
  refine ⟨e, _, thrown, ?_⟩
  rintro ⟨-, events, appended, balanced⟩
  obtain rfl := List.append_cancel_left appended
  have uneven := balanced d.handle.port c
  simp at uneven

/-- **Starting a Phantom.**  Whenever `startPhantom` throws, the Phantom is not
started and holds no channel that it claimed, if and only if the first claim
fails, or the roll back of the second claim is answered, or both `start`s are
answered. -/
theorem startPhantom_rollsBack_iff (host : Host) (live : s.phantoms p = some ph)
    (idle : ph.started = false) (liveDevice : s.devices ph.firewireDevice = some d) :
    (startPhantom host p s).Ends (fun _ _ => True) (fun _ => RollsBack s p) ↔
      StartPhantomAnswered host d s := by
  constructor
  · intro ends
    rcases claims_or_fails host d s.bus with ⟨c₁, b₁, claims₁⟩ | fails
    · right
      rcases claims_or_fails host d b₁ with ⟨c₂, b₂, claims₂⟩ | ⟨b₂, fails⟩
      · right
        by_contra unanswered
        obtain ⟨e, s', thrown, keeps⟩ := startPhantom_keeps live idle liveDevice claims₁ claims₂
          fun b₃ b₄ start₁ start₂ =>
            unanswered ⟨c₁, c₂, b₁, b₂, b₃, b₄, claims₁, claims₂, start₁, start₂⟩
        exact keeps (ends.of_thrown thrown)
      · left
        by_contra unanswered
        obtain ⟨e, s', thrown, loses⟩ := startPhantom_loses live idle liveDevice claims₁ fails
          fun b₃ b₄ stops releases =>
            unanswered ⟨c₁, b₁, b₂, b₃, b₄, claims₁, fails, stops, releases⟩
        exact loses (ends.of_thrown thrown)
    · exact .inl fails
  · rintro (⟨b', fails⟩ | ⟨c, b₁, b₂, b₃, b₄, claims, fails, stops, releases⟩ |
      ⟨c₁, c₂, b₁, b₂, b₃, b₄, claims₁, claims₂, start₁, start₂⟩)
    · obtain ⟨e, log, thrown⟩ := startPhantom_of_fails live idle liveDevice fails
      rw [thrown]
      refine ⟨⟨_, (Heap.modify_self ..).trans (congrArg (Option.map _) live), rfl⟩, [], ?_, ?_⟩
      · exact (List.append_nil _).symm
      · exact fun _ _ => rfl
    · obtain ⟨e, log, thrown⟩ :=
        startPhantom_of_rollback live idle liveDevice claims fails stops releases
      rw [thrown]
      refine ⟨⟨_, (Heap.modify_self ..).trans (congrArg (Option.map _) live), rfl⟩, _, rfl, ?_⟩
      intro port channel
      simp [List.count_cons]
    · rw [startPhantom_of_claims live idle liveDevice claims₁ claims₂,
        startChannels_of_answered (running_withChannels live liveDevice ..) start₁ start₂]
      trivial

end RollsBack

/-! ## A Phantom that is not started -/

/-- The device on node 0 of port 0. -/
def omni : FirewireDeviceLibraw1394 :=
  ⟨.new ⟨0xffc0, ⟨0, 0⟩, none, none⟩, ⟨1, 0⟩, 0, 0xffc0, 0xffc1⟩

/-- A Phantom on the device. -/
def idleOmni (bus : ManagedBus) : Library ManagedBus :=
  { Library.initial bus with
    nextHandle := 2
    devices := Heap.empty.alloc omni
    phantoms := Heap.empty.alloc ⟨0, false, none, none⟩ }

/-- Where nothing fails and the transfer is disabled, `stop` only reads. -/
theorem stopAnswered_of_quiet {b : ManagedBus} (quiet : b.Quiet) (com : CommunicationLibraw1394)
    (status₀ : b.memory com.handle.port com.node 0x1083 = 0xc0)
    (status₁ : b.memory com.handle.port com.node 0x1082 = 0)
    (off : b.memory com.handle.port com.node ADDR_CONTROL &&& ADDR_CONTROL_enable_iso = 0) :
    PhantomIsoChannel.StopAnswered com b b := by
  have reads (address : UInt64) (plain : ¬ManagedBus.IsManagerRegister address) :
      PhantomIsoChannel.Reads com address (b.memory com.handle.port com.node address) b b :=
    ⟨_, .ended quiet.read (by simp), ManagedBus.byte_register plain ..⟩
  have first := reads 0x1083 (by decide)
  have second := reads 0x1082 (by decide)
  rw [status₀] at first
  rw [status₁] at second
  refine ⟨b, ⟨b, first, second⟩, _, b, reads ADDR_CONTROL (by decide), ?_⟩
  rw [if_neg (not_not_intro off)]

/-- Other nodes hold all channels but one; the device answers as it should, and
nothing fails. -/
def oneChannel : ManagedBus where
  memory _ _ address := if address = 0x1083 then 0xc0 else 0
  irm _ := 0xffc1
  allocation _ channel := if channel = 0 then none else some .other
  turns := []

/-- The second claim finds no channel, and the first channel is given back. -/
theorem startPhantom_rollsBack_oneChannel :
    ∃ e s', startPhantom twoNodes 0 (idleOmni oneChannel) = .thrown e s' ∧
      RollsBack (idleOmni oneChannel) 0 s' := by
  let taken : ManagedBus :=
    { oneChannel with allocation := oneChannel.allocation.assign 0 0 (some .library) }
  have live : (idleOmni oneChannel).phantoms 0 = some ⟨0, false, none, none⟩ := rfl
  have liveDevice : (idleOmni oneChannel).devices 0 = some omni := rfl
  have claims : Claims twoNodes omni 0 oneChannel taken :=
    ⟨_, _, .chunk (by decide) (.ended rfl (by simp)) (by decide)
      (.chunk (by decide) (.ended rfl (by simp)) (by decide) (.done (by decide))), by decide,
      ManagedBus.Quiet.alloc_of_free rfl (by decide) rfl⟩
  have fails : ClaimFails twoNodes omni taken taken :=
    .inr ⟨_, _, .chunk (by decide) (.ended rfl (by simp)) (by decide)
      (.chunk (by decide) (.ended rfl (by simp)) (by decide) (.done (by decide))),
      .inl ⟨by decide, rfl⟩⟩
  have stops := stopAnswered_of_quiet (b := taken) rfl (configOf omni 3) rfl rfl UInt8.zero_and
  have released : Releases omni 0 taken _ := rfl
  obtain ⟨e, log, thrown⟩ :=
    startPhantom_of_rollback live rfl liveDevice claims fails stops released
  have ends := (startPhantom_rollsBack_iff twoNodes live rfl liveDevice).mpr
    (.inr (.inl ⟨0, taken, taken, taken, _, claims, fails, stops, released⟩))
  exact ⟨e, _, thrown, ends.of_thrown thrown⟩

/-- The first channels of port 0 are claimed; the device answers as it should,
but after a number of transactions one fails. -/
def failingAfter (claimed transactions : Nat) : ManagedBus where
  memory _ _ address := if address = 0x1083 then 0xc0 else 0
  irm _ := 0xffc1
  allocation port channel := if port = 0 ∧ channel < claimed then some .library else none
  turns := List.replicate transactions ⟨[], none, none⟩ ++ [⟨[], some 110, none⟩]

theorem assign_failingAfter (claimed transactions : Nat) :
    (failingAfter claimed transactions).allocation.assign 0 claimed (some .library) =
      (failingAfter (claimed + 1) transactions).allocation := by
  ext port channel : 2
  show (if port = 0 ∧ channel = claimed then some Holder.library
      else if port = 0 ∧ channel < claimed then some Holder.library else none) =
    if port = 0 ∧ channel < claimed + 1 then some Holder.library else none
  by_cases same : port = 0 ∧ channel = claimed
  · rw [if_pos same, if_pos (by omega)]
  · rw [if_neg same]
    exact if_congr (by omega) rfl rfl

theorem alloc_failingAfter {claimed : Nat} (inside : claimed < 64) (transactions : Nat) :
    Bus.channelModify omni.handle claimed .alloc (failingAfter claimed (transactions + 1)) =
      (true, failingAfter (claimed + 1) transactions) := by
  have free : (failingAfter claimed transactions).allocation 0 claimed = none :=
    if_neg fun busy => Nat.lt_irrefl _ busy.2
  refine (if_pos ⟨rfl, inside, free⟩).trans (Prod.ext rfl ?_)
  exact congrArg (fun allocation => { failingAfter claimed transactions with allocation })
    (assign_failingAfter claimed transactions)

/-- A claim takes three transactions. -/
theorem claims_failingAfter :
    Claims twoNodes omni 0 (failingAfter 0 6) (failingAfter 1 3) ∧
      Claims twoNodes omni 1 (failingAfter 1 3) (failingAfter 2 0) := by
  constructor
  · exact ⟨_, _, .chunk (by decide) (.ended rfl (by simp)) (by decide)
      (.chunk (by decide) (.ended rfl (by simp)) (by decide) (.done (by decide))), by decide,
      alloc_failingAfter (by decide) 3⟩
  · exact ⟨_, _, .chunk (by decide) (.ended rfl (by simp)) (by decide)
      (.chunk (by decide) (.ended rfl (by simp)) (by decide) (.done (by decide))), by decide,
      alloc_failingAfter (by decide) 0⟩

/-- If a register access of `start` fails, `startPhantom` throws and leaves the
Phantom started, with both channels claimed. -/
theorem startPhantom_keeps_failing :
    ¬∀ (s : Library ManagedBus) (host : Host) (p : Ptr) (ph : Phantom)
      (d : FirewireDeviceLibraw1394), s.phantoms p = some ph → ph.started = false →
        s.devices ph.firewireDevice = some d →
          (startPhantom host p s).Ends (fun _ _ => True) (fun _ => RollsBack s p) := by
  intro claim
  obtain ⟨claims₁, claims₂⟩ := claims_failingAfter
  have live : (idleOmni (failingAfter 0 6)).phantoms 0 = some ⟨0, false, none, none⟩ := rfl
  have liveDevice : (idleOmni (failingAfter 0 6)).devices 0 = some omni := rfl
  obtain ⟨e, s', thrown, keeps⟩ := startPhantom_keeps live rfl liveDevice claims₁ claims₂ (by
    rintro b₃ b₄ ⟨_, _, _, write | write, -⟩
    · cases write
    · cases write)
  exact keeps ((claim _ twoNodes _ _ _ live rfl liveDevice).of_thrown thrown)

end Library

end LibPhantom
