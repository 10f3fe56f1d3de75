import PhantomDrivers.LibPhantom.StartPhantom

/-!
# An isochronous iteration

`Phantom::isoIterate` gives both channel objects of a Phantom the time to handle
their packets.  libraw1394 calls the handlers from inside of
`raw1394_loop_iterate`; each call reaches a channel object through the pointer
that the communication object got when its transfer was started.

* `isoIterate` — the method.
* `SelfCalling` — the handlers of a channel object reach that object.
* `isoIterate_of_running` — an iteration of a started Phantom is defined, and
  changes nothing but the record of handles.
-/

namespace LibPhantom

open Semantics Raw1394

/-- What happens inside of a call of `raw1394_loop_iterate`: how many packets
it hands to the handlers, and `errno` if it fails. -/
structure LoopIteration where
  packets : Nat
  errno : Option Errno
deriving DecidableEq, Repr

namespace Library

variable {β : Type}

/-- `callbackRecvHandler` and `callbackXmitHandler`.  `receivedData` prints the
packet and `transmitData` fills it: neither changes an object. -/
def callbackHandler (com : CommunicationLibraw1394) : Call Exn (Library β) Unit := do
  match com.isoChannel with
  | none => Call.undefined
  | some q =>
      let _ ← isoChannel q
      return ()

/-- The handlers get the packets one by one. -/
def handlePackets (com : CommunicationLibraw1394) : Nat → Call Exn (Library β) Unit
  | 0 => return ()
  | packets + 1 => do
      callbackHandler com
      handlePackets com packets

/-- `raw1394_loop_iterate`: a handle without an isochronous context has no
handlers. -/
def loopIterate (com : CommunicationLibraw1394) (iteration : LoopIteration) :
    Call Exn (Library β) (Option Errno) := do
  useHandle com.handle
  handlePackets com (if com.context.isSome then iteration.packets else 0)
  return iteration.errno

/-- `CommunicationLibraw1394::doIterate` -/
def doIterate (com : CommunicationLibraw1394) (iteration : LoopIteration) :
    Call Exn (Library β) Unit := do
  match ← loopIterate com iteration with
  | none => return ()
  | some errno =>
      if errno ≠ 0 ∧ errno ≠ EAGAIN then
        throw (.text "Something went wrong in an iterate loop...")

/-- `PhantomIsoChannel::iterate` -/
def iterateChannel (q : Ptr) (iteration : LoopIteration) : Call Exn (Library β) Unit := do
  let c ← isoChannel q
  doIterate c.com iteration

/-- `Phantom::isoIterate` -/
def isoIterate (p : Ptr) (recv xmit : LoopIteration) : Call Exn (Library β) Unit := do
  iterateChannel (← channelPtr p Phantom.recvChannel) recv
  iterateChannel (← channelPtr p Phantom.xmitChannel) xmit

/-- The handlers of a channel object reach that object. -/
def SelfCalling (s : Library β) : Prop :=
  ∀ q c, s.isoChannels q = some c → c.com.context.isSome → c.com.isoChannel = some q

/-! ## What an iteration does -/

variable {s : Library β} {p q r x : Ptr} {c recv xmit : PhantomIsoChannel}
  {d : FirewireDeviceLibraw1394} {com : CommunicationLibraw1394} {iteration : LoopIteration}

theorem handlePackets_of_live (points : com.isoChannel = some q)
    (live : s.isoChannels q = some c) (packets : Nat) :
    handlePackets com packets s = .returned () s := by
  induction packets with
  | zero => rfl
  | succ packets ih =>
      simp only [handlePackets, callbackHandler, points, Call.bind_apply,
        isoChannel_of_live live, Outcome.andThen_returned, Call.pure_apply, ih]

/-- The state after the handle was used. -/
def afterUse (handle : Handle) (s : Library β) : Library β :=
  { s with handleLog := s.handleLog ++ [.used handle.id] }

/-- One channel object handles its packets. -/
theorem iterateChannel_of_live (calls : SelfCalling s) (live : s.isoChannels q = some c)
    (iteration : LoopIteration) :
    (iterateChannel q iteration s).Ends (fun _ s' => s' = s.afterUse c.com.handle)
      fun _ s' => s' = s.afterUse c.com.handle := by
  have live' : (s.afterUse c.com.handle).isoChannels q = some c := live
  have handled (packets : Nat) (enabled : c.com.context.isSome ∨ packets = 0) :
      handlePackets c.com packets (s.afterUse c.com.handle) =
        .returned () (s.afterUse c.com.handle) := by
    rcases enabled with context | rfl
    · exact handlePackets_of_live (calls q c live context) live' packets
    · rfl
  have looped : loopIterate c.com iteration s =
      .returned iteration.errno (s.afterUse c.com.handle) := by
    simp only [loopIterate, useHandle, Call.bind_apply, Call.modify_apply,
      Outcome.andThen_returned]
    rw [← afterUse, handled]
    · rfl
    · split
      · next context => exact .inl context
      · exact .inr rfl
  simp only [iterateChannel, doIterate, Call.bind_apply, isoChannel_of_live live,
    Outcome.andThen_returned, looped]
  cases iteration.errno with
  | none => rfl
  | some errno =>
      rw [Call.ite_apply]
      split
      · rfl
      · rfl

/-- An iteration of a started Phantom is defined, and changes nothing but the
record of handles. -/
theorem isoIterate_of_running (running : Running s p d r x recv xmit) (calls : SelfCalling s)
    (recvIteration xmitIteration : LoopIteration) :
    ∃ log, (isoIterate p recvIteration xmitIteration s).state? =
      some { s with handleLog := log } := by
  have running₁ : Running (s.afterUse recv.com.handle) p d r x recv xmit :=
    ⟨running.phantom, running.recvLive, running.xmitLive, running.different⟩
  have first := iterateChannel_of_live calls running.recvLive recvIteration
  have second := iterateChannel_of_live (s := s.afterUse recv.com.handle) calls
    running.xmitLive xmitIteration
  simp only [isoIterate, Call.bind_apply, running.channelPtrs.1, Outcome.andThen_returned]
  generalize iterateChannel r recvIteration s = outcome at first ⊢
  cases outcome with
  | undefined => exact first.elim
  | thrown e s₁ =>
      obtain rfl : s₁ = _ := first
      exact ⟨_, rfl⟩
  | returned u s₁ =>
      obtain rfl : s₁ = _ := first
      simp only [Outcome.andThen_returned, Call.bind_apply, running₁.channelPtrs.2]
      generalize iterateChannel x xmitIteration (s.afterUse recv.com.handle) = outcome at second ⊢
      cases outcome with
      | undefined => exact second.elim
      | thrown e s₂ =>
          obtain rfl : s₂ = _ := second
          exact ⟨_, rfl⟩
      | returned u s₂ =>
          obtain rfl : s₂ = _ := second
          exact ⟨_, rfl⟩

end Library

end LibPhantom
