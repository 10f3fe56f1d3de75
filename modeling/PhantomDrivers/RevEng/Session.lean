import PhantomDrivers.RevEng.InitialiseDevice

/-!
# A session of the reference driver

`main` of `rev-eng/omni.c` behind the scan, to its end.  It leaves early, and
without tidying up, if a device cannot be set up, if `select` times out or if an
iteration fails; otherwise it closes the devices one after the other.

* `closeDevice` — the body of the loop behind the main loop.
* `Session`, `sessions` — `main`, as a system whose actions are the choices of
  the environment.
* `Inert`, `Inert.driverCall` — what does not depend on the packets and on the
  buttons is kept by the main loop, if the bus reset handler keeps it.
-/

namespace RevEng

open Semantics Raw1394
open LibPhantom (ADDR_CONTROL ADDR_CONTROL_enable_iso)

/-! ## Closing a device -/

/-- `main` while it closes the devices, with the handles it has destroyed. -/
structure Closing (β : Type) where
  omni : Omni β
  destroyed : List Handle

section Functions

variable {β : Type}

/-- What happens to the rest of the state. -/
def onOmni {α : Type} (call : Call Empty (Omni β) α) : Call Empty (Closing β) α :=
  Call.within Closing.omni (fun omni c => { c with omni }) call

/-- `raw1394_iso_shutdown` -/
def isoShutdown (handle : Handle) : Call Empty (Omni β) Unit :=
  modify fun s => { s with contexts := Function.update s.contexts handle none }

/-- `raw1394_destroy_handle` -/
def destroyHandle (handle : Handle) : Call Empty (Closing β) Unit :=
  modify fun c => { c with destroyed := c.destroyed ++ [handle] }

variable [Bus β]

/-- One `raw1394_read` of a byte, without a look at the result: if it fails, the
byte stays what it was. -/
def readOnce (handle : Handle) (node : UInt16) (address : UInt64) (bufc : UInt8) :
    Call Empty β UInt8 where
  run b :=
    match Bus.read handle node address 1 b with
    | (.ok block, b') => .returned (block 0) b'
    | (.error _, b') => .returned bufc b'

/-- One `raw1394_write` of a byte, without a look at the result. -/
def writeOnce (handle : Handle) (node : UInt16) (address : UInt64) (bufc : UInt8) :
    Call Empty β Unit where
  run b := .returned () (Bus.write handle node address [bufc] b).2

/-- The accesses to the registers of a device that is closed. -/
def disableTransfer (config : Handle) (node : UInt16) : Call Empty β Bool := do
  if !(← getExpectedChar config node 0x1083 0xc0) then return false else
  if !(← getExpectedChar config node 0x1082 0x00) then return false else
  -- the byte that has just been compared with 0x00
  let bufc ← readOnce config node ADDR_CONTROL 0x00
  writeOnce config node ADDR_CONTROL (bufc &&& ~~~ADDR_CONTROL_enable_iso)
  return true

/-- The channels of the table are given back, unless one of them is -1. -/
def releaseChannels (config : Handle) (recv xmit : Option Nat) : Call Empty (Omni β) Unit :=
  match recv, xmit with
  | some recv, some xmit => do
      channelModify config recv .free
      channelModify config xmit .free
  | _, _ => return ()

/-- The body of the loop behind the main loop: whether `main` goes on. -/
def closeDevice (device : Nat) : Call Empty (Closing β) Bool := do
  let info ← onOmni (deviceInfo device)
  let config ← onOmni (followHandle info.configHandle)
  if !(← onOmni (onBus (disableTransfer config info.node))) then return false
  else
    let xmit ← onOmni (followHandle info.xmitHandle)
    onOmni (isoShutdown xmit)
    let recv ← onOmni (followHandle info.recvHandle)
    onOmni (isoShutdown recv)
    onOmni (releaseChannels config info.recvChannel info.xmitChannel)
    destroyHandle recv
    destroyHandle xmit
    destroyHandle config
    return true

/-! ## Sessions -/

/-- How `main` ends. -/
inductive Exit where
  /-- nothing was found -/
  | noDevices
  /-- `initialise_device` failed -/
  | initialiseFailed
  /-- `select` timed out -/
  | timedOut
  /-- `raw1394_loop_iterate` failed -/
  | iterationFailed
  /-- a status register was not as expected when a device was closed -/
  | closingFailed
  /-- all devices have been closed -/
  | closed
deriving DecidableEq, Repr

/-- What `main` returns. -/
def Exit.status : Exit → Nat
  | .noDevices | .initialiseFailed | .iterationFailed | .closingFailed => 1
  | .timedOut | .closed => 0

/-- Where `main` is. -/
inductive Stage where
  | running (point : Point)
  /-- before the body of the loop that closes the devices -/
  | closing (device : Nat)
  | exited (exit : Exit)

/-- `main` has left its main loop at the end of it. -/
def Stage.BehindLoop : Stage → Prop
  | .closing _ | .exited .closed | .exited .closingFailed => True
  | _ => False

/-- `main`. -/
structure Session (β : Type) where
  omni : Omni β
  destroyed : List Handle
  stage : Stage

/-- Where `main` goes on behind a step of the driver.  `Point.finished` is
behind the main loop and behind every early exit. -/
def Stage.next (point : Point) (choice : Choice) : Point → Stage
  | .finished =>
      match point, choice with
      | .initialising _, _ => .exited .initialiseFailed
      | .selecting, _ => .exited .timedOut
      | .visiting _ _, .proceed => .closing 0
      | _, _ => .exited .iterationFailed
  | point' => .running point'

/-- The scan has found these nodes. -/
def Session.start (bus : β) (found : List (Nat × UInt16)) : Session β where
  omni := (Driver.start bus found).omni
  destroyed := []
  stage := if found.isEmpty then .exited .noDevices else .running (.initialising 0)

/-- The calls of a step of `main` that closes a device, or finds that none is
left. -/
def closingCall (device : Nat) : Call Empty (Closing β) Stage := do
  if device < (← get).omni.devices.length then
    if ← closeDevice device then return .closing (device + 1)
    else return .exited .closingFailed
  else return .exited .closed

/-- The runs of `main`. -/
def sessions (machine : Machine) : System (Session β) Choice where
  step s choice :=
    match s.stage, choice with
    | .running point, choice =>
        match driverCall machine point choice s.omni with
        | .returned point' omni => some ⟨omni, s.destroyed, Stage.next point choice point'⟩
        | _ => none
    | .closing device, .proceed =>
        match closingCall device ⟨s.omni, s.destroyed⟩ with
        | .returned stage c => some ⟨c.omni, c.destroyed, stage⟩
        | _ => none
    | _, _ => none

end Functions

/-! ## What the main loop leaves as it is -/

/-- An assertion that does not depend on the packets and on the buttons. -/
structure Inert {β : Type} (I : Omni β → Prop) : Prop where
  trace : ∀ s trace, I s → I { s with trace }
  flags : ∀ s phantomDocked button2Pressed, I s → I { s with phantomDocked, button2Pressed }
  data : ∀ s device (f : DeviceInfo → DeviceInfo),
    (∀ info, ∃ phantomData forceData, f info = { info with phantomData, forceData }) →
    I s → I { s with devices := s.devices.modify device f }

namespace Inert

variable {β : Type} {I : Omni β → Prop} {machine : Machine} {host : Endian} {device : Nat}
  {handle : Handle}

theorem and {J : Omni β → Prop} (left : Inert I) (right : Inert J) :
    Inert fun s => I s ∧ J s where
  trace s trace holds := ⟨left.trace s trace holds.1, right.trace s trace holds.2⟩
  flags s docked pressed holds :=
    ⟨left.flags s docked pressed holds.1, right.flags s docked pressed holds.2⟩
  data s device f data holds := ⟨left.data s device f data holds.1, right.data s device f data holds.2⟩

theorem record (inert : Inert I) (event : Event) : Call.Keeps I (record event) :=
  Call.keeps_modify fun s => inert.trace s _

theorem requestPackets (inert : Inert I) (requests : Nat) :
    Call.Keeps I (requestPackets device handle requests) := by
  intro s u s' holds returned
  obtain ⟨trace, requested⟩ := exists_requestPackets device handle requests s
  rw [requested] at returned
  cases returned
  exact inert.trace s trace holds

theorem noteDocked (inert : Inert I) : Call.Keeps I (noteDocked (β := β) host) := by
  refine Call.keeps_bind keeps_deviceInfo fun info => ?_
  exact Call.keeps_ite (Call.keeps_modify fun s => inert.flags s _ s.button2Pressed)
    (Call.keeps_pure _)

theorem noteClick (inert : Inert I) (phantomData : DataRead) :
    Call.Keeps I (noteClick (β := β) host phantomData) := by
  have pressed (down : Bool) :
      Call.Keeps I (modify fun s => { s with button2Pressed := down } :
        Call Empty (Omni β) Unit) :=
    Call.keeps_modify fun s => inert.flags s s.phantomDocked down
  refine Call.keeps_ite (pressed true) (Call.keeps_bind Call.keeps_get fun s => ?_)
  exact Call.keeps_ite (Call.keeps_bind (pressed false) fun _ => inert.record _) (Call.keeps_pure _)

theorem updateForces (inert : Inert I) : Call.Keeps I (updateForces (β := β) host device) := by
  refine Call.keeps_bind keeps_deviceInfo fun info => ?_
  refine Call.keeps_bind (Call.keeps_modify fun s => ?_) fun _ => ?_
  · exact inert.data s device _ fun info => ⟨_, _, rfl⟩
  · refine Call.keeps_bind (inert.record _) fun _ => ?_
    exact Call.keeps_ite (inert.noteClick _) (Call.keeps_pure _)

theorem recvHandler (inert : Inert I) (data : Nat → UInt8) :
    Call.Keeps I (recvHandler handle data) := by
  refine Call.keeps_bind Call.keeps_get fun s => ?_
  split
  · exact Call.keeps_pure _
  · exact Call.keeps_modify fun s => inert.data s _ _ fun info => ⟨_, _, rfl⟩

variable [Bus β]
  (configured : ∀ device prefill, Call.Keeps I (configureDevice machine device prefill))

include configured

theorem busresetHandler (prefill : Nat) : Call.Keeps I (busresetHandler machine handle prefill) := by
  refine Call.keeps_bind Call.keeps_get fun s => ?_
  split
  · exact Call.keeps_pure _
  · refine Call.keeps_bind ?_ fun _ => Call.keeps_pure _
    rw [initialiseDevice, if_neg Bool.false_ne_true]
    exact configured _ prefill

theorem deliver (inert : Inert I) (events : List RecvEvent) :
    Call.Keeps I (deliver machine device handle events) := by
  induction events with
  | nil => exact Call.keeps_pure _
  | cons event events ih =>
      cases event with
      | packet data =>
          refine Call.keeps_bind (inert.record _) fun _ => ?_
          exact Call.keeps_bind (inert.recvHandler data) fun _ => ih
      | busReset prefill =>
          refine Call.keeps_bind Call.keeps_get fun s => ?_
          split
          · exact Call.keeps_bind (busresetHandler configured prefill) fun _ => ih
          · exact ih

omit configured in
/-- **Frame of the main loop.**  A step keeps such an assertion, if what libraw1394
delivers keeps it. -/
theorem driverCall_of_deliver (inert : Inert I) {point : Point} {choice : Choice}
    (running : ∀ device, point ≠ .initialising device)
    (delivers : ∀ device ready events result, point = .visiting device ready →
      choice = .receive events result →
        ∀ handle, Call.Keeps I (RevEng.deliver machine device handle events)) :
    Call.Keeps I (driverCall machine point choice) := by
  unfold RevEng.driverCall
  split
  · next device prefill => exact absurd rfl (running device)
  · refine Call.keeps_bind inert.noteDocked fun _ => ?_
    split
    · exact Call.keeps_pure _
    · exact Call.keeps_pure _
  · next device ready events result =>
      refine Call.keeps_bind keeps_deviceInfo fun info => Call.keeps_ite Call.keeps_undefined ?_
      refine Call.keeps_bind (keeps_followHandle _) fun handle => ?_
      refine Call.keeps_bind (delivers device ready events result rfl rfl handle) fun _ => ?_
      refine Call.keeps_ite (Call.keeps_pure _) ?_
      exact Call.keeps_bind inert.updateForces fun _ => Call.keeps_pure _
  · next device ready requests result =>
      refine Call.keeps_bind keeps_deviceInfo fun info => ?_
      refine Call.keeps_bind (keeps_followHandle _) fun handle => ?_
      refine Call.keeps_bind (inert.requestPackets requests) fun _ => ?_
      exact Call.keeps_ite (Call.keeps_pure _) (Call.keeps_pure _)
  · next device ready =>
      refine Call.keeps_bind Call.keeps_get fun s => ?_
      split
      · exact Call.keeps_ite Call.keeps_undefined (Call.keeps_pure _)
      · refine Call.keeps_bind keeps_deviceInfo fun info => ?_
        refine Call.keeps_bind Call.keeps_get fun s => ?_
        exact Call.keeps_ite (Call.keeps_pure _) (Call.keeps_pure _)
  · exact Call.keeps_undefined

/-- The same, if the bus reset handler keeps it. -/
theorem driverCall (inert : Inert I) {point : Point}
    (running : ∀ device, point ≠ .initialising device) (choice : Choice) :
    Call.Keeps I (driverCall machine point choice) :=
  inert.driverCall_of_deliver running fun _ _ events _ _ _ _ => inert.deliver configured events

end Inert

/-! ## What closing a device leaves as it is -/

section Closing

variable {β : Type} {I : Omni β → Prop} {device : Nat}

theorem keeps_onOmni {α : Type} {call : Call Empty (Omni β) α} (kept : Call.Keeps I call) :
    Call.Keeps (fun c => I c.omni) (onOmni call) := by
  intro c a c' holds returned
  rw [onOmni, Call.within_apply] at returned
  cases ended : call c.omni with
  | returned a' s =>
      rw [ended] at returned
      cases returned
      exact kept _ _ _ holds ended
  | thrown e s => cases e
  | undefined =>
      rw [ended] at returned
      cases returned

theorem keeps_destroyHandle (handle : Handle) :
    Call.Keeps (fun c : Closing β => I c.omni) (destroyHandle handle) :=
  Call.keeps_modify fun _ holds => holds

variable [Bus β]

/-- What does not depend on the bus and on the contexts. -/
theorem keeps_closeDevice (bus : ∀ s b, I s → I { s with bus := b })
    (contexts : ∀ s contexts, I s → I { s with contexts }) :
    Call.Keeps (fun c => I c.omni) (closeDevice device) := by
  have modified (config : Handle) (channel : Nat) :
      Call.Keeps I (channelModify (β := β) config channel .free) :=
    Call.keeps_modify fun s holds => bus s _ holds
  have released (config : Handle) (recv xmit : Option Nat) :
      Call.Keeps I (releaseChannels (β := β) config recv xmit) := by
    unfold releaseChannels
    split
    · exact Call.keeps_bind (modified _ _) fun _ => modified _ _
    · exact Call.keeps_pure _
  have shut (handle : Handle) : Call.Keeps I (isoShutdown (β := β) handle) :=
    Call.keeps_modify fun s holds => contexts s _ holds
  refine Call.keeps_bind (keeps_onOmni keeps_deviceInfo) fun info => ?_
  refine Call.keeps_bind (keeps_onOmni (keeps_followHandle _)) fun config => ?_
  refine Call.keeps_bind (keeps_onOmni (Call.keeps_within fun s b holds => bus s b holds)) fun _ => ?_
  refine Call.keeps_ite (Call.keeps_pure _) ?_
  refine Call.keeps_bind (keeps_onOmni (keeps_followHandle _)) fun xmit => ?_
  refine Call.keeps_bind (keeps_onOmni (shut xmit)) fun _ => ?_
  refine Call.keeps_bind (keeps_onOmni (keeps_followHandle _)) fun recv => ?_
  refine Call.keeps_bind (keeps_onOmni (shut recv)) fun _ => ?_
  refine Call.keeps_bind (keeps_onOmni (released _ _ _)) fun _ => ?_
  refine Call.keeps_bind (keeps_destroyHandle _) fun _ => ?_
  refine Call.keeps_bind (keeps_destroyHandle _) fun _ => ?_
  exact Call.keeps_bind (keeps_destroyHandle _) fun _ => Call.keeps_pure _

/-- The same for a step of `main` behind the main loop. -/
theorem keeps_closingCall (bus : ∀ s b, I s → I { s with bus := b })
    (contexts : ∀ s contexts, I s → I { s with contexts }) :
    Call.Keeps (fun c => I c.omni) (closingCall device) := by
  refine Call.keeps_bind Call.keeps_get fun c => Call.keeps_ite ?_ (Call.keeps_pure _)
  refine Call.keeps_bind (keeps_closeDevice bus contexts) fun _ => ?_
  exact Call.keeps_ite (Call.keeps_pure _) (Call.keeps_pure _)

end Closing

/-! ## Where a step leads -/

section Steps

variable {β : Type} [Bus β] {machine : Machine} {point point' : Point} {choice : Choice}
  {device : Nat}

/-- A device is set up for the first time. -/
theorem driverCall_initialise_cases {prefill : Nat} {s s' : Omni β}
    (returned : driverCall machine (.initialising device) (.initialise prefill) s =
      .returned point' s') :
    ∃ ok, initialiseDevice machine device true prefill s = .returned ok s' ∧
      ((ok = false ∧ point' = .finished) ∨
        (ok = true ∧ device + 1 < s'.devices.length ∧ point' = .initialising (device + 1)) ∨
        ok = true ∧ s'.devices.length ≤ device + 1 ∧ point' = .selecting) := by
  obtain ⟨ok, s₁, initialised, rest⟩ := Call.bind_eq_returned.mp returned
  cases ok with
  | false =>
      cases rest
      exact ⟨false, initialised, .inl ⟨rfl, rfl⟩⟩
  | true =>
      obtain ⟨_, _, looked, rest₁⟩ := Call.bind_eq_returned.mp rest
      cases looked
      split at rest₁
      · next more =>
          cases rest₁
          exact ⟨true, initialised, .inr (.inl ⟨rfl, more, rfl⟩)⟩
      · next last =>
          cases rest₁
          exact ⟨true, initialised, .inr (.inr ⟨rfl, Nat.le_of_not_lt last, rfl⟩)⟩

/-- What libraw1394 delivers is received, and the forces are computed. -/
theorem driverCall_receive_cases {ready : Nat → Bool} {events : List RecvEvent}
    {result : Option Errno} {s s' : Omni β}
    (returned : driverCall machine (.visiting device ready) (.receive events result) s =
      .returned point' s') :
    ∃ info handle s₁, s.devices[device]? = some info ∧ info.recvHandle = some handle ∧
      deliver machine device handle events s = .returned () s₁ ∧
      ((wentWrong result = true ∧ s' = s₁ ∧ point' = .finished) ∨
        wentWrong result = false ∧ updateForces machine.endian device s₁ = .returned () s' ∧
          point' = .transmitting device ready) := by
  obtain ⟨info, _, looked, rest₁⟩ := Call.bind_eq_returned.mp returned
  obtain ⟨there, rfl⟩ := deviceInfo_eq_returned.mp looked
  split at rest₁
  · cases rest₁
  · obtain ⟨handle, _, followed, rest₂⟩ := Call.bind_eq_returned.mp rest₁
    obtain ⟨owns, rfl⟩ := followHandle_eq_returned.mp followed
    obtain ⟨_, s₁, delivered, rest₃⟩ := Call.bind_eq_returned.mp rest₂
    refine ⟨info, handle, s₁, there, owns, delivered, ?_⟩
    split at rest₃
    · next wrong =>
        cases rest₃
        exact .inl ⟨wrong, rfl, rfl⟩
    · next well =>
        obtain ⟨_, s₂, updated, rest₄⟩ := Call.bind_eq_returned.mp rest₃
        cases rest₄
        exact .inr ⟨Bool.not_eq_true _ ▸ well, updated, rfl⟩

/-- Behind the first loop no device is set up for the first time. -/
theorem gives_driverCall (running : ∀ device, point ≠ .initialising device) (choice : Choice) :
    Call.Gives (fun point' => ∀ device, point' ≠ .initialising device)
      (driverCall (β := β) machine point choice) := by
  unfold driverCall
  split
  · next device prefill => exact absurd rfl (running device)
  · refine Call.gives_bind fun _ => ?_
    split
    · exact Call.gives_pure nofun
    · exact Call.gives_pure nofun
  · refine Call.gives_bind fun info => Call.gives_ite (fun _ => Call.gives_undefined) fun _ => ?_
    refine Call.gives_bind fun handle => Call.gives_bind fun _ => ?_
    refine Call.gives_ite (fun _ => Call.gives_pure nofun) fun _ => ?_
    exact Call.gives_bind fun _ => Call.gives_pure nofun
  · refine Call.gives_bind fun info => Call.gives_bind fun handle => Call.gives_bind fun _ => ?_
    exact Call.gives_ite (fun _ => Call.gives_pure nofun) fun _ => Call.gives_pure nofun
  · refine Call.gives_bind fun s => ?_
    split
    · exact Call.gives_ite (fun _ => Call.gives_undefined) fun _ => Call.gives_pure nofun
    · refine Call.gives_bind fun info => Call.gives_bind fun s => ?_
      exact Call.gives_ite (fun _ => Call.gives_pure nofun) fun _ => Call.gives_pure nofun
  · exact Call.gives_undefined

/-- Behind the main loop `main` does not come back to it. -/
theorem gives_closingCall :
    Call.Gives (fun stage => ∀ point, stage ≠ .running point) (closingCall (β := β) device) := by
  refine Call.gives_bind fun c => Call.gives_ite (fun _ => ?_) fun _ => Call.gives_pure nofun
  exact Call.gives_bind fun _ =>
    Call.gives_ite (fun _ => Call.gives_pure nofun) fun _ => Call.gives_pure nofun

/-- A step of `main` is one of the driver, or it closes a device. -/
theorem session_step_cases {s s' : Session β}
    (stepped : (sessions machine).step s choice = some s') :
    (∃ point point' omni, s.stage = .running point ∧
        driverCall machine point choice s.omni = .returned point' omni ∧
        s' = ⟨omni, s.destroyed, .next point choice point'⟩) ∨
      ∃ device stage c, s.stage = .closing device ∧
        closingCall device ⟨s.omni, s.destroyed⟩ = .returned stage c ∧
        s' = ⟨c.omni, c.destroyed, stage⟩ := by
  dsimp only [sessions] at stepped
  split at stepped
  · next point running =>
      split at stepped
      · next point' omni called =>
          exact .inl ⟨point, point', omni, running, called, (Option.some.inj stepped).symm⟩
      · cases stepped
  · next device closing =>
      split at stepped
      · next stage c called =>
          exact .inr ⟨device, stage, c, closing, called, (Option.some.inj stepped).symm⟩
      · cases stepped
  · cases stepped

omit [Bus β] in
/-- The kinds of places behind a step. -/
theorem stage_next (point : Point) (choice : Choice) (point' : Point) :
    Stage.next point choice point' = .running point' ∨
      (∃ exit, Stage.next point choice point' = .exited exit ∧ exit ≠ .closed) ∨
      Stage.next point choice point' = .closing 0 := by
  unfold Stage.next
  split
  · split
    · exact .inr (.inl ⟨_, rfl, nofun⟩)
    · exact .inr (.inl ⟨_, rfl, nofun⟩)
    · exact .inr (.inr rfl)
    · exact .inr (.inl ⟨_, rfl, nofun⟩)
  · exact .inl rfl

omit [Bus β] in
/-- The main loop is only left at its end by its condition. -/
theorem next_behindLoop (behind : (Stage.next point choice point').BehindLoop) :
    ∃ device ready, point = .visiting device ready ∧ choice = .proceed ∧ point' = .finished := by
  unfold Stage.next at behind
  split at behind
  · split at behind
    · exact behind.elim
    · exact behind.elim
    · next device ready => exact ⟨device, ready, rfl, rfl, rfl⟩
    · exact behind.elim
  · exact behind.elim

/-- The condition of the main loop. -/
theorem driverCall_finished {ready : Nat → Bool} {s s' : Omni β}
    (returned : driverCall machine (.visiting device ready) .proceed s = .returned .finished s') :
    s' = s ∧ s.phantomDocked = true ∧
      ∃ info, s.devices[0]? = some info ∧ info.phantomData.docked machine.endian = false := by
  obtain ⟨_, _, looked, rest₁⟩ := Call.bind_eq_returned.mp returned
  cases looked
  split at rest₁
  · split at rest₁
    · cases rest₁
    · cases rest₁
  · obtain ⟨info, _, looked, rest₂⟩ := Call.bind_eq_returned.mp rest₁
    obtain ⟨there, rfl⟩ := deviceInfo_eq_returned.mp looked
    obtain ⟨_, _, looked, rest₃⟩ := Call.bind_eq_returned.mp rest₂
    cases looked
    split at rest₃
    · cases rest₃
    · next condition =>
        cases rest₃
        rw [Bool.or_eq_true, not_or, Bool.not_eq_true, Bool.not_eq_true', Bool.not_eq_false]
          at condition
        exact ⟨rfl, condition.2, info, there, condition.1⟩

end Steps

end RevEng
