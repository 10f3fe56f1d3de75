import PhantomDrivers.RevEng.InitialiseDevice
import PhantomDrivers.Semantics.Traces

/-!
# Motor safety of the reference driver

The motors of a device may only be on while its button 1 is held down, and the
bus is only reset by a click with button 2 of the first device.

The bits of the buttons are clear while the button is pressed, and the table of
devices is static memory, so before the first packet of a device has arrived its
buttons look pressed.  The driver computes the forces whenever the descriptor of
the device is ready, also if only a bus reset was behind it.  And where
bit-fields begin with the highest bit, the default forces have the motors on.

The motors are safe in every run in which the forces of a device are computed
only after a packet of it has arrived, and, on a big-endian host, are sent only
after they have been computed (`always_safe_of_heard`).  A bus reset in front of
the first packet switches them on (`energised_by_bus_reset`).

* `MotorsSafe`, `ResetsSafe` — the two properties, of a trace.
* `Sane` — the invariant: what the table holds, and where it comes from.
* `HeardFirst`, `ComputedFirst` — the condition on a step.
-/

namespace RevEng

open Semantics Raw1394

/-! ## The properties -/

/-- The most recent packet from the device. -/
def MostRecent (trace : List Event) (device : Nat) (data : DataRead) : Prop :=
  Latest (fun e => ∃ data, e = .received device data) trace (.received device data)

/-- When the forces for the device were last computed, this was the most recent
packet from it. -/
def UpdatedFrom (trace : List Event) (device : Nat) (data : DataRead) : Prop :=
  ∃ before after, trace = before ++ .updated device :: after ∧ .updated device ∉ after ∧
    MostRecent before device data

/-- A packet that switches the motors on is justified by the packet from the
same device from which the forces were last computed: its button 1 was
pressed. -/
def MotorsSafe (host : Endian) (trace : List Event) : Prop :=
  Justified (fun before e => ∀ device data, e = .transmitted device data →
    data.motorsOn host = true →
      ∃ packet, UpdatedFrom before device packet ∧ packet.button1 host = false) trace

/-- A bus reset is justified by a packet from the first device in which button 2
was pressed, and a later one in which it was released. -/
def ResetsSafe (host : Endian) (trace : List Event) : Prop :=
  Justified (fun before e => e = .reset → ∃ earlier released later,
    before = earlier ++ .received 0 released :: later ∧ released.button2 host = true ∧
      ∃ pressed, .received 0 pressed ∈ earlier ∧ pressed.button2 host = false) trace

variable {host : Endian} {trace : List Event} {device d : Nat} {data : DataRead} {e : Event} {force : DataWrite}

theorem UpdatedFrom.append (updated : UpdatedFrom trace device data) (other : e ≠ .updated device) :
    UpdatedFrom (trace ++ [e]) device data := by
  obtain ⟨before, after, rfl, last, recent⟩ := updated
  refine ⟨before, after ++ [e], ?_, ?_, recent⟩
  · rw [List.append_assoc, List.cons_append]
  · intro member
    rcases List.mem_append.mp member with inside | isLast
    · exact last inside
    · exact other (List.mem_singleton.mp isLast).symm

theorem MostRecent.updatedFrom (recent : MostRecent trace device data) :
    UpdatedFrom (trace ++ [.updated device]) device data := by
  refine ⟨trace, [], rfl, ?_, recent⟩
  intro member
  cases member

/-! ## Where the table comes from -/

/-- The table holds the most recent packet, or nothing yet. -/
def Heard (trace : List Event) (device : Nat) (data : DataRead) : Prop :=
  (∀ data, .received device data ∉ trace) ∧ data = .zero ∨ MostRecent trace device data

/-- The forces come from the most recent packet at the time they were computed,
or they have not been computed yet. -/
def Driven (host : Endian) (trace : List Event) (device : Nat) (force : DataWrite) : Prop :=
  .updated device ∉ trace ∧ (host = .little → force.motorsOn host = false) ∨
    ∃ packet, UpdatedFrom trace device packet ∧ force.motorsOn host = !packet.button1 host

/-- The forces of a device may be sent: they have been computed, or the default
forces leave the motors off. -/
def Sendable (host : Endian) (trace : List Event) (device : Nat) : Prop :=
  host = .little ∨ .updated device ∈ trace

theorem Sendable.mono {past : List Event} (sendable : Sendable host past device)
    (more : ∀ e ∈ past, e ∈ trace) : Sendable host trace device :=
  sendable.imp_right (more _)

theorem Heard.append (heard : Heard trace device data) (other : ∀ data, e ≠ .received device data) :
    Heard (trace ++ [e]) device data := by
  rcases heard with ⟨silent, zero⟩ | recent
  · refine .inl ⟨?_, zero⟩
    intro data member
    rcases List.mem_append.mp member with inside | isLast
    · exact silent data inside
    · exact other data (List.mem_singleton.mp isLast).symm
  · refine .inr (recent.append ?_)
    rintro ⟨data, same⟩
    exact other data same

theorem heard_received : Heard (trace ++ [.received device data]) device data :=
  .inr (latest_append_self ⟨data, rfl⟩)

theorem Heard.recent (heard : Heard trace device data) {packet : DataRead}
    (some : .received device packet ∈ trace) : MostRecent trace device data := by
  rcases heard with ⟨silent, -⟩ | recent
  · exact absurd some (silent packet)
  · exact recent

theorem Driven.append (driven : Driven host trace device force) (other : e ≠ .updated device) :
    Driven host (trace ++ [e]) device force := by
  rcases driven with ⟨never, off⟩ | ⟨packet, updated, motors⟩
  · refine .inl ⟨?_, off⟩
    intro member
    rcases List.mem_append.mp member with inside | isLast
    · exact never inside
    · exact other (List.mem_singleton.mp isLast).symm
  · exact .inr ⟨packet, updated.append other, motors⟩

/-- The forces of a device are sent to it. -/
theorem Driven.transmit (driven : Driven host trace device force)
    (sendable : Sendable host trace device) (safe : MotorsSafe host trace) :
    MotorsSafe host (trace ++ [.transmitted device force]) := by
  refine Justified.append safe ?_
  rintro device' data ⟨⟩ motorsOn
  rcases driven with ⟨never, off⟩ | ⟨packet, updated, motors⟩
  · rw [off (sendable.resolve_right never)] at motorsOn
    cases motorsOn
  · refine ⟨packet, updated, ?_⟩
    rw [motors, Bool.not_eq_true'] at motorsOn
    exact motorsOn

theorem MotorsSafe.append (safe : MotorsSafe host trace) (other : ∀ device data,
    e ≠ .transmitted device data) : MotorsSafe host (trace ++ [e]) := by
  refine Justified.append safe ?_
  intro device data same
  exact absurd same (other device data)

theorem ResetsSafe.append (safe : ResetsSafe host trace) (other : e ≠ .reset) :
    ResetsSafe host (trace ++ [e]) :=
  Justified.append safe fun same => absurd same other

/-- The driver resets the bus when the table shows a released button after it
has shown a pressed one. -/
theorem ResetsSafe.click (safe : ResetsSafe host trace) (recent : MostRecent trace 0 data)
    (released : data.button2 host = true) {pressed : DataRead}
    (earlier : .received 0 pressed ∈ trace) (down : pressed.button2 host = false) :
    ResetsSafe host (trace ++ [.reset]) := by
  have different : Event.received 0 pressed ≠ .received 0 data := by
    rintro ⟨⟩
    rw [released] at down
    cases down
  obtain ⟨before, after, split, inside⟩ := recent.mem_before earlier ⟨pressed, rfl⟩ different
  exact Justified.append safe fun _ => ⟨before, data, after, split, released, pressed, inside, down⟩

/-! ## The invariant -/

/-- What holds in every state, as long as no forces are computed before the
first packet. -/
structure Sane {β : Type} (host : Endian) (s : Omni β) : Prop where
  recvOlder : Older s.devices DeviceInfo.recvHandle s.nextHandle
  xmitOlder : Older s.devices DeviceInfo.xmitHandle s.nextHandle
  recvOwn : Own s.devices DeviceInfo.recvHandle
  xmitOwn : Own s.devices DeviceInfo.xmitHandle
  heard : ∀ (d : Nat) (info : DeviceInfo), s.devices[d]? = some info →
    Heard s.trace d info.phantomData
  driven : ∀ (d : Nat) (info : DeviceInfo), s.devices[d]? = some info →
    Driven host s.trace d info.forceData
  motors : MotorsSafe host s.trace
  resets : ResetsSafe host s.trace
  pressed : s.button2Pressed = true →
    ∃ data, .received 0 data ∈ s.trace ∧ DataRead.button2 data host = false

section Handlers

variable {β : Type} {s s' : Omni β} {info : DeviceInfo} {handle : Handle}

/-- A change of the table that leaves the data as they are, and the handles
sound. -/
theorem Sane.modify (sane : Sane host s) (f : DeviceInfo → DeviceInfo) {next : Nat}
    (data : ∀ info, (f info).phantomData = info.phantomData ∧ (f info).forceData = info.forceData)
    (recvOlder : Older (s.devices.modify device f) DeviceInfo.recvHandle next)
    (xmitOlder : Older (s.devices.modify device f) DeviceInfo.xmitHandle next)
    (recvOwn : Own (s.devices.modify device f) DeviceInfo.recvHandle)
    (xmitOwn : Own (s.devices.modify device f) DeviceInfo.xmitHandle) :
    Sane host { s with nextHandle := next, devices := s.devices.modify device f } where
  recvOlder
  xmitOlder
  recvOwn
  xmitOwn
  heard d info' there := by
    obtain ⟨info, old, rfl⟩ := getElem?_modify_eq_some.mp there
    split
    · exact (data info).1 ▸ sane.heard d info old
    · exact sane.heard d info old
  driven d info' there := by
    obtain ⟨info, old, rfl⟩ := getElem?_modify_eq_some.mp there
    split
    · exact (data info).2 ▸ sane.driven d info old
    · exact sane.driven d info old
  motors := sane.motors
  resets := sane.resets
  pressed := sane.pressed

/-- Something happens that the table does not depend on. -/
theorem Sane.record (sane : Sane host s) (receives : ∀ d data, e ≠ .received d data)
    (updates : ∀ d, e ≠ .updated d) (motors : MotorsSafe host (s.trace ++ [e]))
    (resets : ResetsSafe host (s.trace ++ [e])) : Sane host { s with trace := s.trace ++ [e] } :=
  { sane with
    heard := fun d info there => (sane.heard d info there).append (receives d)
    driven := fun d info there => (sane.driven d info there).append (updates d)
    motors
    resets
    pressed := by
      intro down
      obtain ⟨data, member, clear⟩ := sane.pressed down
      exact ⟨data, List.mem_append_left _ member, clear⟩ }

/-- A packet is sent to a device. -/
theorem Sane.transmit (sane : Sane host s) (there : s.devices[device]? = some info)
    (sendable : Sendable host s.trace device) :
    Sane host { s with trace := s.trace ++ [.transmitted device info.forceData] } := by
  refine sane.record ?_ ?_ ((sane.driven device info there).transmit sendable sane.motors)
    (sane.resets.append ?_)
  · intro d data same
    cases same
  · intro d same
    cases same
  · intro same
    cases same

/-- Button 2 of the first device is released. -/
theorem Sane.release (sane : Sane host s) (there : s.devices[0]? = some info)
    (pressed : s.button2Pressed = true) (released : info.phantomData.button2 host = true) :
    Sane host { s with button2Pressed := false, trace := s.trace ++ [.reset] } := by
  obtain ⟨data, member, clear⟩ := sane.pressed pressed
  have reset : Sane host { s with trace := s.trace ++ [.reset] } := by
    refine sane.record ?_ ?_ (sane.motors.append ?_)
      (sane.resets.click ((sane.heard 0 info there).recent member) released member clear)
    · intro d data same
      cases same
    · intro d same
      cases same
    · intro d data same
      cases same
  exact { reset with
    pressed := by
      intro down
      cases down }

/-- Button 2 of the first device is pressed. -/
theorem Sane.press (sane : Sane host s) (received : .received 0 data ∈ s.trace)
    (down : data.button2 host = false) : Sane host { s with button2Pressed := true } :=
  { sane with pressed := fun _ => ⟨data, received, down⟩ }

/-- A packet of a device is received and stored. -/
theorem Sane.receive (sane : Sane host s) (device : Nat) (data : DataRead) :
    Sane host { s with
      devices := s.devices.modify device fun info => { info with phantomData := data }
      trace := s.trace ++ [.received device data] } where
  recvOlder := sane.recvOlder.modify (fun _ => by rfl) device
  xmitOlder := sane.xmitOlder.modify (fun _ => by rfl) device
  recvOwn := sane.recvOwn.modify (fun _ => by rfl) device
  xmitOwn := sane.xmitOwn.modify (fun _ => by rfl) device
  heard d info' there := by
    obtain ⟨info, old, rfl⟩ := getElem?_modify_eq_some.mp there
    split
    · next same =>
        subst same
        exact heard_received
    · next different =>
        refine (sane.heard d info old).append ?_
        rintro data' ⟨⟩
        exact different rfl
  driven d info' there := by
    obtain ⟨info, old, rfl⟩ := getElem?_modify_eq_some.mp there
    have driven : Driven host (s.trace ++ [.received device data]) d info.forceData := by
      refine (sane.driven d info old).append ?_
      intro same
      cases same
    split
    · exact driven
    · exact driven
  motors := sane.motors.append (by
    intro device data same
    cases same)
  resets := sane.resets.append (by
    intro same
    cases same)
  pressed down := by
    obtain ⟨data, member, clear⟩ := sane.pressed down
    exact ⟨data, List.mem_append_left _ member, clear⟩

/-- The forces are computed from a packet that was received. -/
theorem Sane.update (sane : Sane host s) (there : s.devices[device]? = some info)
    {packet : DataRead} (received : .received device packet ∈ s.trace) :
    Sane host { s with
      devices := s.devices.modify device fun force =>
        { force with forceData := force.forceData.withButtons host info.phantomData }
      trace := s.trace ++ [.updated device] } where
  recvOlder := sane.recvOlder.modify (fun _ => by rfl) device
  xmitOlder := sane.xmitOlder.modify (fun _ => by rfl) device
  recvOwn := sane.recvOwn.modify (fun _ => by rfl) device
  xmitOwn := sane.xmitOwn.modify (fun _ => by rfl) device
  heard d info' there := by
    obtain ⟨info, old, rfl⟩ := getElem?_modify_eq_some.mp there
    have heard : Heard (s.trace ++ [.updated device]) d info.phantomData := by
      refine (sane.heard d info old).append ?_
      intro data same
      cases same
    split
    · exact heard
    · exact heard
  driven d info' now := by
    obtain ⟨info₁, old, rfl⟩ := getElem?_modify_eq_some.mp now
    split
    · next same =>
        subst same
        have recent := (sane.heard device info there).recent received
        exact .inr ⟨info.phantomData, recent.updatedFrom,
          DataWrite.motorsOn_withButtons _ _ _⟩
    · next different =>
        refine (sane.driven d info₁ old).append ?_
        rintro ⟨⟩
        exact different rfl
  motors := sane.motors.append (by
    intro device data same
    cases same)
  resets := sane.resets.append (by
    intro same
    cases same)
  pressed down := by
    obtain ⟨data, member, clear⟩ := sane.pressed down
    exact ⟨data, List.mem_append_left _ member, clear⟩

/-- New handles for a device. -/
theorem Sane.withHandles (sane : Sane host s) (machine : Machine) (device port : Nat) :
    Sane host (withHandles machine device port s) := by
  have recvOlder : Older (RevEng.withHandles machine device port s).devices
      DeviceInfo.recvHandle (s.nextHandle + 1) :=
    sane.recvOlder.assign (fun _ => by rfl) device
  have xmitOlder : Older (RevEng.withHandles machine device port s).devices
      DeviceInfo.xmitHandle (s.nextHandle + 1 + 1) :=
    (sane.xmitOlder.mono (Nat.le_succ _)).assign (fun _ => by rfl) device
  have recvOwn : Own (RevEng.withHandles machine device port s).devices DeviceInfo.recvHandle :=
    sane.recvOwn.assign sane.recvOlder (fun _ => by rfl) device
  have xmitOwn : Own (RevEng.withHandles machine device port s).devices DeviceInfo.xmitHandle :=
    sane.xmitOwn.assign (sane.xmitOlder.mono (Nat.le_succ _)) (fun _ => by rfl) device
  have modified := sane.modify _ (fun _ => ⟨by rfl, by rfl⟩)
    (recvOlder.mono (Nat.le_add_right _ 2)) (xmitOlder.mono (Nat.le_succ _)) recvOwn xmitOwn
  exact { modified with }

/-- The channels of the table may change at any time. -/
theorem Sane.withChannels (sane : Sane host s) (device : Nat) (found : Option Nat × Option Nat)
    (b : β) : Sane host (withChannels device found b s) := by
  have modified := sane.modify
    (fun info => { info with recvChannel := found.1, xmitChannel := found.2 })
    (fun _ => ⟨rfl, rfl⟩) (sane.recvOlder.modify (fun _ => by rfl) device)
    (sane.xmitOlder.modify (fun _ => by rfl) device) (sane.recvOwn.modify (fun _ => by rfl) device)
    (sane.xmitOwn.modify (fun _ => by rfl) device)
  exact { modified with }

end Handlers

/-! ## The functions keep the invariant -/

/-- The invariant, together with what a function called by libraw1394 leaves as
it is: the handles that receive, and what has happened before. -/
structure Settled {β : Type} (host : Endian) (handles : List (Option Handle)) (past : List Event)
    (s : Omni β) : Prop where
  sane : Sane host s
  handles : s.devices.map DeviceInfo.recvHandle = handles
  past : ∀ e ∈ past, e ∈ s.trace

section Calls

variable {β : Type} {s s' : Omni β} {info : DeviceInfo} {handle : Handle} {u : Unit}
  {machine : Machine} {handles : List (Option Handle)} {past : List Event}

theorem Sane.settled (sane : Sane host s) :
    Settled host (s.devices.map DeviceInfo.recvHandle) s.trace s :=
  ⟨sane, rfl, fun _ member => member⟩

/-- libraw1394 requests some packets, or none. -/
theorem keeps_requestPackets (settled : Settled host handles past s) {requests : Nat}
    (sendable : requests = 0 ∨ Sendable host past device)
    (there : s.devices[device]? = some info) (owns : info.xmitHandle = some handle)
    (returned : requestPackets device handle requests s = .returned u s') :
    Settled host handles past s' := by
  induction requests generalizing s with
  | zero =>
      cases returned
      exact settled
  | succ requests ih =>
      have sendable := sendable.resolve_left (Nat.succ_ne_zero requests)
      rw [requestPackets, Call.bind_apply, xmitHandler_of_own settled.sane.xmitOwn there owns]
        at returned
      have sent : Settled host handles past
          { s with trace := s.trace ++ [.transmitted device info.forceData] } := by
        refine ⟨settled.sane.transmit there (sendable.mono settled.past), settled.handles, ?_⟩
        intro e member
        exact List.mem_append_left _ (settled.past e member)
      exact ih sent (.inr sendable) there returned

theorem keeps_startTransfers (recv xmit : Nat) {prefill : Nat}
    (sendable : prefill = 0 ∨ Sendable host past device) :
    Call.Keeps (Settled host handles past)
      (startTransfers (β := β) device recv xmit prefill) := by
  have keepsInit (handle : Handle) (receiving : Bool) (channel : Nat) (t t' : Omni β) (u : Unit)
      (settled : Settled host handles past t)
      (done : isoInit handle receiving channel t = .returned u t') :
      Settled host handles past t' ∧ t'.devices = t.devices := by
    cases done
    dsimp only
    split
    · exact ⟨settled, rfl⟩
    · exact ⟨⟨{ settled.sane with }, settled.handles, settled.past⟩, rfl⟩
  intro s u s' settled returned
  obtain ⟨info, _, looked, rest₁⟩ := Call.bind_eq_returned.mp returned
  obtain ⟨there, rfl⟩ := deviceInfo_eq_returned.mp looked
  obtain ⟨recvHandle, _, followed, rest₂⟩ := Call.bind_eq_returned.mp rest₁
  obtain ⟨-, rfl⟩ := followHandle_eq_returned.mp followed
  obtain ⟨_, s₁, receives, rest₃⟩ := Call.bind_eq_returned.mp rest₂
  obtain ⟨settled₁, devices₁⟩ := keepsInit _ _ _ _ _ _ settled receives
  obtain ⟨handle, _, followed, rest₄⟩ := Call.bind_eq_returned.mp rest₃
  obtain ⟨owns, rfl⟩ := followHandle_eq_returned.mp followed
  obtain ⟨_, s₂, transmits, rest₅⟩ := Call.bind_eq_returned.mp rest₄
  obtain ⟨settled₂, devices₂⟩ := keepsInit _ _ _ _ _ _ settled₁ transmits
  refine keeps_requestPackets settled₂ sendable ?_ owns rest₅
  rw [devices₂, devices₁]
  exact there

variable [Bus β]

theorem settled_configureDevice {prefill : Nat}
    (sendable : prefill = 0 ∨ Sendable host past device) :
    Call.Keeps (Settled host handles past)
      (configureDevice (β := β) machine device prefill) := by
  refine keeps_configureDevice ?_ ?_ fun recv xmit => keeps_startTransfers recv xmit sendable
  · intro s b settled
    exact ⟨{ settled.sane with }, settled.handles, settled.past⟩
  · intro s found b settled
    exact ⟨settled.sane.withChannels device found b,
      (map_modify_of_same (fun _ => by rfl) s.devices device).trans settled.handles, settled.past⟩

omit [Bus β] in
/-- The device of a handle that receives. -/
theorem Settled.findRecv (settled : Settled host handles past s)
    (owner : handles[device]? = some (some handle)) :
    findRecv s.devices handle = some device := by
  rw [← settled.handles, List.getElem?_map, Option.map_eq_some_iff] at owner
  obtain ⟨info, there, owns⟩ := owner
  exact findRecv_of_own settled.sane.recvOwn there owns

theorem Settled.busresetHandler (settled : Settled host handles past s)
    (owner : handles[device]? = some (some handle)) {prefill : Nat}
    (sendable : prefill = 0 ∨ Sendable host past device)
    (returned : busresetHandler machine handle prefill s = .returned u s') :
    Settled host handles past s' := by
  rw [RevEng.busresetHandler, Call.bind_apply, Call.get_apply, Outcome.andThen_returned,
    settled.findRecv owner] at returned
  obtain ⟨ok, s₁, configured, rest⟩ := Call.bind_eq_returned.mp returned
  rw [initialiseDevice, if_neg Bool.false_ne_true] at configured
  cases rest
  exact settled_configureDevice sendable _ _ _ settled configured

omit [Bus β] in
theorem keeps_openHandles : Call.Keeps (Sane host) (openHandles (β := β) machine device) := by
  intro s ok s' sane returned
  obtain ⟨info, -, rfl, -⟩ := openHandles_eq_returned.mp returned
  exact sane.withHandles machine device info.port

/-- Before the forces have been computed, a big-endian host must not send
any. -/
theorem keeps_initialiseDevice (fullInit : Bool) {prefill : Nat}
    (sendable : prefill = 0 ∨ host = .little) :
    Call.Keeps (Sane host) (initialiseDevice (β := β) machine device fullInit prefill) := by
  have configured : Call.Keeps (Sane host) (configureDevice (β := β) machine device prefill) := by
    intro s b s' sane returned
    exact (settled_configureDevice (sendable.imp_right .inl) s b s' sane.settled returned).sane
  refine Call.keeps_ite ?_ configured
  exact Call.keeps_bind keeps_openHandles fun _ => Call.keeps_ite (Call.keeps_pure _) configured

/-- What libraw1394 delivers keeps the invariant, and its packets are
received. -/
theorem keeps_deliver {events : List RecvEvent} (settled : Settled host handles past s)
    (owner : handles[device]? = some (some handle))
    (sendable : ∀ prefill, .busReset prefill ∈ events →
      prefill = 0 ∨ Sendable host past device)
    (returned : deliver machine device handle events s = .returned u s') :
    Settled host handles past s' ∧ ∀ data, .packet data ∈ events →
      .received device (bytesOf data DataRead.size) ∈ s'.trace := by
  induction events generalizing s past with
  | nil =>
      cases returned
      refine ⟨settled, ?_⟩
      intro data member
      cases member
  | cons event events ih =>
      cases event with
      | packet data =>
          rw [deliver_packet (settled.findRecv owner)] at returned
          -- The packet belongs to the past of the other events.
          have received := settled.sane.receive device (bytesOf data DataRead.size)
          have columns : (s.devices.modify device fun info =>
              { info with phantomData := bytesOf data DataRead.size }).map DeviceInfo.recvHandle =
              handles :=
            (map_modify_of_same (fun _ => by rfl) s.devices device).trans settled.handles
          have later (prefill : Nat) (member : .busReset prefill ∈ events) : prefill = 0 ∨
              Sendable host (s.trace ++ [.received device (bytesOf data DataRead.size)]) device :=
            (sendable prefill (List.mem_cons_of_mem _ member)).imp_right fun before =>
              before.mono fun e old => List.mem_append_left _ (settled.past e old)
          obtain ⟨settled', others⟩ := ih ⟨received, columns, fun _ member => member⟩ later returned
          refine ⟨⟨settled'.sane, settled'.handles, ?_⟩, ?_⟩
          · intro e member
            exact settled'.past e (List.mem_append_left _ (settled.past e member))
          · intro data' member
            rcases List.mem_cons.mp member with same | later
            · cases same
              exact settled'.past _ (List.mem_append_right _ (List.mem_singleton_self _))
            · exact others data' later
      | busReset prefill =>
          have kept : ∃ s₁, Settled host handles past s₁ ∧
              deliver machine device handle events s₁ = .returned u s' := by
            rw [deliver, Call.bind_apply, Call.get_apply, Outcome.andThen_returned] at returned
            split at returned
            · obtain ⟨_, s₁, handled, rest⟩ := Call.bind_eq_returned.mp returned
              exact ⟨s₁, settled.busresetHandler owner (sendable prefill List.mem_cons_self) handled,
                rest⟩
            · exact ⟨s, settled, returned⟩
          obtain ⟨s₁, settled₁, rest⟩ := kept
          obtain ⟨settled', others⟩ := ih settled₁
            (fun prefill member => sendable prefill (List.mem_cons_of_mem _ member)) rest
          refine ⟨settled', ?_⟩
          intro data member
          rcases List.mem_cons.mp member with same | later
          · cases same
          · exact others data later

omit [Bus β] in
theorem Sane.noteClick (sane : Sane host s) (there : s.devices[0]? = some info)
    (received : .received 0 info.phantomData ∈ s.trace)
    (returned : noteClick host info.phantomData s = .returned u s') : Sane host s' := by
  rw [RevEng.noteClick, Call.ite_apply] at returned
  split at returned
  · next down =>
      cases returned
      exact sane.press received down
  · next up =>
      obtain ⟨_, _, looked, rest⟩ := Call.bind_eq_returned.mp returned
      cases looked
      split at rest
      · next pressed =>
          cases rest
          exact sane.release there pressed (Bool.not_eq_false _ ▸ up)
      · cases rest
        exact sane

omit [Bus β] in
/-- The forces of a device from which a packet has been received. -/
theorem Sane.updateForces (sane : Sane host s) {packet : DataRead}
    (received : .received device packet ∈ s.trace)
    (returned : updateForces host device s = .returned u s') : Sane host s' := by
  obtain ⟨info, _, looked, rest₁⟩ := Call.bind_eq_returned.mp returned
  obtain ⟨there, rfl⟩ := deviceInfo_eq_returned.mp looked
  obtain ⟨_, _, stored, rest₂⟩ := Call.bind_eq_returned.mp rest₁
  cases stored
  obtain ⟨_, _, noted, rest₃⟩ := Call.bind_eq_returned.mp rest₂
  cases noted
  have updated := sane.update there received
  split at rest₃
  · next first =>
      subst first
      refine updated.noteClick (getElem?_modify_eq_some.mpr ⟨info, there, if_pos rfl⟩) ?_ rest₃
      exact List.mem_append_left _ ((sane.heard 0 info there).recent received).mem
  · cases rest₃
    exact updated

omit [Bus β] in
/-- The computation is an event. -/
theorem mem_updateForces (returned : updateForces host device s = .returned u s') :
    .updated device ∈ s'.trace := by
  obtain ⟨info, _, looked, rest₁⟩ := Call.bind_eq_returned.mp returned
  obtain ⟨there, rfl⟩ := deviceInfo_eq_returned.mp looked
  obtain ⟨_, _, stored, rest₂⟩ := Call.bind_eq_returned.mp rest₁
  cases stored
  obtain ⟨_, _, noted, rest₃⟩ := Call.bind_eq_returned.mp rest₂
  cases noted
  have keeps : Call.Keeps (fun s : Omni β => .updated device ∈ s.trace)
      (RevEng.noteClick host info.phantomData) := by
    refine Call.keeps_ite (Call.keeps_modify fun s kept => kept) ?_
    refine Call.keeps_bind Call.keeps_get fun t => Call.keeps_ite ?_ (Call.keeps_pure _)
    refine Call.keeps_bind (Call.keeps_modify fun s kept => kept) fun _ => ?_
    exact Call.keeps_modify fun s kept => List.mem_append_left _ kept
  have now : .updated device ∈ s.trace ++ [.updated device] :=
    List.mem_append_right _ (List.mem_singleton_self _)
  split at rest₃
  · exact keeps _ _ _ now rest₃
  · cases rest₃
    exact now

end Calls

/-! ## Runs of the driver -/

section Runs

variable {β : Type}

/-- Both properties of what has happened so far. -/
def Safe (host : Endian) (s : Driver β) : Prop :=
  MotorsSafe host s.omni.trace ∧ ResetsSafe host s.omni.trace

/-- If the forces of a device are about to be computed, a packet of it has been
received, now or before. -/
def HeardFirst (s : Driver β) (choice : Choice) : Prop :=
  ∀ device ready events result, s.point = .visiting device ready →
    choice = .receive events result → wentWrong result = false →
    (∃ data, .packet data ∈ events) ∨ ∃ data, .received device data ∈ s.omni.trace

/-- On a big-endian host, no packets are requested for a device while its
transmission is being started, unless its forces have been computed. -/
def ComputedFirst (host : Endian) (s : Driver β) (choice : Choice) : Prop :=
  host = .little ∨ (∀ prefill, choice = .initialise prefill → prefill = 0) ∧
    ∀ device ready events result prefill, s.point = .visiting device ready →
      choice = .receive events result → .busReset prefill ∈ events →
        prefill = 0 ∨ .updated device ∈ s.omni.trace

/-- The condition on a step. -/
def Cautious (host : Endian) (s : Driver β) (choice : Choice) : Prop :=
  HeardFirst s choice ∧ ComputedFirst host s choice

/-- The invariant of the driver: `main` fetches the packets for a device behind
the computation of its forces. -/
structure Driver.Sane (host : Endian) (s : Driver β) : Prop where
  omni : RevEng.Sane host s.omni
  computed : ∀ device ready, s.point = .transmitting device ready → .updated device ∈ s.omni.trace

theorem sane_start (host : Endian) (bus : β) (found : List (Nat × UInt16)) :
    (Driver.start bus found).Sane host := by
  refine ⟨⟨older_of_null recvHandle_start, older_of_null xmitHandle_start,
    own_of_null recvHandle_start, own_of_null xmitHandle_start, ?_, ?_, justified_nil,
    justified_nil, nofun⟩, ?_⟩
  · intro d info there
    obtain ⟨port, node, rfl⟩ := exists_foundDevice there
    exact .inl ⟨nofun, rfl⟩
  · intro d info there
    obtain ⟨port, node, rfl⟩ := exists_foundDevice there
    refine .inl ⟨nofun, ?_⟩
    rintro rfl
    exact DataWrite.motorsOn_fillDefaultData .little
  · intro device ready here
    cases found with
    | nil => cases here
    | cons place found => cases here

theorem keeps_noteDocked {host : Endian} : Call.Keeps (Sane host) (noteDocked (β := β) host) := by
  refine Call.keeps_bind keeps_deviceInfo fun info => ?_
  refine Call.keeps_ite (Call.keeps_modify ?_) (Call.keeps_pure _)
  intro s sane
  exact { sane with }

variable [Bus β] {s s' : Omni β} {machine : Machine} {point point' : Point} {choice : Choice}

/-- One step of the driver. -/
theorem Driver.Sane.call (sane : (⟨s, point⟩ : Driver β).Sane machine.endian)
    (met : Cautious machine.endian ⟨s, point⟩ choice)
    (returned : driverCall machine point choice s = .returned point' s') :
    (⟨s', point'⟩ : Driver β).Sane machine.endian := by
  obtain ⟨heard, computed⟩ := met
  unfold RevEng.driverCall at returned
  split at returned
  · next device prefill =>
      have sendable : prefill = 0 ∨ machine.endian = .little := by
        rcases computed with little | ⟨none, -⟩
        · exact .inr little
        · exact .inl (none prefill rfl)
      obtain ⟨_, s₁, initialised, rest⟩ := Call.bind_eq_returned.mp returned
      have sane₁ := keeps_initialiseDevice true sendable _ _ _ sane.omni initialised
      split at rest
      · cases rest
        exact ⟨sane₁, nofun⟩
      · obtain ⟨_, _, looked, rest⟩ := Call.bind_eq_returned.mp rest
        cases looked
        split at rest <;> cases rest <;> exact ⟨sane₁, nofun⟩
  · next ready =>
      obtain ⟨_, s₁, noted, rest⟩ := Call.bind_eq_returned.mp returned
      have sane₁ := keeps_noteDocked _ _ _ sane.omni noted
      split at rest <;> cases rest <;> exact ⟨sane₁, nofun⟩
  · next device ready events result =>
      obtain ⟨info, _, looked, rest₁⟩ := Call.bind_eq_returned.mp returned
      obtain ⟨there, rfl⟩ := deviceInfo_eq_returned.mp looked
      split at rest₁
      · cases rest₁
      · obtain ⟨handle, _, followed, rest₂⟩ := Call.bind_eq_returned.mp rest₁
        obtain ⟨owns, rfl⟩ := followHandle_eq_returned.mp followed
        obtain ⟨_, s₁, delivered, rest₃⟩ := Call.bind_eq_returned.mp rest₂
        have owner : (s.devices.map DeviceInfo.recvHandle)[device]? = some (some handle) := by
          rw [List.getElem?_map, there, Option.map_some, owns]
        have sendable (prefill : Nat) (member : .busReset prefill ∈ events) :
            prefill = 0 ∨ Sendable machine.endian s.trace device := by
          rcases computed with little | ⟨-, behind⟩
          · exact .inr (.inl little)
          · exact (behind device ready events result prefill rfl rfl member).imp_right .inr
        obtain ⟨settled, packets⟩ := keeps_deliver sane.omni.settled owner sendable delivered
        split at rest₃
        · cases rest₃
          exact ⟨settled.sane, nofun⟩
        · next wentWell =>
            obtain ⟨_, s₂, updated, rest₄⟩ := Call.bind_eq_returned.mp rest₃
            cases rest₄
            have wentWell := Bool.not_eq_true _ ▸ wentWell
            refine ⟨?_, ?_⟩
            · rcases heard device ready events result rfl rfl wentWell with
                ⟨data, now⟩ | ⟨data, before⟩
              · exact settled.sane.updateForces (packets data now) updated
              · exact settled.sane.updateForces (settled.past _ before) updated
            · rintro _ _ ⟨⟩
              exact mem_updateForces updated
  · next device ready requests result =>
      obtain ⟨info, _, looked, rest₁⟩ := Call.bind_eq_returned.mp returned
      obtain ⟨there, rfl⟩ := deviceInfo_eq_returned.mp looked
      obtain ⟨handle, _, followed, rest₂⟩ := Call.bind_eq_returned.mp rest₁
      obtain ⟨owns, rfl⟩ := followHandle_eq_returned.mp followed
      obtain ⟨_, s₁, requested, rest₃⟩ := Call.bind_eq_returned.mp rest₂
      have settled := keeps_requestPackets sane.omni.settled
        (.inr (.inr (sane.computed device ready rfl))) there owns requested
      split at rest₃ <;> cases rest₃ <;> exact ⟨settled.sane, nofun⟩
  · next device ready =>
      obtain ⟨_, _, looked, rest₁⟩ := Call.bind_eq_returned.mp returned
      cases looked
      split at rest₁
      · split at rest₁
        · cases rest₁
        · cases rest₁
          exact ⟨sane.omni, nofun⟩
      · obtain ⟨info, _, looked, rest₂⟩ := Call.bind_eq_returned.mp rest₁
        obtain ⟨-, rfl⟩ := deviceInfo_eq_returned.mp looked
        obtain ⟨_, _, looked, rest₃⟩ := Call.bind_eq_returned.mp rest₂
        cases looked
        split at rest₃ <;> cases rest₃ <;> exact ⟨sane.omni, nofun⟩
  · cases returned

/-- **Motor safety.**  For any number of devices, on a host of either byte order,
and whatever `select` reports, libraw1394 delivers and the registers answer: as
long as the forces of a device are computed only after a packet of it has
arrived, and on a big-endian host are sent only after they have been computed,
its motors are only switched on by its button 1, and the bus is only reset by a
click with button 2 of the first device. -/
theorem always_safe_of_heard (machine : Machine) (bus : β) (found : List (Nat × UInt16))
    (choices : List Choice)
    (met : (driver machine).StepsMeet (Cautious machine.endian) (Driver.start bus found) choices) :
    (driver machine).Always (Safe machine.endian) (Driver.start bus found) choices := by
  refine System.always_of_stepsMeet (sane_start machine.endian bus found) ?_ ?_ met
  · intro s sane
    exact ⟨sane.omni.motors, sane.omni.resets⟩
  · rintro ⟨s, point⟩ choice s' sane met stepped
    cases called : driverCall machine point choice s with
    | returned point' omni =>
        simp only [driver, called, Option.some.injEq] at stepped
        subst stepped
        exact sane.call met called
    | thrown e omni => cases e
    | undefined => simp [driver, called] at stepped

end Runs

/-- A packet whose buttons are clear is received, and the motors are switched
on. -/
theorem always_safe_of_heard_once :
    (driver oneDevice).Always (Safe .little) (Driver.start answering [(0, 0xffc0)])
      [.initialise 1, .select (some fun _ => true), .receive [.packet fun _ => 0] none,
        .transmit 1 none] := by
  refine always_safe_of_heard oneDevice answering [(0, 0xffc0)] _ ?_
  refine ⟨⟨?_, .inl rfl⟩, fun s₁ _ => ⟨⟨?_, .inl rfl⟩, fun s₂ _ => ⟨⟨?_, .inl rfl⟩,
    fun s₃ _ => ⟨⟨?_, .inl rfl⟩, fun s₄ _ => trivial⟩⟩⟩⟩
  · rintro device ready events result - ⟨⟩
  · rintro device ready events result - ⟨⟩
  · rintro device ready events result - ⟨⟩ -
    exact .inl ⟨_, List.mem_singleton_self _⟩
  · rintro device ready events result - ⟨⟩

/-- The descriptor becomes ready because of a bus reset; no packet has arrived
yet. -/
def resetFirst : List Choice :=
  [.initialise 0, .select (some fun _ => true), .receive [.busReset 0] none, .transmit 1 none]

theorem energised_by_bus_reset :
    ¬∀ (machine : Machine) (bus : ManagedBus) (found : List (Nat × UInt16))
      (choices : List Choice),
        (driver machine).Always (Safe machine.endian) (Driver.start bus found) choices := by
  intro claim
  have always := claim oneDevice answering [(0, 0xffc0)] resetFirst
  have runs : ((driver oneDevice).run (Driver.start answering [(0, 0xffc0)]) resetFirst).map
      (fun s => s.omni.trace) =
      some [.updated 0, .transmitted 0 (DataWrite.fillDefaultData.withButtons .little .zero)] := by
    decide +kernel
  obtain ⟨s, reached, trace⟩ := Option.map_eq_some_iff.mp runs
  have safe := System.always_iff_prefix.mp always resetFirst List.prefix_rfl s reached
  have motors := safe.1
  rw [trace] at motors
  have on : (DataWrite.fillDefaultData.withButtons .little .zero).motorsOn .little = true := by
    rw [DataWrite.motorsOn_withButtons, DataRead.button1, DataRead.bits_zero, Bool.not_false]
  obtain ⟨packet, updated, -⟩ := motors [.updated 0] _ [] rfl 0 _ rfl on
  obtain ⟨before, after, split, -, recent⟩ := updated
  have member : .received 0 packet ∈ [Event.updated 0] :=
    split ▸ List.mem_append_left _ recent.mem
  cases List.mem_singleton.mp member

end RevEng
