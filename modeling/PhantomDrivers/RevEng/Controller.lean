import PhantomDrivers.RevEng.MotorSafety
import PhantomDrivers.RevEng.SessionEnd

/-!
# What the reference driver is for

Behind the handles, the retries and the table, the reference driver is a small
controller.  It remembers the last packet of each device; when it computes the
forces of a device, they are the default forces with three bits that show the
buttons in that packet; it sends these forces, and nothing else, until they are
computed again; and a click with button 2 of the first device resets the bus, at
once.

* `View`, `controller` — the controller: a system whose actions are the events.
* `Mirrors` — the table of the driver shows the state of the controller.
* `session_refines_controller` — the events of every session are a run of the
  controller, so what is sent is determined by what was received.
* `left_by_docking` — the main loop is left for good by undocking and docking
  the first device.
-/

namespace RevEng

open Semantics Raw1394

/-! ## The controller -/

/-- The state of the controller. -/
structure View where
  /-- the last packet of each device -/
  known : Nat → DataRead
  /-- the forces of each device -/
  forces : Nat → DataWrite
  /-- button 2 of the first device was pressed -/
  pressed : Bool
  /-- it has just been released: a bus reset is due -/
  clicked : Bool

namespace View

/-- Nothing is known yet. -/
def initial : View := ⟨fun _ => .zero, fun _ => .fillDefaultData, false, false⟩

/-- The forces of a device are computed. -/
def update (v : View) (host : Endian) (device : Nat) : View where
  known := v.known
  forces := Function.update v.forces device
    (DataWrite.fillDefaultData.withButtons host (v.known device))
  pressed := if device = 0 then !(v.known 0).button2 host else v.pressed
  clicked := device = 0 && v.pressed && (v.known 0).button2 host

theorem forces_update_self (v : View) (host : Endian) (device : Nat) :
    (v.update host device).forces device =
      DataWrite.fillDefaultData.withButtons host (v.known device) :=
  Function.update_self _ _ _

theorem forces_update_of_ne (v : View) (host : Endian) {device d : Nat} (other : d ≠ device) :
    (v.update host device).forces d = v.forces d :=
  Function.update_of_ne other _ _

end View

/-- The controller.  Packets may arrive and forces may be computed at any time,
but for a bus reset that is due. -/
def controller (host : Endian) : System View Event where
  step v
    | .received device data =>
        if v.clicked then none else some { v with known := Function.update v.known device data }
    | .updated device => if v.clicked then none else some (v.update host device)
    | .transmitted device data =>
        if v.clicked then none else if data = v.forces device then some v else none
    | .reset => if v.clicked then some { v with clicked := false } else none

/-! ## The bits of the forces -/

namespace DataWrite

variable {data : DataWrite} {host : Endian} {a b : DataRead}

theorem ext_bits {other : DataWrite} (bits : data.bits host = other.bits host)
    (rest : { data with status := other.status } = other) : data = other := by
  have status : data.status = other.status := (host.flags 16).symm.injective bits
  rw [← rest, ← status]

theorem bits_withButtons (i : Fin 16) : (data.withButtons host a).bits host i =
    if i = 1 then !a.button2 host else if i = 0 then !a.button1 host
    else if i = 3 then !a.button1 host else data.bits host i := by
  rw [withButtons, bits_setBit, bits_setBit, bits_setBit, Function.update_apply,
    Function.update_apply, Function.update_apply]

/-- The forces only remember the buttons they were computed from last. -/
theorem withButtons_withButtons :
    (data.withButtons host a).withButtons host b = data.withButtons host b := by
  refine @ext_bits _ host _ ?_ rfl
  funext i
  rw [bits_withButtons, bits_withButtons, bits_withButtons]
  split_ifs <;> rfl

end DataWrite

/-! ## What the controller knows -/

/-- It knows the most recent packet of each device. -/
theorem heard_of_run {host : Endian} {trace : List Event} {v : View}
    (accepted : (controller host).run .initial trace = some v) (device : Nat) : Heard trace device (v.known device) := by
  induction trace using List.reverseRecOn generalizing v with
  | nil =>
      cases accepted
      exact .inl ⟨nofun, rfl⟩
  | append_singleton trace event ih =>
      rw [System.run_append, Option.bind_eq_some_iff] at accepted
      obtain ⟨v₁, before, last⟩ := accepted
      have heard := ih before
      obtain ⟨v', stepped, ⟨⟩⟩ := System.run_cons_eq_some.mp last
      cases event with
      | received d data =>
          obtain ⟨-, stepped⟩ := Option.ite_none_left_eq_some.mp stepped
          cases stepped
          by_cases same : device = d
          · subst same
            dsimp only
            rw [Function.update_self]
            exact heard_received
          · dsimp only
            rw [Function.update_of_ne same]
            refine heard.append ?_
            rintro _ ⟨⟩
            exact same rfl
      | updated d =>
          obtain ⟨-, stepped⟩ := Option.ite_none_left_eq_some.mp stepped
          cases stepped
          exact heard.append nofun
      | transmitted d data =>
          obtain ⟨-, stepped⟩ := Option.ite_none_left_eq_some.mp stepped
          obtain ⟨-, stepped⟩ := Option.ite_none_right_eq_some.mp stepped
          cases stepped
          exact heard.append nofun
      | reset =>
          obtain ⟨-, stepped⟩ := Option.ite_none_right_eq_some.mp stepped
          cases stepped
          exact heard.append nofun

/-! ## The table shows the controller -/

/-- The first device was undocked once. -/
def Undocked (host : Endian) (trace : List Event) : Prop :=
  ∃ data, .received 0 data ∈ trace ∧ DataRead.docked data host = true

/-- The events are a run of the controller, and the table shows the data of its
state. -/
structure Shows {β : Type} (host : Endian) (v : View) (s : Omni β) : Prop where
  accepted : (controller host).run .initial s.trace = some v
  undocked : s.phantomDocked = true → Undocked host s.trace
  rows : ∀ d info, s.devices[d]? = some info →
    v.known d = info.phantomData ∧ v.forces d = info.forceData
  plain : ∀ d, v.forces d = .fillDefaultData ∨
    ∃ data, v.forces d = DataWrite.fillDefaultData.withButtons host data

/-- The same for the whole state, while no bus reset is due. -/
structure Mirrors {β : Type} (host : Endian) (v : View) (s : Omni β) : Prop
    extends Shows host v s where
  idle : v.clicked = false
  pressed : v.pressed = s.button2Pressed

theorem Undocked.append {host : Endian} {trace : List Event} (undocked : Undocked host trace)
    (event : Event) : Undocked host (trace ++ [event]) := by
  obtain ⟨data, received, away⟩ := undocked
  exact ⟨data, List.mem_append_left _ received, away⟩

namespace Shows

variable {β : Type} {host : Endian} {v v' : View} {s : Omni β} {device : Nat}
  {info : DeviceInfo} {event : Event}

/-- A device that looks undocked has been undocked: static memory looks
docked. -/
theorem undocked_of_row (shows : Shows host v s) (there : s.devices[0]? = some info)
    (away : info.phantomData.docked host = true) : Undocked host s.trace := by
  have heard := heard_of_run shows.accepted 0
  rw [(shows.rows 0 info there).1] at heard
  rcases heard with ⟨-, zero⟩ | recent
  · rw [zero, DataRead.docked, DataRead.bits_zero] at away
    cases away
  · exact ⟨info.phantomData, recent.mem, away⟩

theorem accepted_append (shows : Shows host v s) (step : (controller host).step v event = some v') :
    (controller host).run .initial (s.trace ++ [event]) = some v' := by
  rw [System.run_append, shows.accepted, Option.bind_some, System.run_cons, step]
  rfl

/-- Buttons that are pressed again make the old forces forgotten. -/
theorem withButtons (shows : Shows host v s) (there : s.devices[device]? = some info) :
    DataWrite.fillDefaultData.withButtons host (v.known device) =
      info.forceData.withButtons host info.phantomData := by
  obtain ⟨known, forces⟩ := shows.rows device info there
  rw [← known, ← forces]
  rcases shows.plain device with plain | ⟨data, plain⟩
  · rw [plain]
  · rw [plain, DataWrite.withButtons_withButtons]

/-- The forces are computed. -/
theorem update (shows : Shows host v s) (idle : v.clicked = false)
    (there : s.devices[device]? = some info) :
    Shows host (v.update host device) { s with
      devices := s.devices.modify device fun force =>
        { force with forceData := force.forceData.withButtons host info.phantomData }
      trace := s.trace ++ [.updated device] } := by
  refine ⟨shows.accepted_append ?_, fun noted => (shows.undocked noted).append _, ?_, ?_⟩
  · show (if v.clicked then none else _) = _
    rw [idle, if_neg Bool.false_ne_true]
  · intro d info' now
    obtain ⟨info₁, old, rfl⟩ := getElem?_modify_eq_some.mp now
    obtain ⟨known, forces⟩ := shows.rows d info₁ old
    split
    · next same =>
        subst same
        obtain rfl := Option.some.inj (there.symm.trans old)
        exact ⟨known, (v.forces_update_self host device).trans (shows.withButtons there)⟩
    · next different =>
        exact ⟨known, (v.forces_update_of_ne host (Ne.symm different)).trans forces⟩
  · intro d
    by_cases same : d = device
    · subst same
      exact .inr ⟨v.known d, v.forces_update_self host d⟩
    · rw [v.forces_update_of_ne host same]
      exact shows.plain d

/-- The bus reset that was due. -/
theorem reset (shows : Shows host v s) (due : v.clicked = true) (button2Pressed : Bool) :
    Shows host { v with clicked := false }
      { s with button2Pressed, trace := s.trace ++ [.reset] } := by
  refine ⟨shows.accepted_append ?_, fun noted => (shows.undocked noted).append _, shows.rows,
    shows.plain⟩
  exact if_pos due

end Shows

namespace Mirrors

variable {β : Type} {host : Endian} {v v' : View} {s s' : Omni β} {found : List (Nat × UInt16)}
  {opened device : Nat} {info : DeviceInfo} {handle : Handle} {event : Event} {u : Unit}

/-- A change of a row that leaves the data as they are. -/
theorem modify (mirrors : Mirrors host v s) (f : DeviceInfo → DeviceInfo)
    (same : ∀ info, (f info).phantomData = info.phantomData ∧ (f info).forceData = info.forceData) :
    Mirrors host v { s with devices := s.devices.modify device f } := by
  refine ⟨⟨mirrors.accepted, mirrors.undocked, ?_, mirrors.plain⟩, mirrors.idle, mirrors.pressed⟩
  intro d info' now
  obtain ⟨info, old, rfl⟩ := getElem?_modify_eq_some.mp now
  split
  · rw [(same info).1, (same info).2]
    exact mirrors.rows d info old
  · exact mirrors.rows d info old

/-- The forces of a device are sent. -/
theorem transmit (mirrors : Mirrors host v s) (there : s.devices[device]? = some info) :
    Mirrors host v { s with trace := s.trace ++ [.transmitted device info.forceData] } := by
  refine ⟨⟨mirrors.accepted_append ?_, fun noted => (mirrors.undocked noted).append _, mirrors.rows,
    mirrors.plain⟩, mirrors.idle, mirrors.pressed⟩
  show (if v.clicked then none else if _ = _ then some v else none) = some v
  rw [mirrors.idle, if_neg Bool.false_ne_true, if_pos (mirrors.rows device info there).2.symm]

/-- A packet is received and stored. -/
theorem receive (mirrors : Mirrors host v s) (device : Nat) (data : DataRead) :
    Mirrors host { v with known := Function.update v.known device data }
      { s with
        devices := s.devices.modify device fun info => { info with phantomData := data }
        trace := s.trace ++ [.received device data] } := by
  refine ⟨⟨mirrors.accepted_append ?_, fun noted => (mirrors.undocked noted).append _, ?_,
    mirrors.plain⟩, mirrors.idle, mirrors.pressed⟩
  · show (if v.clicked then none else _) = _
    rw [mirrors.idle, if_neg Bool.false_ne_true]
  · intro d info' now
    obtain ⟨info, old, rfl⟩ := getElem?_modify_eq_some.mp now
    obtain ⟨known, forces⟩ := mirrors.rows d info old
    split
    · next same =>
        subst same
        exact ⟨Function.update_self _ _ _, forces⟩
    · next different =>
        refine ⟨?_, forces⟩
        dsimp only
        rw [Function.update_of_ne (Ne.symm different)]
        exact known

theorem requestPackets (mirrors : Mirrors host v s) (own : Own s.devices DeviceInfo.xmitHandle)
    {requests : Nat} (there : s.devices[device]? = some info)
    (owns : info.xmitHandle = some handle)
    (returned : requestPackets device handle requests s = .returned u s') : Mirrors host v s' := by
  induction requests generalizing s with
  | zero =>
      cases returned
      exact mirrors
  | succ requests ih =>
      rw [RevEng.requestPackets, Call.bind_apply, xmitHandler_of_own own there owns] at returned
      exact ih (mirrors.transmit there) own there returned

theorem startTransfers (recv xmit prefill : Nat) :
    Call.Keeps (fun s : Omni β => Holding found opened 0 s ∧ ∃ v, Mirrors host v s)
      (startTransfers device recv xmit prefill) := by
  rintro s u s' ⟨holding, v, mirrors⟩ returned
  refine ⟨keeps_startTransfers_holding recv xmit prefill s u s' holding returned, v, ?_⟩
  obtain ⟨info, _, looked, rest₁⟩ := Call.bind_eq_returned.mp returned
  obtain ⟨there, rfl⟩ := deviceInfo_eq_returned.mp looked
  obtain ⟨recvHandle, _, followed, rest₂⟩ := Call.bind_eq_returned.mp rest₁
  obtain ⟨receives, rfl⟩ := followHandle_eq_returned.mp followed
  rw [Call.bind_apply, isoInit_apply, Outcome.andThen_returned] at rest₂
  obtain ⟨xmitHandle, _, followed, rest₃⟩ := Call.bind_eq_returned.mp rest₂
  obtain ⟨transmits, rfl⟩ := followHandle_eq_returned.mp followed
  rw [Call.bind_apply, isoInit_apply, Outcome.andThen_returned] at rest₃
  have started : Mirrors host v { s with
      contexts := initContext (initContext s.contexts recvHandle true recv) xmitHandle false
        xmit } := { mirrors with }
  exact started.requestPackets holding.xmitOwn there transmits rest₃

variable [Bus β] {machine : Machine}

theorem configureDevice (prefill : Nat) :
    Call.Keeps (fun s : Omni β => Holding found opened 0 s ∧ ∃ v, Mirrors host v s)
      (configureDevice machine device prefill) := by
  refine keeps_configureDevice ?_ ?_ fun recv xmit => startTransfers recv xmit prefill
  · rintro s b ⟨holding, v, mirrors⟩
    exact ⟨{ holding with }, v, { mirrors with }⟩
  · rintro s channels b ⟨holding, v, mirrors⟩
    have shown : Mirrors host v { s with devices := s.devices.modify device fun info =>
        { info with recvChannel := channels.1, xmitChannel := channels.2 } } :=
      mirrors.modify _ fun _ => ⟨rfl, rfl⟩
    exact ⟨holding.withChannels device channels b, v, { shown with }⟩

/-- What libraw1394 delivers through the handle of a device. -/
theorem deliver {port : Nat} {node : UInt16} (place : found[device]? = some (port, node))
    (early : device < opened) (events : List RecvEvent) :
    Call.Keeps (fun s : Omni β => Holding found opened 0 s ∧ ∃ v, Mirrors host v s)
      (deliver machine device ⟨3 * device, port⟩ events) := by
  induction events with
  | nil => exact Call.keeps_pure _
  | cons event events ih =>
      cases event with
      | packet data =>
          rintro s u s' ⟨holding, v, mirrors⟩ returned
          rw [deliver_packet (holding.findRecv place early)] at returned
          have inert : Inert (Holding found opened 0 : Omni β → Prop) :=
            inert_holding found opened 0
          exact ih _ u s' ⟨inert.trace _ _ (inert.data s device _ (fun _ => ⟨_, _, rfl⟩) holding),
            _, mirrors.receive device _⟩ returned
      | busReset prefill =>
          refine Call.keeps_bind Call.keeps_get fun s => ?_
          split
          · refine Call.keeps_bind ?_ fun _ => ih
            exact Inert.busresetHandler (fun _ prefill => configureDevice prefill) prefill
          · exact ih

omit [Bus β] in
/-- A click with button 2 resets the bus at once. -/
theorem noteClick (shows : Shows host (v.update host 0) s) (there : s.devices[0]? = some info)
    (pressed : v.pressed = s.button2Pressed)
    (returned : noteClick host info.phantomData s = .returned u s') : ∃ v, Mirrors host v s' := by
  have known : v.known 0 = info.phantomData := (shows.rows 0 info there).1
  have clicked : (v.update host 0).clicked = (v.pressed && info.phantomData.button2 host) := by
    rw [← known]
    rfl
  have down : (v.update host 0).pressed = !info.phantomData.button2 host := by
    rw [← known]
    rfl
  rw [RevEng.noteClick, Call.ite_apply] at returned
  split at returned
  · next isDown =>
      cases returned
      rw [isDown] at clicked down
      exact ⟨v.update host 0, { shows with }, clicked.trans (Bool.and_false _), down⟩
  · next isUp =>
      rw [Bool.not_eq_false] at isUp
      rw [isUp, Bool.and_true, pressed] at clicked
      rw [isUp] at down
      obtain ⟨_, _, looked, rest⟩ := Call.bind_eq_returned.mp returned
      cases looked
      split at rest
      · next wasDown =>
          cases rest
          exact ⟨_, shows.reset (clicked.trans wasDown) false, rfl, down⟩
      · next wasUp =>
          cases rest
          rw [Bool.not_eq_true] at wasUp
          exact ⟨v.update host 0, shows, clicked.trans wasUp, down.trans wasUp.symm⟩

omit [Bus β] in
theorem updateForces : Call.Keeps (fun s : Omni β => Holding found opened 0 s ∧ ∃ v, Mirrors host v s)
    (updateForces host device) := by
  rintro s u s' ⟨holding, v, mirrors⟩ returned
  refine ⟨(inert_holding found opened 0).updateForces s u s' holding returned, ?_⟩
  obtain ⟨info, _, looked, rest₁⟩ := Call.bind_eq_returned.mp returned
  obtain ⟨there, rfl⟩ := deviceInfo_eq_returned.mp looked
  obtain ⟨_, _, stored, rest₂⟩ := Call.bind_eq_returned.mp rest₁
  cases stored
  obtain ⟨_, _, noted, rest₃⟩ := Call.bind_eq_returned.mp rest₂
  cases noted
  have shows := mirrors.update mirrors.idle there
  split at rest₃
  · next first =>
      subst first
      have now : (s.devices.modify 0 fun force =>
          { force with forceData := force.forceData.withButtons host info.phantomData })[0]? =
          some { info with forceData := info.forceData.withButtons host info.phantomData } :=
        getElem?_modify_eq_some.mpr ⟨info, there, if_pos rfl⟩
      exact noteClick shows now mirrors.pressed rest₃
  · next other =>
      cases rest₃
      refine ⟨v.update host device, shows, ?_, (if_neg other).trans mirrors.pressed⟩
      show (decide (device = 0) && v.pressed && (v.known 0).button2 host) = false
      rw [decide_eq_false other, Bool.false_and, Bool.false_and]

omit [Bus β] in
theorem noteDocked : Call.Keeps (fun s : Omni β => Holding found opened 0 s ∧ ∃ v, Mirrors host v s)
    (noteDocked host) := by
  rintro s u s' ⟨holding, v, mirrors⟩ returned
  obtain ⟨info, _, looked, rest⟩ := Call.bind_eq_returned.mp returned
  obtain ⟨there, rfl⟩ := deviceInfo_eq_returned.mp looked
  split at rest
  · next away =>
      cases rest
      exact ⟨{ holding with }, v,
        { mirrors with undocked := fun _ => mirrors.undocked_of_row there away }⟩
  · cases rest
    exact ⟨holding, v, mirrors⟩

/-- One step of the main loop. -/
theorem driverCall (all : found.length ≤ opened) {point : Point}
    (running : ∀ device, point ≠ .initialising device) (choice : Choice) :
    Call.Keeps (fun s : Omni β => Holding found opened 0 s ∧ ∃ v, Mirrors machine.endian v s)
      (driverCall machine point choice) := by
  unfold RevEng.driverCall
  split
  · next device prefill => exact absurd rfl (running device)
  · refine Call.keeps_bind noteDocked fun _ => ?_
    · split
      · exact Call.keeps_pure _
      · exact Call.keeps_pure _
  · next device ready events result =>
      rintro s point' s' sound returned
      obtain ⟨info, handle, s₁, there, owns, delivered, ended⟩ := driverCall_receive_cases returned
      have inside := Nat.lt_of_lt_of_le (sound.1.lt_of_row there) all
      have own := sound.1.handles device info there inside
      obtain rfl := Option.some.inj (own.recv.symm.trans owns)
      have sound₁ := deliver (sound.1.place there) inside events s _ s₁ sound delivered
      rcases ended with ⟨-, rfl, rfl⟩ | ⟨-, updated, rfl⟩
      · exact sound₁
      · exact updateForces s₁ _ _ sound₁ updated
  · next device ready requests result =>
      rintro s point' s' ⟨holding, v, mirrors⟩ returned
      obtain ⟨info, _, looked, rest₁⟩ := Call.bind_eq_returned.mp returned
      obtain ⟨there, rfl⟩ := deviceInfo_eq_returned.mp looked
      obtain ⟨handle, _, followed, rest₂⟩ := Call.bind_eq_returned.mp rest₁
      obtain ⟨owns, rfl⟩ := followHandle_eq_returned.mp followed
      obtain ⟨_, s₁, requested, rest₃⟩ := Call.bind_eq_returned.mp rest₂
      have holding₁ := (inert_holding found opened 0).requestPackets requests s _ s₁ holding requested
      have mirrors₁ := mirrors.requestPackets holding.xmitOwn there owns requested
      split at rest₃
      · cases rest₃
        exact ⟨holding₁, v, mirrors₁⟩
      · cases rest₃
        exact ⟨holding₁, v, mirrors₁⟩
  · next device ready =>
      refine Call.keeps_bind Call.keeps_get fun s => ?_
      split
      · exact Call.keeps_ite Call.keeps_undefined (Call.keeps_pure _)
      · refine Call.keeps_bind keeps_deviceInfo fun info => ?_
        refine Call.keeps_bind Call.keeps_get fun s => ?_
        exact Call.keeps_ite (Call.keeps_pure _) (Call.keeps_pure _)
  · exact Call.keeps_undefined

end Mirrors

/-! ## Whole sessions -/

section Sessions

variable {β : Type} {s s' : Session β} {found : List (Nat × UInt16)} {host : Endian}
  {machine : Machine} {choice : Choice}

/-- The last packet of the first device shows it docked, and an earlier one
undocked. -/
def LeftByDocking (host : Endian) (trace : List Event) : Prop :=
  ∃ before docked after, trace = before ++ .received 0 docked :: after ∧
    DataRead.docked docked host = false ∧ Undocked host before ∧
      ∀ data, .received 0 data ∉ after

theorem leftByDocking_of_heard {trace : List Event} {data : DataRead} (heard : Heard trace 0 data)
    (undocked : Undocked host trace) (docked : data.docked host = false) :
    LeftByDocking host trace := by
  obtain ⟨away, received, isAway⟩ := undocked
  obtain ⟨before, after, rfl, -, later⟩ := heard.recent received
  refine ⟨before, data, after, rfl, docked, ⟨away, ?_, isAway⟩, fun other member =>
    later _ member ⟨other, rfl⟩⟩
  rcases List.mem_append.mp received with inside | inside
  · exact inside
  · rcases List.mem_cons.mp inside with same | inside
    · cases same
      rw [docked] at isAway
      cases isAway
    · exact absurd ⟨away, rfl⟩ (later _ inside)

/-- The events of the session are a run of the controller; as long as the main
loop goes on, the handles are known. -/
structure Session.Refines (host : Endian) (found : List (Nat × UInt16)) (s : Session β) : Prop where
  mirrors : ∃ v, Mirrors host v s.omni
  holding : ∀ point, s.stage = .running point → Holding found (readyAt found point) 0 s.omni
  left : s.stage.BehindLoop → LeftByDocking host s.omni.trace

theorem refines_start (host : Endian) (bus : β) (found : List (Nat × UInt16)) :
    (Session.start bus found).Refines host found := by
  refine ⟨⟨.initial, ⟨rfl, nofun, ?_, fun _ => .inl rfl⟩, rfl, rfl⟩, ?_, ?_⟩
  · intro d info there
    obtain ⟨port, node, rfl⟩ := exists_foundDevice there
    exact ⟨rfl, rfl⟩
  · intro point running
    cases found with
    | nil => cases running
    | cons place found =>
        cases running
        exact holding_start bus _
  · intro behind
    cases found with
    | nil => exact behind.elim
    | cons place found => exact behind.elim

variable [Bus β]

/-- A device is set up for the first time. -/
theorem Mirrors.initialise {v : View} {s s' : Omni β} {device prefill : Nat} {ok : Bool}
    (mirrors : Mirrors machine.endian v s) (holding : Holding found device 0 s)
    (returned : initialiseDevice machine device true prefill s = .returned ok s') :
    device < found.length ∧ Holding found (device + 1) 0 s' ∧ ∃ v, Mirrors machine.endian v s' := by
  obtain ⟨opened, s₁, opens, rest⟩ := Call.bind_eq_returned.mp returned
  obtain ⟨info, there, rfl, -⟩ := openHandles_eq_returned.mp opens
  have holding₁ : Holding found (device + 1) 0 (withHandles machine device info.port s) :=
    holding.withHandles there
  have mirrors₁ : Mirrors machine.endian v (withHandles machine device info.port s) := by
    refine ⟨⟨mirrors.accepted, mirrors.undocked, ?_, mirrors.plain⟩, mirrors.idle, mirrors.pressed⟩
    intro d info' now
    obtain ⟨info₁, old, rfl⟩ := getElem?_modify_eq_some.mp now
    split
    · exact mirrors.rows d info₁ old
    · exact mirrors.rows d info₁ old
  refine ⟨holding.lt_of_row there, ?_⟩
  cases opened with
  | false =>
      cases rest
      exact ⟨holding₁, v, mirrors₁⟩
  | true => exact Mirrors.configureDevice prefill _ ok s' ⟨holding₁, v, mirrors₁⟩ rest

/-- A step of the main loop, or in front of it. -/
theorem Session.Refines.driverCall {point point' : Point} {omni omni' : Omni β} {v : View}
    {destroyed : List Handle} (mirrors : Mirrors machine.endian v omni)
    (holding : Holding found (readyAt found point) 0 omni)
    (called : driverCall machine point choice omni = .returned point' omni') :
    Session.Refines machine.endian found ⟨omni', destroyed, .next point choice point'⟩ := by
  by_cases first : ∃ device, point = .initialising device
  · obtain ⟨device, rfl⟩ := first
    cases choice with
    | initialise prefill =>
        have holding : Holding found device 0 omni := holding
        obtain ⟨ok, initialised, outcome⟩ := driverCall_initialise_cases called
        obtain ⟨inside, holding', mirrors'⟩ := mirrors.initialise holding initialised
        rcases outcome with ⟨-, rfl⟩ | ⟨-, -, rfl⟩ | ⟨-, last, rfl⟩
        · exact ⟨mirrors', nofun, False.elim⟩
        · refine ⟨mirrors', ?_, False.elim⟩
          rintro _ ⟨⟩
          exact holding'
        · refine ⟨mirrors', ?_, False.elim⟩
          rintro _ ⟨⟩
          rw [holding'.length] at last
          have all : device + 1 = found.length := Nat.le_antisymm inside last
          rw [all] at holding'
          exact holding'
    | _ => cases called
  · have others := not_exists.mp first
    rw [readyAt_of_running others] at holding
    obtain ⟨holding', mirrors'⟩ := Mirrors.driverCall (Nat.le_refl _) others choice omni point'
      omni' ⟨holding, v, mirrors⟩ called
    refine ⟨mirrors', ?_, ?_⟩
    · intro point₁ running₁
      have later := gives_driverCall others choice omni point' omni' called
      rcases stage_next point choice point' with same | ⟨exit, same, -⟩ | same
      · obtain rfl := Stage.running.inj (same.symm.trans running₁)
        rw [readyAt_of_running later]
        exact holding'
      · cases same.symm.trans running₁
      · cases same.symm.trans running₁
    · intro behind
      obtain ⟨device, ready, rfl, rfl, rfl⟩ := next_behindLoop behind
      obtain ⟨rfl, noted, info, there, docked⟩ := driverCall_finished called
      have heard := heard_of_run mirrors.accepted 0
      rw [(mirrors.rows 0 info there).1] at heard
      exact leftByDocking_of_heard heard (mirrors.undocked noted) docked

/-- One step of a session. -/
theorem Session.Refines.step (refines : s.Refines machine.endian found)
    (stepped : (sessions machine).step s choice = some s') : s'.Refines machine.endian found := by
  obtain ⟨v, mirrors⟩ := refines.mirrors
  rcases session_step_cases stepped with ⟨point, point', omni', running, called, rfl⟩ |
    ⟨device, stage', c, closing, called, rfl⟩
  · exact .driverCall mirrors (refines.holding point running) called
  · have left : LeftByDocking machine.endian s.omni.trace := by
      refine refines.left ?_
      rw [closing]
      trivial
    have kept : Call.Keeps (fun c : Closing β =>
        (∃ v, Mirrors machine.endian v c.omni) ∧ LeftByDocking machine.endian c.omni.trace) (closingCall device) :=
      keeps_closingCall (I := fun s : Omni β => (∃ v, Mirrors machine.endian v s) ∧ LeftByDocking machine.endian s.trace)
        (fun s b ⟨⟨v, mirrors⟩, left⟩ => ⟨⟨v, { mirrors with }⟩, left⟩)
        fun s contexts ⟨⟨v, mirrors⟩, left⟩ => ⟨⟨v, { mirrors with }⟩, left⟩
    obtain ⟨mirrors', left'⟩ := kept ⟨s.omni, s.destroyed⟩ stage' c ⟨⟨v, mirrors⟩, left⟩ called
    refine ⟨mirrors', ?_, fun _ => left'⟩
    intro point running
    exact absurd running (gives_closingCall ⟨s.omni, s.destroyed⟩ stage' c called point)

theorem refines_of_run (bus : β) {choices : List Choice}
    (reached : (sessions machine).run (.start bus found) choices = some s) : s.Refines machine.endian found :=
  System.run_induction (refines_start machine.endian bus found) (fun _ _ _ refines stepped => refines.step stepped)
    reached

/-- **The driver is the controller.**  Whatever the bus answers, `select` reports
and libraw1394 delivers, and however a session ends: its events are a run of the
controller, and the table shows what the controller knows.  So every packet that
was sent, and every bus reset, follows from the packets that were received
before. -/
theorem session_refines_controller (machine : Machine) (bus : β) (found : List (Nat × UInt16))
    (choices : List Choice) (s : Session β)
    (reached : (sessions machine).run (.start bus found) choices = some s) :
    ∃ v, (controller machine.endian).run .initial s.omni.trace = some v ∧
      (∀ d info, s.omni.devices[d]? = some info →
        v.known d = info.phantomData ∧ v.forces d = info.forceData) ∧
      v.pressed = s.omni.button2Pressed ∧ v.clicked = false := by
  obtain ⟨v, mirrors⟩ := (refines_of_run bus reached).mirrors
  exact ⟨v, mirrors.accepted, mirrors.rows, mirrors.pressed, mirrors.idle⟩

theorem session_refines_controller_undockAndDock : ∃ s, (sessions oneDevice).run
    (.start (BusRecord.opened answering) [(0, 0xffc0)]) undockAndDock = some s ∧
      ∃ v, (controller .little).run .initial s.omni.trace = some v ∧
        (∀ d info, s.omni.devices[d]? = some info →
          v.known d = info.phantomData ∧ v.forces d = info.forceData) ∧
        v.pressed = s.omni.button2Pressed ∧ v.clicked = false := by
  obtain ⟨s, reached, -⟩ := exists_closed
  exact ⟨s, reached, session_refines_controller oneDevice _ _ _ s reached⟩

/-- **How the main loop is left.**  `main` comes to closing the devices only after
the first device has sent a packet that shows it undocked and, as its last, one
that shows it docked. -/
theorem left_by_docking (machine : Machine) (bus : β) (found : List (Nat × UInt16))
    (choices : List Choice) (s : Session β)
    (reached : (sessions machine).run (.start bus found) choices = some s)
    (behind : s.stage.BehindLoop) : LeftByDocking machine.endian s.omni.trace :=
  (refines_of_run bus reached).left behind

theorem left_by_docking_undockAndDock : ∃ s, (sessions oneDevice).run
    (.start (BusRecord.opened answering) [(0, 0xffc0)]) undockAndDock = some s ∧
      LeftByDocking .little s.omni.trace := by
  obtain ⟨s, reached, closed⟩ := exists_closed
  have behind : s.stage.BehindLoop := by
    rw [closed]
    trivial
  exact ⟨s, reached, left_by_docking oneDevice _ _ _ s reached behind⟩

end Sessions

end RevEng
