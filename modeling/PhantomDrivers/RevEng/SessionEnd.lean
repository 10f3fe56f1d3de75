import PhantomDrivers.RevEng.SessionChannels
import PhantomDrivers.Semantics.Traces

/-!
# The end of a session

What is left when the reference driver has closed all devices.

* `closeDevice_effect` — what closing a device does.
* `Shutting`, `Session.Sound` — the invariant of a session.
* `tidy_of_closed` — no transfer is left, on either side, and every handle has
  been destroyed once.
* `timesSetUp`, `Session.Searched` — how often a device has been set up, and how
  often its channels have been searched for.
* `balance_of_closed` — which of the channels have been given back.
-/

namespace RevEng

open Semantics Raw1394
open LibPhantom (ADDR_CONTROL ADDR_CONTROL_enable_iso CHANNELS_AVAILABLE_ADDR)

/-! ## Closing -/

section Closing

variable {β : Type} [Bus β] {config handle : Handle} {node : UInt16} {ok : Bool}
  {found : List (Nat × UInt16)} {closed device : Nat} {info : DeviceInfo}

/-- What the record of the bus says about the channels is the same. -/
def SameChannels (b b' : BusRecord β) : Prop :=
  b'.requests = b.requests ∧
    ∀ machine config, searches machine config b'.reads = searches machine config b.reads

/-- The accesses to the registers of a device that is closed, on a bus with a
record. -/
theorem disableTransfer_effect {b b' : BusRecord β}
    (returned : disableTransfer config node b = .returned ok b') :
    SameChannels b b' ∧ (ok = false → b'.writes = b.writes) ∧
      (ok = true → ∃ byte, byte &&& ADDR_CONTROL_enable_iso = 0 ∧
        b'.writes = b.writes ++ [⟨config.port, node, ADDR_CONTROL, [byte]⟩]) := by
  have quiet (address : UInt64) (register : address ≠ CHANNELS_AVAILABLE_ADDR) (byte : UInt8) :
      Call.Keeps (fun b' : BusRecord β => SameChannels b b' ∧ b'.writes = b.writes)
        (getExpectedChar config node address byte) := by
    refine keeps_getExpectedChar ?_
    rintro b₁ r b₂ ⟨⟨requests, reads⟩, writes⟩ settles
    refine ⟨⟨?_, ?_⟩, ?_⟩
    · exact settles.keeps (P := fun b' => b'.requests = b.requests) (fun _ same => same) requests
    · exact fun machine config => (searches_of_settles_of_ne register settles).trans
        (reads machine config)
    · exact settles.keeps (P := fun b' => b'.writes = b.writes) (fun _ same => same) writes
  obtain ⟨shows₀, b₁, compared₀, rest₁⟩ := Call.bind_eq_returned.mp returned
  obtain ⟨same₁, writes₁⟩ := quiet 0x1083 (by decide) 0xc0 b shows₀ b₁
    ⟨⟨rfl, fun _ _ => rfl⟩, rfl⟩ compared₀
  cases shows₀ with
  | false =>
      cases rest₁
      exact ⟨same₁, fun _ => writes₁, nofun⟩
  | true =>
      obtain ⟨shows₁, b₂, compared₁, rest₂⟩ := Call.bind_eq_returned.mp rest₁
      obtain ⟨same₂, writes₂⟩ := quiet 0x1082 (by decide) 0 b₁ shows₁ b₂
        ⟨same₁, writes₁⟩ compared₁
      cases shows₁ with
      | false =>
          cases rest₂
          exact ⟨same₂, fun _ => writes₂, nofun⟩
      | true =>
          obtain ⟨bufc, b₃, read, rest₃⟩ := Call.bind_eq_returned.mp rest₂
          have attempt : b₃ = (Bus.read config node ADDR_CONTROL 1 b₂).2 := by
            unfold readOnce at read
            dsimp only at read
            split at read
            · next equation =>
                cases read
                rw [equation]
            · next equation =>
                cases read
                rw [equation]
          obtain ⟨_, _, write, rest₄⟩ := Call.bind_eq_returned.mp rest₃
          cases write
          cases rest₄
          subst attempt
          refine ⟨⟨same₂.1, fun machine config' => ?_⟩, nofun,
            fun _ => ⟨bufc &&& ~~~ADDR_CONTROL_enable_iso, ?_, ?_⟩⟩
          · exact (searches_read_of_ne (by decide)).trans (same₂.2 machine config')
          · have apart : ~~~ADDR_CONTROL_enable_iso &&& ADDR_CONTROL_enable_iso = 0 := by decide
            rw [UInt8.and_assoc, apart, UInt8.and_zero]
          · show b₂.writes ++ _ = _
            rw [writes₂]

omit [Bus β] in
theorem onOmni_eq_returned {α : Type} {call : Call Empty (Omni β) α} {a : α} {c c' : Closing β} :
    onOmni call c = .returned a c' ↔
      ∃ s, call c.omni = .returned a s ∧ c' = { c with omni := s } := by
  constructor
  · intro returned
    rw [onOmni, Call.within_apply] at returned
    cases ended : call c.omni with
    | returned a' s =>
        rw [ended] at returned
        cases returned
        exact ⟨s, rfl, rfl⟩
    | thrown e s => cases e
    | undefined =>
        rw [ended] at returned
        cases returned
  · rintro ⟨s, returned, rfl⟩
    rw [onOmni, Call.within_apply, returned, Outcome.mapState_returned]

theorem releaseChannels_effect {recv xmit : Option Nat} {s s' : Omni (BusRecord β)} {u : Unit}
    (returned : releaseChannels config recv xmit s = .returned u s') :
    ∃ b, s' = { s with bus := b } ∧ b.writes = s.bus.writes ∧ b.reads = s.bus.reads ∧
      b.requests = s.bus.requests ++ change config .free recv xmit := by
  cases recv with
  | none =>
      cases returned
      exact ⟨s.bus, rfl, rfl, rfl, (List.append_nil _).symm⟩
  | some recv =>
      cases xmit with
      | none =>
          cases returned
          exact ⟨s.bus, rfl, rfl, rfl, (List.append_nil _).symm⟩
      | some xmit =>
          cases returned
          exact ⟨_, rfl, rfl, rfl, List.append_assoc _ _ _⟩

/-- How closing a device ends: it is left alone, or it is closed. -/
theorem closeDevice_effect {c c' : Closing (BusRecord β)}
    (returned : closeDevice device c = .returned ok c') :
    (ok = false ∧ c'.omni.bus.writes = c.omni.bus.writes ∧
        SameChannels c.omni.bus c'.omni.bus) ∨
      ok = true ∧ ∃ info config recv xmit byte b, c.omni.devices[device]? = some info ∧
        info.configHandle = some config ∧ info.recvHandle = some recv ∧
        info.xmitHandle = some xmit ∧ byte &&& ADDR_CONTROL_enable_iso = 0 ∧
        b.writes = c.omni.bus.writes ++ [⟨config.port, info.node, ADDR_CONTROL, [byte]⟩] ∧
        b.requests =
          c.omni.bus.requests ++ change config .free info.recvChannel info.xmitChannel ∧
        (∀ machine config', searches machine config' b.reads =
          searches machine config' c.omni.bus.reads) ∧
        c' =
          { omni := { c.omni with
              bus := b
              contexts := Function.update (Function.update c.omni.contexts xmit none) recv none }
            destroyed := c.destroyed ++ [recv, xmit, config] } := by
  obtain ⟨info, _, looks, rest₁⟩ := Call.bind_eq_returned.mp returned
  obtain ⟨_, looked, rfl⟩ := onOmni_eq_returned.mp looks
  obtain ⟨there, rfl⟩ := deviceInfo_eq_returned.mp looked
  obtain ⟨config, _, follows, rest₂⟩ := Call.bind_eq_returned.mp rest₁
  obtain ⟨_, followed, rfl⟩ := onOmni_eq_returned.mp follows
  obtain ⟨configures, rfl⟩ := followHandle_eq_returned.mp followed
  obtain ⟨disabled, _, accesses, rest₃⟩ := Call.bind_eq_returned.mp rest₂
  obtain ⟨_, onTheBus, rfl⟩ := onOmni_eq_returned.mp accesses
  obtain ⟨b₁, accessed, rfl⟩ := onBus_eq_returned.mp onTheBus
  obtain ⟨same, silent, written⟩ := disableTransfer_effect accessed
  cases disabled with
  | false =>
      cases rest₃
      exact .inl ⟨rfl, silent rfl, same⟩
  | true =>
      obtain ⟨byte, disables, writes⟩ := written rfl
      obtain ⟨xmit, _, follows, rest₄⟩ := Call.bind_eq_returned.mp rest₃
      obtain ⟨_, followed, rfl⟩ := onOmni_eq_returned.mp follows
      obtain ⟨transmits, rfl⟩ := followHandle_eq_returned.mp followed
      obtain ⟨_, _, shut, rest₅⟩ := Call.bind_eq_returned.mp rest₄
      cases shut
      obtain ⟨recv, _, follows, rest₆⟩ := Call.bind_eq_returned.mp rest₅
      obtain ⟨_, followed, rfl⟩ := onOmni_eq_returned.mp follows
      obtain ⟨receives, rfl⟩ := followHandle_eq_returned.mp followed
      obtain ⟨_, _, shut, rest₇⟩ := Call.bind_eq_returned.mp rest₆
      cases shut
      obtain ⟨_, _, releases, rest₈⟩ := Call.bind_eq_returned.mp rest₇
      obtain ⟨_, released, rfl⟩ := onOmni_eq_returned.mp releases
      obtain ⟨b₂, rfl, writes₂, reads₂, requests₂⟩ := releaseChannels_effect released
      cases rest₈
      refine .inr ⟨rfl, info, config, recv, xmit, byte, b₂, there, configures, receives, transmits,
        disables, writes₂.trans writes, ?_, ?_, ?_⟩
      · rw [requests₂]
        exact congrArg (· ++ _) same.1
      · intro machine config'
        rw [reads₂]
        exact same.2 machine config'
      · simp

end Closing

/-! ## Whole sessions -/

section Sessions

/-- The last byte the node was sent is one for its control register, with the
enabling bit clear. -/
def Silenced (writes : List SentWrite) (place : Nat × UInt16) : Prop :=
  ∃ byte, byte &&& ADDR_CONTROL_enable_iso = 0 ∧
    Latest (fun write : SentWrite => (write.port, write.node) = place) writes
      ⟨place.1, place.2, ADDR_CONTROL, [byte]⟩

theorem silenced_append {writes : List SentWrite} {place place' : Nat × UInt16} {byte : UInt8}
    (disables : byte &&& ADDR_CONTROL_enable_iso = 0)
    (before : place = place' ∨ Silenced writes place) :
    Silenced (writes ++ [⟨place'.1, place'.2, ADDR_CONTROL, [byte]⟩]) place := by
  by_cases same : place = place'
  · subst same
    exact ⟨byte, disables, latest_append_self rfl⟩
  · obtain ⟨byte', disables', latest⟩ := before.resolve_left same
    exact ⟨byte', disables', latest.append (Ne.symm same)⟩

variable {β : Type} [Bus β] {s s' : Session (BusRecord β)} {found : List (Nat × UInt16)}
  {device closed : Nat} {machine : Machine} {point : Point} {choice : Choice}

/-- The first `closed` devices have been closed. -/
structure Shutting (machine : Machine) (found : List (Nat × UInt16)) (closed : Nat)
    (s : Session (BusRecord β)) : Prop where
  le : closed ≤ found.length
  holding : Holding found found.length closed s.omni
  granted : Granted machine found.length closed s.omni
  destroyed : s.destroyed.map Handle.id = List.range (3 * closed)
  silenced : ∀ d < closed, ∀ place, found[d]? = some place → Silenced s.omni.bus.writes place

/-- The invariant. -/
def Session.Sound (machine : Machine) (found : List (Nat × UInt16)) (s : Session (BusRecord β)) :
    Prop :=
  match s.stage with
  | .running point => Holding found (readyAt found point) 0 s.omni ∧
      Granted machine (readyAt found point) 0 s.omni ∧ s.destroyed = []
  | .closing device => Shutting machine found device s
  | .exited .closed => Shutting machine found found.length s
  | .exited _ => True

/-- One more device is closed. -/
theorem Shutting.close (shutting : Shutting machine found closed s) {c : Closing (BusRecord β)}
    (returned : closeDevice closed ⟨s.omni, s.destroyed⟩ = .returned true c) (stage : Stage) :
    Shutting machine found (closed + 1) ⟨c.omni, c.destroyed, stage⟩ := by
  obtain ⟨⟨⟩, -⟩ | ⟨-, info, config, recv, xmit, byte, b, there, configures, receives, transmits,
    disables, writes, requests, reads, rfl⟩ := closeDevice_effect returned
  have inside : closed < found.length := shutting.holding.lt_of_row there
  have own := shutting.holding.handles closed info there inside
  obtain rfl := Option.some.inj (own.recv.symm.trans receives)
  obtain rfl := Option.some.inj (own.xmit.symm.trans transmits)
  obtain rfl := Option.some.inj (own.config.symm.trans configures)
  have here : found[closed]? = some (info.port, info.node) := shutting.holding.place there
  refine ⟨inside, shutting.holding.close there own b,
    shutting.granted.close shutting.holding inside there configures rfl rfl requests
      (reads machine), ?_, ?_⟩
  · rw [List.map_append, shutting.destroyed, Nat.mul_succ, List.range_add]
    rfl
  · intro d early place there'
    have before : place = (info.port, info.node) ∨ Silenced s.omni.bus.writes place := by
      rcases Nat.lt_succ_iff_lt_or_eq.mp early with before | rfl
      · exact .inr (shutting.silenced d before place there')
      · exact .inl (Option.some.inj (there'.symm.trans here))
    rw [writes]
    exact silenced_append disables before

/-- The first step of a device. -/
theorem sound_of_initialise {omni omni' : Omni (BusRecord β)} {prefill : Nat} {point' : Point}
    (holding : Holding found device 0 omni) (granted : Granted machine device 0 omni)
    (called : driverCall machine (.initialising device) (.initialise prefill) omni =
      .returned point' omni') :
    Session.Sound machine found ⟨omni', [], .next (.initialising device) (.initialise prefill) point'⟩ := by
  obtain ⟨ok, initialised, outcome⟩ := driverCall_initialise_cases called
  rcases outcome with ⟨-, rfl⟩ | ⟨rfl, -, rfl⟩ | ⟨rfl, last, rfl⟩
  · trivial
  · obtain ⟨-, holding₁, granted₁⟩ := granted.initialise holding initialised
    exact ⟨holding₁, granted₁, rfl⟩
  · obtain ⟨inside, holding₁, granted₁⟩ := granted.initialise holding initialised
    rw [holding₁.length] at last
    have all : device + 1 = found.length := Nat.le_antisymm inside last
    rw [all] at holding₁ granted₁
    exact ⟨holding₁, granted₁, rfl⟩

/-- A step of the main loop. -/
theorem sound_of_driverCall {omni omni' : Omni (BusRecord β)} {point' : Point}
    (running : ∀ device, point ≠ .initialising device)
    (holding : Holding found found.length 0 omni) (granted : Granted machine found.length 0 omni)
    (called : driverCall machine point choice omni = .returned point' omni') :
    Session.Sound machine found ⟨omni', [], .next point choice point'⟩ := by
  have inert : Inert fun s : Omni (BusRecord β) =>
      Holding found found.length 0 s ∧ Granted machine found.length 0 s :=
    (inert_holding found found.length 0).and (inert_granted machine found.length 0)
  obtain ⟨holding', granted'⟩ := inert.driverCall
    (fun _ prefill => keeps_configureDevice_granted (Nat.le_refl _) prefill) running choice
    omni point' omni' ⟨holding, granted⟩ called
  have later := gives_driverCall running choice omni point' omni' called
  rcases stage_next point choice point' with same | ⟨exit, same, other⟩ | same
  · rw [same]
    show Holding _ _ _ _ ∧ _
    rw [readyAt_of_running later]
    exact ⟨holding', granted', rfl⟩
  · rw [same]
    cases exit with
    | closed => exact absurd rfl other
    | _ => trivial
  · rw [same]
    exact ⟨Nat.zero_le _, holding', granted', rfl, nofun⟩

/-- A step behind the main loop. -/
theorem sound_of_closingCall {omni : Omni (BusRecord β)} {destroyed : List Handle} {stage : Stage}
    {c : Closing (BusRecord β)}
    (shutting : Shutting machine found device ⟨omni, destroyed, .closing device⟩)
    (called : closingCall device ⟨omni, destroyed⟩ = .returned stage c) :
    Session.Sound machine found ⟨c.omni, c.destroyed, stage⟩ := by
  obtain ⟨_, _, looked, rest⟩ := Call.bind_eq_returned.mp called
  cases looked
  split at rest
  · obtain ⟨ok, c₁, closes, rest₁⟩ := Call.bind_eq_returned.mp rest
    cases ok with
    | false =>
        cases rest₁
        trivial
    | true =>
        cases rest₁
        exact shutting.close closes _
  · next last =>
      cases rest
      have all : device = found.length := by
        refine Nat.le_antisymm shutting.le ?_
        rw [← shutting.holding.length]
        exact Nat.le_of_not_lt last
      subst all
      exact { shutting with }

/-- One step of a session. -/
theorem Session.Sound.step (sound : s.Sound machine found)
    (stepped : (sessions machine).step s choice = some s') : s'.Sound machine found := by
  obtain ⟨omni, destroyed, stage⟩ := s
  rcases session_step_cases stepped with ⟨point, point', omni', running, called, rfl⟩ |
    ⟨device, stage', c, closing, called, rfl⟩
  · obtain rfl : stage = .running point := running
    obtain ⟨holding, granted, rfl⟩ := sound
    by_cases first : ∃ device, point = .initialising device
    · obtain ⟨device, rfl⟩ := first
      cases choice with
      | initialise prefill => exact sound_of_initialise holding granted called
      | _ => cases called
    · have running := not_exists.mp first
      rw [readyAt_of_running running] at holding granted
      exact sound_of_driverCall running holding granted called
  · obtain rfl : stage = .closing device := closing
    exact sound_of_closingCall sound called

omit [Bus β] in
theorem sound_start (machine : Machine) (bus : β) (found : List (Nat × UInt16)) :
    (Session.start (BusRecord.opened bus) found).Sound machine found := by
  cases found with
  | nil => trivial
  | cons place found => exact ⟨holding_start _ _, ⟨nofun, fun _ _ => rfl, nofun⟩, rfl⟩

theorem sound_of_run (bus : β) {choices : List Choice}
    (reached : (sessions machine).run (.start (.opened bus) found) choices = some s) :
    s.Sound machine found :=
  System.run_induction (sound_start machine bus found) (fun _ _ _ sound stepped => sound.step stepped)
    reached

/-- **Nothing is left on.**  For any number of devices, whatever the bus answers
and whatever happens in between: when all devices have been closed, no handle
has an isochronous context, every handle that was opened has been destroyed
once, in the order in which they were opened, and the last that every device was
told is not to transfer. -/
theorem tidy_of_closed (machine : Machine) (bus : β) (found : List (Nat × UInt16))
    (choices : List Choice) (s : Session (BusRecord β))
    (reached : (sessions machine).run (.start (.opened bus) found) choices = some s)
    (closed : s.stage = .exited .closed) :
    (∀ handle, s.omni.contexts handle = none) ∧
      s.destroyed.map Handle.id = List.range s.omni.nextHandle ∧
      ∀ place ∈ found, Silenced s.omni.bus.writes place := by
  have sound := sound_of_run bus reached
  rw [Session.Sound, closed] at sound
  have shutting : Shutting machine found found.length s := sound
  refine ⟨?_, ?_, ?_⟩
  · intro handle
    rw [Option.eq_none_iff_forall_ne_some]
    intro context live
    obtain ⟨d, info, late, there, -⟩ := shutting.holding.contexts handle context live
    exact Nat.not_lt_of_le late (shutting.holding.lt_of_row there)
  · rw [shutting.destroyed, shutting.holding.next]
  · intro place member
    obtain ⟨d, there⟩ := List.mem_iff_getElem?.mp member
    exact shutting.silenced d (List.getElem?_eq_some_iff.mp there).1 place there

/-- The device is undocked, after a bus reset, and docked again. -/
def undockAndDock : List Choice :=
  [.initialise 0, .select (some fun _ => true), .receive [.busReset 0, .packet fun _ => 0xff] none,
    .transmit 1 none, .proceed, .select (some fun _ => true), .receive [.packet fun _ => 0] none,
    .transmit 1 none, .proceed, .proceed, .proceed]

theorem exists_closed : ∃ s, (sessions oneDevice).run
    (.start (BusRecord.opened answering) [(0, 0xffc0)]) undockAndDock = some s ∧
      s.stage = .exited .closed := by
  have runs : ((sessions oneDevice).run (Session.start (BusRecord.opened answering) [(0, 0xffc0)])
      undockAndDock).map (fun s => match s.stage with
        | .exited exit => some exit
        | _ => none) = some (some .closed) := by
    decide +kernel
  obtain ⟨s, reached, closed⟩ := Option.map_eq_some_iff.mp runs
  refine ⟨s, reached, ?_⟩
  split at closed
  · next exit same =>
      cases closed
      exact same
  · cases closed

theorem tidy_of_closed_undockAndDock : ∃ s, (sessions oneDevice).run
    (.start (BusRecord.opened answering) [(0, 0xffc0)]) undockAndDock = some s ∧
      (∀ handle, s.omni.contexts handle = none) ∧
      s.destroyed.map Handle.id = List.range s.omni.nextHandle ∧
      ∀ place ∈ [(0, 0xffc0)], Silenced s.omni.bus.writes place := by
  obtain ⟨s, reached, closed⟩ := exists_closed
  exact ⟨s, reached, tidy_of_closed oneDevice answering [(0, 0xffc0)] _ s reached closed⟩

/-! ### The searches of a session -/

/-- There have been this many searches through the handle, unless `main` has left
early. -/
def Session.Searched (machine : Machine) (config : Handle) (s : Session (BusRecord β))
    (count : Nat) : Prop :=
  (∃ exit, s.stage = .exited exit ∧ exit ≠ .closed) ∨
    (searches machine config s.omni.bus.reads).length = count

variable {port port' : Nat} {node node' : UInt16} {d count : Nat}

/-- Different devices have different handles. -/
theorem configHandleOf_eq_iff (here : found[device]? = some (port, node))
    (place : found[d]? = some (port', node')) :
    configHandleOf device port = configHandleOf d port' ↔ device = d := by
  refine ⟨device_eq_of_configHandleOf, ?_⟩
  rintro rfl
  rw [(Prod.mk.inj (Option.some.inj (here.symm.trans place))).1]

/-- The first step of a device. -/
theorem searched_of_initialise {omni omni' : Omni (BusRecord β)} {destroyed : List Handle}
    {prefill : Nat} {point' : Point} (place : found[d]? = some (port, node))
    (holding : Holding found device 0 omni)
    (called : driverCall machine (.initialising device) (.initialise prefill) omni =
      .returned point' omni') :
    Session.Searched machine (configHandleOf d port)
      ⟨omni', destroyed, .next (.initialising device) (.initialise prefill) point'⟩
      ((searches machine (configHandleOf d port) omni.bus.reads).length +
        if device = d then 1 else 0) := by
  obtain ⟨ok, initialised, outcome⟩ := driverCall_initialise_cases called
  cases ok with
  | false =>
      rcases outcome with ⟨-, rfl⟩ | ⟨⟨⟩, -⟩ | ⟨⟨⟩, -⟩
      exact .inl ⟨.initialiseFailed, rfl, nofun⟩
  | true =>
      right
      obtain ⟨opened, s₁, opens, -⟩ := Call.bind_eq_returned.mp initialised
      obtain ⟨info, there, -⟩ := openHandles_eq_returned.mp opens
      have here := holding.place there
      rw [searches_initialise here holding initialised]
      rw [if_congr (configHandleOf_eq_iff here place) rfl rfl]

/-- A step of the main loop. -/
theorem searched_of_driverCall {omni omni' : Omni (BusRecord β)} {point' : Point}
    (place : found[d]? = some (port, node))
    (running : ∀ device, point ≠ .initialising device) (holding : Holding found found.length 0 omni)
    (called : driverCall machine point choice omni = .returned point' omni') :
    (searches machine (configHandleOf d port) omni'.bus.reads).length =
      (searches machine (configHandleOf d port) omni.bus.reads).length +
        setUps d (.running point) choice := by
  have inert (n : Nat) : Inert fun s : Omni (BusRecord β) =>
      (searches machine (configHandleOf d port) s.bus.reads).length = n :=
    ⟨fun _ _ same => same, fun _ _ _ same => same, fun _ _ _ _ same => same⟩
  by_cases receives : ∃ device ready events result,
      point = .visiting device ready ∧ choice = .receive events result
  · obtain ⟨device, ready, events, result, rfl, rfl⟩ := receives
    obtain ⟨info, handle, s₁, there, owns, delivered, ended⟩ := driverCall_receive_cases called
    have early := holding.lt_of_row there
    have here := holding.place there
    obtain rfl := Option.some.inj ((holding.handles device info there early).recv.symm.trans owns)
    have counted := searches_deliver here early holding delivered (configHandleOf d port)
    rw [if_congr (configHandleOf_eq_iff here place) rfl rfl] at counted
    rcases ended with ⟨-, rfl, -⟩ | ⟨-, updated, -⟩
    · exact counted
    · exact ((inert _).updateForces s₁ _ omni' rfl updated).trans counted
  · have none : setUps d (.running point) choice = 0 := by
      unfold setUps
      split
      · next same =>
          cases same
          exact absurd rfl (running _)
      · next same =>
          cases same
          exact absurd ⟨_, _, _, _, rfl, rfl⟩ receives
      · rfl
    rw [none, Nat.add_zero]
    refine (inert _).driverCall_of_deliver running ?_ omni point' omni' rfl called
    rintro device ready events result rfl rfl
    exact absurd ⟨device, ready, events, result, rfl, rfl⟩ receives

/-- One step of a session. -/
theorem Session.Searched.step (place : found[d]? = some (port, node))
    (sound : s.Sound machine found) (searched : s.Searched machine (configHandleOf d port) count)
    (stepped : (sessions machine).step s choice = some s') :
    s'.Searched machine (configHandleOf d port) (count + setUps d s.stage choice) := by
  obtain ⟨omni, destroyed, stage⟩ := s
  rcases session_step_cases stepped with ⟨point, point', omni', running, called, rfl⟩ |
    ⟨device, stage', c, closing, called, rfl⟩
  · obtain rfl : stage = .running point := running
    obtain ⟨_, ⟨⟩, -⟩ | rfl := searched
    by_cases first : ∃ device, point = .initialising device
    · obtain ⟨device, rfl⟩ := first
      cases choice with
      | initialise prefill => exact searched_of_initialise place sound.1 called
      | _ => cases called
    · have running := not_exists.mp first
      have holding := sound.1
      rw [readyAt_of_running running] at holding
      exact .inr (searched_of_driverCall place running holding called)
  · obtain rfl : stage = .closing device := closing
    obtain ⟨_, ⟨⟩, -⟩ | rfl := searched
    obtain ⟨_, _, looked, rest⟩ := Call.bind_eq_returned.mp called
    cases looked
    split at rest
    · obtain ⟨ok, c₁, closes, rest₁⟩ := Call.bind_eq_returned.mp rest
      rcases closeDevice_effect closes with ⟨rfl, -, -⟩ |
        ⟨rfl, _, _, _, _, _, b, -, -, -, -, -, -, -, reads, rfl⟩
      · cases rest₁
        exact .inl ⟨.closingFailed, rfl, nofun⟩
      · cases rest₁
        exact .inr (congrArg List.length (reads machine _))
    · cases rest
      exact .inr rfl

/-- How often the device has been set up in a run. -/
def timesSetUp (machine : Machine) (device : Nat) (s : Session (BusRecord β))
    (choices : List Choice) : Nat :=
  (sessions machine).tally (fun s choice => setUps device s.stage choice) s choices

theorem searched_of_run (bus : β) {choices : List Choice}
    (place : found[d]? = some (port, node))
    (reached : (sessions machine).run (.start (.opened bus) found) choices = some s) :
    s.Searched machine (configHandleOf d port)
      (timesSetUp machine d (.start (.opened bus) found) choices) := by
  have counted := System.run_tally (n := 0) (Q := fun s count => s.Sound machine found ∧
      s.Searched machine (configHandleOf d port) count)
    ⟨sound_start machine bus found, .inr rfl⟩
    (fun s count choice s' kept stepped => ⟨kept.1.step stepped, kept.2.step place kept.1 stepped⟩)
    reached
  rw [Nat.zero_add] at counted
  exact counted.2

/-- **The balance of the channels.**  When all devices have been closed, channels
have been asked for and given back through their `config_handle`s only, which
differ.  Through that of a device there has been one search each time the device
was set up, and each search that has found two channels asked for just these two;
in the end the pair in the row is given back, once, unless one of the two is
missing, and nothing else.  The row holds what the last search has found whose read
has not failed. -/
theorem balance_of_closed (machine : Machine) (bus : β) (found : List (Nat × UInt16))
    (choices : List Choice) (s : Session (BusRecord β))
    (reached : (sessions machine).run (.start (.opened bus) found) choices = some s)
    (closed : s.stage = .exited .closed) :
    Own s.omni.devices DeviceInfo.configHandle ∧
      (∀ request ∈ s.omni.bus.requests, ∃ info ∈ s.omni.devices,
        info.configHandle = some request.handle) ∧
      ∀ d info, s.omni.devices[d]? = some info → ∃ config, info.configHandle = some config ∧
        (searches machine config s.omni.bus.reads).length =
          timesSetUp machine d (.start (.opened bus) found) choices ∧
        History (searches machine config s.omni.bus.reads) info.recvChannel info.xmitChannel true
          (through config s.omni.bus.requests) := by
  have sound := sound_of_run bus reached
  rw [Session.Sound, closed] at sound
  have shutting : Shutting machine found found.length s := sound
  have own (d : Nat) (info : DeviceInfo) (there : s.omni.devices[d]? = some info) :=
    (shutting.holding.handles d info there (shutting.holding.lt_of_row there)).config
  refine ⟨?_, ?_, ?_⟩
  · apply @own_of_number _ _ 2
    intro d info config there owns
    exact congrArg Handle.id (Option.some.inj (owns.symm.trans (own d info there)))
  · intro request member
    obtain ⟨d, info, -, there, owns⟩ := shutting.granted.own request member
    exact ⟨info, List.mem_of_getElem? there, owns⟩
  · intro d info there
    have inside := shutting.holding.lt_of_row there
    refine ⟨_, own d info there, ?_, ?_⟩
    · rcases searched_of_run bus (shutting.holding.place there) reached with
        ⟨exit, left, other⟩ | counted
      · rw [closed] at left
        exact absurd (Stage.exited.inj left).symm other
      · exact counted
    · have history := shutting.granted.history d info _ there (own d info there) inside
      rwa [decide_eq_true inside] at history

/-- The device was set up before the loop and once more behind the bus reset. -/
theorem balance_of_closed_undockAndDock : ∃ s info config, (sessions oneDevice).run
    (.start (BusRecord.opened answering) [(0, 0xffc0)]) undockAndDock = some s ∧
      s.omni.devices[0]? = some info ∧ info.configHandle = some config ∧
      (searches oneDevice config s.omni.bus.reads).length = 2 ∧
      History (searches oneDevice config s.omni.bus.reads) info.recvChannel info.xmitChannel true
        (through config s.omni.bus.requests) := by
  obtain ⟨s, reached, closed⟩ := exists_closed
  have rows : ((sessions oneDevice).run (.start (BusRecord.opened answering) [(0, 0xffc0)])
      undockAndDock).map (fun s => s.omni.devices.length) = some 1 := by
    decide +kernel
  rw [reached, Option.map_some, Option.some.injEq] at rows
  have there : s.omni.devices[0]? = some s.omni.devices[0] := List.getElem?_eq_getElem _
  have twice : timesSetUp oneDevice 0 (.start (BusRecord.opened answering) [(0, 0xffc0)])
      undockAndDock = 2 := by
    decide +kernel
  obtain ⟨-, -, balance⟩ := balance_of_closed oneDevice answering [(0, 0xffc0)] _ s reached closed
  obtain ⟨config, owns, counted, history⟩ := balance 0 _ there
  exact ⟨s, _, config, reached, there, owns, counted.trans twice, history⟩

end Sessions

end RevEng
