import PhantomDrivers.RevEng.SessionEnd

/-!
# What a session writes

The reference driver writes to its devices in two phases: while they are set up,
and set up again behind bus resets, and then while they are closed.  Nothing
else on the bus is written to.

* `SetsUp`, `SetUpWrite` — the writes of the first phase.
* `SwitchesOff` — the write of the second phase, one for each device.
* `writes_of_session` — all writes of a session.
-/

namespace RevEng

open Semantics Raw1394
open LibPhantom (ADDR_XMIT_CHANNEL ADDR_RECV_CHANNEL ADDR_CONTROL ADDR_CONTROL_enable_iso
  CHANNELS_AVAILABLE_ADDR)

/-! ## The two phases -/

/-- A byte for a register of the device with this handle: a channel that was
asked for through the handle, the value that tests the register, or the control
byte with the enabling bit. -/
inductive SetsUp (requests : List ChannelRequest) (config : Handle) : UInt64 → UInt8 → Prop
  | channel {register : UInt64} {channel : Nat}
      (known : register = ADDR_XMIT_CHANNEL ∨ register = ADDR_RECV_CHANNEL)
      (asked : ⟨config, channel, .alloc⟩ ∈ requests) (inside : channel < 64) :
      SetsUp requests config register (UInt8.ofNat channel)
  | test : SetsUp requests config ADDR_RECV_CHANNEL 0x40
  | enable (byte : UInt8) :
      SetsUp requests config ADDR_CONTROL (byte ||| ADDR_CONTROL_enable_iso)

/-- A write that sets up one of the devices. -/
inductive SetUpWrite (found : List (Nat × UInt16)) (requests : List ChannelRequest) :
    SentWrite → Prop
  | intro {device : Nat} {place : Nat × UInt16} {register : UInt64} {byte : UInt8}
      (there : found[device]? = some place)
      (sets : SetsUp requests (configHandleOf device place.1) register byte) :
      SetUpWrite found requests ⟨place.1, place.2, register, [byte]⟩

/-- The write that switches a device off. -/
def SwitchesOff (place : Nat × UInt16) (write : SentWrite) : Prop :=
  ∃ byte, byte &&& ADDR_CONTROL_enable_iso = 0 ∧
    write = ⟨place.1, place.2, ADDR_CONTROL, [byte]⟩

theorem SetsUp.mono {requests requests' : List ChannelRequest} {config : Handle}
    {register : UInt64} {byte : UInt8} (sets : SetsUp requests config register byte)
    (more : requests ⊆ requests') : SetsUp requests' config register byte := by
  cases sets with
  | channel known asked inside => exact .channel known (more asked) inside
  | test => exact .test
  | enable byte => exact .enable byte

theorem SetUpWrite.mono {found : List (Nat × UInt16)} {requests requests' : List ChannelRequest}
    {write : SentWrite} (sets : SetUpWrite found requests write) (more : requests ⊆ requests') :
    SetUpWrite found requests' write := by
  obtain ⟨there, sets⟩ := sets
  exact .intro there (sets.mono more)

/-! ## The first phase -/

section SettingUp

variable {β : Type} [Bus β] {config : Handle} {node : UInt16} {recv xmit : UInt8}
  {found : List (Nat × UInt16)} {ready device prefill : Nat} {machine : Machine}
  {s s' : Omni (BusRecord β)} {ok : Bool}

/-- All writes so far have set up devices. -/
def OnlySetUp (found : List (Nat × UInt16)) (b : BusRecord β) : Prop :=
  ∀ write ∈ b.writes, SetUpWrite found b.requests write

omit [Bus β] in
theorem OnlySetUp.append {b : BusRecord β} (only : OnlySetUp found b) {write : SentWrite}
    (sets : SetUpWrite found b.requests write) (bus : β) :
    OnlySetUp found { b with bus, writes := b.writes ++ [write] } := by
  intro write' member
  rcases List.mem_append.mp member with old | new
  · exact only write' old
  · rw [List.mem_singleton.mp new]
    exact sets

/-- The registers of a device are set up. -/
theorem keeps_configureRegisters_onlySetUp {recv xmit : Nat} (recvLt : recv < 64)
    (xmitLt : xmit < 64) {place : Nat × UInt16} (there : found[device]? = some place)
    (requests : List ChannelRequest)
    (asked : change (configHandleOf device place.1) .alloc (some recv) (some xmit) ⊆ requests) :
    Call.Keeps (fun b : BusRecord β => b.requests = requests ∧ OnlySetUp found b)
      (configureRegisters (configHandleOf device place.1) place.2 (UInt8.ofNat recv)
        (UInt8.ofNat xmit)) := by
  have sent {register : UInt64} {byte : UInt8}
      (sets : SetsUp requests (configHandleOf device place.1) register byte) (b : BusRecord β)
      (kept : b.requests = requests ∧ OnlySetUp found b) :
      (Bus.write (configHandleOf device place.1) place.2 register [byte] b).2.requests = requests ∧
        OnlySetUp found (Bus.write (configHandleOf device place.1) place.2 register [byte] b).2 := by
    obtain ⟨rfl, only⟩ := kept
    exact ⟨rfl, only.append (.intro there sets) _⟩
  have told {register : UInt64} {byte : UInt8}
      (sets : SetsUp requests (configHandleOf device place.1) register byte) (b : BusRecord β)
      (r : Except Errno Unit) (b' : BusRecord β) (kept : b.requests = requests ∧ OnlySetUp found b)
      (settles : Settles (Bus.write (configHandleOf device place.1) place.2 register [byte]) b r b') :
      b'.requests = requests ∧ OnlySetUp found b' :=
    settles.keeps (sent sets) kept
  have recvAsked : ⟨configHandleOf device place.1, recv, .alloc⟩ ∈ requests :=
    asked List.mem_cons_self
  have xmitAsked : ⟨configHandleOf device place.1, xmit, .alloc⟩ ∈ requests :=
    asked (List.mem_cons_of_mem _ List.mem_cons_self)
  apply keeps_configureRegisters_of
  · intro address _ b r b' kept settles
    exact settles.keeps (P := fun b => b.requests = requests ∧ OnlySetUp found b)
      (fun _ kept => kept) kept
  · exact told (.channel (.inl rfl) xmitAsked xmitLt)
  · exact told (.channel (.inr rfl) recvAsked recvLt)
  · exact told .test
  · exact fun byte => told (.enable byte)

/-- A device is set up, for the first time or again. -/
theorem configureDevice_onlySetUp {info : DeviceInfo} {place : Nat × UInt16}
    (there : s.devices[device]? = some info) (here : found[device]? = some place)
    (same : (info.port, info.node) = place)
    (own : info.configHandle = some (configHandleOf device info.port)) (only : OnlySetUp found s.bus)
    (returned : configureDevice machine device prefill s = .returned ok s') :
    OnlySetUp found s'.bus := by
  subst same
  obtain ⟨info', config, there', owns, unclaimed | claimed⟩ := configureDevice_cases returned
  · obtain ⟨-, ⟨r, settles⟩, -⟩ := unclaimed
    exact settles.keeps (fun _ only => only) only
  · obtain ⟨channels, recv, xmit, b₁, b₂, ⟨block, settles, -⟩, both, configured, rfl, -⟩ := claimed
    obtain rfl := Option.some.inj (there.symm.trans there')
    obtain rfl := Option.some.inj (own.symm.trans owns)
    obtain ⟨recvLt, xmitLt⟩ := freeChannels_lt both
    have only₁ : OnlySetUp found b₁ := settles.keeps (fun _ only => only) only
    have claims : (claimBoth (configHandleOf device info.port) recv xmit b₁).requests =
        b₁.requests ++ change (configHandleOf device info.port) .alloc (some recv) (some xmit) :=
      List.append_assoc _ _ _
    have only₂ : OnlySetUp found (claimBoth (configHandleOf device info.port) recv xmit b₁) := by
      intro write member
      refine (only₁ write member).mono ?_
      rw [claims]
      exact List.subset_append_left _ _
    refine (keeps_configureRegisters_onlySetUp recvLt xmitLt here _ ?_ _ _ _ ⟨rfl, only₂⟩
      configured).2
    rw [claims]
    exact List.subset_append_right _ _

theorem keeps_configureDevice_onlySetUp (all : found.length ≤ ready) (prefill : Nat) :
    Call.Keeps (fun s : Omni (BusRecord β) => Holding found ready 0 s ∧ OnlySetUp found s.bus)
      (configureDevice machine device prefill) := by
  rintro s ok s' ⟨holding, only⟩ returned
  refine ⟨keeps_configureDevice_holding prefill s ok s' holding returned, ?_⟩
  obtain ⟨info, config, there, -⟩ := configureDevice_cases returned
  have early : device < ready := Nat.lt_of_lt_of_le (holding.lt_of_row there) all
  exact configureDevice_onlySetUp there (holding.place there) rfl
    (holding.handles device info there early).config only returned

/-- The next device is set up, or this fails. -/
theorem OnlySetUp.initialise (only : OnlySetUp found s.bus) (holding : Holding found ready 0 s)
    (returned : initialiseDevice machine ready true prefill s = .returned ok s') :
    OnlySetUp found s'.bus := by
  obtain ⟨opened, s₁, opens, configured⟩ := Call.bind_eq_returned.mp returned
  obtain ⟨info, there, rfl, -⟩ := openHandles_eq_returned.mp opens
  cases opened with
  | false =>
      cases configured
      exact only
  | true =>
      have holding₁ : Holding found (ready + 1) 0 (withHandles machine ready info.port s) :=
        holding.withHandles there
      obtain ⟨info', config, there', -⟩ := configureDevice_cases configured
      have own := (holding₁.handles ready info' there' (Nat.lt_succ_self _)).config
      exact configureDevice_onlySetUp there' (holding₁.place there') rfl own only configured

end SettingUp

/-! ## The second phase -/

section SwitchingOff

variable {β : Type} [Bus β] {device : Nat} {machine : Machine} {point point' : Point}
  {choice : Choice} {found : List (Nat × UInt16)} {s s' : Session (BusRecord β)}

/-- What was written to the bus: first devices were set up, and then the first
`closed` of them were switched off, each by one write. -/
def TwoPhases (found : List (Nat × UInt16)) (closed : Nat) (b : BusRecord β) : Prop :=
  ∃ setUp off, b.writes = setUp ++ off ∧ (∀ write ∈ setUp, SetUpWrite found b.requests write) ∧
    List.Forall₂ SwitchesOff (found.take closed) off

omit [Bus β] in
theorem twoPhases_zero {b : BusRecord β} : TwoPhases found 0 b ↔ OnlySetUp found b := by
  constructor
  · rintro ⟨setUp, off, writes, sets, switched⟩
    rw [List.take_zero, List.forall₂_nil_left_iff] at switched
    rw [OnlySetUp, writes, switched, List.append_nil]
    exact sets
  · exact fun only => ⟨b.writes, [], (List.append_nil _).symm, only, .nil⟩

omit [Bus β] in
/-- Nothing is written. -/
theorem TwoPhases.silent {closed : Nat} {b b' : BusRecord β} (phases : TwoPhases found closed b)
    (writes : b'.writes = b.writes) (requests : b'.requests = b.requests) :
    TwoPhases found closed b' := by
  rw [TwoPhases, writes, requests]
  exact phases

omit [Bus β] in
/-- The next device is switched off. -/
theorem TwoPhases.close {closed : Nat} {b b' : BusRecord β} (phases : TwoPhases found closed b)
    {place : Nat × UInt16} (here : found[closed]? = some place) {write : SentWrite}
    (switches : SwitchesOff place write) (writes : b'.writes = b.writes ++ [write])
    (more : b.requests ⊆ b'.requests) : TwoPhases found (closed + 1) b' := by
  obtain ⟨setUp, off, before, sets, switched⟩ := phases
  refine ⟨setUp, off ++ [write], ?_, fun write member => (sets write member).mono more, ?_⟩
  · rw [writes, before, List.append_assoc]
  · rw [List.take_add_one, here]
    exact List.rel_append switched (.cons switches .nil)

/-- How many devices have been switched off when `main` is there. -/
def Stage.Closed (found : List (Nat × UInt16)) (closed : Nat) : Stage → Prop
  | .closing device => closed = device
  | .exited .closed => closed = found.length
  | .exited .closingFailed => closed < found.length
  | _ => closed = 0

/-- The invariant. -/
def Session.Written (found : List (Nat × UInt16)) (s : Session (BusRecord β)) : Prop :=
  ∃ closed, s.stage.Closed found closed ∧ TwoPhases found closed s.omni.bus

omit [Bus β] in
/-- In the first phase. -/
theorem written_of_onlySetUp {omni : Omni (BusRecord β)} {destroyed : List Handle}
    (only : OnlySetUp found omni.bus) :
    Session.Written found ⟨omni, destroyed, .next point choice point'⟩ := by
  refine ⟨0, ?_, twoPhases_zero.mpr only⟩
  unfold Stage.next
  split
  · split
    all_goals rfl
  · rfl

omit [Bus β] in
theorem inert_onlySetUp (found : List (Nat × UInt16)) :
    Inert fun s : Omni (BusRecord β) => OnlySetUp found s.bus where
  trace _ _ only := only
  flags _ _ _ only := only
  data _ _ _ _ only := only

/-- One step of the first phase. -/
theorem onlySetUp_step {omni omni' : Omni (BusRecord β)}
    (holding : Holding found (readyAt found point) 0 omni) (only : OnlySetUp found omni.bus)
    (called : driverCall machine point choice omni = .returned point' omni') :
    OnlySetUp found omni'.bus := by
  by_cases first : ∃ device, point = .initialising device
  · obtain ⟨device, rfl⟩ := first
    cases choice with
    | initialise prefill =>
        obtain ⟨ok, initialised, -⟩ := driverCall_initialise_cases called
        exact only.initialise holding initialised
    | _ => cases called
  · have running := not_exists.mp first
    rw [readyAt_of_running running] at holding
    have inert : Inert fun s : Omni (BusRecord β) =>
        Holding found found.length 0 s ∧ OnlySetUp found s.bus :=
      (inert_holding found found.length 0).and (inert_onlySetUp found)
    exact (inert.driverCall (fun _ prefill => keeps_configureDevice_onlySetUp (Nat.le_refl _) prefill)
      running choice omni point' omni' ⟨holding, only⟩ called).2

/-- One step of the second phase. -/
theorem written_of_closingCall {stage : Stage} {c : Closing (BusRecord β)}
    {omni : Omni (BusRecord β)} {destroyed : List Handle}
    (shutting : Shutting machine found device ⟨omni, destroyed, .closing device⟩)
    (phases : TwoPhases found device omni.bus)
    (called : closingCall device ⟨omni, destroyed⟩ = .returned stage c) :
    Session.Written found ⟨c.omni, c.destroyed, stage⟩ := by
  obtain ⟨_, _, looked, rest⟩ := Call.bind_eq_returned.mp called
  cases looked
  split at rest
  · next inside =>
      obtain ⟨ok, c₁, closes, rest₁⟩ := Call.bind_eq_returned.mp rest
      rcases closeDevice_effect closes with ⟨rfl, writes, requests, -⟩ |
        ⟨rfl, info, config, recv, xmit, byte, b, there, configures, -, -, disables, writes,
          requests, -, rfl⟩
      · cases rest₁
        rw [shutting.holding.length] at inside
        exact ⟨device, inside, phases.silent writes requests⟩
      · cases rest₁
        refine ⟨device + 1, rfl, ?_⟩
        have own := shutting.holding.handles device info there (shutting.holding.lt_of_row there)
        obtain rfl := Option.some.inj (own.config.symm.trans configures)
        refine phases.close (shutting.holding.place there) ⟨byte, disables, rfl⟩ writes ?_
        rw [requests]
        exact List.subset_append_left _ _
  · next last =>
      cases rest
      have all : device = found.length := by
        refine Nat.le_antisymm shutting.le ?_
        rw [← shutting.holding.length]
        exact Nat.le_of_not_lt last
      exact ⟨device, all, phases⟩

/-- One step of a session. -/
theorem Session.Written.step (written : s.Written found) (sound : s.Sound machine found)
    (stepped : (sessions machine).step s choice = some s') : s'.Written found := by
  obtain ⟨omni, destroyed, stage⟩ := s
  obtain ⟨closed, count, phases⟩ := written
  rcases session_step_cases stepped with ⟨point, point', omni', running, called, rfl⟩ |
    ⟨device, stage', c, closing, called, rfl⟩
  · obtain rfl : stage = .running point := running
    obtain rfl : closed = 0 := count
    exact written_of_onlySetUp (onlySetUp_step sound.1 (twoPhases_zero.mp phases) called)
  · obtain rfl : stage = .closing device := closing
    obtain rfl : closed = device := count
    exact written_of_closingCall sound phases called

omit [Bus β] in
theorem written_start (bus : β) (found : List (Nat × UInt16)) :
    (Session.start (BusRecord.opened bus) found).Written found := by
  refine ⟨0, ?_, twoPhases_zero.mpr nofun⟩
  cases found with
  | nil => rfl
  | cons place found => rfl

theorem written_of_run (bus : β) {choices : List Choice}
    (reached : (sessions machine).run (.start (.opened bus) found) choices = some s) :
    s.Written found := by
  have both := System.run_induction (P := fun s => s.Sound machine found ∧ s.Written found)
    ⟨sound_start machine bus found, written_start bus found⟩
    (fun _ _ _ kept stepped => ⟨kept.1.step stepped, kept.2.step kept.1 stepped⟩) reached
  exact both.2

end SwitchingOff

/-- **What a session writes.**  Whatever the bus answers and whatever happens in
between, at any point of a session the writes so far are those of two phases.  In
the first one the devices are set up, and the channels they are told are channels
that were asked for through their own handles.  In the second one the first
devices of the table are switched off, by one write each.  It only begins behind
the main loop, and all devices have been switched off when `main` says that they
are closed. -/
theorem writes_of_session {β : Type} [Bus β] (machine : Machine) (bus : β)
    (found : List (Nat × UInt16)) (choices : List Choice) (s : Session (BusRecord β))
    (reached : (sessions machine).run (.start (.opened bus) found) choices = some s) :
    ∃ setUp off closed, s.omni.bus.writes = setUp ++ off ∧
      (∀ write ∈ setUp, SetUpWrite found s.omni.bus.requests write) ∧
      List.Forall₂ SwitchesOff (found.take closed) off ∧
      (0 < closed → s.stage.BehindLoop) ∧ (s.stage = .exited .closed → closed = found.length) := by
  obtain ⟨closed, count, setUp, off, writes, sets, switched⟩ := written_of_run bus reached
  refine ⟨setUp, off, closed, writes, sets, switched, ?_, ?_⟩
  · intro some
    generalize s.stage = stage at count
    unfold Stage.Closed at count
    split at count
    · trivial
    · trivial
    · trivial
    · exact absurd count (Nat.ne_of_gt some)
  · intro ended
    rw [ended] at count
    exact count

theorem writes_of_session_undockAndDock : ∃ s, (sessions oneDevice).run
    (.start (BusRecord.opened answering) [(0, 0xffc0)]) undockAndDock = some s ∧
      ∃ setUp off closed, s.omni.bus.writes = setUp ++ off ∧
        (∀ write ∈ setUp, SetUpWrite [(0, 0xffc0)] s.omni.bus.requests write) ∧
        List.Forall₂ SwitchesOff ([(0, 0xffc0)].take closed) off ∧
        (0 < closed → s.stage.BehindLoop) ∧ (s.stage = .exited .closed → closed = 1) := by
  obtain ⟨s, reached, -⟩ := exists_closed
  exact ⟨s, reached, writes_of_session oneDevice answering [(0, 0xffc0)] _ s reached⟩

end RevEng
