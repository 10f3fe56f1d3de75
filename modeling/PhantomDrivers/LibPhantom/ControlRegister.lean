import PhantomDrivers.LibPhantom.PhantomRuns
import PhantomDrivers.LibPhantom.ReliableBus
import PhantomDrivers.Semantics.Runs

/-!
# The control register

One Phantom is started and stopped any number of times.  Bit 3 of the control
register should be set after every start and clear after every stop, and the
other bits should stay as they are.

`stop` masks the register with the bit instead of its complement, so that the
bit stays set and the other bits are lost.  The register is right exactly as
long as `stopPhantom` is only called while the bit is clear, that is before the
first start (`always_controlled_iff`).

* `sessions` — the runs of calls that return.
* `Controlled` — what the register should look like.
* `ClearBeforeStop` — the condition.
-/

namespace LibPhantom

open Semantics Raw1394

/-- The two calls. -/
inductive PhantomCall where
  | start
  | stop
deriving DecidableEq, Repr

/-- A state, and the last call that led to it. -/
structure PhantomSession where
  library : Library ManagedBus
  last : Option PhantomCall

namespace Library

/-- The call, if it returns. -/
def returns (host : Host) (p : Ptr) (s : Library ManagedBus) (call : PhantomCall) :
    Option (Library ManagedBus) :=
  match call with
  | .start =>
      match startPhantom host p s with
      | .returned _ s' => some s'
      | _ => none
  | .stop =>
      match stopPhantom p s with
      | .returned _ s' => some s'
      | _ => none

/-- The runs of successful calls on one Phantom. -/
def sessions (host : Host) (p : Ptr) : System PhantomSession PhantomCall where
  step session call := (returns host p session.library call).map fun s' => ⟨s', some call⟩

/-- The control register of a device. -/
def control (d : FirewireDeviceLibraw1394) (s : Library ManagedBus) : UInt8 :=
  s.bus.memory d.port d.node ADDR_CONTROL

/-- The register after the last call; `original` is what it was before the
first one. -/
structure Controlled (d : FirewireDeviceLibraw1394) (original : UInt8) (session : PhantomSession) :
    Prop where
  started : session.last = some .start →
    session.library.control d &&& ADDR_CONTROL_enable_iso ≠ 0
  stopped : session.last = some .stop →
    session.library.control d &&& ADDR_CONTROL_enable_iso = 0
  others : session.library.control d &&& ~~~ADDR_CONTROL_enable_iso =
    original &&& ~~~ADDR_CONTROL_enable_iso

/-- `stopPhantom` is only called while the bit is clear. -/
def ClearBeforeStop (d : FirewireDeviceLibraw1394) (session : PhantomSession) : PhantomCall → Prop
  | .start => True
  | .stop => session.library.control d &&& ADDR_CONTROL_enable_iso = 0

/-! ## What the calls do to the registers -/

section Effects

variable {b b' : ManagedBus} {port : Nat} {node : UInt16} {d : FirewireDeviceLibraw1394}
  {recv xmit : PhantomIsoChannel} {channel : Nat} {com : CommunicationLibraw1394}
  {memory : Memory}

/-- An answered `stop` changes the control register, if anything. -/
theorem memory_of_stopAnswered (configures : Configures com port node) (reliable : b.Reliable)
    (serves : PhantomIsoChannel.Serves b.memory port node)
    (answered : PhantomIsoChannel.StopAnswered com b b') :
    b'.memory = PhantomIsoChannel.stopMemory b.memory port node ∧ b'.Reliable := by
  obtain ⟨b'', answered', elapses⟩ := stopAnswered_of_configures configures reliable serves
  obtain rfl := answered.unique answered'
  exact ⟨elapses.memory, elapses.reliable reliable⟩

theorem memory_of_releases (released : Releases d channel b b') (reliable : b.Reliable) :
    b'.memory = b.memory ∧ b'.Reliable := by
  obtain ⟨memory, turns⟩ := ManagedBus.memory_channelModify released
  exact ⟨memory, fun t member => reliable t (turns.subset member)⟩

/-- So does `stopPhantom`, since later `stop`s find nothing to do. -/
theorem memory_of_stopPhantomAnswered (recvConfig : Configures recv.comConfig port node)
    (xmitConfig : Configures xmit.comConfig port node) (reliable : b.Reliable)
    (serves : PhantomIsoChannel.Serves b.memory port node)
    (answered : StopPhantomAnswered d recv xmit b b') :
    b'.memory = PhantomIsoChannel.stopMemory b.memory port node ∧ b'.Reliable := by
  obtain ⟨b₁, b₂, b₃, b₄, b₅, stop₁, stop₂, stop₃, release₁, stop₄, release₂⟩ := answered
  obtain ⟨memory₁, reliable₁⟩ := memory_of_stopAnswered recvConfig reliable serves stop₁
  have again {b₁ b₂ : ManagedBus} {com : CommunicationLibraw1394}
      (configures : Configures com port node) (reliable : b₁.Reliable)
      (memory : b₁.memory = PhantomIsoChannel.stopMemory b.memory port node)
      (stop : PhantomIsoChannel.StopAnswered com b₁ b₂) :
      b₂.memory = PhantomIsoChannel.stopMemory b.memory port node ∧ b₂.Reliable := by
    have stopped := memory_of_stopAnswered configures reliable (memory ▸ serves.stopMemory) stop
    rwa [memory, PhantomIsoChannel.stopMemory_stopMemory] at stopped
  obtain ⟨memory₂, reliable₂⟩ := again xmitConfig reliable₁ memory₁ stop₂
  obtain ⟨memory₃, reliable₃⟩ := again recvConfig reliable₂ memory₂ stop₃
  obtain ⟨memory₄, reliable₄⟩ := memory_of_releases release₁ reliable₃
  obtain ⟨memory₅, reliable₅⟩ := again xmitConfig reliable₄ (memory₄.trans memory₃) stop₄
  obtain ⟨memory₆, reliable₆⟩ := memory_of_releases release₂ reliable₅
  exact ⟨memory₆.trans memory₅, reliable₆⟩

/-- The control register after `start`. -/
theorem startMemory_control {receiving : Bool} :
    PhantomIsoChannel.startMemory memory port node receiving channel port node ADDR_CONTROL =
      if memory port node ADDR_CONTROL &&& ADDR_CONTROL_enable_iso = 0 then
        memory port node ADDR_CONTROL ||| ADDR_CONTROL_enable_iso
      else memory port node ADDR_CONTROL := by
  have kept : PhantomIsoChannel.announceMemory memory port node receiving channel port node
      ADDR_CONTROL = memory port node ADDR_CONTROL :=
    PhantomIsoChannel.announceMemory_of_ne (by decide) (by decide)
  rw [PhantomIsoChannel.startMemory, PhantomIsoChannel.enableMemory, kept]
  split
  · rw [Memory.store_singleton_self]
  · exact kept

/-- A start sets the bit and leaves the others alone. -/
theorem startMemory_bits {receiving : Bool} :
    PhantomIsoChannel.startMemory memory port node receiving channel port node ADDR_CONTROL &&&
        ADDR_CONTROL_enable_iso ≠ 0 ∧
      PhantomIsoChannel.startMemory memory port node receiving channel port node ADDR_CONTROL &&&
          ~~~ADDR_CONTROL_enable_iso =
        memory port node ADDR_CONTROL &&& ~~~ADDR_CONTROL_enable_iso := by
  rw [startMemory_control]
  split
  · exact ⟨by rw [or_and_mask]; decide, or_and_not_mask ..⟩
  · next on => exact ⟨on, rfl⟩

/-- **A stop leaves the bit set**, if it was. -/
theorem stopMemory_control (on : memory port node ADDR_CONTROL &&& ADDR_CONTROL_enable_iso ≠ 0) :
    PhantomIsoChannel.stopMemory memory port node port node ADDR_CONTROL &&&
      ADDR_CONTROL_enable_iso ≠ 0 := by
  rw [PhantomIsoChannel.stopMemory, if_pos on, Memory.store_singleton_self, UInt8.and_assoc,
    UInt8.and_self]
  exact on

end Effects

/-! ## Steps of a session -/

/-- What holds between the calls, as long as no call broke it. -/
structure Steady (d : FirewireDeviceLibraw1394) (p : Ptr) (original : UInt8) (session : PhantomSession) :
    Prop where
  controlled : Controlled d original session
  reliable : session.library.bus.Reliable
  serves : PhantomIsoChannel.Serves session.library.bus.memory d.port d.node
  phantom : ∃ ph, session.library.phantoms p = some ph ∧
    session.library.devices ph.firewireDevice = some d ∧
    (ph.started = true → session.library.control d &&& ADDR_CONTROL_enable_iso ≠ 0 ∧
      ∃ r x recv xmit, Running session.library p d r x recv xmit ∧
        Configures recv.comConfig d.port d.node ∧ Configures xmit.comConfig d.port d.node)

variable {session session' : PhantomSession} {host : Host} {p : Ptr} {d : FirewireDeviceLibraw1394}
  {original : UInt8} {s s' : Library ManagedBus}

theorem step_eq_some {call : PhantomCall} (stepped : (sessions host p).step session call = some session') :
    returns host p session.library call = some session'.library ∧ session'.last = some call := by
  obtain ⟨s', returned, rfl⟩ := Option.map_eq_some_iff.mp stepped
  exact ⟨returned, rfl⟩

theorem returns_start (returned : returns host p s .start = some s') :
    ∃ u, startPhantom host p s = .returned u s' := by
  unfold returns at returned
  dsimp only at returned
  split at returned
  · next u s₁ outcome =>
      cases returned
      exact ⟨u, outcome⟩
  · cases returned

theorem returns_stop (returned : returns host p s .stop = some s') :
    ∃ u, stopPhantom p s = .returned u s' := by
  unfold returns at returned
  dsimp only at returned
  split at returned
  · next u s₁ outcome =>
      cases returned
      exact ⟨u, outcome⟩
  · cases returned

/-- A `startPhantom` that returns has claimed two channels and started both. -/
theorem start_effect {ph : Phantom} (live : s.phantoms p = some ph)
    (liveDevice : s.devices ph.firewireDevice = some d) (reliable : s.bus.Reliable)
    (serves : PhantomIsoChannel.Serves s.bus.memory d.port d.node) {u : Unit}
    (returned : startPhantom host p s = .returned u s') :
    ∃ recv xmit r x k k', s'.bus.memory = startedMemory s.bus.memory d.port d.node recv xmit ∧
      s'.bus.Reliable ∧ Running s' p d r x k k' ∧ Configures k.comConfig d.port d.node ∧
      Configures k'.comConfig d.port d.node := by
  cases started : ph.started with
  | true =>
      rw [startPhantom_of_started live started] at returned
      cases returned
  | false =>
      rcases claims_or_fails host d s.bus with ⟨c₁, b₁, claims₁⟩ | ⟨b₁, fails⟩
      · rcases claims_or_fails host d b₁ with ⟨c₂, b₂, claims₂⟩ | ⟨b₂, fails⟩
        · obtain ⟨small₁, -, elapses₁⟩ := elapses_of_claims claims₁
          obtain ⟨small₂, -, elapses₂⟩ := elapses_of_claims claims₂
          have memory₂ : b₂.memory = s.bus.memory := elapses₂.memory.trans elapses₁.memory
          have reliable₂ : b₂.Reliable := elapses₂.reliable (elapses₁.reliable reliable)
          obtain ⟨b₃, b₄, start₁, start₂, elapses₄⟩ := startAnswered_of_claims reliable₂
            (memory₂ ▸ serves) small₁ small₂ (s.nextHandle + 1) (s.nextHandle + 3)
          have running := running_withChannels live liveDevice c₁ c₂ b₁ b₂
          rw [startPhantom_of_claims live started liveDevice claims₁ claims₂,
            startChannels_of_answered running start₁ start₂] at returned
          cases returned
          refine ⟨c₁, c₂, _, _, _, _, ?_, elapses₄.reliable reliable₂,
            (running.startRecv b₃).startXmit b₄, ⟨rfl, rfl⟩, ⟨rfl, rfl⟩⟩
          rw [← memory₂]
          exact elapses₄.memory
        · -- A failed second claim throws, however the roll back ends.
          exfalso
          by_cases answered : ∃ b₃ b₄,
              PhantomIsoChannel.StopAnswered (configOf d (s.nextHandle + 1)) b₂ b₃ ∧
                Releases d c₁ b₃ b₄
          · obtain ⟨b₃, b₄, stops, releases⟩ := answered
            obtain ⟨e, log, thrown⟩ :=
              startPhantom_of_rollback live started liveDevice claims₁ fails stops releases
            rw [thrown] at returned
            cases returned
          · obtain ⟨e, b', log, thrown⟩ := startPhantom_of_stuck live started liveDevice claims₁
              fails fun b₃ b₄ stops releases => answered ⟨b₃, b₄, stops, releases⟩
            rw [thrown] at returned
            cases returned
      · obtain ⟨e, log, thrown⟩ := startPhantom_of_fails live started liveDevice fails
        rw [thrown] at returned
        cases returned

/-- A successful start re-establishes everything. -/
theorem Steady.start (steady : Steady d p original session)
    (stepped : (sessions host p).step session .start = some session') :
    Steady d p original session' := by
  obtain ⟨returned, last⟩ := step_eq_some stepped
  obtain ⟨u, returned⟩ := returns_start returned
  obtain ⟨ph, live, liveDevice, -⟩ := steady.phantom
  obtain ⟨recv, xmit, r, x, k, k', memory, reliable, running, config, config'⟩ :=
    start_effect live liveDevice steady.reliable steady.serves returned
  have on : session'.library.control d &&& ADDR_CONTROL_enable_iso ≠ 0 := by
    rw [control, memory]
    exact startMemory_bits.1
  refine ⟨⟨fun _ => on, ?_, ?_⟩, reliable, ?_, ?_⟩
  · intro stopped
    rw [last] at stopped
    cases stopped
  · rw [control, memory, startedMemory, startMemory_bits.2, startMemory_bits.2]
    exact steady.controlled.others
  · rw [memory]
    exact steady.serves.startMemory.startMemory
  · obtain ⟨dev, live', deviceLive, -⟩ := running.phantom
    exact ⟨_, live', deviceLive, fun _ => ⟨on, r, x, k, k', running, config, config'⟩⟩

/-- A stop while the bit is clear has nothing to do. -/
theorem Steady.stop (steady : Steady d p original session)
    (off : session.library.control d &&& ADDR_CONTROL_enable_iso = 0)
    (stepped : (sessions host p).step session .stop = some session') :
    Steady d p original session' := by
  obtain ⟨returned, last⟩ := step_eq_some stepped
  obtain ⟨u, returned⟩ := returns_stop returned
  obtain ⟨ph, live, liveDevice, whenStarted⟩ := steady.phantom
  have idle : ph.started = false := by
    by_contra started
    exact (whenStarted (Bool.eq_true_of_not_eq_false started)).1 off
  rw [stopPhantom_of_idle live idle] at returned
  have same : session'.library = session.library := (Outcome.returned.inj returned).2.symm
  refine ⟨⟨?_, fun _ => same ▸ off, same ▸ steady.controlled.others⟩, same ▸ steady.reliable,
    same ▸ steady.serves, same ▸ steady.phantom⟩
  intro started
  rw [last] at started
  cases started

/-- A stop while the bit is set leaves it set. -/
theorem Steady.stop_broken (steady : Steady d p original session)
    (on : session.library.control d &&& ADDR_CONTROL_enable_iso ≠ 0)
    (stepped : (sessions host p).step session .stop = some session') :
    ¬Controlled d original session' := by
  obtain ⟨returned, last⟩ := step_eq_some stepped
  obtain ⟨u, returned⟩ := returns_stop returned
  obtain ⟨ph, live, liveDevice, whenStarted⟩ := steady.phantom
  have still : session'.library.control d &&& ADDR_CONTROL_enable_iso ≠ 0 := by
    cases started : ph.started with
    | false =>
        rw [stopPhantom_of_idle live started] at returned
        rw [← (Outcome.returned.inj returned).2]
        exact on
    | true =>
        obtain ⟨-, r, x, recv, xmit, running, config, config'⟩ := whenStarted started
        by_cases answered : ∃ b', StopPhantomAnswered d recv xmit session.library.bus b'
        · obtain ⟨b', answered⟩ := answered
          obtain ⟨log, stops⟩ := stopPhantom_of_answered running answered
          rw [stops] at returned
          rw [← (Outcome.returned.inj returned).2]
          show b'.memory d.port d.node ADDR_CONTROL &&& _ ≠ 0
          rw [(memory_of_stopPhantomAnswered config config' steady.reliable steady.serves
            answered).1]
          exact stopMemory_control on
        · obtain ⟨e, s', thrown, -⟩ := stopPhantom_of_unanswered running (not_exists.mp answered)
          rw [thrown] at returned
          cases returned
  exact fun controlled => still (controlled.stopped last)

/-- **The control register.**  In every run of successful `startPhantom` and
`stopPhantom` calls, bit 3 is set after every start and clear after every stop
and the other bits keep their values, if and only if `stopPhantom` is only
called while the bit is clear. -/
theorem always_controlled_iff (host : Host) (s : Library ManagedBus) (p : Ptr) (ph : Phantom)
    (d : FirewireDeviceLibraw1394) (live : s.phantoms p = some ph) (idle : ph.started = false)
    (liveDevice : s.devices ph.firewireDevice = some d) (reliable : s.bus.Reliable)
    (serves : PhantomIsoChannel.Serves s.bus.memory d.port d.node) (calls : List PhantomCall)
    (session' : PhantomSession) (reached : (sessions host p).run ⟨s, none⟩ calls = some session') :
    (sessions host p).Always (Controlled d (s.control d)) ⟨s, none⟩ calls ↔
      (sessions host p).StepsMeet (ClearBeforeStop d) ⟨s, none⟩ calls := by
  have steady : Steady d p (s.control d) ⟨s, none⟩ := by
    refine ⟨⟨?_, ?_, rfl⟩, reliable, serves, ph, live, liveDevice, ?_⟩
    · intro last
      cases last
    · intro last
      cases last
    · intro started
      rw [idle] at started
      cases started
  refine System.always_iff_stepsMeet steady (fun _ => Steady.controlled) ?_ ?_ reached
  · intro session call session' steady meets stepped
    cases call with
    | start => exact steady.start stepped
    | stop => exact steady.stop meets stepped
  · intro session call session' steady unmet stepped
    cases call with
    | start => exact absurd trivial unmet
    | stop => exact steady.stop_broken unmet stepped

/-- All channels are free, nothing fails, and the control register is zero. -/
def answering : ManagedBus := { failingAfter 0 0 with turns := [] }

theorem always_controlled_answering :
    ∃ session', (sessions twoNodes 0).run ⟨idleOmni answering, none⟩ [.stop, .start] =
        some session' ∧
      ((sessions twoNodes 0).Always (Controlled omni 0) ⟨idleOmni answering, none⟩
          [.stop, .start] ↔
        (sessions twoNodes 0).StepsMeet (ClearBeforeStop omni) ⟨idleOmni answering, none⟩
          [.stop, .start]) := by
  have runs : ((sessions twoNodes 0).run ⟨idleOmni answering, none⟩ [.stop, .start]).isSome := by
    decide
  obtain ⟨session', reached⟩ := Option.isSome_iff_exists.mp runs
  refine ⟨session', reached, ?_⟩
  exact always_controlled_iff twoNodes (idleOmni answering) 0 ⟨0, false, none, none⟩ omni rfl rfl
    rfl (by simp [ManagedBus.Reliable, idleOmni, initial, answering]) ⟨rfl, rfl⟩ _ _ reached

/-- A start and a stop: the bit is still set. -/
theorem stop_leaves_bit :
    ¬∀ (host : Host) (s : Library ManagedBus) (p : Ptr) (ph : Phantom)
      (d : FirewireDeviceLibraw1394), s.phantoms p = some ph → ph.started = false →
        s.devices ph.firewireDevice = some d → s.bus.Reliable →
          PhantomIsoChannel.Serves s.bus.memory d.port d.node →
            ∀ (calls : List PhantomCall) (session' : PhantomSession),
              (sessions host p).run ⟨s, none⟩ calls = some session' →
                (sessions host p).Always (Controlled d (s.control d)) ⟨s, none⟩ calls := by
  intro claim
  have left : ((sessions twoNodes 0).run ⟨idleOmni answering, none⟩ [.start, .stop]).map
      (fun session => (session.last, session.library.control omni)) = some (some .stop, 8) := by
    decide
  obtain ⟨session', reached, values⟩ := Option.map_eq_some_iff.mp left
  have always := claim twoNodes (idleOmni answering) 0 ⟨0, false, none, none⟩ omni rfl rfl rfl
    (by simp [ManagedBus.Reliable, idleOmni, initial, answering]) ⟨rfl, rfl⟩ _ _ reached
  have controlled := System.always_iff_prefix.mp always _ List.prefix_rfl _ reached
  obtain ⟨last, value⟩ := Prod.mk.inj values
  have clear := controlled.stopped last
  rw [value] at clear
  exact absurd clear (by decide)

end Library

end LibPhantom
