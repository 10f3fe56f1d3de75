import PhantomDrivers.LibPhantom.SensableDevices
import PhantomDrivers.Semantics.Partial
import PhantomDrivers.Semantics.Runs

/-!
# The getters of the configuration ROM

`getConfigRom`, `getVendorId` and `getVendorName` parse the ROM when one of them
is called for the first time, in place, and two flags keep a structure that is
only half filled from being used.  Here they are called in any order on one
object, on a bus that serves the memory of the node and lets reads fail as it
likes.

* `Getter`, `getters` — the calls, and the runs of calls that end.
* `readConfigRom_leaves` — a parse that throws leaves both flags alone.
* `getters_answer` — the calls that throw come first, and all others answer from
  one parse without a failing read.
-/

namespace LibPhantom

open Semantics Raw1394

/-- The getters. -/
inductive Getter where
  | configRom
  | vendorId
  | vendorName
deriving DecidableEq, Repr

/-- What a getter returns. -/
inductive Answer where
  | rom (crom : Option ConfigRom)
  | id (vendorId : UInt32)
  | name (vendor : Option (List UInt8))
deriving DecidableEq

/-- The structure that `getConfigRom` hands out. -/
def FirewireDevice.exposed (device : FirewireDevice) : Option ConfigRom :=
  if device.configRomValid then some device.configRom else none

namespace Getter

/-- The call. -/
def perform {β : Type} [Bus β] (host : Endian) : Getter → Call Exn (DeviceState β) Answer
  | configRom => do return .rom (← FirewireDevice.getConfigRom host)
  | vendorId => do return .id (← FirewireDevice.getVendorId host)
  | vendorName => do return .name (← FirewireDevice.getVendorName host)

/-- What a getter makes of the structure. -/
def answer : Getter → Option ConfigRom → Answer
  | configRom, crom => .rom crom
  | vendorId, crom => .id (crom.elim 0 ConfigRom.vendorId)
  | vendorName, crom => .name (crom.bind ConfigRom.vendor)

end Getter

/-- A call that ended: what it returned, or `none` if it threw, and the state it
left behind. -/
structure GetterEntry (β : Type) where
  call : Getter
  answer : Option Answer
  left : DeviceState β

/-- A run in progress. -/
structure GetterRun (β : Type) where
  state : DeviceState β
  log : List (GetterEntry β)

/-- A new object, on which nothing has been called. -/
def GetterRun.start {β : Type} (b : β) (com : CommunicationLibraw1394) : GetterRun β :=
  ⟨⟨b, .new com⟩, []⟩

/-- A call of a getter, as far as it ends. -/
def getters {β : Type} [Bus β] (host : Endian) : System (GetterRun β) Getter where
  step s call :=
    match call.perform host s.state with
    | .returned a left => some ⟨left, s.log ++ [⟨call, some a, left⟩]⟩
    | .thrown _ left => some ⟨left, s.log ++ [⟨call, none, left⟩]⟩
    | .undefined => none

namespace FirewireDevice

variable {β : Type}

/-! ## A parse that throws -/

/-- What a parse leaves alone until it is over. -/
def flags (s : DeviceState β) : CommunicationLibraw1394 × Bool × Bool :=
  (s.device.com, s.device.configRomRead, s.device.configRomValid)

theorem fixes_modifyRom (f : ConfigRom → ConfigRom) :
    Call.Fixes flags (modifyRom f : Call Exn (DeviceState β) _) := fun _ =>
  Call.preserves_modify fun _ same => same

variable [Bus β]

section Flags

variable (endian : Endian)

theorem fixes_read (address : UInt64) (length : UInt32) :
    Call.Fixes flags (read address length : Call Exn (DeviceState β) _) := fun _ =>
  Call.preserves_bind Call.preserves_get fun _ => Call.preserves_within fun _ _ same => same

theorem fixes_readQuadlet (address : UInt64) :
    Call.Fixes flags (readQuadlet endian address : Call Exn (DeviceState β) _) := fun c =>
  Call.preserves_bind (fixes_read address 4 c) fun _ => Call.preserves_pure _

theorem fixes_readBusInfo (addr : UInt64) :
    Call.Fixes flags (readBusInfo endian addr : Call Exn (DeviceState β) _) := fun c => by
  refine Call.preserves_bind (fixes_readQuadlet endian _ c) fun _ => ?_
  refine Call.preserves_bind (fixes_modifyRom _ c) fun _ => ?_
  refine Call.preserves_bind (fixes_readQuadlet endian _ c) fun _ => ?_
  refine Call.preserves_bind (fixes_modifyRom _ c) fun _ => ?_
  refine Call.preserves_bind (fixes_readQuadlet endian _ c) fun _ => ?_
  exact Call.preserves_bind (fixes_modifyRom _ c) fun _ => Call.preserves_pure _

theorem fixes_scanRootDirectory (entries : Nat) (addr unitDirAddr textualLeafAddr : UInt64) :
    Call.Fixes flags (scanRootDirectory endian entries addr unitDirAddr textualLeafAddr :
      Call Exn (DeviceState β) _) := by
  intro c
  induction entries generalizing addr unitDirAddr textualLeafAddr with
  | zero => exact Call.preserves_pure _
  | succ entries ih =>
      refine Call.preserves_bind (fixes_readQuadlet endian _ c) fun _ => ?_
      refine Call.preserves_ite ?_ ?_
      · exact Call.preserves_bind (fixes_modifyRom _ c) fun _ => ih _ _ _
      · exact Call.preserves_ite (ih _ _ _) (Call.preserves_ite (ih _ _ _) (ih _ _ _))

theorem fixes_scanUnitDirectory (entries : Nat) (addr : UInt64) :
    Call.Fixes flags (scanUnitDirectory endian entries addr : Call Exn (DeviceState β) _) := by
  intro c
  induction entries generalizing addr with
  | zero => exact Call.preserves_pure _
  | succ entries ih =>
      refine Call.preserves_bind (fixes_readQuadlet endian _ c) fun _ => ?_
      exact Call.preserves_bind (fixes_modifyRom _ c) fun _ => ih _

theorem fixes_readRootDirectory (addr : UInt64) :
    Call.Fixes flags (readRootDirectory endian addr : Call Exn (DeviceState β) _) := fun c =>
  Call.preserves_bind (fixes_readQuadlet endian _ c) fun _ => fixes_scanRootDirectory endian _ _ _ _ c

theorem fixes_readUnitDirectory (unitDirAddr : UInt64) :
    Call.Fixes flags (readUnitDirectory endian unitDirAddr : Call Exn (DeviceState β) _) := fun c =>
  Call.preserves_ite
    (Call.preserves_bind (fixes_readQuadlet endian _ c) fun _ =>
      fixes_scanUnitDirectory endian _ _ c)
    (Call.preserves_pure _)

theorem fixes_readTextualLeaf (textualLeafAddr : UInt64) :
    Call.Fixes flags (readTextualLeaf endian textualLeafAddr : Call Exn (DeviceState β) _) := by
  intro c
  refine Call.preserves_ite ?_ (Call.preserves_pure _)
  refine Call.preserves_bind (fixes_readQuadlet endian _ c) fun _ => ?_
  refine Call.preserves_bind (fixes_modifyRom _ c) fun _ => ?_
  refine Call.preserves_bind (fixes_read _ _ c) fun _ => ?_
  exact fixes_modifyRom _ c

end Flags

/-- The flag `configRomValid` is set by the last statement of the parse, so an
exception finds it as it was. -/
theorem readConfigRom_leaves (endian : Endian) (s : DeviceState β) :
    (readConfigRom endian s).Leaves
      (fun _ s' => (s'.device.com, s'.device.configRomRead) =
        (s.device.com, s.device.configRomRead))
      fun _ s' => flags s' = flags s := by
  have com {s' : DeviceState β} (same : flags s' = flags s) :
      (s'.device.com, s'.device.configRomRead) = (s.device.com, s.device.configRomRead) :=
    congrArg (fun f => (f.1, f.2.1)) same
  have setValid (s' : DeviceState β) (same : flags s' = flags s) :
      ((modify fun s => { s with device := { s.device with configRomValid := true } } :
        Call Exn (DeviceState β) PUnit) s').Leaves (fun _ s'' =>
          (s''.device.com, s''.device.configRomRead) = (s.device.com, s.device.configRomRead))
        fun _ s'' => flags s'' = flags s := by
    show (s'.device.com, s'.device.configRomRead) = _
    exact com same
  refine Call.leaves_bind (fixes_modifyRom _ _ s rfl) fun _ s₁ same => ?_
  refine Call.leaves_bind (fixes_readQuadlet endian _ _ s₁ same) fun _ s₂ same => ?_
  refine Call.leaves_ite (fun _ => ?_) fun _ => ?_
  · exact Call.leaves_bind (fixes_modifyRom _ _ s₂ same) fun _ s₃ same => setValid s₃ same
  refine Call.leaves_bind (fixes_readQuadlet endian _ _ s₂ same) fun _ s₃ same => ?_
  refine Call.leaves_ite (fun _ => com same) fun _ => ?_
  refine Call.leaves_bind (fixes_readBusInfo endian _ _ s₃ same) fun _ s₄ same => ?_
  refine Call.leaves_bind (fixes_readRootDirectory endian _ _ s₄ same) fun _ s₅ same => ?_
  refine Call.leaves_bind (fixes_readUnitDirectory endian _ _ s₅ same) fun _ s₆ same => ?_
  exact Call.leaves_bind (fixes_readTextualLeaf endian _ _ s₆ same) fun _ s₇ same => setValid s₇ same

/-! ## One call -/

variable {host : Endian} {b : β} {device : FirewireDevice}

/-- An object that has not parsed the ROM yet. -/
structure Unread (com : CommunicationLibraw1394) (device : FirewireDevice) : Prop where
  com : device.com = com
  read : device.configRomRead = false
  valid : device.configRomValid = false

/-- What is left of an earlier parse is never looked at. -/
theorem readConfigRom_restarts {com : CommunicationLibraw1394} (unread : Unread com device) :
    readConfigRom host ⟨b, device⟩ = readConfigRom host ⟨b, .new com⟩ := by
  obtain ⟨com', rom, read, valid⟩ := device
  obtain ⟨rfl, rfl, rfl⟩ := unread
  rfl

end FirewireDevice

namespace Getter

open FirewireDevice

variable {β : Type} [Bus β] {host : Endian} {b : β} {device : FirewireDevice}
  {com : CommunicationLibraw1394} {call : Getter}

/-- Every getter goes through `getConfigRom`. -/
theorem perform_eq (s : DeviceState β) : call.perform host s =
    (getConfigRom host s).andThen fun crom => pure (call.answer crom) := by
  cases call with
  | configRom => rfl
  | vendorId =>
      rw [perform, Call.bind_apply, getVendorId, Call.bind_apply]
      cases getConfigRom host s with
      | returned crom s' => cases crom <;> rfl
      | thrown e s' => rfl
      | undefined => rfl
  | vendorName =>
      rw [perform, Call.bind_apply, getVendorName, Call.bind_apply]
      cases getConfigRom host s with
      | returned crom s' => cases crom <;> rfl
      | thrown e s' => rfl
      | undefined => rfl

/-- A ROM that was parsed is not read again. -/
theorem perform_read (read : device.configRomRead = true) :
    call.perform host (⟨b, device⟩ : DeviceState β) =
      .returned (call.answer device.exposed) ⟨b, device⟩ := by
  have known : getConfigRom host (⟨b, device⟩ : DeviceState β) =
      .returned device.exposed ⟨b, device⟩ := by
    simp [getConfigRom, Call.bind_apply, read, exposed]
  rw [perform_eq, known]
  rfl

/-- A ROM that was not is. -/
theorem perform_unread (unread : Unread com device) :
    call.perform host (⟨b, device⟩ : DeviceState β) =
      match readConfigRom host ⟨b, .new com⟩ with
      | .returned () s =>
          .returned (call.answer s.device.exposed)
            { s with device := { s.device with configRomRead := true } }
      | .thrown e s => .thrown e s
      | .undefined => .undefined := by
  have first : getConfigRom host (⟨b, device⟩ : DeviceState β) =
      (readConfigRom host ⟨b, .new com⟩).andThen fun _ => ⟨fun s =>
        .returned s.device.exposed { s with device := { s.device with configRomRead := true } }⟩ := by
    rw [← readConfigRom_restarts unread]
    simp only [getConfigRom, Call.bind_apply, Call.get_apply, Outcome.andThen_returned,
      unread.read, Bool.not_false, if_true]
    cases readConfigRom host (⟨b, device⟩ : DeviceState β) <;> rfl
  rw [perform_eq, first]
  cases readConfigRom host (⟨b, .new com⟩ : DeviceState β) <;> rfl

/-- After a call that threw, the next one starts from the beginning. -/
theorem perform_restarts (b : β) (unread : Unread com device) :
    call.perform host (⟨b, device⟩ : DeviceState β) = call.perform host ⟨b, .new com⟩ := by
  have fresh : Unread com (.new com) := ⟨rfl, rfl, rfl⟩
  rw [perform_unread unread, perform_unread fresh]

end Getter

/-! ## Runs -/

section Runs

open FirewireDevice

variable {β : Type}

/-- The state that calls leave behind. -/
def leftBy (initial : DeviceState β) (log : List (GetterEntry β)) : DeviceState β :=
  (log.getLast?.map GetterEntry.left).getD initial

theorem leftBy_append (initial : DeviceState β) (log : List (GetterEntry β))
    (e : GetterEntry β) : leftBy initial (log ++ [e]) = e.left := by
  rw [leftBy, List.getLast?_concat]
  rfl

variable [Bus β] [ServesMemory β] {host : Endian} {b : β} {com : CommunicationLibraw1394}
  {s s' : GetterRun β} {call : Getter}

/-- A read leaves the memories alone. -/
theorem fixes_contents_read (question : RomRead) :
    Call.Fixes (fun s : DeviceState β => ServesMemory.contents s.bus)
      (RomDialogue.asking question) := by
  intro c s holds
  obtain ⟨outcome, loop, equation⟩ := CommunicationLibraw1394.exists_readLoop
    s.device.com.handle s.device.com.node question.address question.length s.bus
  show (Outcome.mapState _ (CommunicationLibraw1394.readNode _ _ _ _ s.bus)).Leaves _ _
  rw [equation, Outcome.leaves_mapState]
  cases outcome with
  | returned bytes b' => exact (ends_readLoop_of_contents loop nofun).1.trans holds
  | thrown shortfall b' =>
      have kept := ends_readLoop_of_contents loop nofun
      exact kept.trans holds
  | undefined => trivial

theorem fixes_contents_readConfigRom :
    Call.Fixes (fun s : DeviceState β => ServesMemory.contents s.bus)
      (readConfigRom host : Call Exn (DeviceState β) Unit) := by
  intro c
  have asks (question : RomRead) :
      Call.Preserves (fun s : DeviceState β => ServesMemory.contents s.bus = c)
        (RomDialogue.asking question) := fixes_contents_read question c
  rw [← RomDialogue.onBus_readConfigRom]
  exact Dialogue.upholds_run RomDialogue.asking RomDialogue.noting asks
    (fun _ => Call.preserves_modify fun _ same => same) _

/-- A call that threw leaves an object behind that has parsed nothing. -/
structure Threw (b : β) (com : CommunicationLibraw1394) (e : GetterEntry β) : Prop where
  answer : e.answer = none
  unread : Unread com e.left.device
  contents : ServesMemory.contents e.left.bus = ServesMemory.contents b

/-- The state is the one after the last call, and nothing has been parsed yet;
or it is the one after the only parse that was completed, and all calls since
then answered from that. -/
inductive Consistent (host : Endian) (b : β) (com : CommunicationLibraw1394) :
    GetterRun β → Prop
  | parsing {state : DeviceState β} {log : List (GetterEntry β)}
      (threw : ∀ e ∈ log, Threw b com e) (left : state = leftBy ⟨b, .new com⟩ log)
      (unread : Unread com state.device)
      (contents : ServesMemory.contents state.bus = ServesMemory.contents b) :
      Consistent host b com ⟨state, log⟩
  | parsed {after : β} {failed answered : List (GetterEntry β)} {parsed : FirewireDevice}
      (threw : ∀ e ∈ failed, Threw b com e)
      (contents : ServesMemory.contents (leftBy ⟨b, .new com⟩ failed).bus =
        ServesMemory.contents b)
      (parse : readConfigRom host ⟨(leftBy ⟨b, .new com⟩ failed).bus, .new com⟩ =
        .returned () ⟨after, parsed⟩)
      (same : ∀ e ∈ answered, e.answer = some (e.call.answer parsed.exposed) ∧
        e.left = ⟨after, { parsed with configRomRead := true }⟩) :
      Consistent host b com
        ⟨⟨after, { parsed with configRomRead := true }⟩, failed ++ answered⟩

theorem Consistent.step (consistent : Consistent host b com s)
    (stepped : (getters host).step s call = some s') : Consistent host b com s' := by
  cases consistent with
  | @parsing state log threw left unread contents =>
      have performed : call.perform host state = _ := Getter.perform_unread unread
      have leaves := readConfigRom_leaves host (⟨state.bus, .new com⟩ : DeviceState β)
      have fixed : (readConfigRom host ⟨state.bus, .new com⟩).Leaves _ _ :=
        fixes_contents_readConfigRom _ (⟨state.bus, .new com⟩ : DeviceState β) rfl
      rw [getters] at stepped
      simp only [performed] at stepped
      cases parse : readConfigRom host (⟨state.bus, .new com⟩ : DeviceState β) with
      | returned _ s₁ =>
          rw [parse] at stepped
          obtain rfl := Option.some.inj stepped
          rw [left] at parse contents
          exact .parsed threw contents parse (List.forall_mem_singleton.mpr ⟨rfl, rfl⟩)
      | thrown e s₁ =>
          rw [parse] at stepped leaves fixed
          obtain rfl := Option.some.inj stepped
          obtain ⟨sameCom, flags⟩ := Prod.mk.inj leaves
          obtain ⟨read, valid⟩ := Prod.mk.inj flags
          have unread' : Unread com s₁.device := ⟨sameCom, read, valid⟩
          have contents' : ServesMemory.contents s₁.bus = ServesMemory.contents b :=
            fixed.trans contents
          have left' : s₁ = leftBy ⟨b, .new com⟩ (log ++ [⟨call, none, s₁⟩]) :=
            (leftBy_append _ log ⟨call, none, s₁⟩).symm
          refine .parsing (List.forall_mem_append.mpr ⟨threw, ?_⟩) left' unread' contents'
          exact List.forall_mem_singleton.mpr ⟨rfl, unread', contents'⟩
      | undefined =>
          rw [parse] at stepped
          cases stepped
  | @parsed after failed answered parsed threw contents parse same =>
      have performed : call.perform host
          (⟨after, { parsed with configRomRead := true }⟩ : DeviceState β) = _ :=
        Getter.perform_read rfl
      rw [getters] at stepped
      simp only [performed] at stepped
      obtain rfl := Option.some.inj stepped
      rw [List.append_assoc]
      refine .parsed threw contents parse (List.forall_mem_append.mpr ⟨same, ?_⟩)
      exact List.forall_mem_singleton.mpr ⟨rfl, rfl⟩

theorem consistent_of_run {calls : List Getter}
    (reached : (getters host).run (.start b com) calls = some s) : Consistent host b com s := by
  have start : Consistent host b com (.start b com) := by
    refine .parsing ?_ rfl ⟨rfl, rfl, rfl⟩ rfl
    intro e member
    exact absurd member List.not_mem_nil
  exact System.run_induction start (fun _ _ _ consistent stepped => consistent.step stepped) reached

/-- Where the textual leaf is not too short, every call ends. -/
theorem exists_getters_step
    (fits : (romImage (ServesMemory.contents b) com).LeafFitsOn host)
    (consistent : Consistent host b com s) (call : Getter) :
    ∃ s', (getters host).step s call = some s' := by
  cases consistent with
  | @parsing state log threw left unread contents =>
      have performed : call.perform host state = _ := Getter.perform_unread unread
      have calmedParse : readConfigRom host (calmed ⟨state.bus, .new com⟩) =
          .returned () (onMemory (ServesMemory.contents state.bus)
            (afterReading (.new com) ((romImage (ServesMemory.contents state.bus) com).parseOn
              host))) := by
        refine readConfigRom_on ?_
        rwa [← contents] at fits
      have simulates := simulatesOrThrows_readConfigRom host (⟨state.bus, .new com⟩ : DeviceState β)
      rw [getters]
      simp only [performed]
      cases parse : readConfigRom host (⟨state.bus, .new com⟩ : DeviceState β) with
      | returned _ s₁ => exact ⟨_, rfl⟩
      | thrown e s₁ => exact ⟨_, rfl⟩
      | undefined =>
          rw [parse, calmedParse] at simulates
          rcases simulates with ⟨e, t, thrown⟩ | same
          · cases thrown
          · cases same
  | @parsed after failed answered parsed threw contents parse same =>
      have performed : call.perform host
          (⟨after, { parsed with configRomRead := true }⟩ : DeviceState β) = _ :=
        Getter.perform_read rfl
      rw [getters]
      simp only [performed]
      exact ⟨_, rfl⟩

omit [ServesMemory β] in
/-- The log keeps the calls. -/
theorem calls_of_run {calls : List Getter} (reached : (getters host).run s calls = some s') :
    s'.log.map GetterEntry.call = s.log.map GetterEntry.call ++ calls := by
  induction calls generalizing s with
  | nil =>
      cases reached
      exact (List.append_nil _).symm
  | cons call calls ih =>
      obtain ⟨s₁, stepped, reached⟩ := System.run_cons_eq_some.mp reached
      have logged : s₁.log.map GetterEntry.call = s.log.map GetterEntry.call ++ [call] := by
        rw [getters] at stepped
        dsimp only at stepped
        split at stepped
        · obtain rfl := Option.some.inj stepped
          rw [List.map_append, List.map_singleton]
        · obtain rfl := Option.some.inj stepped
          rw [List.map_append, List.map_singleton]
        · cases stepped
      rw [ih reached, logged, List.append_assoc, List.singleton_append]

/-- A parse that was completed is one without a failing read. -/
theorem parse_calmed {b₁ after : β} {parsed : FirewireDevice}
    (contents : ServesMemory.contents b₁ = ServesMemory.contents b)
    (parse : readConfigRom host ⟨b₁, .new com⟩ = .returned () ⟨after, parsed⟩) :
    readConfigRom host (onMemory (ServesMemory.contents b) (.new com)) =
      .returned () (onMemory (ServesMemory.contents b) parsed) := by
  have fixed : (readConfigRom host ⟨b₁, .new com⟩).Leaves _ _ :=
    fixes_contents_readConfigRom _ (⟨b₁, .new com⟩ : DeviceState β) rfl
  have simulates := simulatesOrThrows_readConfigRom host (⟨b₁, .new com⟩ : DeviceState β)
  rw [parse] at fixed simulates
  have kept : ServesMemory.contents after = ServesMemory.contents b := fixed.trans contents
  rcases simulates with ⟨e, t, thrown⟩ | same
  · cases thrown
  · rwa [calmed, Outcome.mapState_returned, calmed, contents, kept] at same

end Runs

open FirewireDevice in
/-- **The getters of the ROM.**  In any run of getters, the calls that throw come
first.  Each leaves both flags unset, and the next call does what it would do on
a new object.  Behind them, every call answers from one parse that was
completed; it is the parse without a failing read, and nothing is read again.
After a wrong magic number, there is nothing to answer from. -/
theorem getters_answer {β : Type} [Bus β] [ServesMemory β] {host : Endian} {b : β}
    {com : CommunicationLibraw1394} {calls : List Getter} {s : GetterRun β}
    (reached : (getters host).run (.start b com) calls = some s) :
    ∃ failed answered, s.log = failed ++ answered ∧ s.log.map GetterEntry.call = calls ∧
      (∀ e ∈ failed, e.answer = none ∧ e.left.device.configRomRead = false ∧
        e.left.device.configRomValid = false ∧
        ∀ call : Getter, call.perform host e.left = call.perform host ⟨e.left.bus, .new com⟩) ∧
      (answered ≠ [] → ∃ after parsed,
        readConfigRom host ⟨(leftBy ⟨b, .new com⟩ failed).bus, .new com⟩ =
          .returned () ⟨after, parsed⟩ ∧
        readConfigRom host (onMemory (ServesMemory.contents b) (.new com)) =
          .returned () (onMemory (ServesMemory.contents b) parsed) ∧
        ((romImage (ServesMemory.contents b) com).IsGeneral →
          ¬(romImage (ServesMemory.contents b) com).Accepted host → parsed.exposed = none) ∧
        ∀ e ∈ answered, e.answer = some (e.call.answer parsed.exposed) ∧
          e.left = ⟨after, { parsed with configRomRead := true }⟩) := by
  have logged : s.log.map GetterEntry.call = calls := calls_of_run reached
  have restarts {e : GetterEntry β} (threw : Threw b com e) : e.answer = none ∧
      e.left.device.configRomRead = false ∧ e.left.device.configRomValid = false ∧
      ∀ call : Getter, call.perform host e.left = call.perform host ⟨e.left.bus, .new com⟩ := by
    exact ⟨threw.answer, threw.unread.read, threw.unread.valid, fun call =>
      Getter.perform_restarts e.left.bus threw.unread⟩
  cases consistent_of_run reached with
  | @parsing state log threw left unread contents =>
      refine ⟨log, [], (List.append_nil _).symm, logged, fun e member => restarts (threw e member),
        fun nonempty => absurd rfl nonempty⟩
  | @parsed after failed answered parsed threw contents parse same =>
      refine ⟨failed, answered, rfl, logged, fun e member => restarts (threw e member), fun _ => ?_⟩
      have calm := parse_calmed contents parse
      refine ⟨after, parsed, parse, calm, fun general wrong => ?_, same⟩
      have null : readConfigRom host (onMemory (ServesMemory.contents b) (.new com)) =
          .returned () (onMemory (ServesMemory.contents b) (afterReading (.new com) none)) :=
        readConfigRom_of_wrong general wrong
      have device := congrArg DeviceState.device (Outcome.returned.inj (calm.symm.trans null)).2
      have parsed_eq : parsed = afterReading (.new com) none := device
      rw [parsed_eq]
      rfl

/-- The memory of a node with a general ROM: the vendor with its name in a textual
leaf, and a unit directory. -/
def generalRom : Memory :=
  Memory.store (fun _ _ _ => 0) 0 0xffc0 CONFIG_ROM_ADDR
    [0x04, 0x04, 0x00, 0x00, 0x31, 0x33, 0x39, 0x34, 0x00, 0x00, 0x80, 0x00,
      0x00, 0x0b, 0x99, 0x00, 0x00, 0x00, 0x00, 0x07,
      0x00, 0x03, 0x00, 0x00, 0x03, 0x00, 0x0b, 0x99, 0x81, 0x00, 0x00, 0x02,
      0xd1, 0x00, 0x00, 0x05,
      0x00, 0x03, 0x00, 0x00, 0x00, 0x00, 0x00, 0x00, 0x00, 0x00, 0x00, 0x00,
      0x53, 0x41, 0x54, 0x00,
      0x00, 0x01, 0x00, 0x00, 0x12, 0x00, 0x00, 0x2a]

/-- Its tenth transaction fails. -/
def unlucky : MemoryBus := ⟨generalRom, List.replicate 9 none ++ [some 110]⟩

/-- The first call throws in the middle of the parse; the others answer. -/
theorem getters_answer_second : ∃ s,
    (getters .little).run (.start unlucky ⟨0xffc0, ⟨0, 0⟩, none, none⟩)
        [.vendorName, .vendorId, .vendorName] = some s ∧
      s.log.map GetterEntry.answer =
        [none, some (.id 0x000b99), some (.name (some [0x53, 0x41, 0x54, 0x00]))] ∧
      ∃ failed answered parsed, s.log = failed ++ answered ∧ answered ≠ [] ∧
        (∀ e ∈ failed, e.left.device.configRomValid = false) ∧
        ∀ e ∈ answered,
          e.answer = some (e.call.answer (FirewireDevice.exposed parsed)) := by
  obtain ⟨s, reached, answers⟩ := Option.map_eq_some_iff.mp (show
    ((getters .little).run (.start unlucky ⟨0xffc0, ⟨0, 0⟩, none, none⟩)
      [.vendorName, .vendorId, .vendorName]).map (fun s => s.log.map GetterEntry.answer) =
        some [none, some (.id 0x000b99), some (.name (some [0x53, 0x41, 0x54, 0x00]))] by
    decide +kernel)
  obtain ⟨failed, answered, log, -, threw, back⟩ := getters_answer reached
  have some' : answered ≠ [] := by
    rintro rfl
    rw [log, List.append_nil] at answers
    have member : some (Answer.id 0x000b99) ∈ failed.map GetterEntry.answer := by
      rw [answers]
      exact List.mem_cons_of_mem _ List.mem_cons_self
    obtain ⟨e, inside, answer⟩ := List.mem_map.mp member
    rw [(threw e inside).1] at answer
    cases answer
  obtain ⟨after, parsed, -, -, -, same⟩ := back some'
  exact ⟨s, reached, answers, failed, answered, parsed, log, some',
    fun e member => (threw e member).2.2.1, fun e member => (same e member).1⟩

end LibPhantom
