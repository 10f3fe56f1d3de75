import PhantomDrivers.LibPhantom.IsoIterate
import PhantomDrivers.LibPhantom.SearchFrames

/-!
# The pointers to the channel objects

`recv_channel` and `xmit_channel` of a Phantom are never cleared, and only the
flag `started` tells whether they may be followed.  `startPhantom`,
`stopPhantom` and the destructor ask it; `isoIterate` does not.

* `Custody` — the library, and who created each channel object.
* `Custody.reach` — the library as a Phantom may see it: the channel objects of
  the other Phantoms are taken away.  A call that is still defined there follows
  and deletes nothing but live channel objects of the Phantom's own, and none of
  them twice.
* `Pointed` — where the pointers of the Phantoms come from during a call.
* `always_lawful_of_started` — if `isoIterate` is only called on a Phantom that
  is started, no call ever leaves the reach of its Phantom.
-/

namespace LibPhantom

open Semantics Raw1394

/-- The Phantom has a pointer to the channel object, live or not. -/
def Phantom.PointsTo (ph : Phantom) (q : Ptr) : Prop :=
  ph.recvChannel = some q ∨ ph.xmitChannel = some q

namespace Library

variable {β : Type}

/-! ## Calls that leave the channel objects alone -/

/-- The Phantoms and the channel objects. -/
def objects (s : Library β) : Heap Phantom × Heap PhantomIsoChannel := (s.phantoms, s.isoChannels)

section Fixes

variable {handle : Handle} {p : Ptr}

theorem fixes_useHandle : (useHandle handle : Call Exn (Library β) Unit).Fixes objects :=
  (fixesResources_useHandle handle).comp fun r => r.2.2

theorem fixes_destroyHandle : (destroyHandle handle : Call Exn (Library β) Unit).Fixes objects :=
  (fixesResources_destroyHandle handle).comp fun r => r.2.2

theorem fixes_device : (device p : Call Exn (Library β) _).Fixes objects :=
  fixesResources_device.comp fun r => r.2.2

theorem fixes_phantom : (phantom p : Call Exn (Library β) _).Fixes objects := by
  intro c
  refine Call.preserves_bind Call.preserves_get fun s => ?_
  split
  · exact Call.preserves_undefined
  · exact Call.preserves_pure _

theorem fixes_channelPtr (member : Phantom → Option Ptr) :
    (channelPtr p member : Call Exn (Library β) _).Fixes objects := by
  intro c
  refine Call.preserves_bind (fixes_phantom c) fun ph => ?_
  split
  · exact Call.preserves_undefined
  · exact Call.preserves_pure _

theorem fixes_isoChannel : (isoChannel p : Call Exn (Library β) _).Fixes objects := by
  intro c
  refine Call.preserves_bind Call.preserves_get fun s => ?_
  split
  · exact Call.preserves_undefined
  · exact Call.preserves_pure _

theorem fixes_deleteCommunication (com : CommunicationLibraw1394) :
    (deleteCommunication com : Call Exn (Library β) Unit).Fixes objects :=
  fixes_destroyHandle

theorem fixes_deleteDevice : (deleteDevice p : Call Exn (Library β) Unit).Fixes objects := by
  intro c
  refine Call.preserves_bind (fixes_device c) fun d => ?_
  refine Call.preserves_bind Call.preserves_get fun s => ?_
  split
  · exact Call.preserves_undefined
  · refine Call.preserves_bind (Call.preserves_modify fun _ same => same) fun _ => ?_
    refine Call.preserves_bind (fixes_destroyHandle c) fun _ => ?_
    refine Call.preserves_bind (fixes_deleteCommunication d.com c) fun _ => ?_
    exact Call.preserves_modify fun _ same => same

theorem fixes_onRegisters (com : CommunicationLibraw1394) (accesses : Call Exn β Unit) :
    (onRegisters com accesses : Call Exn (Library β) Unit).Fixes objects := by
  intro c
  refine Call.preserves_bind (fixes_useHandle c) fun _ => ?_
  exact Call.preserves_within fun _ _ same => same

theorem fixes_handlePackets (com : CommunicationLibraw1394) (packets : Nat) :
    (handlePackets com packets : Call Exn (Library β) Unit).Fixes objects := by
  intro c
  induction packets with
  | zero => exact Call.preserves_pure _
  | succ packets ih =>
      refine Call.preserves_bind ?_ fun _ => ih
      unfold callbackHandler
      split
      · exact Call.preserves_undefined
      · exact Call.preserves_bind (fixes_isoChannel c) fun _ => Call.preserves_pure _

theorem fixes_iterateChannel (iteration : LoopIteration) :
    (iterateChannel p iteration : Call Exn (Library β) Unit).Fixes objects := by
  intro c
  refine Call.preserves_bind (fixes_isoChannel c) fun channel => ?_
  refine Call.preserves_bind (Call.preserves_bind (fixes_useHandle c) fun _ =>
    Call.preserves_bind (fixes_handlePackets _ _ c) fun _ => Call.preserves_pure _) fun failure => ?_
  split
  · exact Call.preserves_pure _
  · exact Call.preserves_ite (Call.preserves_throw _) (Call.preserves_pure _)

theorem fixes_isoIterate (recv xmit : LoopIteration) :
    (isoIterate p recv xmit : Call Exn (Library β) Unit).Fixes objects := by
  intro c
  refine Call.preserves_bind (fixes_channelPtr _ c) fun r => ?_
  refine Call.preserves_bind (fixes_iterateChannel recv c) fun _ => ?_
  refine Call.preserves_bind (fixes_channelPtr _ c) fun x => ?_
  exact fixes_iterateChannel xmit c

variable [Bus β]

theorem fixes_getFreeChannel (host : Host) :
    (getFreeChannel host p : Call Exn (Library β) Nat).Fixes objects := by
  intro c
  refine Call.preserves_bind (fixes_device c) fun d => ?_
  refine Call.preserves_bind (fixes_useHandle c) fun _ => ?_
  refine Call.preserves_bind (Call.preserves_within fun _ _ same => same) fun buffer => ?_
  split
  · exact Call.preserves_pure _
  · exact Call.preserves_throw _

theorem fixes_channelModify (d : FirewireDeviceLibraw1394) (channel : Nat) (mode : Modify) :
    (channelModify d channel mode : Call Exn (Library β) Bool).Fixes objects := by
  intro c s same
  simp only [channelModify]
  split
  · exact same
  · exact same

theorem fixes_claimChannel (channel : Nat) :
    (claimChannel p channel : Call Exn (Library β) Unit).Fixes objects := by
  intro c
  refine Call.preserves_bind (fixes_device c) fun d => ?_
  refine Call.preserves_bind (fixes_useHandle c) fun _ => ?_
  refine Call.preserves_bind (fixes_channelModify d channel .alloc c) fun modified => ?_
  exact Call.preserves_ite (Call.preserves_throw _) (Call.preserves_pure _)

theorem fixes_releaseChannel (channel : Nat) :
    (releaseChannel p channel : Call Exn (Library β) Unit).Fixes objects := by
  intro c
  refine Call.preserves_bind (fixes_device c) fun d => ?_
  refine Call.preserves_bind (fixes_useHandle c) fun _ => ?_
  refine Call.preserves_bind (fixes_channelModify d channel .free c) fun modified => ?_
  exact Call.preserves_ite (Call.preserves_throw _) (Call.preserves_pure _)

end Fixes

/-! ## Where the pointers come from -/

/-- During a call of a method of the Phantom `p` that started in `s₀`: the
pointers of the Phantoms are the ones they had, and for `p` also pointers to
channel objects made by the call. -/
structure Pointed (s₀ : Library β) (p : Ptr) (s : Library β) : Prop where
  calls : SelfCalling s
  grown : s₀.isoChannels.next ≤ s.isoChannels.next
  pointers : ∀ p' ph q, s.phantoms p' = some ph → ph.PointsTo q →
    (∃ ph₀, s₀.phantoms p' = some ph₀ ∧ ph₀.PointsTo q) ∨
      p' = p ∧ s₀.isoChannels.next ≤ q ∧ q < s.isoChannels.next

section Pointed

variable {s₀ s s' : Library β} {p q r : Ptr} {host : Host}

theorem Pointed.of_objects (pointed : Pointed s₀ p s) (same : objects s' = objects s) :
    Pointed s₀ p s' := by
  obtain ⟨phantoms, isoChannels⟩ := Prod.mk.inj same
  refine ⟨?_, ?_, ?_⟩
  · intro q c live
    rw [isoChannels] at live
    exact pointed.calls q c live
  · rw [isoChannels]
    exact pointed.grown
  · intro p' ph q live points
    rw [phantoms] at live
    rw [isoChannels]
    exact pointed.pointers p' ph q live points

/-- A call that leaves the objects alone leaves the pointers alone. -/
theorem preserves_of_fixes {α : Type} {m : Call Exn (Library β) α} (fixes : m.Fixes objects) :
    m.Preserves (Pointed s₀ p) :=
  fixes.preserves fun _ _ same pointed => pointed.of_objects same

/-- New channel objects have no transfer yet. -/
theorem Pointed.alloc (pointed : Pointed s₀ p s) {c : PhantomIsoChannel}
    (unused : c.com.context = none) :
    Pointed s₀ p { s with isoChannels := s.isoChannels.alloc c } where
  calls := by
    intro q c' live enabled
    rcases Heap.alloc_eq_some.mp live with ⟨-, rfl⟩ | live
    · rw [unused] at enabled
      cases enabled
    · exact pointed.calls q c' live enabled
  grown := Nat.le_succ_of_le pointed.grown
  pointers := by
    intro p' ph q live points
    rcases pointed.pointers p' ph q live points with old | ⟨own, above, below⟩
    · exact .inl old
    · exact .inr ⟨own, above, Nat.lt_succ_of_lt below⟩

theorem Pointed.free (pointed : Pointed s₀ p s) (q : Ptr) :
    Pointed s₀ p { s with isoChannels := s.isoChannels.free q } :=
  { pointed with
    calls := fun q' c live => pointed.calls q' c (Heap.free_eq_some.mp live).2 }

/-- A change of a transfer. -/
theorem Pointed.modify (pointed : Pointed s₀ p s) {f : PhantomIsoChannel → PhantomIsoChannel}
    (calls : ∀ c, (f c).com.context.isSome → (f c).com.isoChannel = some q) :
    Pointed s₀ p { s with isoChannels := s.isoChannels.modify q f } := by
  refine { pointed with calls := ?_ }
  intro q' c live enabled
  obtain ⟨c₀, live₀, rfl⟩ := (Heap.modify_eq_some _).mp live
  split at enabled
  · next same =>
      rw [if_pos same, same]
      exact calls c₀ enabled
  · next different =>
      rw [if_neg different]
      exact pointed.calls q' c₀ live₀ enabled

/-- An assignment to fields of the Phantom whose method runs. -/
theorem Pointed.modifyPhantom (pointed : Pointed s₀ p s) {f : Phantom → Phantom}
    (points : ∀ ph q, (f ph).PointsTo q →
      ph.PointsTo q ∨ s₀.isoChannels.next ≤ q ∧ q < s.isoChannels.next) :
    Pointed s₀ p { s with phantoms := s.phantoms.modify p f } := by
  refine { pointed with pointers := ?_ }
  intro p' ph q live pointsTo
  obtain ⟨ph₀, live₀, rfl⟩ := (Heap.modify_eq_some _).mp live
  split at pointsTo
  · next same =>
      rcases points ph₀ q pointsTo with old | new
      · exact pointed.pointers p' ph₀ q live₀ old
      · exact .inr ⟨same, new⟩
  · exact pointed.pointers p' ph₀ q live₀ pointsTo

/-- The flag does not matter. -/
theorem preserves_mark (started : Bool) :
    (Library.modifyPhantom p fun phantom => { phantom with started } :
      Call Exn (Library β) Unit).Preserves (Pointed s₀ p) :=
  Call.preserves_modify fun _ pointed => pointed.modifyPhantom fun _ _ points => .inl points

theorem leaves_createCommunication (pointed : Pointed s₀ p s) :
    (createCommunication q s).Leaves (fun com s' => com.context = none ∧ Pointed s₀ p s')
      fun _ => Pointed s₀ p := by
  refine Call.leaves_bind (preserves_of_fixes fixes_device s pointed) fun d s₁ pointed₁ => ?_
  exact ⟨rfl, pointed₁.of_objects rfl⟩

variable [Bus β]

/-- The constructor of a channel object returns a pointer that is new. -/
theorem leaves_newChannel (pointed : Pointed s₀ p s) (dev : Ptr) (receiving : Bool) :
    (newChannel host dev receiving s).Leaves
      (fun q s' => (s₀.isoChannels.next ≤ q ∧ q < s'.isoChannels.next) ∧ Pointed s₀ p s')
      fun _ => Pointed s₀ p := by
  refine Call.leaves_bind (leaves_createCommunication pointed) ?_
  rintro com s₁ ⟨unused, pointed₁⟩
  refine Call.leaves_bind (leaves_createCommunication pointed₁) ?_
  rintro comConfig s₂ ⟨-, pointed₂⟩
  refine Call.leaves_bind (preserves_of_fixes (fixes_getFreeChannel host) s₂ pointed₂)
    fun channel s₃ pointed₃ => ?_
  refine Call.leaves_bind (preserves_of_fixes (fixes_claimChannel channel) s₃ pointed₃)
    fun _ s₄ pointed₄ => ?_
  exact ⟨⟨pointed₄.grown, Nat.lt_succ_self _⟩, pointed₄.alloc unused⟩

theorem preserves_startChannel : (startChannel q).Preserves (Pointed (β := β) s₀ p) := by
  refine Call.preserves_bind (preserves_of_fixes fixes_isoChannel) fun c => ?_
  refine Call.preserves_bind (preserves_of_fixes fixes_useHandle) fun _ => ?_
  refine Call.preserves_bind (Call.preserves_modify fun s pointed => pointed.modify ?_)
    fun _ => preserves_of_fixes (fixes_onRegisters _ _)
  intro c _
  dsimp only [startTransfer]
  split
  · rfl
  · rfl

theorem preserves_stopChannel : (stopChannel q).Preserves (Pointed (β := β) s₀ p) := by
  refine Call.preserves_bind (preserves_of_fixes fixes_isoChannel) fun c => ?_
  refine Call.preserves_bind (preserves_of_fixes (fixes_onRegisters _ _)) fun _ => ?_
  refine Call.preserves_bind (preserves_of_fixes fixes_useHandle) fun _ => ?_
  refine Call.preserves_modify fun s pointed => pointed.modify ?_
  -- A stopped transfer has no context, so it has no handlers.
  intro c enabled
  cases enabled

theorem preserves_deleteChannel : (deleteChannel q).Preserves (Pointed (β := β) s₀ p) := by
  have freed : (freeChannel q).Preserves (Pointed (β := β) s₀ p) :=
    Call.preserves_modify fun _ pointed => pointed.free q
  have destroyed : (destroyChannel q).Preserves (Pointed (β := β) s₀ p) := by
    refine Call.preserves_bind preserves_stopChannel fun _ => ?_
    refine Call.preserves_bind (preserves_of_fixes fixes_isoChannel) fun c => ?_
    refine Call.preserves_bind (preserves_of_fixes (fixes_releaseChannel c.channel)) fun _ => ?_
    refine Call.preserves_bind (preserves_of_fixes (fixes_deleteCommunication c.com)) fun _ => ?_
    exact preserves_of_fixes (fixes_deleteCommunication c.comConfig)
  refine Call.preserves_bind (Call.preserves_tryCatch destroyed fun e => ?_) fun _ => freed
  exact Call.preserves_bind freed fun _ => Call.preserves_throw e

theorem preserves_newXmitChannel :
    (newXmitChannel host p).Preserves (Pointed (β := β) s₀ p) := by
  refine Call.preserves_tryCatch ?_ fun e => ?_
  · refine Call.preserves_bind (preserves_of_fixes fixes_phantom) fun ph s pointed => ?_
    refine Call.leaves_bind (leaves_newChannel pointed ph.firewireDevice false) ?_
    rintro xmit s₁ ⟨new, pointed₁⟩
    refine pointed₁.modifyPhantom fun ph q points => ?_
    rcases points with recv | same
    · exact .inl (.inl recv)
    · exact .inr (Option.some.inj same ▸ new)
  · refine Call.preserves_bind (preserves_of_fixes (fixes_channelPtr _)) fun r => ?_
    exact Call.preserves_bind preserves_deleteChannel fun _ => Call.preserves_throw e

theorem preserves_newChannels : (newChannels host p).Preserves (Pointed (β := β) s₀ p) := by
  refine Call.preserves_bind (preserves_of_fixes fixes_phantom) fun ph s pointed => ?_
  refine Call.leaves_bind (leaves_newChannel pointed ph.firewireDevice true) ?_
  rintro recv s₁ ⟨new, pointed₁⟩
  refine preserves_newXmitChannel _ (pointed₁.modifyPhantom fun ph q points => ?_)
  rcases points with same | xmit
  · exact .inr (Option.some.inj same ▸ new)
  · exact .inl (.inr xmit)

theorem preserves_startPhantom : (startPhantom host p).Preserves (Pointed (β := β) s₀ p) := by
  refine Call.preserves_bind (preserves_of_fixes fixes_phantom) fun ph => ?_
  refine Call.preserves_ite (Call.preserves_throw _) ?_
  refine Call.preserves_bind (preserves_mark true) fun _ => ?_
  refine Call.preserves_bind (Call.preserves_tryCatch preserves_newChannels fun e => ?_) fun _ => ?_
  · exact Call.preserves_bind (preserves_mark false) fun _ => Call.preserves_throw e
  · refine Call.preserves_bind (preserves_of_fixes (fixes_channelPtr _)) fun r => ?_
    refine Call.preserves_bind preserves_startChannel fun _ => ?_
    refine Call.preserves_bind (preserves_of_fixes (fixes_channelPtr _)) fun x => ?_
    exact preserves_startChannel

theorem preserves_stopPhantom : (stopPhantom p).Preserves (Pointed (β := β) s₀ p) := by
  refine Call.preserves_bind (preserves_of_fixes fixes_phantom) fun ph => ?_
  refine Call.preserves_ite (Call.preserves_pure _) ?_
  refine Call.preserves_bind (preserves_mark false) fun _ => ?_
  refine Call.preserves_bind ?_ fun _ => ?_
  · refine Call.preserves_bind (preserves_of_fixes (fixes_channelPtr _)) fun r => ?_
    refine Call.preserves_bind preserves_stopChannel fun _ => ?_
    refine Call.preserves_bind (preserves_of_fixes (fixes_channelPtr _)) fun x => ?_
    exact preserves_stopChannel
  · refine Call.preserves_bind (preserves_of_fixes (fixes_channelPtr _)) fun r => ?_
    refine Call.preserves_bind preserves_deleteChannel fun _ => ?_
    refine Call.preserves_bind (preserves_of_fixes (fixes_channelPtr _)) fun x => ?_
    exact preserves_deleteChannel

theorem preserves_deletePhantom : (deletePhantom p).Preserves (Pointed (β := β) s₀ p) := by
  have base : (deleteBaseDevice p).Preserves (Pointed (β := β) s₀ p) := by
    refine Call.preserves_bind (preserves_of_fixes fixes_phantom) fun ph => ?_
    refine Call.preserves_bind (preserves_of_fixes fixes_deleteDevice) fun _ => ?_
    refine Call.preserves_modify fun s pointed => { pointed with pointers := ?_ }
    intro p' ph q live points
    exact pointed.pointers p' ph q (Heap.free_eq_some.mp live).2 points
  refine Call.preserves_bind (Call.preserves_tryCatch preserves_stopPhantom fun e => ?_)
    fun _ => base
  exact Call.preserves_bind base fun _ => Call.preserves_throw e

end Pointed

end Library

/-! ## Runs -/

/-- A public method of a Phantom, and its destructor. -/
inductive PhantomMethod where
  | start
  | stop
  | iterate (recv xmit : LoopIteration)
  | destroy
deriving DecidableEq, Repr

/-- What a program does: it looks for a Phantom, or calls a method. -/
inductive PhantomUse where
  | findPhantom (serial : UInt32)
  | call (p : Ptr) (method : PhantomMethod)
deriving DecidableEq, Repr

/-- The library, and the Phantom that created each channel object.  `lawful`
says whether every call so far was defined within the reach of its Phantom. -/
structure Custody (β : Type) where
  library : Library β
  creator : Ptr → Option Ptr
  lawful : Bool

variable {β : Type} [Bus β]

/-- The call of a method. -/
def PhantomMethod.invoke (host : Host) (p : Ptr) : PhantomMethod → Call Exn (Library β) Unit
  | start => Library.startPhantom host p
  | stop => Library.stopPhantom p
  | iterate recv xmit => Library.isoIterate p recv xmit
  | destroy => Library.deletePhantom p

namespace Custody

/-- The library without the channel objects that other Phantoms created. -/
def reach (u : Custody β) (p : Ptr) : Library β :=
  { u.library with isoChannels := u.library.isoChannels.filter fun q => u.creator q = some p }

/-- A program that has just started. -/
def initial (bus : β) : Custody β := ⟨Library.initial bus, fun _ => none, true⟩

/-- A call of a method.  The channel objects it makes are the Phantom's own. -/
def call (host : Host) (u : Custody β) (p : Ptr) (method : PhantomMethod) : Custody β :=
  let outcome := method.invoke host p u.library
  let library := outcome.state?.getD u.library
  { library
    creator := fun q =>
      if u.library.isoChannels.next ≤ q ∧ q < library.isoChannels.next then some p
      else u.creator q
    lawful := outcome.state?.isSome && (method.invoke host p (u.reach p)).state?.isSome }

/-- The next use, if it is possible: a method is called on a live Phantom. -/
def use (host : Host) (u : Custody β) : PhantomUse → Option (Custody β)
  | .findPhantom serial =>
      (Library.findPhantom host serial u.library).state?.map fun library => { u with library }
  | .call p method => if (u.library.phantoms p).isSome then some (u.call host p method) else none

end Custody

/-- Runs of programs that find Phantoms and call their methods, in any order and
with any answers of the bus.  Nothing follows a call that has no defined
behaviour. -/
def phantomUses (host : Host) : System (Custody β) PhantomUse where
  step u a := if u.lawful then u.use host a else none

/-- `isoIterate` is only called on a Phantom that is started. -/
def IteratesStarted (u : Custody β) : PhantomUse → Prop
  | .call p (.iterate _ _) => ∀ ph, u.library.phantoms p = some ph → ph.started = true
  | _ => True

namespace Custody

/-- The invariant: every pointer of a Phantom is to a channel object it created,
and a started Phantom is running. -/
structure Lawful (u : Custody β) : Prop where
  lawful : u.lawful = true
  sound : Library.Sound u.library
  calls : Library.SelfCalling u.library
  created : ∀ q p, u.creator q = some p → q < u.library.isoChannels.next
  own : ∀ p ph q, u.library.phantoms p = some ph → ph.PointsTo q → u.creator q = some p

variable {u : Custody β} {host : Host} {p r x : Ptr} {ph : Phantom} {method : PhantomMethod}
  {d : FirewireDeviceLibraw1394} {recv xmit : PhantomIsoChannel}

omit [Bus β] in
theorem lawful_initial (bus : β) : Lawful (Custody.initial bus) where
  lawful := rfl
  sound := Library.sound_initial bus
  calls _ _ live := nomatch live
  created _ _ created := nomatch created
  own _ _ _ live := nomatch live

omit [Bus β] in
/-- A started Phantom is running within its reach. -/
theorem Lawful.running_reach (lawful : Lawful u)
    (running : Library.Running u.library p d r x recv xmit) :
    Library.Running (u.reach p) p d r x recv xmit := by
  obtain ⟨dev, live, -⟩ := running.phantom
  refine ⟨running.phantom, ?_, ?_, running.different⟩
  · have mine := lawful.own p _ r live (.inl rfl)
    exact Heap.filter_eq_some.mpr ⟨decide_eq_true mine, running.recvLive⟩
  · have mine := lawful.own p _ x live (.inr rfl)
    exact Heap.filter_eq_some.mpr ⟨decide_eq_true mine, running.xmitLive⟩

omit [Bus β] in
theorem Lawful.calls_reach (lawful : Lawful u) : Library.SelfCalling (u.reach p) :=
  fun q c live => lawful.calls q c (Heap.filter_eq_some.mp live).2

/-- The methods that ask the flag are defined, and so is an iteration of a
started Phantom. -/
theorem Lawful.invoke (lawful : Lawful u) (host : Host) (live : u.library.phantoms p = some ph)
    (started : ∀ recv xmit, method = .iterate recv xmit → ph.started = true) :
    ∃ s', (method.invoke host p u.library).state? = some s' ∧ Library.Sound s' := by
  cases method with
  | start => exact lawful.sound.start host live
  | stop =>
      obtain ⟨s', -, state, sound, -⟩ := lawful.sound.stop live
      exact ⟨s', state, sound⟩
  | iterate recvIteration xmitIteration =>
      obtain ⟨d, r, x, recv, xmit, running⟩ := lawful.sound.running p ph live (started _ _ rfl)
      obtain ⟨log, state⟩ :=
        Library.isoIterate_of_running running lawful.calls recvIteration xmitIteration
      exact ⟨_, state, lawful.sound.of_resources rfl⟩
  | destroy => exact lawful.sound.destroy live

/-- They are defined within the reach of the Phantom, too. -/
theorem Lawful.invoke_reach (lawful : Lawful u) (host : Host)
    (live : u.library.phantoms p = some ph)
    (started : ∀ recv xmit, method = .iterate recv xmit → ph.started = true) :
    ((method.invoke host p (u.reach p)).state?).isSome := by
  have live' : (u.reach p).phantoms p = some ph := live
  obtain ⟨d, liveDevice⟩ := lawful.sound.connected p ph live
  have stops : ∃ s' ph', (Library.stopPhantom p (u.reach p)).state? = some s' ∧
      s'.devices = u.library.devices ∧ s'.openDevices = u.library.openDevices ∧
      s'.phantoms p = some ph' ∧ ph'.firewireDevice = ph.firewireDevice := by
    cases flag : ph.started with
    | false =>
        rw [Library.stopPhantom_of_idle live' flag]
        exact ⟨_, ph, rfl, rfl, rfl, live, rfl⟩
    | true =>
        obtain ⟨d, r, x, recv, xmit, running⟩ := lawful.sound.running p ph live flag
        obtain ⟨s', state, frame, stopped⟩ :=
          Library.stopPhantom_frame (lawful.running_reach running)
        obtain ⟨dev, there, -, same, -⟩ := running.phantom
        rw [live] at there
        refine ⟨s', _, state, frame.devices, frame.openDevices, stopped, ?_⟩
        rw [Option.some.inj there, ← same]
  cases method with
  | start =>
      refine Option.isSome_iff_exists.mpr ?_
      cases flag : ph.started with
      | true =>
          exact ⟨u.reach p, congrArg Outcome.state? (Library.startPhantom_of_started live' flag)⟩
      | false =>
          obtain ⟨s', -, state, -⟩ := Library.startPhantom_frame host live' flag liveDevice
          exact ⟨s', state⟩
  | stop =>
      obtain ⟨s', -, state, -⟩ := stops
      exact Option.isSome_of_eq_some state
  | iterate recvIteration xmitIteration =>
      obtain ⟨d, r, x, recv, xmit, running⟩ := lawful.sound.running p ph live (started _ _ rfl)
      obtain ⟨log, state⟩ := Library.isoIterate_of_running (lawful.running_reach running)
        lawful.calls_reach recvIteration xmitIteration
      exact Option.isSome_of_eq_some state
  | destroy =>
      obtain ⟨t, ph', state, devices, openDevices, stopped, device⟩ := stops
      have counted : Counted t := by
        obtain ⟨entries, lists, length⟩ := lawful.sound.counted
        exact ⟨entries, openDevices ▸ lists, devices ▸ length⟩
      have liveDevice' : t.devices ph'.firewireDevice = some d := by
        rw [devices, device, liveDevice]
      obtain ⟨table, deleted, -⟩ := counted.deleteDevice liveDevice'
      have base : Library.deleteBaseDevice p t = .returned ()
          { t.afterDeleteDevice ph'.firewireDevice d table with
            phantoms := t.phantoms.free p } := by
        simp only [Library.deleteBaseDevice, Call.bind_apply, Library.phantom_of_live stopped,
          Outcome.andThen_returned, deleted, Call.modify_apply]
        rfl
      exact Option.isSome_of_eq_some (Library.deletePhantom_state state base)

/-- The pointers are followed through every method. -/
theorem Lawful.pointed (lawful : Lawful u) {s' : Library β}
    (state : (method.invoke host p u.library).state? = some s') :
    Library.Pointed u.library p s' := by
  have start : Library.Pointed u.library p u.library :=
    ⟨lawful.calls, Nat.le_refl _, fun _ ph _ live points => .inl ⟨ph, live, points⟩⟩
  have preserved : (method.invoke host p).Preserves (Library.Pointed u.library p) := by
    cases method with
    | start => exact Library.preserves_startPhantom
    | stop => exact Library.preserves_stopPhantom
    | iterate recv xmit => exact Library.preserves_of_fixes (Library.fixes_isoIterate recv xmit)
    | destroy => exact Library.preserves_deletePhantom
  exact (preserved u.library start).of_state? state

theorem Lawful.call (lawful : Lawful u) (host : Host) (live : u.library.phantoms p = some ph)
    (started : ∀ recv xmit, method = .iterate recv xmit → ph.started = true) :
    Lawful (u.call host p method) := by
  obtain ⟨s', state, sound⟩ := lawful.invoke host live started
  have pointed := lawful.pointed state
  have library : (u.call host p method).library = s' := by
    show (method.invoke host p u.library).state?.getD u.library = s'
    rw [state, Option.getD_some]
  have creator (q : Ptr) : (u.call host p method).creator q =
      if u.library.isoChannels.next ≤ q ∧ q < s'.isoChannels.next then some p
      else u.creator q := by
    rw [← library]
    rfl
  refine ⟨?_, library ▸ sound, library ▸ pointed.calls, ?_, ?_⟩
  · show ((method.invoke host p u.library).state?.isSome && _) = true
    rw [state, lawful.invoke_reach host live started]
    rfl
  · intro q p' created
    rw [creator] at created
    rw [library]
    split at created
    · next new => exact new.2
    · exact Nat.lt_of_lt_of_le (lawful.created q p' created) pointed.grown
  · intro p' ph' q live' points
    rw [library] at live'
    rw [creator]
    rcases pointed.pointers p' ph' q live' points with ⟨ph₀, live₀, points₀⟩ | ⟨rfl, new⟩
    · have old := lawful.own p' ph₀ q live₀ points₀
      rw [if_neg fun new => Nat.not_lt_of_le new.1 (lawful.created q p' old), old]
    · rw [if_pos new]

/-- A search makes no channel object, and the Phantom it returns has no
pointers yet. -/
theorem Lawful.findPhantom (lawful : Lawful u) {serial : UInt32} {s' : Library β}
    (state : (Library.findPhantom host serial u.library).state? = some s') :
    Lawful { u with library := s' } := by
  have searching := (Library.searching_findPhantom lawful.sound).of_state? state
  refine ⟨lawful.lawful, searching.sound, ?_, ?_, ?_⟩
  · intro q c live
    rw [searching.isoChannels] at live
    exact lawful.calls q c live
  · intro q p' created
    show q < s'.isoChannels.next
    rw [searching.isoChannels]
    exact lawful.created q p' created
  · intro p' ph q live points
    rcases searching.phantoms p' ph live with old | ⟨recv, xmit⟩
    · exact lawful.own p' ph q old points
    · rcases points with same | same
      · exact absurd (recv.symm.trans same) (Option.some_ne_none _).symm
      · exact absurd (xmit.symm.trans same) (Option.some_ne_none _).symm

end Custody

/-- **The pointers to the channel objects.**  Programs find Phantoms and call
their methods and destructors in any order, with any answers of the bus.  If
`isoIterate` is only called on Phantoms that are started, every call is defined
within the reach of its Phantom: it follows and deletes nothing but live channel
objects that this Phantom created, and deletes none of them twice. -/
theorem always_lawful_of_started (host : Host) (bus : β) (actions : List PhantomUse)
    (started : (phantomUses host).StepsMeet IteratesStarted (Custody.initial bus) actions) :
    (phantomUses host).Always (fun u => u.lawful = true) (Custody.initial bus) actions := by
  refine System.always_of_stepsMeet (I := Custody.Lawful) (Custody.lawful_initial bus)
    (fun u lawful => lawful.lawful) ?_ started
  intro u a u' lawful met stepped
  have used : u.use host a = some u' := (if_pos lawful.lawful).symm.trans stepped
  cases a with
  | findPhantom serial =>
      obtain ⟨s', state, rfl⟩ := Option.map_eq_some_iff.mp used
      exact lawful.findPhantom state
  | call p method =>
      rw [Custody.use] at used
      split at used
      · next alive =>
          obtain ⟨ph, live⟩ := Option.isSome_iff_exists.mp alive
          cases used
          refine lawful.call host live ?_
          rintro recv xmit rfl
          exact met ph live
      · cases used

/-- The first node of the port 0 is a Phantom that answers every access, and all
channels are free. -/
def phantomMemory : Memory := fun _ node address =>
  if node ≠ 0xffc0 then 0
  else if address = 0x1083 then 0xc0
  -- a ROM of the minimal format, which holds the vendor only
  else if address = 0xfffff0000400 then 0x01
  else if address = 0xfffff0000402 ∨ address = 0x1006000d then 0x0b
  else if address = 0xfffff0000403 ∨ address = 0x1006000e then 0x99
  else 0

def phantomBus : ManagedBus := ⟨phantomMemory, fun _ => 0xffc1, fun _ _ => none, []⟩

/-- A start, two iterations of which the second fails, a stop, and the
destructor. -/
theorem always_lawful_of_started_session :
    (phantomUses twoNodes).Always (fun u => u.lawful = true) (Custody.initial phantomBus)
      [.findPhantom 0, .call 0 .start, .call 0 (.iterate ⟨2, none⟩ ⟨1, some 5⟩),
        .call 0 .stop, .call 0 .destroy] := by
  refine always_lawful_of_started twoNodes phantomBus _ ?_
  refine ⟨trivial, fun u₁ found => ⟨trivial, fun u₂ started => ⟨?_, fun _ _ =>
    ⟨trivial, fun _ _ => ⟨trivial, fun _ _ => trivial⟩⟩⟩⟩⟩
  have reached : (phantomUses twoNodes).run (Custody.initial phantomBus)
      [.findPhantom 0, .call 0 .start] = some u₂ :=
    System.run_cons_eq_some.mpr ⟨u₁, found, System.run_cons_eq_some.mpr ⟨u₂, started, rfl⟩⟩
  have flag : ((phantomUses twoNodes).run (Custody.initial phantomBus)
      [.findPhantom 0, .call 0 .start]).map
        (fun u => (u.library.phantoms 0).map Phantom.started) = some (some true) := by
    decide +kernel
  rw [reached] at flag
  intro ph live
  have same : (u₂.library.phantoms 0).map Phantom.started = some true := Option.some.inj flag
  rw [live] at same
  exact Option.some.inj same

/-- An iteration of a Phantom that was never started follows a pointer that was
never initialised. -/
theorem iterated_before_start :
    ¬∀ (host : Host) (bus : ManagedBus) (actions : List PhantomUse),
      (phantomUses host).Always (fun u => u.lawful = true) (Custody.initial bus) actions := by
  intro claim
  have always := claim twoNodes phantomBus [.findPhantom 0, .call 0 (.iterate ⟨0, none⟩ ⟨0, none⟩)]
  have unlawful : ((phantomUses twoNodes).run (Custody.initial phantomBus)
      [.findPhantom 0, .call 0 (.iterate ⟨0, none⟩ ⟨0, none⟩)]).map Custody.lawful =
        some false := by
    decide +kernel
  obtain ⟨u, reached, same⟩ := Option.map_eq_some_iff.mp unlawful
  have lawful := System.always_iff_prefix.mp always _ List.prefix_rfl u reached
  exact Bool.false_ne_true (same.symm.trans lawful)

end LibPhantom
