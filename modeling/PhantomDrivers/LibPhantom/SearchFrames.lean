import PhantomDrivers.LibPhantom.FindPhantom
import PhantomDrivers.LibPhantom.PhantomRuns
import PhantomDrivers.Semantics.Partial

/-!
# What a search leaves alone

`findPhantom` among Phantoms that are in use.  It opens and deletes devices, but
it never deletes the device of a Phantom and never touches a channel object.

* `leaves_findPhantom` — the rule of the search: an assertion for the state
  between two rounds, and one for the state with a candidate.
* `Searching` — the state during a search, compared with the state before it.
* `searching_findPhantom` — it holds after the search, whether it returns or
  throws.
-/

namespace LibPhantom

open Semantics Raw1394

namespace Library

variable {β : Type}

/-! ## The rule of the search -/

section Rule

variable [Bus β] {host : Host} {serial : UInt32} {i : Ptr} {s : Library β}
  {I : Library β → Prop} {J : Ptr → Library β → Prop} {Q : Option Ptr → Library β → Prop}
  {E : Exn → Library β → Prop}

/-- `I` is the invariant of the loop, and `J` is what holds when a candidate was
opened. -/
theorem leaves_findPhantomFrom
    (opens : ∀ s, I s → (next host i s).Leaves
      (fun r s' => (∀ device, r = some device → J device s') ∧
        (r = none → (deleteIterator i s').Leaves (fun _ => Q none) E)) E)
    (examines : ∀ device s, J device s → (examine host serial i device s).Leaves
      (fun r s' => (∀ phantom, r = some phantom → Q (some phantom) s') ∧ (r = none → I s')) E)
    (rounds : Nat) (holds : I s) : (findPhantomFrom host serial i rounds s).Leaves Q E := by
  induction rounds generalizing s with
  | zero => trivial
  | succ rounds ih =>
      refine Call.leaves_bind (opens s holds) ?_
      rintro r s₁ ⟨found, ended⟩
      cases r with
      | none => exact Call.leaves_bind (ended rfl) fun _ _ deleted => deleted
      | some device =>
          refine Call.leaves_bind (examines device s₁ (found device rfl)) ?_
          rintro r s₂ ⟨taken, dropped⟩
          cases r with
          | none => exact ih (dropped rfl)
          | some phantom => exact taken phantom rfl

end Rule

/-! ## Calls that leave the resources alone -/

section Fixes

variable {host : Host} {i p : Ptr}

theorem fixesResources_newHandle (port : Nat) :
    (newHandle port : Call Exn (Library β) Handle).Fixes resources :=
  fun _ _ same => same

theorem fixesResources_useHandle (handle : Handle) :
    (useHandle handle : Call Exn (Library β) Unit).Fixes resources :=
  fun _ => Call.preserves_modify fun _ same => same

theorem fixesResources_destroyHandle (handle : Handle) :
    (destroyHandle handle : Call Exn (Library β) Unit).Fixes resources :=
  fun _ => Call.preserves_modify fun _ same => same

theorem fixesResources_device : (device p : Call Exn (Library β) _).Fixes resources := by
  intro c
  refine Call.preserves_bind Call.preserves_get fun s => ?_
  split
  · exact Call.preserves_undefined
  · exact Call.preserves_pure _

theorem fixesResources_iterator : (iterator i : Call Exn (Library β) _).Fixes resources := by
  intro c
  refine Call.preserves_bind Call.preserves_get fun s => ?_
  split
  · exact Call.preserves_undefined
  · exact Call.preserves_pure _

theorem fixesResources_getPorts : (getPorts host : Call Exn (Library β) Nat).Fixes resources := by
  intro c
  refine Call.preserves_bind Call.preserves_get fun s => ?_
  split
  · exact Call.preserves_pure _
  · refine Call.preserves_bind (fixesResources_newHandle 0 c) fun handle => ?_
    refine Call.preserves_bind (fixesResources_useHandle handle c) fun _ => ?_
    refine Call.preserves_bind (Call.preserves_modify fun _ same => same) fun _ => ?_
    exact Call.preserves_bind (fixesResources_destroyHandle handle c) fun _ => Call.preserves_pure _

theorem fixesResources_openPort (port : Nat) :
    (openPort host port : Call Exn (Library β) _).Fixes resources := by
  intro c
  refine Call.preserves_bind (fixesResources_newHandle port c) fun handle => ?_
  exact Call.preserves_bind (fixesResources_useHandle handle c) fun _ => Call.preserves_pure _

theorem fixesResources_closePort (handle : Option Handle) :
    (closePort handle : Call Exn (Library β) Unit).Fixes resources := by
  intro c
  cases handle with
  | none => exact Call.preserves_pure _
  | some handle => exact fixesResources_destroyHandle handle c

/-- Iterators are no resources. -/
theorem fixesResources_createInstance :
    (createInstance host : Call Exn (Library β) Ptr).Fixes resources := by
  intro c
  refine Call.preserves_bind Call.preserves_get fun s => ?_
  refine Call.preserves_bind (fixesResources_getPorts c) fun ports => Call.preserves_ite ?_ ?_
  · exact Call.preserves_bind (Call.preserves_modify fun _ same => same) fun _ =>
      Call.preserves_pure _
  · refine Call.preserves_bind (fixesResources_openPort 0 c) fun opened => ?_
    exact Call.preserves_bind (Call.preserves_modify fun _ same => same) fun _ =>
      Call.preserves_pure _

theorem fixesResources_deleteIterator :
    (deleteIterator i : Call Exn (Library β) Unit).Fixes resources := by
  intro c
  exact Call.preserves_bind (fixesResources_iterator c) fun _ =>
    Call.preserves_modify fun _ same => same

/-- Ports are entered and left without any. -/
theorem fixesResources_nextPort (it : DeviceIteratorLibraw1394) :
    (nextPort host it : Call Exn (Library β) _).Fixes resources := by
  intro c
  refine Call.preserves_ite ?_ (Call.preserves_pure _)
  refine Call.preserves_ite Call.preserves_undefined ?_
  refine Call.preserves_bind (fixesResources_getPorts c) fun ports => ?_
  refine Call.preserves_ite (Call.preserves_pure _) ?_
  refine Call.preserves_bind (fixesResources_closePort it.handle c) fun _ => ?_
  exact Call.preserves_bind (fixesResources_openPort _ c) fun _ => Call.preserves_pure _

/-- The table is only read. -/
theorem fixesResources_deviceIsOpen (port : Nat) (node : UInt16) :
    (deviceIsOpen port node : Call Exn (Library β) Bool).Fixes resources := by
  have searched (n i : Nat) :
      (searchOpen port node n i : Call Exn (Library β) Bool).Fixes resources := by
    intro c
    induction n generalizing i with
    | zero => exact Call.preserves_pure _
    | succ n ih =>
        refine Call.preserves_bind Call.preserves_get fun s => ?_
        split
        · refine Call.preserves_bind (fixesResources_device c) fun d => ?_
          exact Call.preserves_ite (Call.preserves_pure _) (ih (i + 1))
        · exact Call.preserves_undefined
  exact fun c => Call.preserves_bind Call.preserves_get fun s => searched _ _ c

end Fixes

/-! ## The state during a search -/

/-- A device that belongs to no Phantom. -/
structure Unclaimed (s : Library β) (device : Ptr) : Prop where
  live : ∃ d, s.devices device = some d
  free : ∀ p ph, s.phantoms p = some ph → ph.firewireDevice ≠ device

/-- During a search that started in `s₀`: the channel objects are the ones that
were there, and so are the Phantoms, but for one that is as good as new. -/
structure Searching (s₀ s : Library β) : Prop where
  sound : Sound s
  isoChannels : s.isoChannels = s₀.isoChannels
  phantoms : ∀ p ph, s.phantoms p = some ph →
    s₀.phantoms p = some ph ∨ ph.recvChannel = none ∧ ph.xmitChannel = none

variable {s₀ s s' : Library β} {host : Host} {i p : Ptr} {it : DeviceIteratorLibraw1394}

theorem Sound.searching (sound : Sound s) : Searching s s :=
  ⟨sound, rfl, fun _ _ live => .inl live⟩

/-- What changes no resources goes on searching. -/
theorem Searching.of_resources (searching : Searching s₀ s) (same : resources s' = resources s) :
    Searching s₀ s' := by
  have samePhantoms : s'.phantoms = s.phantoms := congrArg (fun r => r.2.2.1) same
  have sameChannels : s'.isoChannels = s.isoChannels := congrArg (fun r => r.2.2.2) same
  refine ⟨searching.sound.of_resources same, sameChannels.trans searching.isoChannels, ?_⟩
  rw [samePhantoms]
  exact searching.phantoms

theorem Unclaimed.of_resources (unclaimed : Unclaimed s p) (same : resources s' = resources s) :
    Unclaimed s' p := by
  have sameDevices : s'.devices = s.devices := congrArg (fun r => r.2.1) same
  have samePhantoms : s'.phantoms = s.phantoms := congrArg (fun r => r.2.2.1) same
  constructor
  · rw [sameDevices]
    exact unclaimed.live
  · rw [samePhantoms]
    exact unclaimed.free

/-- The state with a candidate. -/
def Examining (s₀ : Library β) (device : Ptr) (s : Library β) : Prop :=
  Searching s₀ s ∧ Unclaimed s device

/-- A call that changes no resources goes on searching, too. -/
theorem preserves_searching {α : Type} {m : Call Exn (Library β) α} (fixes : m.Fixes resources) :
    m.Preserves (Searching s₀) :=
  fixes.preserves fun _ _ same searching => searching.of_resources same

theorem preserves_examining {α : Type} {m : Call Exn (Library β) α} (fixes : m.Fixes resources) :
    m.Preserves (Examining s₀ p) :=
  fixes.preserves fun _ _ same examining =>
    ⟨examining.1.of_resources same, examining.2.of_resources same⟩

/-- A new device is a candidate. -/
theorem leaves_newDevice (searching : Searching s₀ s) (port : Nat) (node : UInt16) :
    (newDevice host port node s).Leaves (fun p => Examining s₀ p) fun _ => Searching s₀ := by
  obtain ⟨table, constructed, counted⟩ := searching.sound.counted.newDevice host port node
  rw [constructed]
  refine ⟨⟨searching.sound.withDevice counted, searching.isoChannels, searching.phantoms⟩,
    ⟨_, Heap.alloc_next ..⟩, ?_⟩
  intro q ph live
  obtain ⟨d, liveDevice⟩ := searching.sound.connected q ph live
  exact Nat.ne_of_lt (Heap.lt_next liveDevice)

/-- A device that `next` constructs belongs to no Phantom. -/
theorem leaves_nextFrom (searching : Searching s₀ s) (rounds : Nat)
    (it : DeviceIteratorLibraw1394) :
    (nextFrom host rounds it s).Leaves
      (fun r s' => Searching s₀ s' ∧ ∀ device, r.1 = some device → Unclaimed s' device)
      fun _ => Searching s₀ := by
  induction rounds generalizing s it with
  | zero => trivial
  | succ rounds ih =>
      refine Call.leaves_bind (preserves_searching (fixesResources_nextPort it) s searching) ?_
      rintro ⟨more, it₁⟩ s₁ searching₁
      cases more with
      | false => exact ⟨searching₁, fun device found => nomatch found⟩
      | true =>
          have looked : (lookAt host it₁ s₁).Leaves
              (fun r s' => Searching s₀ s' ∧ ∀ device, r.1 = some device → Unclaimed s' device)
              fun _ => Searching s₀ := by
            refine Call.leaves_bind
              (preserves_searching (fixesResources_deviceIsOpen _ _) s₁ searching₁) ?_
            intro isOpen s₂ searching₂
            refine Call.leaves_ite (fun _ => ⟨searching₂, fun device found => nomatch found⟩) ?_
            intro _
            refine Call.leaves_bind (leaves_newDevice searching₂ _ _) ?_
            rintro device s₃ ⟨searching₃, unclaimed⟩
            refine ⟨searching₃, ?_⟩
            rintro device' ⟨⟩
            exact unclaimed
          refine Call.leaves_bind looked ?_
          rintro ⟨device, it₂⟩ s₂ ⟨searching₂, unclaimed⟩
          cases device with
          | some device => exact ⟨searching₂, unclaimed⟩
          | none => exact ih searching₂ it₂

/-- The same, for a call of `next`. -/
theorem leaves_next (searching : Searching s₀ s) :
    (next host i s).Leaves
      (fun r s' => Searching s₀ s' ∧ ∀ device, r = some device → Unclaimed s' device)
      fun _ => Searching s₀ := by
  refine Call.leaves_bind (preserves_searching fixesResources_iterator s searching) ?_
  intro it s₁ searching₁
  refine Call.leaves_bind (leaves_nextFrom searching₁ _ it) ?_
  rintro r s₂ ⟨searching₂, unclaimed⟩
  exact ⟨searching₂.of_resources rfl, fun device found => (unclaimed device found).of_resources rfl⟩

/-- A candidate may be deleted. -/
theorem leaves_deleteDevice (examining : Examining s₀ p s) :
    (deleteDevice p s).Leaves (fun _ => Searching s₀) fun _ => Searching s₀ := by
  obtain ⟨searching, unclaimed⟩ := examining
  obtain ⟨d, live⟩ := unclaimed.live
  obtain ⟨table, deleted, counted⟩ := searching.sound.counted.deleteDevice live
  rw [deleted]
  exact ⟨searching.sound.withoutDevice unclaimed.free counted, searching.isoChannels,
    searching.phantoms⟩

/-- A candidate may be asked. -/
theorem preserves_onDevice {α : Type} (method : Call Exn (DeviceState β) α) :
    (onDevice p method).Preserves (Examining s₀ p) := by
  refine Call.preserves_bind (preserves_examining fixesResources_device) fun d => ?_
  refine Call.preserves_bind (preserves_examining (fixesResources_useHandle _)) fun _ => ?_
  refine Call.preserves_within ?_
  rintro s t ⟨searching, unclaimed⟩
  refine ⟨⟨?_, searching.isoChannels, searching.phantoms⟩, ?_, unclaimed.free⟩
  · exact (searching.sound.modifyDevice p _).of_resources rfl
  · obtain ⟨d, live⟩ := unclaimed.live
    exact ⟨_, (Heap.modify_eq_some _).mpr ⟨d, live, rfl⟩⟩

variable [Bus β] {serial : UInt32}

/-- What is found becomes a Phantom, and what is not is deleted. -/
theorem leaves_examine (examining : Examining s₀ p s) :
    (examine host serial i p s).Leaves (fun _ => Searching s₀) fun _ => Searching s₀ := by
  refine Call.leaves_bind ((preserves_onDevice _ s examining).imp (fun _ _ kept => kept)
    fun _ _ kept => kept.1) fun sensable s₁ examining₁ => ?_
  have dropped {s : Library β} (examining : Examining s₀ p s) :
      ((do deleteDevice p; return none : Call Exn (Library β) (Option Ptr)) s).Leaves
        (fun _ => Searching s₀) fun _ => Searching s₀ :=
    Call.leaves_bind (leaves_deleteDevice examining) fun _ _ searching => searching
  refine Call.leaves_ite (fun _ => ?_) fun _ => dropped examining₁
  refine Call.leaves_bind ((preserves_onDevice _ s₁ examining₁).imp (fun _ _ kept => kept)
    fun _ _ kept => kept.1) fun deviceSerial s₂ examining₂ => ?_
  refine Call.leaves_ite (fun _ => dropped examining₂) fun _ => ?_
  refine Call.leaves_bind ((preserves_examining fixesResources_deleteIterator s₂ examining₂).imp
    (fun _ _ kept => kept) fun _ _ kept => kept.1) ?_
  rintro _ s₃ ⟨searching, unclaimed⟩
  obtain ⟨d, live⟩ := unclaimed.live
  refine ⟨searching.sound.newPhantom live unclaimed.free, searching.isoChannels, ?_⟩
  intro q ph live'
  rcases Heap.alloc_eq_some.mp live' with ⟨-, rfl⟩ | live'
  · exact .inr ⟨rfl, rfl⟩
  · exact searching.phantoms q ph live'

/-- **A search among Phantoms in use.**  However it ends, the Phantoms and the
channel objects are what they were, but for the Phantom it returns. -/
theorem searching_findPhantom (sound : Sound s) :
    (findPhantom host serial s).Leaves (fun _ => Searching s) fun _ => Searching s := by
  refine Call.leaves_bind
    (preserves_searching fixesResources_createInstance s sound.searching) fun i s₁ created => ?_
  refine Call.leaves_bind (preserves_searching fixesResources_iterator s₁ created)
    fun it s₂ searching => ?_
  refine leaves_findPhantomFrom (I := Searching s) (J := fun p => Examining s p) ?_ ?_ _ searching
  · intro s' searching
    refine (leaves_next searching).imp ?_ fun _ _ kept => kept
    rintro r s₃ ⟨searching₃, unclaimed⟩
    refine ⟨fun device found => ⟨searching₃, unclaimed device found⟩, fun _ => ?_⟩
    exact preserves_searching fixesResources_deleteIterator s₃ searching₃
  · intro device s' examining
    exact (leaves_examine examining).imp (fun _ _ kept => ⟨fun _ _ => kept, fun _ => kept⟩)
      fun _ _ kept => kept

end Library

end LibPhantom
