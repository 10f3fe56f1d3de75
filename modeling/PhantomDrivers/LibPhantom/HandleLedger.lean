import PhantomDrivers.LibPhantom.ExclusiveNodes
import PhantomDrivers.LibPhantom.RomGetters
import PhantomDrivers.Semantics.Resources

/-!
# The handles of libraw1394

A device owns two handles, its own and the one of its communication object, and
an iterator owns one, which `next` exchanges when it moves to another port.
Programs that look for devices destroy no handle twice and use none that was
destroyed.

They do not destroy all of them.  `DeviceIterator` has no virtual destructor, so
`delete` on a pointer to one does not run the destructor that destroys the
handle of the iterator; nothing else does later.  On a machine with ports, one
handle is left for every iterator that was ever created, by the program or by
`findPhantom` (`handles_settled_iff`).

* `HandleOwner` — who has to destroy a handle; an iterator remains the owner
  after it was deleted.
* `Booked`, `Possessed` — the owners agree with the record, and with the
  objects.
* `Ledger` — both, with the number of iterators created so far.
* `Settled` — what should hold.
-/

namespace LibPhantom

open Semantics Raw1394

/-- A handle is a resource. -/
def HandleEvent.event : HandleEvent → ResourceEvent Nat
  | .opened id => .acquired id
  | .used id => .used id
  | .destroyed id => .released id

theorem HandleEvent.event_injective : Function.Injective HandleEvent.event := by
  rintro (id | id | id) (id' | id' | id') same
  all_goals cases same
  all_goals rfl

/-- Who has to destroy a handle. -/
inductive HandleOwner where
  | device (p : Ptr)
  /-- the communication object of a device -/
  | communication (p : Ptr)
  | iterator (i : Ptr)
  /-- a function that destroys it before it returns -/
  | call
deriving DecidableEq

/-! ## The record -/

/-- The owners of the handles agree with the record, and the handles are
numbered in the order in which they are opened. -/
structure Booked (owner : Nat → Option HandleOwner) (nextHandle : Nat)
    (log : List HandleEvent) : Prop where
  owned : Owned (log.map HandleEvent.event) owner
  below : ∀ id, .opened id ∈ log → id < nextHandle

namespace Booked

variable {owner : Nat → Option HandleOwner} {n id : Nat} {log : List HandleEvent}
  {o : HandleOwner}

theorem mem_event {e : HandleEvent} : e.event ∈ log.map HandleEvent.event ↔ e ∈ log :=
  List.mem_map_of_injective HandleEvent.event_injective

theorem unheld (booked : Booked owner n log) (above : n ≤ id) : owner id = none := by
  refine booked.owned.not_held fun acquired => ?_
  have opened : HandleEvent.opened id ∈ log := mem_event.mp acquired
  exact absurd (booked.below id opened) (Nat.not_lt.mpr above)

theorem opens (booked : Booked owner n log) (o : HandleOwner) :
    Booked (Function.update owner n (some o)) (n + 1) (log ++ [.opened n]) where
  owned := by
    rw [List.map_append]
    refine .acquire o booked.owned fun acquired => ?_
    have opened : HandleEvent.opened n ∈ log := mem_event.mp acquired
    exact Nat.lt_irrefl n (booked.below n opened)
  below id opened := by
    rw [List.mem_append, List.mem_singleton] at opened
    rcases opened with earlier | last
    · exact Nat.lt_succ_of_lt (booked.below id earlier)
    · obtain rfl := HandleEvent.opened.inj last
      exact Nat.lt_succ_self id

theorem uses (booked : Booked owner n log) (held : owner id = some o) :
    Booked owner n (log ++ [.used id]) where
  owned := by
    rw [List.map_append]
    exact .use booked.owned held
  below id' opened := booked.below id' (by simpa using opened)

theorem destroys (booked : Booked owner n log) (held : owner id = some o) :
    Booked (Function.update owner id none) n (log ++ [.destroyed id]) where
  owned := by
    rw [List.map_append]
    exact .release booked.owned held
  below id' opened := booked.below id' (by simpa using opened)

/-- A handle that is opened and used. -/
theorem opensAndUses (booked : Booked owner n log) (o : HandleOwner) :
    Booked (Function.update owner n (some o)) (n + 1) (log ++ [.opened n] ++ [.used n]) :=
  (booked.opens o).uses (Function.update_self ..)

/-- A handle that is destroyed again before the function returns leaves the
owners as they were. -/
theorem visits (booked : Booked owner n log) :
    Booked owner (n + 1) (log ++ [.opened n] ++ [.used n] ++ [.destroyed n]) := by
  have closed := (booked.opensAndUses .call).destroys (Function.update_self ..)
  rwa [Function.update_idem, ← booked.unheld (Nat.le_refl n), Function.update_eq_self] at closed

/-- No handle is destroyed twice. -/
theorem once (booked : Booked owner n log) (id : Nat) : log.count (.destroyed id) ≤ 1 := by
  rw [← List.count_map_of_injective log _ HandleEvent.event_injective]
  exact booked.owned.count_released id

/-- No handle is used after it was destroyed. -/
theorem not_destroyed_of_used {front back : List HandleEvent}
    (booked : Booked owner n (front ++ .used id :: back)) : .destroyed id ∉ front := by
  have owned := booked.owned
  rw [List.map_append, List.map_cons] at owned
  exact fun destroyed => owned.not_released_of_used (mem_event.mpr destroyed)

/-- The handles without an owner are those that were destroyed. -/
theorem destroyed_iff (booked : Booked owner n log) (opened : .opened id ∈ log) :
    .destroyed id ∈ log ↔ owner id = none := by
  have acquired : HandleEvent.event (.opened id) ∈ log.map HandleEvent.event :=
    mem_event.mpr opened
  have held : (∃ o, owner id = some o) ↔ .acquired id ∈ log.map HandleEvent.event ∧
      .released id ∉ log.map HandleEvent.event := booked.owned.held_iff
  rw [← mem_event, ← Option.not_isSome_iff_eq_none, Option.isSome_iff_exists, held]
  constructor
  · exact fun released both => both.2 released
  · intro unheld
    by_contra absent
    exact unheld ⟨acquired, absent⟩

theorem opened_of_held (booked : Booked owner n log) (held : owner id = some o) :
    .opened id ∈ log := by
  have acquired : ResourceEvent.acquired id ∈ log.map HandleEvent.event :=
    booked.owned.acquired_of_held held
  exact mem_event.mp acquired

end Booked

/-! ## The objects -/

/-- The fields of the iterator `i` agree with the owners: it has a handle, which
is its own, unless the machine has no ports. -/
def HandleOwner.OwnsAs (host : Host) (owner : Nat → Option HandleOwner) (i : Ptr) :
    Option Handle → Prop
  | none => host.ports = 0
  | some handle => owner handle.id = some (.iterator i)

theorem HandleOwner.OwnsAs.imp {host : Host} {owner owner' : Nat → Option HandleOwner} {i : Ptr}
    {handle : Option Handle} (owns : OwnsAs host owner i handle)
    (before : ∀ id, owner id = some (.iterator i) → owner' id = some (.iterator i)) :
    OwnsAs host owner' i handle := by
  cases handle with
  | none => exact owns
  | some handle => exact before handle.id owns

/-- What the owner of a handle is like. -/
def HandleOwner.Entitled (host : Host) (devices : Heap FirewireDeviceLibraw1394)
    (iterators : Heap DeviceIteratorLibraw1394) (id : Nat) : HandleOwner → Prop
  | .device p => ∃ d, devices p = some d ∧ d.handle.id = id
  | .communication p => ∃ d, devices p = some d ∧ d.com.handle.id = id
  | .iterator i => i < iterators.next ∧ host.ports ≠ 0
  | .call => False

/-- The owners of the handles agree with the objects.  An iterator owns a
handle also after it was deleted. -/
structure Possessed (host : Host) (owner : Nat → Option HandleOwner)
    (devices : Heap FirewireDeviceLibraw1394) (iterators : Heap DeviceIteratorLibraw1394) :
    Prop where
  device : ∀ p d, devices p = some d → owner d.handle.id = some (.device p)
  communication : ∀ p d, devices p = some d → owner d.com.handle.id = some (.communication p)
  iterator : ∀ i it, iterators i = some it → HandleOwner.OwnsAs host owner i it.handle
  entitled : ∀ id o, owner id = some o → o.Entitled host devices iterators id
  kept : host.ports ≠ 0 → ∀ i < iterators.next, ∃ id, owner id = some (.iterator i)

namespace Possessed

variable {host : Host} {owner : Nat → Option HandleOwner} {id id' : Nat} {o o' : HandleOwner}
  {devices : Heap FirewireDeviceLibraw1394} {iterators : Heap DeviceIteratorLibraw1394}
  {p i : Ptr} {d : FirewireDeviceLibraw1394} {it it' : DeviceIteratorLibraw1394}

theorem update_of_held {value : Option HandleOwner} (held : owner id = some o)
    (unheld : owner id' = none) : Function.update owner id' value id = some o := by
  rw [Function.update_of_ne, held]
  rintro rfl
  rw [unheld] at held
  cases held

theorem update_of_other {value : Option HandleOwner} (held : owner id = some o)
    (held' : owner id' = some o') (different : o ≠ o') :
    Function.update owner id' value id = some o := by
  rw [Function.update_of_ne, held]
  rintro rfl
  exact different (Option.some.inj (held.symm.trans held'))

theorem empty (host : Host) : Possessed host (fun _ => none) .empty .empty where
  device _ _ live := by cases live
  communication _ _ live := by cases live
  iterator _ _ live := by cases live
  entitled _ _ held := by cases held
  kept _ i below := absurd below (Nat.not_lt_zero i)

/-- A new device owns its two handles. -/
theorem newDevice (possessed : Possessed host owner devices iterators)
    (unheldCom : owner d.com.handle.id = none) (unheldHandle : owner d.handle.id = none)
    (apart : d.com.handle.id ≠ d.handle.id) :
    Possessed host
      (Function.update
        (Function.update owner d.com.handle.id (some (.communication devices.next)))
        d.handle.id (some (.device devices.next)))
      (devices.alloc d) iterators := by
  generalize equation : Function.update (Function.update owner _ _) _ _ = owner'
  have com : owner' d.com.handle.id = some (.communication devices.next) := by
    rw [← equation, Function.update_of_ne apart, Function.update_self]
  have handle : owner' d.handle.id = some (.device devices.next) := by
    rw [← equation, Function.update_self]
  -- What was held is held by the same owner.
  have before {id : Nat} {o : HandleOwner} (held : owner id = some o) : owner' id = some o := by
    have first : Function.update owner d.com.handle.id (some (.communication devices.next)) id =
        some o := update_of_held held unheldCom
    have second : Function.update owner d.com.handle.id (some (.communication devices.next))
        d.handle.id = none := by rw [Function.update_of_ne apart.symm, unheldHandle]
    exact equation ▸ update_of_held first second
  refine ⟨?_, ?_, ?_, ?_, ?_⟩
  · intro p d' live
    rcases Heap.alloc_eq_some.mp live with ⟨rfl, rfl⟩ | old
    · exact handle
    · exact before (possessed.device p d' old)
  · intro p d' live
    rcases Heap.alloc_eq_some.mp live with ⟨rfl, rfl⟩ | old
    · exact com
    · exact before (possessed.communication p d' old)
  · intro i it live
    exact (possessed.iterator i it live).imp fun id held => before held
  · intro id o held
    rw [← equation, Function.update_apply, Function.update_apply] at held
    split at held
    · next same =>
        obtain rfl := Option.some.inj held
        exact ⟨d, Heap.alloc_next .., same.symm⟩
    · split at held
      · next same =>
          obtain rfl := Option.some.inj held
          exact ⟨d, Heap.alloc_next .., same.symm⟩
      · have entitled := possessed.entitled id o held
        cases o with
        | device p =>
            obtain ⟨d', live, same⟩ := entitled
            exact ⟨d', Heap.alloc_of_live live, same⟩
        | communication p =>
            obtain ⟨d', live, same⟩ := entitled
            exact ⟨d', Heap.alloc_of_live live, same⟩
        | iterator i => exact entitled
        | call => exact entitled
  · intro ports i below
    obtain ⟨id, held⟩ := possessed.kept ports i below
    exact ⟨id, before held⟩

/-- A device that is deleted destroys its two handles. -/
theorem deleteDevice (possessed : Possessed host owner devices iterators)
    (live : devices p = some d) :
    Possessed host
      (Function.update (Function.update owner d.handle.id none) d.com.handle.id none)
      (devices.free p) iterators := by
  have handle := possessed.device p d live
  have com := possessed.communication p d live
  generalize equation : Function.update (Function.update owner _ _) _ _ = owner'
  -- What is held by another owner still is.
  have before {id : Nat} {o : HandleOwner} (held : owner id = some o) (notDevice : o ≠ .device p)
      (notCom : o ≠ .communication p) : owner' id = some o := by
    have first : Function.update owner d.handle.id none id = some o :=
      update_of_other held handle notDevice
    have second : Function.update owner d.handle.id none d.com.handle.id =
        some (.communication p) := update_of_other com handle nofun
    exact equation ▸ update_of_other first second notCom
  refine ⟨?_, ?_, ?_, ?_, ?_⟩
  · intro q d' there
    obtain ⟨different, there⟩ := Heap.free_eq_some.mp there
    refine before (possessed.device q d' there) ?_ nofun
    exact fun same => different (HandleOwner.device.inj same)
  · intro q d' there
    obtain ⟨different, there⟩ := Heap.free_eq_some.mp there
    refine before (possessed.communication q d' there) nofun ?_
    exact fun same => different (HandleOwner.communication.inj same)
  · intro i it there
    exact (possessed.iterator i it there).imp fun id held => before held nofun nofun
  · intro id o held
    rw [← equation, Function.update_apply, Function.update_apply] at held
    split at held
    · cases held
    · next notCom =>
        split at held
        · cases held
        · next notHandle =>
            have entitled := possessed.entitled id o held
            cases o with
            | device q =>
                obtain ⟨d', there, rfl⟩ := entitled
                refine ⟨d', Heap.free_eq_some.mpr ⟨?_, there⟩, rfl⟩
                rintro rfl
                obtain rfl := Option.some.inj (there.symm.trans live)
                exact notHandle rfl
            | communication q =>
                obtain ⟨d', there, rfl⟩ := entitled
                refine ⟨d', Heap.free_eq_some.mpr ⟨?_, there⟩, rfl⟩
                rintro rfl
                obtain rfl := Option.some.inj (there.symm.trans live)
                exact notCom rfl
            | iterator i => exact entitled
            | call => exact entitled
  · intro ports i below
    obtain ⟨id, held⟩ := possessed.kept ports i below
    exact ⟨id, before held nofun nofun⟩

/-- A device is changed, but not its handles. -/
theorem modifyDevice (possessed : Possessed host owner devices iterators)
    {f : FirewireDeviceLibraw1394 → FirewireDeviceLibraw1394}
    (handle : ∀ d, devices p = some d → (f d).handle = d.handle)
    (com : ∀ d, devices p = some d → (f d).com.handle = d.com.handle) :
    Possessed host owner (devices.modify p f) iterators := by
  -- An object that is there has the handles of one that was.
  have before {q : Ptr} {d : FirewireDeviceLibraw1394} (there : (devices.modify p f) q = some d) :
      ∃ d', devices q = some d' ∧ d.handle = d'.handle ∧ d.com.handle = d'.com.handle := by
    obtain ⟨d', live, rfl⟩ := (Heap.modify_eq_some f).mp there
    refine ⟨d', live, ?_⟩
    split
    · next same =>
        subst same
        exact ⟨handle d' live, com d' live⟩
    · exact ⟨rfl, rfl⟩
  have after {q : Ptr} {d : FirewireDeviceLibraw1394} (live : devices q = some d) :
      ∃ d', (devices.modify p f) q = some d' ∧ d'.handle = d.handle ∧
        d'.com.handle = d.com.handle := by
    refine ⟨_, (Heap.modify_eq_some f).mpr ⟨d, live, rfl⟩, ?_⟩
    split
    · next same =>
        subst same
        exact ⟨handle d live, com d live⟩
    · exact ⟨rfl, rfl⟩
  refine { possessed with device := ?_, communication := ?_, entitled := ?_ }
  · intro q d there
    obtain ⟨d', live, same, -⟩ := before there
    rw [same]
    exact possessed.device q d' live
  · intro q d there
    obtain ⟨d', live, -, same⟩ := before there
    rw [same]
    exact possessed.communication q d' live
  · intro id o held
    have entitled := possessed.entitled id o held
    cases o with
    | device q =>
        obtain ⟨d, live, rfl⟩ := entitled
        obtain ⟨d', there, same, -⟩ := after live
        exact ⟨d', there, congrArg Handle.id same⟩
    | communication q =>
        obtain ⟨d, live, rfl⟩ := entitled
        obtain ⟨d', there, -, same⟩ := after live
        exact ⟨d', there, congrArg Handle.id same⟩
    | iterator i => exact entitled
    | call => exact entitled

/-- A new iterator owns a handle. -/
theorem createIterator (possessed : Possessed host owner devices iterators)
    (ports : host.ports ≠ 0) {handle : Handle} (unheld : owner handle.id = none)
    (opened : it.handle = some handle) :
    Possessed host (Function.update owner handle.id (some (.iterator iterators.next))) devices
      (iterators.alloc it) where
  device p d live := update_of_held (possessed.device p d live) unheld
  communication p d live := update_of_held (possessed.communication p d live) unheld
  iterator i it' live := by
    rcases Heap.alloc_eq_some.mp live with ⟨rfl, rfl⟩ | old
    · rw [opened]
      exact Function.update_self ..
    · exact (possessed.iterator i it' old).imp fun id held => update_of_held held unheld
  entitled id o held := by
    rw [Function.update_apply] at held
    split at held
    · obtain rfl := Option.some.inj held
      exact ⟨Nat.lt_succ_self _, ports⟩
    · have entitled := possessed.entitled id o held
      cases o with
      | device p => exact entitled
      | communication p => exact entitled
      | iterator i => exact ⟨Nat.lt_succ_of_lt entitled.1, ports⟩
      | call => exact entitled
  kept _ i below := by
    rcases Nat.lt_succ_iff_lt_or_eq.mp below with old | rfl
    · obtain ⟨id, held⟩ := possessed.kept ports i old
      exact ⟨id, update_of_held held unheld⟩
    · exact ⟨handle.id, Function.update_self ..⟩

/-- On a machine without ports, an iterator has no handle. -/
theorem createPortless (possessed : Possessed host owner devices iterators)
    (portless : host.ports = 0) (unopened : it.handle = none) :
    Possessed host owner devices (iterators.alloc it) where
  device := possessed.device
  communication := possessed.communication
  iterator i it' live := by
    rcases Heap.alloc_eq_some.mp live with ⟨rfl, rfl⟩ | old
    · rw [unopened]
      exact portless
    · exact possessed.iterator i it' old
  entitled id o held := by
    have entitled := possessed.entitled id o held
    cases o with
    | device p => exact entitled
    | communication p => exact entitled
    | iterator i => exact absurd portless entitled.2
    | call => exact entitled
  kept ports := absurd portless ports

/-- The handle of an iterator is exchanged for a new one. -/
theorem reopen (possessed : Possessed host owner devices iterators)
    (ports : host.ports ≠ 0) (live : iterators i = some it) {old new : Handle}
    (opened : it.handle = some old) (unheld : owner new.id = none)
    (reopened : it'.handle = some new) :
    Possessed host
      (Function.update (Function.update owner old.id none) new.id (some (.iterator i))) devices
      (iterators.modify i fun _ => it') := by
  have own : owner old.id = some (.iterator i) := by
    have agrees := possessed.iterator i it live
    rwa [opened] at agrees
  generalize equation : Function.update (Function.update owner _ _) _ _ = owner'
  have now : owner' new.id = some (.iterator i) := by rw [← equation, Function.update_self]
  -- What is held by another owner still is.
  have before {id : Nat} {o : HandleOwner} (held : owner id = some o)
      (different : o ≠ .iterator i) : owner' id = some o := by
    have first : Function.update owner old.id none id = some o :=
      update_of_other held own different
    have second : Function.update owner old.id none new.id = none := by
      rw [Function.update_apply, unheld, ite_self]
    exact equation ▸ update_of_held first second
  have other {j : Ptr} (different : j ≠ i) : HandleOwner.iterator j ≠ .iterator i := fun same =>
    different (HandleOwner.iterator.inj same)
  refine ⟨?_, ?_, ?_, ?_, ?_⟩
  · exact fun p d live => before (possessed.device p d live) nofun
  · exact fun p d live => before (possessed.communication p d live) nofun
  · intro j it₁ there
    obtain ⟨it₂, live₂, rfl⟩ := (Heap.modify_eq_some _).mp there
    split
    · next same =>
        subst same
        rw [reopened]
        exact now
    · next different =>
        exact (possessed.iterator j it₂ live₂).imp fun id held => before held (other different)
  · intro id o held
    rw [← equation, Function.update_apply, Function.update_apply] at held
    split at held
    · obtain rfl := Option.some.inj held
      exact ⟨show i < iterators.next from Heap.lt_next live, ports⟩
    · split at held
      · cases held
      · exact possessed.entitled id o held
  · intro _ j below
    rcases eq_or_ne j i with rfl | different
    · exact ⟨new.id, now⟩
    · obtain ⟨id, held⟩ := possessed.kept ports j below
      exact ⟨id, before held (other different)⟩

/-- The fields of an iterator are changed, but not its handle. -/
theorem modifyIterator (possessed : Possessed host owner devices iterators)
    (live : iterators i = some it) (same : it'.handle = it.handle) :
    Possessed host owner devices (iterators.modify i fun _ => it') where
  device := possessed.device
  communication := possessed.communication
  iterator j it₁ there := by
    obtain ⟨it₂, live₂, rfl⟩ := (Heap.modify_eq_some _).mp there
    split
    · next equal =>
        subst equal
        rw [same]
        exact possessed.iterator _ it live
    · exact possessed.iterator j it₂ live₂
  entitled := possessed.entitled
  kept := possessed.kept

/-- An iterator that is deleted leaves its handle open. -/
theorem deleteIterator (possessed : Possessed host owner devices iterators) (i : Ptr) :
    Possessed host owner devices (iterators.free i) where
  device := possessed.device
  communication := possessed.communication
  iterator j it there := possessed.iterator j it (Heap.free_eq_some.mp there).2
  entitled := possessed.entitled
  kept := possessed.kept

end Possessed

/-! ## The ledger -/

namespace Library

variable {β : Type}

/-- The owners agree with the state.  Inside of `next`, the iterators are not the
stored ones, but those with the fields as they are by then; `created` counts the
iterators created so far. -/
structure Ledger (host : Host) (created : Nat)
    (current : Heap DeviceIteratorLibraw1394 → Heap DeviceIteratorLibraw1394) (s : Library β) :
    Prop where
  known : PortsKnown host s
  idle : ∀ p ph, s.phantoms p = some ph → ph.started = false
  created : (current s.iterators).next = created
  handles : ∃ owner, Booked owner s.nextHandle s.handleLog ∧
    Possessed host owner s.devices (current s.iterators)

variable {host : Host} {created : Nat} {s s' : Library β} {p i : Ptr}
  {it it' : DeviceIteratorLibraw1394} {port : Nat} {node : UInt16}
  {current : Heap DeviceIteratorLibraw1394 → Heap DeviceIteratorLibraw1394}
  {E : Exn → Library β → Prop}

theorem ledger_initial (host : Host) (bus : β) : Ledger host 0 id (Library.initial bus) where
  known _ known := by cases known
  idle _ _ live := by cases live
  created := rfl
  handles := ⟨fun _ => none, ⟨.start, fun _ opened => by cases opened⟩, .empty host⟩

theorem leaves_getPorts (ledger : Ledger host created current s) :
    (getPorts host s).Leaves (fun ports s' => ports = host.ports ∧ s'.iterators = s.iterators ∧
      Ledger host created current s') E := by
  cases cached : s.ports with
  | some ports =>
      have answered : getPorts host s = .returned ports s := by simp [getPorts, cached]
      rw [answered]
      exact ⟨ledger.known ports cached, rfl, ledger⟩
  | none =>
      have asked : getPorts host s = .returned host.ports
          { s with
            nextHandle := s.nextHandle + 1
            handleLog := s.handleLog ++ [.opened s.nextHandle] ++ [.used s.nextHandle] ++
              [.destroyed s.nextHandle]
            ports := some host.ports } := by
        simp [getPorts, newHandle, useHandle, destroyHandle, cached]
      rw [asked]
      obtain ⟨owner, booked, possessed⟩ := ledger.handles
      refine ⟨rfl, rfl, ?_, ledger.idle, ledger.created, owner, booked.visits, possessed⟩
      rintro ports ⟨⟩
      rfl

theorem leaves_newDevice_ledger (ledger : Ledger host created current s) :
    (newDevice host port node s).Leaves (fun _ s' => s'.iterators = s.iterators ∧
      Ledger host created current s') E := by
  cases registered : s.openDevices.register s.devices.next with
  | none =>
      have full : newDevice host port node s = .undefined := by
        simp [newDevice, newCommunication, newHandle, useHandle, registered]
      rw [full]
      trivial
  | some table =>
      rw [newDevice_eq registered]
      obtain ⟨owner, booked, possessed⟩ := ledger.handles
      have unheld := booked.unheld (Nat.le_refl s.nextHandle)
      have unheld' := booked.unheld (Nat.le_succ s.nextHandle)
      have booked' := (booked.opensAndUses (.communication s.devices.next)).opensAndUses
        (.device s.devices.next)
      have possessed' := possessed.newDevice (d := s.constructed host port node) unheld unheld'
        (Nat.ne_of_lt (Nat.lt_succ_self _))
      exact ⟨rfl, ledger.known, ledger.idle, ledger.created, _, booked', possessed'⟩

theorem leaves_deleteDevice_ledger (ledger : Ledger host created current s) :
    (deleteDevice p s).Leaves (fun _ => Ledger host created current) E := by
  cases live : s.devices p with
  | none =>
      have dead : deleteDevice p s = .undefined := by simp [deleteDevice, device_of_dead live]
      rw [dead]
      trivial
  | some d =>
      cases unregistered : s.openDevices.unregister p with
      | none =>
          have lost : deleteDevice p s = .undefined := by
            simp [deleteDevice, device_of_live live, unregistered]
          rw [lost]
          trivial
      | some table =>
          rw [deleteDevice_eq live unregistered]
          obtain ⟨owner, booked, possessed⟩ := ledger.handles
          have com : Function.update owner d.handle.id none d.com.handle.id =
              some (.communication p) :=
            Possessed.update_of_other (possessed.communication p d live)
              (possessed.device p d live) (by simp)
          have booked' := (booked.destroys (possessed.device p d live)).destroys com
          exact ⟨ledger.known, ledger.idle, ledger.created, _, booked', possessed.deleteDevice live⟩

/-- A method of a device uses the handle of its communication object. -/
theorem preserves_onDevice_ledger {α : Type} {method : Call Exn (DeviceState β) α}
    (fixes : method.Fixes fun t => t.device.com) :
    (onDevice p method).Preserves (Ledger host created current) := by
  intro s ledger
  cases live : s.devices p with
  | none =>
      have dead : onDevice p method s = .undefined := by simp [onDevice, device_of_dead live]
      rw [dead]
      trivial
  | some d =>
      -- The state that the method leaves behind, if its object has the same
      -- communication object.
      have left (t : DeviceState β) (same : t.device.com = d.com) :
          Ledger host created current (s.afterMethod p d t) := by
        obtain ⟨owner, booked, possessed⟩ := ledger.handles
        refine ⟨ledger.known, ledger.idle, ledger.created, owner,
          booked.uses (possessed.communication p d live), ?_⟩
        refine possessed.modifyDevice (fun _ _ => rfl) fun d' live' => ?_
        obtain rfl := Option.some.inj (live'.symm.trans live)
        exact congrArg CommunicationLibraw1394.handle same
      have called := fixes d.com ⟨s.bus, d.toFirewireDevice⟩ rfl
      rw [onDevice_eq live, Outcome.leaves_mapState]
      exact called.imp (fun _ t same => left t same) fun _ t same => left t same

/-! ## Iterators -/

theorem leaves_createInstance_ledger (ledger : Ledger host created id s) :
    (createInstance host s).Leaves (fun _ => Ledger host (created + 1) id) E := by
  refine Call.leaves_bind (show (get : Call Exn (Library β) _) s |>.Leaves
    (fun _ => Ledger host created id) E from ledger) fun _ s₁ ledger₁ => ?_
  refine Call.leaves_bind (leaves_getPorts ledger₁) ?_
  rintro ports s₂ ⟨rfl, -, ledger₂⟩
  obtain ⟨owner, booked, possessed⟩ := ledger₂.handles
  refine Call.leaves_ite (fun portless => ?_) fun ports => ?_
  · exact ⟨ledger₂.known, ledger₂.idle, congrArg Nat.succ ledger₂.created, owner, booked,
      possessed.createPortless portless rfl⟩
  · have opened : (DeviceIteratorLibraw1394.mk 0 0 (host.nodeCount 0)
        (some ⟨s₂.nextHandle, 0⟩)).handle = some ⟨s₂.nextHandle, 0⟩ := rfl
    have possessed' := possessed.createIterator ports (booked.unheld (Nat.le_refl _)) opened
    exact ⟨ledger₂.known, ledger₂.idle, congrArg Nat.succ ledger₂.created, _,
      booked.opensAndUses (.iterator s₂.iterators.next), possessed'⟩

theorem leaves_deleteIterator_ledger (ledger : Ledger host created id s) :
    (deleteIterator i s).Leaves (fun _ => Ledger host created id) E := by
  cases live : s.iterators i with
  | none =>
      have dead : deleteIterator i s = .undefined := by simp [deleteIterator, iterator, live]
      rw [dead]
      trivial
  | some it =>
      have deleted : deleteIterator i s =
          .returned () { s with iterators := s.iterators.free i } := by
        simp [deleteIterator, iterator_of_live live]
      rw [deleted]
      obtain ⟨owner, booked, possessed⟩ := ledger.handles
      exact ⟨ledger.known, ledger.idle, ledger.created, owner, booked, possessed.deleteIterator i⟩

/-- The fields of the iterator `i` are `it` by now. -/
def withFields (i : Ptr) (it : DeviceIteratorLibraw1394)
    (iterators : Heap DeviceIteratorLibraw1394) : Heap DeviceIteratorLibraw1394 :=
  iterators.modify i fun _ => it

/-- The iterator `i` has come to the fields `it` in a call of `next`. -/
structure Walking (host : Host) (created : Nat) (i : Ptr) (it : DeviceIteratorLibraw1394)
    (s : Library β) : Prop where
  live : ∃ stored, s.iterators i = some stored
  ledger : Ledger host created (withFields i it) s

theorem Walking.modify (walking : Walking host created i it s) (same : it'.handle = it.handle) :
    Walking host created i it' s := by
  obtain ⟨stored, live⟩ := walking.live
  obtain ⟨owner, booked, possessed⟩ := walking.ledger.handles
  have now : withFields i it s.iterators i = some it := by
    rw [withFields, Heap.modify_self, live]
    rfl
  have changed := possessed.modifyIterator now same
  rw [withFields, Heap.modify_modify] at changed
  exact ⟨⟨stored, live⟩, walking.ledger.known, walking.ledger.idle, walking.ledger.created, owner,
    booked, changed⟩

theorem leaves_nextPort_ledger (walking : Walking host created i it s) :
    (nextPort host it s).Leaves (fun r => Walking host created i r.2) E := by
  refine Call.leaves_ite (fun _ => ?_) fun _ => walking
  refine Call.leaves_ite (fun _ => trivial) fun _ => ?_
  refine Call.leaves_bind (leaves_getPorts walking.ledger) ?_
  rintro ports s₁ ⟨rfl, stored, ledger⟩
  have walking₁ : Walking host created i it s₁ := ⟨stored ▸ walking.live, ledger⟩
  refine Call.leaves_ite (fun _ => walking₁.modify rfl) fun more => ?_
  have ports : host.ports ≠ 0 := by omega
  obtain ⟨stored, live⟩ := walking₁.live
  obtain ⟨owner, booked, possessed⟩ := ledger.handles
  have now : withFields i it s₁.iterators i = some it := by
    rw [withFields, Heap.modify_self, live]
    rfl
  have agrees := possessed.iterator i it now
  cases opened : it.handle with
  | none =>
      rw [opened] at agrees
      exact absurd agrees ports
  | some old =>
      rw [opened] at agrees
      have booked' := (booked.destroys agrees).opensAndUses (.iterator i)
      have reopened : (DeviceIteratorLibraw1394.mk (it.port + 1) 0 (host.nodeCount (it.port + 1))
          (some ⟨s₁.nextHandle, it.port + 1⟩)).handle = some ⟨s₁.nextHandle, it.port + 1⟩ := rfl
      have possessed' := possessed.reopen ports now opened (booked.unheld (Nat.le_refl _)) reopened
      rw [withFields, Heap.modify_modify] at possessed'
      exact ⟨⟨stored, live⟩, ledger.known, ledger.idle, ledger.created, _, booked', possessed'⟩

/-- `deviceIsOpen` changes nothing. -/
theorem leaves_deviceIsOpen (place : Nat × Nat) :
    (deviceIsOpen place.1 (nodeId place.2) s).Leaves (fun _ s' => s' = s) E := by
  rw [deviceIsOpen_congr rfl rfl place]
  cases s.isOpen? place with
  | none => trivial
  | some found => rfl

theorem leaves_lookAt_ledger (walking : Walking host created i it s) :
    (lookAt host it s).Leaves (fun r => Walking host created i r.2) E := by
  refine Call.leaves_bind (leaves_deviceIsOpen (it.port, it.node)) ?_
  rintro isOpen s₁ rfl
  refine Call.leaves_ite (fun _ => walking.modify rfl) fun _ => ?_
  refine Call.leaves_bind (leaves_newDevice_ledger walking.ledger) ?_
  rintro device s₂ ⟨stored, ledger⟩
  have walking₂ : Walking host created i it s₂ := ⟨stored ▸ walking.live, ledger⟩
  exact walking₂.modify rfl

theorem leaves_nextFrom_ledger (walking : Walking host created i it s) (rounds : Nat) :
    (nextFrom host rounds it s).Leaves (fun r => Walking host created i r.2) E := by
  induction rounds generalizing s it with
  | zero => trivial
  | succ rounds ih =>
      refine Call.leaves_bind (leaves_nextPort_ledger walking) ?_
      rintro ⟨more, it₁⟩ s₁ walking₁
      cases more with
      | false => exact walking₁
      | true =>
          refine Call.leaves_bind (leaves_lookAt_ledger walking₁) ?_
          rintro ⟨device, it₂⟩ s₂ walking₂
          cases device with
          | some device => exact walking₂
          | none => exact ih walking₂

theorem leaves_next_ledger (ledger : Ledger host created id s) :
    (next host i s).Leaves (fun _ => Ledger host created id) E := by
  cases live : s.iterators i with
  | none =>
      have dead : next host i s = .undefined := by simp [next, iterator, live]
      rw [dead]
      trivial
  | some it =>
      have unchanged : withFields i it s.iterators = s.iterators := by
        refine Heap.ext_cells rfl fun j => ?_
        rcases eq_or_ne j i with rfl | different
        · rw [withFields, Heap.modify_self, live]
          rfl
        · exact Heap.modify_of_ne _ different
      have walking : Walking host created i it s := by
        refine ⟨⟨it, live⟩, ledger.known, ledger.idle, ?_, ?_⟩
        · rw [unchanged]
          exact ledger.created
        · rw [unchanged]
          exact ledger.handles
      rw [next_eq live, Outcome.leaves_andThen]
      refine (leaves_nextFrom_ledger walking _).imp ?_ fun _ _ left => left
      rintro ⟨device, it'⟩ s' ⟨-, left⟩
      exact ⟨left.known, left.idle, left.created, left.handles⟩

end Library

/-! ## The methods of a device -/

namespace FirewireDevice

variable {β : Type} [Bus β] (endian : Endian)

theorem fixesCom_readQuadlet (address : UInt64) :
    (readQuadlet endian address : Call Exn (DeviceState β) UInt32).Fixes fun t => t.device.com :=
  (fixes_readQuadlet endian address).comp Prod.fst

theorem fixesCom_readConfigRom :
    (readConfigRom endian : Call Exn (DeviceState β) Unit).Fixes fun t => t.device.com := by
  intro c s same
  refine (readConfigRom_leaves endian s).imp ?_ ?_
  · exact fun _ s' left => (congrArg Prod.fst left).trans same
  · exact fun _ s' left => (congrArg Prod.fst left).trans same

theorem fixesCom_getConfigRom :
    (getConfigRom endian : Call Exn (DeviceState β) (Option ConfigRom)).Fixes
      fun t => t.device.com := by
  intro c
  refine Call.preserves_bind Call.preserves_get fun s => ?_
  have answers : (do
      let device := (← get).device
      return if device.configRomValid then some device.configRom else none :
        Call Exn (DeviceState β) (Option ConfigRom)).Preserves fun t => t.device.com = c :=
    Call.preserves_bind Call.preserves_get fun _ => Call.preserves_pure _
  refine Call.preserves_ite ?_ answers
  refine Call.preserves_bind (fixesCom_readConfigRom endian c) fun _ => ?_
  exact Call.preserves_bind (Call.preserves_modify fun _ same => same) fun _ => answers

/-- `isSensableDevice` does not exchange the communication object. -/
theorem fixesCom_isSensableDevice :
    (isSensableDevice endian : Call Exn (DeviceState β) Bool).Fixes fun t => t.device.com := by
  intro c
  have vendorId : (getVendorId endian : Call Exn (DeviceState β) UInt32).Preserves
      fun t => t.device.com = c := by
    refine Call.preserves_bind (fixesCom_getConfigRom endian c) fun crom => ?_
    cases crom with
    | none => exact Call.preserves_pure _
    | some crom => exact Call.preserves_pure _
  refine Call.preserves_bind vendorId fun _ => Call.preserves_ite (Call.preserves_pure _) ?_
  refine Call.preserves_bind (fixesCom_readQuadlet endian _ c) fun _ => ?_
  exact Call.preserves_ite (Call.preserves_pure _) (Call.preserves_pure _)

end FirewireDevice

namespace Library

variable {β : Type} [Bus β] {host : Host} {created : Nat} {s s' : Library β} {p i : Ptr}
  {serial : UInt32} {E : Exn → Library β → Prop}

theorem leaves_examine_ledger (ledger : Ledger host created id s) :
    (examine host serial i p s).Leaves (fun _ => Ledger host created id)
      fun _ => Ledger host created id := by
  have dropped {s : Library β} (ledger : Ledger host created id s) :
      ((do deleteDevice p; return none : Call Exn (Library β) (Option Ptr)) s).Leaves
        (fun _ => Ledger host created id) fun _ => Ledger host created id :=
    Call.leaves_bind (leaves_deleteDevice_ledger ledger) fun _ _ ledger => ledger
  refine Call.leaves_bind (preserves_onDevice_ledger
    (FirewireDevice.fixesCom_isSensableDevice host.endian) s ledger) fun sensable s₁ ledger₁ => ?_
  refine Call.leaves_ite (fun _ => ?_) fun _ => dropped ledger₁
  refine Call.leaves_bind (preserves_onDevice_ledger
    (FirewireDevice.fixesCom_readQuadlet host.endian _) s₁ ledger₁) fun number s₂ ledger₂ => ?_
  refine Call.leaves_ite (fun _ => dropped ledger₂) fun _ => ?_
  refine Call.leaves_bind (leaves_deleteIterator_ledger ledger₂) fun _ s₃ ledger₃ => ?_
  exact ⟨ledger₃.known, Heap.forall_alloc rfl ledger₃.idle, ledger₃.created, ledger₃.handles⟩

theorem leaves_deletePhantom_ledger (ledger : Ledger host created id s) :
    (deletePhantom p s).Leaves (fun _ => Ledger host created id) E := by
  cases live : s.phantoms p with
  | none =>
      have dead : deletePhantom p s = .undefined := by
        simp [deletePhantom, stopPhantom, phantom, live]
      rw [dead]
      trivial
  | some ph =>
      have stopped : deletePhantom p s = deleteBaseDevice p s := by
        simp [deletePhantom, stopPhantom_of_idle live (ledger.idle p ph live)]
      rw [stopped, deleteBaseDevice, Call.bind_apply, phantom_of_live live,
        Outcome.andThen_returned]
      refine Call.leaves_bind (leaves_deleteDevice_ledger ledger) fun _ s₁ ledger₁ => ?_
      refine ⟨ledger₁.known, ?_, ledger₁.created, ledger₁.handles⟩
      exact fun q ph there => ledger₁.idle q ph (Heap.free_eq_some.mp there).2

end Library

/-! ## Programs -/

variable {β : Type}

/-- The action creates an iterator; `findPhantom` creates one for itself. -/
def SearchAction.createsIterator : SearchAction → Bool
  | .createInstance => true
  | .findPhantom _ => true
  | _ => false

/-- Everything that was created is deleted, and no search is in progress. -/
structure Emptied (program : Program β) : Prop where
  search : program.search = none
  iterators : program.library.iterators.live = []
  devices : program.library.devices.live = []
  phantoms : program.library.phantoms.live = []

/-- No handle is destroyed twice or used after it was destroyed, and when
everything is deleted, every handle that was opened is destroyed. -/
structure Settled (program : Program β) : Prop where
  once : ∀ id, program.library.handleLog.count (.destroyed id) ≤ 1
  alive : ∀ front id back, program.library.handleLog = front ++ .used id :: back →
    .destroyed id ∉ front
  returned : Emptied program → ∀ id, .opened id ∈ program.library.handleLog →
    .destroyed id ∈ program.library.handleLog

/-- Without devices, all handles are destroyed unless an iterator was created. -/
theorem Library.Ledger.returned_iff {host : Host} {created : Nat} {s : Library β}
    (ledger : s.Ledger host created id) (deleted : s.devices.live = []) :
    (∀ handle, .opened handle ∈ s.handleLog → .destroyed handle ∈ s.handleLog) ↔
      host.ports = 0 ∨ created = 0 := by
  obtain ⟨owner, booked, possessed⟩ := ledger.handles
  have counted : s.iterators.next = created := ledger.created
  constructor
  · intro returned
    by_contra remaining
    rw [not_or] at remaining
    obtain ⟨ports, made⟩ := remaining
    -- The handle of the first iterator is still open.
    have first : 0 < s.iterators.next := Nat.pos_of_ne_zero (counted ▸ made)
    obtain ⟨handle, held⟩ := possessed.kept ports 0 first
    have opened := booked.opened_of_held held
    rw [(booked.destroyed_iff opened).mp (returned handle opened)] at held
    cases held
  · intro without handle opened
    rw [booked.destroyed_iff opened]
    cases held : owner handle with
    | none => rfl
    | some o =>
        have entitled := possessed.entitled handle o held
        cases o with
        | device p =>
            obtain ⟨d, live, -⟩ := entitled
            exact absurd (Heap.mem_live.mpr ⟨d, live⟩) (deleted ▸ List.not_mem_nil)
        | communication p =>
            obtain ⟨d, live, -⟩ := entitled
            exact absurd (Heap.mem_live.mpr ⟨d, live⟩) (deleted ▸ List.not_mem_nil)
        | iterator i =>
            obtain ⟨below, ports⟩ := entitled
            rcases without with portless | unmade
            · exact absurd portless ports
            · have below : i < s.iterators.next := below
              rw [counted, unmade] at below
              exact absurd below (Nat.not_lt_zero i)
        | call => exact entitled.elim

variable [Bus β] {host : Host} {created : Nat} {s s' : Library β} {program program' : Program β}

/-- What one action does to the ledger. -/
theorem Library.Ledger.idleStep (ledger : s.Ledger host created id) {a : SearchAction}
    (stepped : LibPhantom.idleStep host s a = some program) :
    program.library.Ledger host (created + a.createsIterator.toNat) id := by
  cases a with
  | createInstance =>
      obtain ⟨s', returned, rfl⟩ := Option.map_eq_some_iff.mp stepped
      exact (leaves_createInstance_ledger ledger).of_state? returned
  | next i =>
      obtain ⟨s', returned, rfl⟩ := Option.map_eq_some_iff.mp stepped
      exact (leaves_next_ledger ledger).of_state? returned
  | deleteIterator i =>
      obtain ⟨s', returned, rfl⟩ := Option.map_eq_some_iff.mp stepped
      exact (leaves_deleteIterator_ledger ledger).of_state? returned
  | deleteDevice p =>
      simp only [LibPhantom.idleStep] at stepped
      split at stepped
      · cases stepped
      · obtain ⟨s', returned, rfl⟩ := Option.map_eq_some_iff.mp stepped
        exact (leaves_deleteDevice_ledger ledger).of_state? returned
  | deletePhantom p =>
      obtain ⟨s', returned, rfl⟩ := Option.map_eq_some_iff.mp stepped
      exact (leaves_deletePhantom_ledger ledger).of_state? returned
  | findPhantom serial =>
      simp only [LibPhantom.idleStep] at stepped
      split at stepped
      · next i s' called =>
          cases stepped
          have left : (Library.createInstance host s).state? = some s' := by rw [called]; rfl
          exact (leaves_createInstance_ledger ledger).of_state? left
      · cases stepped
  | advance => cases stepped

theorem Library.Ledger.advance (ledger : s.Ledger host created id) (search : Search) :
    (search.advance host s).Leaves (fun _ => Library.Ledger host created id)
      fun _ => Library.Ledger host created id := by
  obtain ⟨serial, i, candidate⟩ := search
  cases candidate with
  | none =>
      refine Call.leaves_bind (leaves_next_ledger ledger) fun device s₁ ledger₁ => ?_
      cases device with
      | none => exact Call.leaves_bind (leaves_deleteIterator_ledger ledger₁) fun _ _ left => left
      | some device => exact ledger₁
  | some device =>
      refine Call.leaves_bind (leaves_examine_ledger ledger) fun phantom s₁ ledger₁ => ?_
      cases phantom with
      | none => exact ledger₁
      | some phantom => exact ledger₁

/-- Each action keeps the ledger, also inside of `findPhantom`. -/
theorem ledger_step (ledger : program.library.Ledger host created id) {a : SearchAction}
    (stepped : (searches host).step program a = some program') :
    program'.library.Ledger host (created + a.createsIterator.toNat) id := by
  obtain ⟨s, search⟩ := program
  cases search with
  | none => exact ledger.idleStep stepped
  | some search =>
      cases a with
      | advance =>
          have left := ledger.advance search
          cases outcome : search.advance host s with
          | returned search' s' =>
              rw [searches_advance outcome] at stepped
              cases stepped
              exact left.of_state? (by rw [outcome]; rfl)
          | thrown e s' => simp [searches, searchStep, outcome] at stepped
          | undefined => simp [searches, searchStep, outcome] at stepped
      | _ => cases stepped

/-- So does every run; the iterators are counted by the actions that create
them. -/
theorem ledger_run {actions : List SearchAction}
    (ledger : program.library.Ledger host created id)
    (reached : (searches host).run program actions = some program') :
    program'.library.Ledger host (created + actions.countP SearchAction.createsIterator) id := by
  induction actions generalizing program created with
  | nil =>
      cases reached
      exact ledger
  | cons a actions ih =>
      obtain ⟨program₁, stepped, reached⟩ := System.run_cons_eq_some.mp reached
      have later := ih (ledger_step ledger stepped) reached
      have counted : created + a.createsIterator.toNat +
          actions.countP SearchAction.createsIterator =
          created + (a :: actions).countP SearchAction.createsIterator := by
        rw [List.countP_cons]
        cases a.createsIterator <;> simp; omega
      exact counted ▸ later

/-- **The handles of a program.**  In every run, no handle is destroyed twice or
used after it was destroyed.  When everything is deleted, all handles are
destroyed if and only if the machine has no ports or no iterator was ever
created. -/
theorem handles_settled_iff (host : Host) (bus : β) (actions : List SearchAction)
    (program : Program β)
    (reached : (searches host).run ⟨Library.initial bus, none⟩ actions = some program) :
    Settled program ↔
      (Emptied program → host.ports = 0 ∨ ∀ a ∈ actions, a.createsIterator = false) := by
  have ledger := ledger_run (Library.ledger_initial host bus) reached
  rw [Nat.zero_add] at ledger
  have returned (emptied : Emptied program) :
      (∀ handle, .opened handle ∈ program.library.handleLog →
        .destroyed handle ∈ program.library.handleLog) ↔
      host.ports = 0 ∨ ∀ a ∈ actions, a.createsIterator = false := by
    rw [ledger.returned_iff emptied.devices, List.countP_eq_zero]
    simp
  obtain ⟨owner, booked, -⟩ := ledger.handles
  constructor
  · intro settled emptied
    exact (returned emptied).mp (settled.returned emptied)
  · intro condition
    refine ⟨booked.once, ?_, fun emptied => (returned emptied).mpr (condition emptied)⟩
    intro front handle back split
    rw [split] at booked
    exact booked.not_destroyed_of_used

/-- A search that finds nothing on a machine with one port and two nodes. -/
def vainSearch : List SearchAction :=
  [.findPhantom 0, .advance, .advance, .advance, .advance, .advance]

theorem handles_settled_vainSearch : ∃ program,
    (searches twoNodes).run ⟨Library.initial silent, none⟩ vainSearch = some program ∧
      (Settled program ↔ (Emptied program → twoNodes.ports = 0 ∨
        ∀ a ∈ vainSearch, a.createsIterator = false)) :=
  ⟨_, rfl, handles_settled_iff twoNodes silent vainSearch _ rfl⟩

/-- The search deletes its iterator, and leaves the handle of it open. -/
theorem vainSearch_leaks :
    ¬∀ (host : Host) (bus : MemoryBus) (actions : List SearchAction) (program : Program MemoryBus),
      (searches host).run ⟨Library.initial bus, none⟩ actions = some program →
        Settled program := by
  intro claim
  have settled := claim twoNodes silent vainSearch _ rfl
  have destroyed := settled.returned ⟨rfl, rfl, rfl, rfl⟩ 1 (by decide)
  revert destroyed
  decide

end LibPhantom
