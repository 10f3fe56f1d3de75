import PhantomDrivers.LibPhantom.DeviceIterator
import PhantomDrivers.LibPhantom.Phantom

/-!
# The search for a Phantom

`Phantom::findPhantom`, and the programs that look for devices: they walk over
the bus with iterators, call `findPhantom`, and delete what they got, in any
order.

`findPhantom` opens a device for every node that is not open, and deletes it
again before it goes on to the next node.  To see the states in between, a
program takes its steps *inside* `findPhantom` as well: a search in progress is
part of the state, and `advance` takes it from one call to the next.

* `findPhantom` — the function.
* `Program`, `searches` — the runs.
* `findPhantom_run` — a call of `findPhantom` that returns is a run of the steps
  inside it.
-/

namespace LibPhantom

open Semantics Raw1394

namespace Library

variable {β : Type} [Bus β]

/-- `Phantom::readDeviceSerial` -/
def readDeviceSerial (host : Host) (device : Ptr) : Call Exn (Library β) UInt32 :=
  onDevice device (FirewireDevice.readQuadlet host.endian 0x10060010)

/-- `Phantom::readDeviceSerial`, of a Phantom that was found. -/
def readPhantomSerial (host : Host) (p : Ptr) : Call Exn (Library β) UInt32 := do
  readDeviceSerial host (← phantom p).firewireDevice

/-- The body of the loop of `findPhantom`: either the device becomes a Phantom
and the iterator is deleted, or the device is deleted. -/
def examine (host : Host) (serial : UInt32) (i device : Ptr) :
    Call Exn (Library β) (Option Ptr) := do
  if ← onDevice device (FirewireDevice.isSensableDevice host.endian) then
    let deviceSerial ← readDeviceSerial host device
    if serial ≠ 0 ∧ serial ≠ deviceSerial then
      deleteDevice device
      return none
    else
      deleteIterator i
      let phantom ← newPhantom device
      return some phantom
  else
    deleteDevice device
    return none

/-- The loop of `findPhantom`, with the given number of rounds left. -/
def findPhantomFrom (host : Host) (serial : UInt32) (i : Ptr) :
    Nat → Call Exn (Library β) (Option Ptr)
  | 0 => Call.undefined
  | rounds + 1 => do
      match ← next host i with
      | none =>
          deleteIterator i
          return none
      | some device =>
          match ← examine host serial i device with
          | some phantom => return some phantom
          | none => findPhantomFrom host serial i rounds

/-- `Phantom::findPhantom`; without a serial number, any Phantom will do. -/
def findPhantom (host : Host) (serial : UInt32) : Call Exn (Library β) (Option Ptr) := do
  let i ← createInstance host
  let it ← iterator i
  findPhantomFrom host serial i ((it.remaining host).length + 1)

/-- The device belongs to a Phantom. -/
def belongs (s : Library β) (device : Ptr) : Bool :=
  s.phantoms.live.any fun p => (s.phantoms p).any fun phantom => phantom.firewireDevice == device

omit [Bus β] in
theorem belongs_iff {s : Library β} {device : Ptr} : s.belongs device = true ↔
    ∃ p ph, s.phantoms p = some ph ∧ ph.firewireDevice = device := by
  simp only [belongs, List.any_eq_true, Option.any_eq_true, beq_iff_eq]
  constructor
  · rintro ⟨p, -, ph, live, same⟩
    exact ⟨p, ph, live, same⟩
  · rintro ⟨p, ph, live, same⟩
    exact ⟨p, Heap.mem_live.mpr ⟨ph, live⟩, ph, live, same⟩

/-! ### Calls that return -/

variable {s s' : Library β} {p i : Ptr}

/-- The state a method of a device leaves behind. -/
def afterMethod (p : Ptr) (d : FirewireDeviceLibraw1394) (t : DeviceState β) (s : Library β) :
    Library β :=
  { s with
    bus := t.bus
    handleLog := s.handleLog ++ [.used d.com.handle.id]
    devices := s.devices.modify p fun d => { d with toFirewireDevice := t.device } }

omit [Bus β] in
/-- A method of a device works on the fields of its object. -/
theorem onDevice_eq {α : Type} {method : Call Exn (DeviceState β) α}
    {d : FirewireDeviceLibraw1394} (live : s.devices p = some d) : onDevice p method s =
      (method ⟨s.bus, d.toFirewireDevice⟩).mapState fun t => s.afterMethod p d t := by
  simp [onDevice, device_of_live live, useHandle, afterMethod]

omit [Bus β] in
theorem onDevice_eq_returned {α : Type} {method : Call Exn (DeviceState β) α} {a : α}
    (called : onDevice p method s = .returned a s') :
    ∃ d t, s.devices p = some d ∧ s' = s.afterMethod p d t := by
  cases live : s.devices p with
  | none => simp [onDevice, device_of_dead live] at called
  | some d =>
      rw [onDevice_eq live] at called
      cases outcome : method ⟨s.bus, d.toFirewireDevice⟩ with
      | returned _ t =>
          rw [outcome] at called
          cases called
          exact ⟨d, t, rfl, rfl⟩
      | thrown e t =>
          rw [outcome] at called
          cases called
      | undefined =>
          rw [outcome] at called
          cases called

omit [Bus β] in
theorem deleteIterator_eq_returned {u : Unit} (deleted : deleteIterator i s = .returned u s') :
    s' = { s with iterators := s.iterators.free i } := by
  cases live : s.iterators i with
  | none => simp [deleteIterator, iterator, live] at deleted
  | some it =>
      simp only [deleteIterator, Call.bind_apply, iterator_of_live live, Outcome.andThen_returned,
        Call.modify_apply] at deleted
      cases deleted
      rfl

end Library

/-! ## Programs -/

/-- A call of `findPhantom` in progress: its argument, its iterator, and the
device it looks at. -/
structure Search where
  serial : UInt32
  iterator : Ptr
  candidate : Option Ptr
deriving DecidableEq, Repr

/-- A program that looks for devices. -/
structure Program (β : Type) where
  library : Library β
  search : Option Search

/-- What such a program does. -/
inductive SearchAction where
  | createInstance
  | next (i : Ptr)
  | deleteIterator (i : Ptr)
  | deleteDevice (p : Ptr)
  | deletePhantom (p : Ptr)
  | findPhantom (serial : UInt32)
  | advance
deriving DecidableEq, Repr

variable {β : Type} [Bus β]

/-- The next call of a search. -/
def Search.advance (host : Host) (search : Search) : Call Exn (Library β) (Option Search) := do
  match search.candidate with
  | none =>
      match ← Library.next host search.iterator with
      | none =>
          Library.deleteIterator search.iterator
          return none
      | some device => return some { search with candidate := some device }
  | some device =>
      match ← Library.examine host search.serial search.iterator device with
      | some _ => return none
      | none => return some { search with candidate := none }

/-- The actions outside of `findPhantom`.  A device that belongs to a Phantom is
not deleted by itself. -/
def idleStep (host : Host) (s : Library β) : SearchAction → Option (Program β)
  | .createInstance => (Library.createInstance host s).state?.map (⟨·, none⟩)
  | .next i => (Library.next host i s).state?.map (⟨·, none⟩)
  | .deleteIterator i => (Library.deleteIterator i s).state?.map (⟨·, none⟩)
  | .deleteDevice p =>
      if s.belongs p then none else (Library.deleteDevice p s).state?.map (⟨·, none⟩)
  | .deletePhantom p => (Library.deletePhantom p s).state?.map (⟨·, none⟩)
  | .findPhantom serial =>
      match Library.createInstance host s with
      | .returned i s' => some ⟨s', some ⟨serial, i, none⟩⟩
      | _ => none
  | .advance => none

/-- A step inside of `findPhantom`, unless it throws. -/
def searchStep (host : Host) (search : Search) (s : Library β) : SearchAction → Option (Program β)
  | .advance =>
      match search.advance host s with
      | .returned search' s' => some ⟨s', search'⟩
      | _ => none
  | _ => none

/-- The runs of programs that look for devices, as long as no `findPhantom`
throws. -/
def searches (host : Host) : System (Program β) SearchAction where
  step program a :=
    match program.search with
    | none => idleStep host program.library a
    | some search => searchStep host search program.library a

/-! ## The steps inside a call -/

variable {host : Host} {s s' : Library β} {serial : UInt32} {i : Ptr} {r : Option Ptr}

theorem searches_advance {search : Search} {search' : Option Search}
    (advanced : search.advance host s = .returned search' s') :
    (searches host).step ⟨s, some search⟩ .advance = some ⟨s', search'⟩ := by
  simp [searches, searchStep, advanced]

/-- The loop of `findPhantom` is a run of the steps inside it. -/
theorem findPhantomFrom_run {rounds : Nat}
    (found : Library.findPhantomFrom host serial i rounds s = .returned r s') :
    ∃ steps, (searches host).run ⟨s, some ⟨serial, i, none⟩⟩
      (List.replicate steps .advance) = some ⟨s', none⟩ := by
  induction rounds generalizing s with
  | zero => cases found
  | succ rounds ih =>
      obtain ⟨device, s₁, stepped, found⟩ := Call.bind_eq_returned.mp found
      cases device with
      | none =>
          obtain ⟨_, s₂, deleted, ended⟩ := Call.bind_eq_returned.mp found
          cases ended
          refine ⟨1, System.run_cons_eq_some.mpr ⟨_, searches_advance ?_, rfl⟩⟩
          simp [Search.advance, stepped, deleted]
      | some device =>
          obtain ⟨phantom, s₂, examined, found⟩ := Call.bind_eq_returned.mp found
          have first : (searches host).step ⟨s, some ⟨serial, i, none⟩⟩ .advance =
              some ⟨s₁, some ⟨serial, i, some device⟩⟩ := by
            refine searches_advance ?_
            simp [Search.advance, stepped]
          cases phantom with
          | some phantom =>
              cases found
              refine ⟨2, System.run_cons_eq_some.mpr ⟨_, first, ?_⟩⟩
              refine System.run_cons_eq_some.mpr ⟨_, searches_advance ?_, rfl⟩
              simp [Search.advance, examined]
          | none =>
              obtain ⟨steps, reached⟩ := ih found
              refine ⟨steps + 1 + 1, System.run_cons_eq_some.mpr ⟨_, first, ?_⟩⟩
              refine System.run_cons_eq_some.mpr ⟨_, searches_advance ?_, reached⟩
              simp [Search.advance, examined]

/-- A call of `findPhantom` that returns is a run of the steps inside it. -/
theorem findPhantom_run (found : Library.findPhantom host serial s = .returned r s') :
    ∃ steps, (searches host).run ⟨s, none⟩
      (.findPhantom serial :: List.replicate steps .advance) = some ⟨s', none⟩ := by
  obtain ⟨i, s₁, created, called⟩ := Call.bind_eq_returned.mp found
  obtain ⟨it, s₂, followed, looped⟩ := Call.bind_eq_returned.mp called
  have unchanged : s₂ = s₁ := by
    cases live : s₁.iterators i with
    | none => simp [Library.iterator, live] at followed
    | some it' =>
        rw [Library.iterator_of_live live] at followed
        cases followed
        rfl
  rw [unchanged] at looped
  obtain ⟨steps, reached⟩ := findPhantomFrom_run looped
  refine ⟨steps, System.run_cons_eq_some.mpr ⟨_, ?_, reached⟩⟩
  simp [searches, idleStep, created]

end LibPhantom
