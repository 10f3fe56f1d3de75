import PhantomDrivers.Semantics.Loops

/-!
# The device iterator on Mac OS X

`DeviceIteratorMacOSX::next` walks over the FireWire devices that IOKit has
found and over the child services of each.  Both iterations are in one loop, and
the one over the children goes on in the next call.

* `pass`, `next` — `DeviceIteratorMacOSX.cpp`.
* `pending` — the units that are still to come; `variant` — how much is left for
  the loop.
* `exists_next` — a call returns the first unit that is still to come, and leaves
  the others.
* `nextCalls_iff` — any number of calls.
-/

namespace LibPhantom

open Semantics

/-- A child service of a device, with the outcomes of what `next` tries on it. -/
structure IOService where
  service : Nat
  name : String
  /-- `IOCreatePlugInInterfaceForService` succeeds -/
  plugIn : Bool
  /-- `QueryInterface` hands an interface out -/
  interface : Bool
  /-- `Open` succeeds -/
  opens : Bool
deriving DecidableEq, Repr

/-- An `IOFireWireDevice`. -/
structure IODevice where
  /-- the child services, if `IORegistryEntryGetChildIterator` succeeds -/
  children : Option (List IOService)
deriving DecidableEq, Repr

/-- The iterators, by what is still to come. -/
structure DeviceIteratorMacOSX where
  deviceIterator : List IODevice
  unitIterator : Option (List IOService)
deriving DecidableEq, Repr

/-- `IOIteratorNext` -/
def IOIteratorNext {α : Type} : List α → Option α × List α
  | [] => (none, [])
  | a :: rest => (some a, rest)

namespace DeviceIteratorMacOSX

/-! ## The code -/

/-- The constructor, where IOKit finds these devices. -/
def new (registry : List IODevice) : DeviceIteratorMacOSX where
  deviceIterator := registry
  unitIterator := none

/-- The second half of the loop: the next unit of a device.  A device object is
given by the service whose interface it has. -/
def nextUnit (devices : List IODevice) (unitIterator : List IOService) :
    Pass DeviceIteratorMacOSX (Option IOService) :=
  match IOIteratorNext unitIterator with
  | (none, _) => .continues ⟨devices, none⟩
  | (some unit, units) =>
      if unit.name ≠ "IOFireWireUnit" then .continues ⟨devices, some units⟩
      else if !unit.plugIn then .continues ⟨devices, some units⟩
      else if !unit.interface then .continues ⟨devices, some units⟩
      else if !unit.opens then .continues ⟨devices, some units⟩
      else .returns (some unit) ⟨devices, some units⟩

/-- A pass of the loop. -/
def pass (it : DeviceIteratorMacOSX) : Pass DeviceIteratorMacOSX (Option IOService) :=
  match it.unitIterator with
  | some units => nextUnit it.deviceIterator units
  | none =>
      match IOIteratorNext it.deviceIterator with
      | (none, devices) => .returns none ⟨devices, none⟩
      | (some device, devices) =>
          match device.children with
          | none => .continues ⟨devices, none⟩
          | some units => nextUnit devices units

/-- `DeviceIteratorMacOSX::next` returns, `NULL` or a device, after so many
passes of its loop. -/
def Next (it : DeviceIteratorMacOSX) (result : Option IOService) (it' : DeviceIteratorMacOSX) :
    Prop :=
  ∃ passes, ∀ bound, passes ≤ bound → loop pass bound it = some (result, it')

/-! ## What is still to come -/

/-- Everything that `next` tries on a unit succeeds. -/
def Usable (unit : IOService) : Prop :=
  unit.name = "IOFireWireUnit" ∧ unit.plugIn = true ∧ unit.interface = true ∧ unit.opens = true

instance (unit : IOService) : Decidable (Usable unit) := inferInstanceAs (Decidable (_ ∧ _))

/-- The units that `next` is to return for the devices. -/
def unitsOf (registry : List IODevice) : List IOService :=
  registry.flatMap fun device => (device.children.getD []).filter Usable

/-- The units that are still to come. -/
def pending (it : DeviceIteratorMacOSX) : List IOService :=
  (it.unitIterator.getD []).filter Usable ++ unitsOf it.deviceIterator

/-- How much of the units of a device is left. -/
def left : Option (List IOService) → Nat
  | none => 0
  | some units => units.length + 1

/-- How much is left for the loop. -/
def variant (it : DeviceIteratorMacOSX) : Nat :=
  left it.unitIterator + (it.deviceIterator.map fun device => left device.children + 1).sum

/-- What a call does to the units that are still to come. -/
def TakesFirst (it : DeviceIteratorMacOSX) (result : Option IOService)
    (it' : DeviceIteratorMacOSX) : Prop :=
  result = it.pending.head? ∧ it'.pending = it.pending.tail

section Passes

variable {devices : List IODevice} {units : List IOService} {unit : IOService}
  {it it' : DeviceIteratorMacOSX} {result : Option IOService}

/-- A unit is returned if it is usable, and passed over otherwise. -/
theorem nextUnit_cons (devices : List IODevice) (unit : IOService) (units : List IOService) :
    nextUnit devices (unit :: units) =
      if Usable unit then .returns (some unit) ⟨devices, some units⟩
      else .continues ⟨devices, some units⟩ := by
  unfold nextUnit
  dsimp only [IOIteratorNext]
  by_cases usable : Usable unit
  · rw [if_pos usable]
    obtain ⟨name, plugIn, interface, opens⟩ := usable
    simp [name, plugIn, interface, opens]
  · rw [if_neg usable]
    by_cases name : unit.name = "IOFireWireUnit"
    · by_cases plugIn : unit.plugIn = true
      · by_cases interface : unit.interface = true
        · have opens : ¬unit.opens = true := fun opens => usable ⟨name, plugIn, interface, opens⟩
          simp [name, plugIn, interface, opens]
        · simp [name, plugIn, interface]
      · simp [name, plugIn]
    · simp [name]

/-- What a pass leaves to be done, and what it returns. -/
structure Passes (it : DeviceIteratorMacOSX) (p : Pass DeviceIteratorMacOSX (Option IOService)) :
    Prop where
  continues : ∀ it', p = .continues it' → it'.variant < it.variant ∧ it'.pending = it.pending
  returns : ∀ result it', p = .returns result it' → TakesFirst it result it'

theorem passes_continues (decreases : it'.variant < it.variant) (same : it'.pending = it.pending) :
    Passes it (.continues it') where
  continues it₁ continued := by
    cases continued
    exact ⟨decreases, same⟩
  returns _ _ returned := by cases returned

theorem passes_returns (takes : TakesFirst it result it') : Passes it (.returns result it') where
  continues _ continued := by cases continued
  returns result₁ it₁ returned := by
    cases returned
    exact takes

/-- The second half of the loop: the units of a device. -/
theorem passes_nextUnit (devices : List IODevice) (units : List IOService) :
    Passes ⟨devices, some units⟩ (nextUnit devices units) := by
  cases units with
  | nil =>
      refine passes_continues ?_ rfl
      simp [variant, left]
  | cons unit units =>
      rw [nextUnit_cons]
      by_cases usable : Usable unit
      · rw [if_pos usable]
        refine passes_returns ?_
        have taken : (⟨devices, some (unit :: units)⟩ : DeviceIteratorMacOSX).pending =
            unit :: (⟨devices, some units⟩ : DeviceIteratorMacOSX).pending := by
          simp [pending, usable]
        exact ⟨by rw [taken]; rfl, by rw [taken]; rfl⟩
      · rw [if_neg usable]
        refine passes_continues ?_ ?_
        · simp [variant, left]
        · simp [pending, usable]

/-- **A pass.** -/
theorem passes_pass (it : DeviceIteratorMacOSX) : Passes it it.pass := by
  obtain ⟨devices, unitIterator⟩ := it
  cases unitIterator with
  | some units => exact passes_nextUnit devices units
  | none =>
      cases devices with
      | nil => exact passes_returns ⟨rfl, rfl⟩
      | cons device devices =>
          obtain ⟨children⟩ := device
          cases children with
          | none =>
              -- The child iterator could not be created.
              refine passes_continues ?_ rfl
              simp [variant, left]
          | some units =>
              -- The device is entered.
              have entered := passes_nextUnit devices units
              have same : (⟨devices, some units⟩ : DeviceIteratorMacOSX).pending =
                  (⟨⟨some units⟩ :: devices, none⟩ : DeviceIteratorMacOSX).pending := by
                simp [pending, unitsOf]
              have less : (⟨devices, some units⟩ : DeviceIteratorMacOSX).variant <
                  (⟨⟨some units⟩ :: devices, none⟩ : DeviceIteratorMacOSX).variant := by
                simp [variant, left]
              constructor
              · intro it' continued
                obtain ⟨decreases, kept⟩ := entered.continues it' continued
                exact ⟨decreases.trans less, kept.trans same⟩
              · intro result it' returned
                obtain ⟨first, rest⟩ := entered.returns result it' returned
                exact ⟨same ▸ first, same ▸ rest⟩

end Passes

/-! ## Calls -/

/-- **One call** returns the first unit that is still to come. -/
theorem exists_next (it : DeviceIteratorMacOSX) :
    ∃ result it', it.Next result it' ∧ TakesFirst it result it' := by
  have returns : ∃ result it', Returns pass it result it' ∧ TakesFirst it result it' := by
    refine exists_returns variant ?_ (fun it => (passes_pass it).returns) it
    intro it it₁ continued
    obtain ⟨decreases, same⟩ := (passes_pass it).continues it₁ continued
    refine ⟨decreases, fun result it' takes => ?_⟩
    rwa [TakesFirst, same] at takes
  obtain ⟨result, it', returned, takes⟩ := returns
  exact ⟨result, it', exists_loop_iff.mp returned, takes⟩

/-- There is no other result. -/
theorem Next.takesFirst {it it' : DeviceIteratorMacOSX} {result : Option IOService}
    (next : it.Next result it') : TakesFirst it result it' := by
  obtain ⟨result₁, it₁, next₁, takes⟩ := exists_next it
  obtain ⟨rfl, rfl⟩ := (exists_loop_iff.mpr next).unique (exists_loop_iff.mpr next₁)
  exact takes

/-- One call after the other returns these results. -/
def NextCalls : DeviceIteratorMacOSX → List (Option IOService) → DeviceIteratorMacOSX → Prop
  | it, [], it' => it' = it
  | it, result :: results, it' => ∃ it₁, it.Next result it₁ ∧ NextCalls it₁ results it'

/-- The results of the calls are the units that are still to come, one after the
other, and `NULL` behind them. -/
theorem nextCalls_iff {it : DeviceIteratorMacOSX} {results : List (Option IOService)} :
    (∃ it', NextCalls it results it') ↔
      results = (List.range results.length).map fun k => it.pending[k]? := by
  induction results generalizing it with
  | nil => exact ⟨fun _ => rfl, fun _ => ⟨it, rfl⟩⟩
  | cons result results ih =>
      have shift (it₁ : DeviceIteratorMacOSX) (rest : it₁.pending = it.pending.tail) :
          (List.range (results.length + 1)).map (fun k => it.pending[k]?) =
            it.pending.head? :: (List.range results.length).map fun k => it₁.pending[k]? := by
        rw [List.range_succ_eq_map, List.map_cons, List.map_map, List.head?_eq_getElem?]
        congr 1
        refine List.map_congr_left fun k _ => ?_
        rw [Function.comp_apply, rest, List.getElem?_tail]
      rw [List.length_cons]
      constructor
      · rintro ⟨it', it₁, next, calls⟩
        obtain ⟨first, rest⟩ := next.takesFirst
        rw [shift it₁ rest, ← first, ← ih.mp ⟨it', calls⟩]
      · intro same
        obtain ⟨result₁, it₁, next, first, rest⟩ := exists_next it
        rw [shift it₁ rest] at same
        obtain ⟨here, later⟩ := List.cons.inj same
        obtain ⟨it', calls⟩ := ih.mpr later
        refine ⟨it', it₁, ?_, calls⟩
        rw [here, ← first]
        exact next

/-- **The iterator.**  Every call returns; the calls yield, in the order of the
registry and each once, the units of the devices on which everything succeeds,
and then `NULL` for ever. -/
theorem new_yields (registry : List IODevice) (results : List (Option IOService)) :
    (∃ it', NextCalls (new registry) results it') ↔
      results = (List.range results.length).map fun k => (unitsOf registry)[k]? :=
  nextCalls_iff

-- A device without a child iterator, one without children, and one whose last
-- child can be used.
example : loop pass 8 (new [⟨none⟩, ⟨some []⟩, ⟨some [⟨1, "IOFireWireLocalNode", true, true, true⟩,
    ⟨2, "IOFireWireUnit", true, true, false⟩, ⟨3, "IOFireWireUnit", true, true, true⟩]⟩]) =
      some (some ⟨3, "IOFireWireUnit", true, true, true⟩, ⟨[], some []⟩) := by decide

end DeviceIteratorMacOSX

end LibPhantom
