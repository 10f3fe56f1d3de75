import PhantomDrivers.LibPhantom.SearchFrames

/-!
# The table of open devices during a search

`findPhantom` opens a device for each node it looks at.  Between two nodes the
table is what it was before the search; while a node is looked at, it has one
more entry at its end.  An exception of a read leaves `findPhantom` from there:
nobody has a pointer to the device any more, and it stays open.

* `searched` — what `deviceIsOpen` answers, as a function of the entries.
* `Tabled`, `Opened` — the two kinds of states of a search.
* `leaves_findPhantom_table` — where a search ends.
* `unavailable_of_thrown` — after an exception, a node that was not open is
  open.
-/

namespace LibPhantom

open Semantics Raw1394

namespace Library

variable {β : Type} {host : Host} {s₀ s s' t : Library β} {entries : List Ptr} {p i : Ptr}
  {place : Nat × Nat}

/-! ## The answers of `deviceIsOpen` -/

/-- What a search of these entries answers for a place. -/
def searched (devices : Heap FirewireDeviceLibraw1394) (place : Nat × Nat) :
    List Ptr → Option Bool
  | [] => some false
  | q :: entries =>
      match devices q with
      | none => none
      | some d =>
          if d.port = place.1 ∧ d.node = nodeId place.2 then some true
          else searched devices place entries

section Searched

variable {devices devices' : Heap FirewireDeviceLibraw1394}

theorem searchOpen_of_lists {n j : Nat} (lists : s.openDevices.Lists entries)
    (whole : j + n = entries.length) :
    (searchOpen place.1 (nodeId place.2) n j s).value? =
      searched s.devices place (entries.drop j) := by
  induction n generalizing j with
  | zero =>
      rw [List.drop_eq_nil_of_le (by omega)]
      rfl
  | succ n ih =>
      have inside : j < entries.length := by omega
      have slot : s.openDevices.slots[j]? = some (some entries[j]) := by
        rw [lists.entry j inside, List.getElem?_eq_getElem inside]
      rw [List.drop_eq_getElem_cons inside]
      simp only [searchOpen, searched, Call.bind_apply, Call.get_apply, Outcome.andThen_returned,
        slot]
      cases live : s.devices entries[j] with
      | none =>
          rw [device_of_dead live]
          rfl
      | some d =>
          rw [device_of_live live, Outcome.andThen_returned, Call.ite_apply]
          dsimp only
          split
          · rfl
          · exact ih (show j + 1 + n = entries.length by omega)

/-- The answer depends on the entries and their devices only. -/
theorem isOpen?_of_lists (lists : s.openDevices.Lists entries) (place : Nat × Nat) :
    s.isOpen? place = searched s.devices place entries := by
  have whole : 0 + s.openDevices.number = entries.length := by rw [lists.number, Nat.zero_add]
  exact searchOpen_of_lists lists whole

theorem searched_congr (same : ∀ q ∈ entries, devices' q = devices q) :
    searched devices' place entries = searched devices place entries := by
  induction entries with
  | nil => rfl
  | cons q entries ih =>
      rw [searched, searched, same q List.mem_cons_self,
        ih fun r member => same r (List.mem_cons_of_mem _ member)]

/-- A search that finds nothing has looked at every entry. -/
theorem alive_of_searched (nothing : searched devices place entries = some false) :
    ∀ q ∈ entries, ∃ d, devices q = some d := by
  induction entries with
  | nil => exact fun q member => absurd member List.not_mem_nil
  | cons first entries ih =>
      rw [searched] at nothing
      split at nothing
      · cases nothing
      · next d live =>
          split at nothing
          · cases nothing
          · intro q member
            rcases List.mem_cons.mp member with rfl | later
            · exact ⟨d, live⟩
            · exact ih nothing q later

/-- It goes on behind the entries among which it finds nothing. -/
theorem searched_append {rest : List Ptr} (nothing : searched devices place entries = some false) :
    searched devices place (entries ++ rest) = searched devices place rest := by
  induction entries with
  | nil => rfl
  | cons first entries ih =>
      rw [searched] at nothing
      rw [List.cons_append, searched]
      cases live : devices first with
      | none => simp [live] at nothing
      | some d =>
          simp only [live] at nothing ⊢
          split at nothing
          · cases nothing
          · next other =>
              rw [if_neg other]
              exact ih nothing

end Searched

/-! ## The states of a search -/

/-- Between two nodes, in a search that started in `s₀` with these entries. -/
structure Tabled (host : Host) (entries : List Ptr) (s₀ s : Library β) : Prop where
  lists : s.openDevices.Lists entries
  devices : ∀ q, s.devices q = s₀.devices q
  later : s₀.devices.next ≤ s.devices.next
  ports : PortsKnown host s

/-- While a device is open for a place that was free. -/
structure Opened (host : Host) (entries : List Ptr) (s₀ : Library β) (p : Ptr)
    (place : Nat × Nat) (s : Library β) : Prop where
  lists : s.openDevices.Lists (entries ++ [p])
  free : searched s₀.devices place entries = some false
  fresh : s₀.devices.next ≤ p
  device : ∃ d, s.devices p = some d ∧ d.port = place.1 ∧ d.node = nodeId place.2
  others : ∀ q ≠ p, s.devices q = s₀.devices q
  later : s₀.devices.next ≤ s.devices.next
  ports : PortsKnown host s

/-- The device was not there before. -/
theorem Opened.not_mem (opened : Opened host entries s₀ p place s) : p ∉ entries := by
  intro member
  obtain ⟨d, live⟩ := alive_of_searched opened.free p member
  exact Nat.not_lt_of_le opened.fresh (Heap.lt_next live)

/-- The place is no longer free. -/
theorem Opened.isOpen? (opened : Opened host entries s₀ p place s) :
    s.isOpen? place = some true := by
  obtain ⟨d, live, port, node⟩ := opened.device
  have same : ∀ q ∈ entries, s.devices q = s₀.devices q := by
    intro q member
    refine opened.others q ?_
    rintro rfl
    exact opened.not_mem member
  rw [isOpen?_of_lists opened.lists, searched_append ((searched_congr same).trans opened.free),
    searched, live]
  exact if_pos ⟨port, node⟩

/-! ## The calls of a search -/

/-- A device that is opened for a free place gets the entry behind the last
one. -/
theorem Tabled.opens (tabled : Tabled host entries s₀ s) (quiet : Quiet host s t)
    (free : s.isOpen? place = some false) {table : OpenDevices}
    (registered : t.openDevices.register s.devices.next = some table)
    (iterators : Heap DeviceIteratorLibraw1394) : Opened host entries s₀ s.devices.next place
      { t.afterNewDevice host place.1 (nodeId place.2) table with iterators } := by
  obtain ⟨⟨n, log, ports, rfl⟩, known⟩ := quiet
  obtain ⟨table', registered', lists⟩ := OpenDevices.register_spec tabled.lists s.devices.next
  obtain rfl := Option.some.inj (registered.symm.trans registered')
  refine ⟨lists, ?_, tabled.later, ⟨_, Heap.alloc_next .., rfl, rfl⟩, ?_, ?_, known⟩
  · rw [← searched_congr fun q _ => tabled.devices q, ← isOpen?_of_lists tabled.lists]
    exact free
  · intro q different
    exact (Heap.alloc_of_ne different).trans (tabled.devices q)
  · exact Nat.le_succ_of_le tabled.later

theorem Tabled.quiet (tabled : Tabled host entries s₀ s) (quiet : Quiet host s t)
    (iterators : Heap DeviceIteratorLibraw1394) :
    Tabled host entries s₀ { t with iterators } := by
  obtain ⟨⟨n, log, ports, rfl⟩, known⟩ := quiet
  exact ⟨tabled.lists, tabled.devices, tabled.later, known⟩

theorem leaves_next_table (few : host.ports ≤ INT_MAX) (tabled : Tabled host entries s₀ s) :
    (next host i s).Leaves
      (fun r s' => (r = none → Tabled host entries s₀ s') ∧
        ∀ p, r = some p → ∃ place, Opened host entries s₀ p place s')
      fun _ _ => False := by
  cases live : s.iterators i with
  | none => simp [next, iterator, live]
  | some it =>
      have scans := nextFrom_scans few tabled.ports (Nat.lt_succ_self (it.remaining host).length)
      rw [next_eq live]
      generalize nextFrom host ((it.remaining host).length + 1) it s = outcome at scans ⊢
      cases scans with
      | @found skipped place it' t table split taken free below quiet registered =>
          rw [Outcome.andThen_returned]
          refine ⟨fun none => absurd none (Option.some_ne_none _), ?_⟩
          rintro p ⟨⟩
          exact ⟨place, tabled.opens quiet free registered _⟩
      | ended taken left quiet =>
          exact ⟨fun _ => tabled.quiet quiet _, fun p found =>
            absurd found.symm (Option.some_ne_none p)⟩
      | overflow last => trivial
      | dangling member unanswered => trivial
      | full unregistered => trivial

/-- The last entry is taken out properly. -/
theorem Opened.deleteDevice (opened : Opened host entries s₀ p place s) :
    ∃ d table, Library.deleteDevice p s = .returned () (s.afterDeleteDevice p d table) ∧
      Tabled host entries s₀ (s.afterDeleteDevice p d table) := by
  obtain ⟨d, live, -⟩ := opened.device
  obtain ⟨table, rest, unregistered, lists, -, -, whole⟩ :=
    OpenDevices.unregister_spec opened.lists p
  refine ⟨d, table, deleteDevice_eq live unregistered, whole opened.not_mem ▸ lists, ?_,
    opened.later, opened.ports⟩
  intro q
  show (s.devices.free p) q = _
  rcases eq_or_ne q p with rfl | different
  · rw [Heap.free_self]
    cases old : s₀.devices q with
    | none => rfl
    | some d => exact absurd (Heap.lt_next old) (Nat.not_lt_of_le opened.fresh)
  · rw [Heap.free_of_ne different, opened.others q different]

theorem leaves_deleteDevice_table (opened : Opened host entries s₀ p place s) :
    (deleteDevice p s).Leaves (fun _ => Tabled host entries s₀) fun _ _ => False := by
  obtain ⟨d, table, deleted, tabled⟩ := opened.deleteDevice
  rw [deleted]
  exact tabled

/-- A method of the device does not touch the table. -/
theorem Opened.method (opened : Opened host entries s₀ p place s)
    {d : FirewireDeviceLibraw1394} (live : s.devices p = some d) (t : DeviceState β) :
    Opened host entries s₀ p place (s.afterMethod p d t) := by
  obtain ⟨d', live', port, node⟩ := opened.device
  obtain rfl := Option.some.inj (live'.symm.trans live)
  refine { opened with
    device := ⟨{ d' with toFirewireDevice := t.device }, ?_, port, node⟩
    others := ?_ }
  · show (s.devices.modify p _) p = _
    rw [Heap.modify_self, live]
    rfl
  · intro q different
    exact (Heap.modify_of_ne _ different).trans (opened.others q different)

theorem leaves_onDevice_table {α : Type} (method : Call Exn (DeviceState β) α)
    (opened : Opened host entries s₀ p place s) :
    (onDevice p method s).Leaves (fun _ => Opened host entries s₀ p place)
      fun _ => Opened host entries s₀ p place := by
  obtain ⟨d, live, -⟩ := opened.device
  rw [onDevice_eq live, Outcome.leaves_mapState]
  cases method ⟨s.bus, d.toFirewireDevice⟩ with
  | returned a t => exact opened.method live t
  | thrown e t => exact opened.method live t
  | undefined => trivial

theorem leaves_deleteIterator_table {I : Library β → Prop} (holds : I s)
    (frame : ∀ iterators, I s → I { s with iterators }) :
    (deleteIterator i s).Leaves (fun _ => I) fun _ _ => False := by
  cases live : s.iterators i with
  | none => simp [deleteIterator, iterator, live]
  | some it =>
      simp only [deleteIterator, Call.bind_apply, iterator_of_live live, Outcome.andThen_returned,
        Call.modify_apply]
      exact frame _ holds

variable [Bus β] {serial : UInt32}

theorem leaves_examine_table (opened : Opened host entries s₀ p place s) :
    (examine host serial i p s).Leaves
      (fun r s' => (r = none → Tabled host entries s₀ s') ∧
        ∀ ph, r = some ph → Opened host entries s₀ p place s' ∧
          s'.phantoms ph = some ⟨p, false, none, none⟩)
      fun _ => Opened host entries s₀ p place := by
  have dropped {s : Library β} (opened : Opened host entries s₀ p place s) :
      ((do deleteDevice p; return none : Call Exn (Library β) (Option Ptr)) s).Leaves
        (fun r s' => (r = none → Tabled host entries s₀ s') ∧
          ∀ ph, r = some ph → Opened host entries s₀ p place s' ∧
            s'.phantoms ph = some ⟨p, false, none, none⟩)
        fun _ => Opened host entries s₀ p place := by
    refine Call.leaves_bind ((leaves_deleteDevice_table opened).imp (fun _ _ kept => kept)
      fun _ _ never => never.elim) ?_
    exact fun _ s' tabled => ⟨fun _ => tabled, fun ph found => nomatch found⟩
  refine Call.leaves_bind (leaves_onDevice_table _ opened) fun sensable s₁ opened₁ => ?_
  refine Call.leaves_ite (fun _ => ?_) fun _ => dropped opened₁
  refine Call.leaves_bind (leaves_onDevice_table _ opened₁) fun deviceSerial s₂ opened₂ => ?_
  refine Call.leaves_ite (fun _ => dropped opened₂) fun _ => ?_
  have left := leaves_deleteIterator_table (i := i) opened₂ fun _ opened => { opened with }
  refine Call.leaves_bind (left.imp (fun _ _ kept => kept) fun _ _ never => never.elim) ?_
  intro _ s₃ opened₃
  refine ⟨fun none => absurd none (Option.some_ne_none _), ?_⟩
  rintro ph ⟨⟩
  exact ⟨{ opened₃ with }, Heap.alloc_next ..⟩

/-- Where a search ends: with the table it started with, or with one more entry
at its end.  The new one is the device of the Phantom that is returned, or, if
the search throws, a device nobody has. -/
theorem leaves_findPhantom_table (few : host.ports ≤ INT_MAX) (known : PortsKnown host s)
    (lists : s.openDevices.Lists entries) :
    (findPhantom host serial s).Leaves
      (fun r s' => (r = none → Tabled host entries s s') ∧
        ∀ ph, r = some ph → ∃ p place, Opened host entries s p place s' ∧
          s'.phantoms ph = some ⟨p, false, none, none⟩)
      fun _ s' => ∃ p place, Opened host entries s p place s' := by
  obtain ⟨t, it, created, ⟨⟨n, log, ports, rfl⟩, known'⟩, -⟩ := createInstance_spec known
  rw [findPhantom, Call.bind_apply, created, Outcome.andThen_returned, Call.bind_apply,
    iterator_of_live (Heap.alloc_next ..), Outcome.andThen_returned]
  refine leaves_findPhantomFrom (I := Tabled host entries s)
    (J := fun p s' => ∃ place, Opened host entries s p place s') ?_ ?_ _
    ⟨lists, fun _ => rfl, Nat.le_refl _, known'⟩
  · intro s₁ tabled
    refine (leaves_next_table few tabled).imp ?_ fun _ _ never => never.elim
    rintro r s₂ ⟨ended, found⟩
    refine ⟨found, fun none => ?_⟩
    have left := leaves_deleteIterator_table (i := s.iterators.next) (ended none)
      fun _ tabled => { tabled with }
    refine left.imp (fun _ s₃ tabled => ⟨fun _ => tabled, fun ph found => nomatch found⟩) ?_
    exact fun _ _ never => never.elim
  · rintro p s₁ ⟨place, opened⟩
    refine (leaves_examine_table opened).imp ?_ fun _ _ opened => ⟨p, place, opened⟩
    rintro r s₂ ⟨dropped, taken⟩
    refine ⟨?_, dropped⟩
    intro ph found
    refine ⟨fun none => absurd none (Option.some_ne_none ph), ?_⟩
    rintro ph' ⟨⟩
    exact ⟨p, place, taken ph found⟩

/-! ## Searches that throw -/

/-- The same devices are open. -/
def SameOpenDevices (s s' : Library β) : Prop :=
  ∃ entries entries', s.openDevices.Lists entries ∧ s'.openDevices.Lists entries' ∧
    ∀ p, p ∈ entries ↔ p ∈ entries'

/-- A search that throws leaves a device open for a place that was free. -/
theorem opened_of_thrown (few : host.ports ≤ INT_MAX) (known : PortsKnown host s)
    (lists : s.openDevices.Lists entries) {e : Exn}
    (thrown : findPhantom host serial s = .thrown e s') :
    ∃ p place, Opened host entries s p place s' := by
  have left : (findPhantom host serial s).Leaves _ _ :=
    leaves_findPhantom_table few known lists
  rwa [thrown] at left

omit [Bus β] in
theorem Opened.not_sameOpenDevices (opened : Opened host entries s p place s')
    (lists : s.openDevices.Lists entries) : ¬SameOpenDevices s s' := by
  rintro ⟨before, after, listsBefore, listsAfter, same⟩
  rw [listsBefore.unique lists, listsAfter.unique opened.lists] at same
  exact opened.not_mem ((same p).mpr (List.mem_append_right _ List.mem_cons_self))

/-- **A search that throws.**  Whatever read fails in whatever search: if the
exception leaves `findPhantom`, the set of open devices is another one, and a
node that could be found before the search cannot be found any more. -/
theorem unavailable_of_thrown (few : host.ports ≤ INT_MAX) (known : PortsKnown host s)
    (lists : s.openDevices.Lists entries) {e : Exn}
    (thrown : findPhantom host serial s = .thrown e s') :
    ¬SameOpenDevices s s' ∧
      ∃ place, s.isOpen? place = some false ∧ s'.isOpen? place = some true := by
  obtain ⟨p, place, opened⟩ := opened_of_thrown few known lists thrown
  refine ⟨opened.not_sameOpenDevices lists, place, ?_, opened.isOpen?⟩
  exact (isOpen?_of_lists lists place).trans opened.free

end Library

/-- The nodes hold nothing, and the first transaction fails. -/
def failing : MemoryBus := ⟨fun _ _ _ => 0, [some 110]⟩

/-- The first read of the first node fails. -/
theorem findPhantom_failing : ∃ e s',
    Library.findPhantom twoNodes 0 (Library.initial failing) = .thrown e s' := ⟨_, _, rfl⟩

theorem unavailable_of_thrown_once : ∃ s',
    ¬Library.SameOpenDevices (Library.initial failing) s' ∧
      ∃ place, (Library.initial failing).isOpen? place = some false ∧
        s'.isOpen? place = some true := by
  obtain ⟨e, s', thrown⟩ := findPhantom_failing
  refine ⟨s', Library.unavailable_of_thrown (by decide) ?_ OpenDevices.lists_initial thrown⟩
  exact fun n known => absurd known (Option.some_ne_none n).symm

/-- The device for the first node stays open. -/
theorem failed_search_leaks :
    ¬∀ (host : Host) (memory : Memory) (faults : List (Option Errno)) (serial : UInt32) (e : Exn)
      (s' : Library MemoryBus),
      Library.findPhantom host serial (Library.initial ⟨memory, faults⟩) = .thrown e s' →
        Library.SameOpenDevices (Library.initial ⟨memory, faults⟩) s' := by
  intro claim
  obtain ⟨e, s', thrown⟩ := findPhantom_failing
  have same := claim twoNodes failing.memory failing.faults 0 e s' thrown
  have known : Library.PortsKnown twoNodes (Library.initial failing) :=
    fun n known => absurd known (Option.some_ne_none n).symm
  obtain ⟨p, place, opened⟩ :=
    Library.opened_of_thrown (by decide) known OpenDevices.lists_initial thrown
  exact opened.not_sameOpenDevices OpenDevices.lists_initial same

end LibPhantom
