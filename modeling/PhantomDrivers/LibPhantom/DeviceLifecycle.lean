import PhantomDrivers.LibPhantom.Library
import PhantomDrivers.Semantics.Runs

/-!
# Constructions and destructions of devices

Devices are constructed and destroyed in any order.  The table of open devices
should always name exactly the live ones, since `deviceIsOpen` answers from it.

The destructor decrements the counter before its two loops, so neither of them
looks at the last entry: destroying any other object drops the last entry in
its place.  The table is right exactly as long as only the newest device is
ever destroyed (`always_registered_iff`).  It counts in natural numbers here, as
the counters of the code do up to 4294967294 devices (`OpenDeviceCounters`).

* `lifecycles` — the runs; every construction and every destruction of a live
  object is possible.
* `Registered` — what the table should say.
* `Newest` — the condition.
-/

namespace LibPhantom

open Semantics Raw1394

/-- What can happen to devices. -/
inductive DeviceAction where
  | construct (port : Nat) (node : UInt16)
  | destroy (p : Ptr)

variable {β : Type}

/-- The runs of constructions and destructions; an object is destroyed only
while it is alive. -/
def lifecycles (host : Host) : System (Library β) DeviceAction where
  step s
    | .construct port node => (Library.newDevice host port node s).state?
    | .destroy p => if (s.devices p).isSome then (Library.deleteDevice p s).state? else none

/-- The table names exactly the live devices, each once, and `deviceIsOpen`
finds exactly them. -/
structure Registered (s : Library β) : Prop where
  exact_entries : ∃ entries, s.openDevices.Lists entries ∧ entries.Nodup ∧
    ∀ p, p ∈ entries ↔ ∃ d, s.devices p = some d
  deviceIsOpen : ∀ port node, ∃ found, Library.deviceIsOpen port node s = .returned found s ∧
    (found = true ↔ ∃ p d, s.devices p = some d ∧ d.port = port ∧ d.node = node)

/-- Only the newest device is destroyed. -/
def Newest (s : Library β) : DeviceAction → Prop
  | .construct _ _ => True
  | .destroy p => ∀ q d, s.devices q = some d → q ≤ p

variable {host : Host} {s s' : Library β}

/-! ## Whatever is destroyed -/

/-- The table has as many entries as there are live devices.  This survives
every destruction, and it is what keeps all accesses to the table inside the
allocated memory. -/
def Counted (s : Library β) : Prop :=
  ∃ entries, s.openDevices.Lists entries ∧ entries.length = s.devices.live.length

theorem counted_initial (bus : β) : Counted (Library.initial bus) :=
  ⟨[], OpenDevices.lists_initial, rfl⟩

theorem Counted.newDevice (counted : Counted s) (host : Host) (port : Nat) (node : UInt16) :
    ∃ table, Library.newDevice host port node s =
        .returned s.devices.next (s.afterNewDevice host port node table) ∧
      Counted (s.afterNewDevice host port node table) := by
  obtain ⟨entries, lists, length⟩ := counted
  obtain ⟨table, registered, lists'⟩ := OpenDevices.register_spec lists s.devices.next
  refine ⟨table, Library.newDevice_eq registered, _, lists', ?_⟩
  show _ = (s.devices.alloc _).live.length
  rw [Heap.live_alloc, List.length_append, List.length_append, length, List.length_singleton]

theorem Counted.deleteDevice (counted : Counted s) {p : Nat} {d : FirewireDeviceLibraw1394}
    (alive : s.devices p = some d) :
    ∃ table, Library.deleteDevice p s = .returned () (s.afterDeleteDevice p d table) ∧
      Counted (s.afterDeleteDevice p d table) := by
  obtain ⟨entries, lists, length⟩ := counted
  have shorter := Heap.length_live_free alive
  rcases List.eq_nil_or_concat' entries with rfl | ⟨front, last, rfl⟩
  · rw [List.length_nil] at length
    omega
  obtain ⟨table, rest, unregistered, lists', length', -⟩ := OpenDevices.unregister_spec lists p
  refine ⟨table, Library.deleteDevice_eq alive unregistered, rest, lists', ?_⟩
  rw [List.length_append, List.length_singleton] at length
  show _ = (s.devices.free p).live.length
  omega

/-! ## In order -/

/-- The table lists the live devices in the order of their construction. -/
def InOrder (s : Library β) : Prop := s.openDevices.Lists s.devices.live

/-- A table lists one list of entries only. -/
theorem OpenDevices.Lists.unique {table : OpenDevices} {entries entries' : List Ptr}
    (lists : table.Lists entries) (lists' : table.Lists entries') : entries = entries' := by
  have length : entries.length = entries'.length := lists.number.symm.trans lists'.number
  refine List.ext_getElem? fun i => ?_
  by_cases inside : i < entries.length
  · exact Option.some.inj ((lists.entry i inside).symm.trans (lists'.entry i (length ▸ inside)))
  · rw [List.getElem?_eq_none (by omega), List.getElem?_eq_none (by omega)]

theorem InOrder.registered (inOrder : InOrder s) : Registered s := by
  have alive : ∀ q ∈ s.devices.live, ∃ d, s.devices q = some d := fun q => Heap.mem_live.mp
  refine ⟨⟨_, inOrder, s.devices.live_nodup, fun p => Heap.mem_live⟩, ?_⟩
  intro port node
  obtain ⟨found, searched, spec⟩ := Library.deviceIsOpen_spec inOrder alive
  refine ⟨found, searched, spec.trans ?_⟩
  constructor
  · rintro ⟨q, -, d, live, same⟩
    exact ⟨q, d, live, same⟩
  · rintro ⟨q, d, live, same⟩
    exact ⟨q, Heap.mem_live.mpr ⟨d, live⟩, d, live, same⟩

theorem inOrder_initial (bus : β) : InOrder (Library.initial bus) := OpenDevices.lists_initial

/-- A construction keeps the order. -/
theorem InOrder.construct (inOrder : InOrder s) (host : Host) (port : Nat) (node : UInt16) :
    ∃ table, Library.newDevice host port node s =
        .returned s.devices.next (s.afterNewDevice host port node table) ∧
      InOrder (s.afterNewDevice host port node table) := by
  obtain ⟨table, registered, lists⟩ := OpenDevices.register_spec inOrder s.devices.next
  refine ⟨table, Library.newDevice_eq registered, ?_⟩
  show table.Lists (s.devices.alloc _).live
  rwa [Heap.live_alloc]

/-- The last of the live devices is the newest one. -/
theorem live_eq_append {p : Nat} {d : FirewireDeviceLibraw1394} (alive : s.devices p = some d) :
    ∃ front last, s.devices.live = front ++ [last] ∧ last ∉ front ∧
      (∃ d, s.devices last = some d) ∧ ∀ q d, s.devices q = some d → q ≤ last := by
  have member : p ∈ s.devices.live := Heap.mem_live.mpr ⟨d, alive⟩
  rcases List.eq_nil_or_concat' s.devices.live with empty | ⟨front, last, split⟩
  · rw [empty] at member
    cases member
  have sorted := s.devices.live_pairwise
  rw [split, List.pairwise_append] at sorted
  refine ⟨front, last, split, ?_, ?_, ?_⟩
  · intro inside
    exact Nat.lt_irrefl _ (sorted.2.2 last inside last (List.mem_singleton_self last))
  · exact Heap.mem_live.mp (split ▸ List.mem_append_right _ (List.mem_singleton_self last))
  · intro q d live
    have member : q ∈ front ++ [last] := split ▸ Heap.mem_live.mpr ⟨d, live⟩
    rcases List.mem_append.mp member with inside | isLast
    · exact Nat.le_of_lt (sorted.2.2 q inside last (List.mem_singleton_self last))
    · exact Nat.le_of_eq (List.mem_singleton.mp isLast)

/-- Destroying the newest device keeps the order. -/
theorem InOrder.destroy (inOrder : InOrder s) {p : Nat} {d : FirewireDeviceLibraw1394}
    (alive : s.devices p = some d) (newest : ∀ q d, s.devices q = some d → q ≤ p) :
    ∃ table, Library.deleteDevice p s = .returned () (s.afterDeleteDevice p d table) ∧
      InOrder (s.afterDeleteDevice p d table) := by
  obtain ⟨front, last, split, fresh, ⟨d', lastAlive⟩, latest⟩ := live_eq_append alive
  obtain rfl : last = p := Nat.le_antisymm (newest last d' lastAlive) (latest p d alive)
  have lists : s.openDevices.Lists (front ++ [last]) := split ▸ inOrder
  obtain ⟨table, rest, unregistered, listsRest, -, -, whole⟩ :=
    OpenDevices.unregister_spec lists last
  refine ⟨table, Library.deleteDevice_eq alive unregistered, ?_⟩
  show table.Lists (s.devices.free last).live
  have kept : front.filter (· != last) = front := by
    refine List.filter_eq_self.mpr fun q member => ?_
    rw [bne_iff_ne]
    rintro rfl
    exact fresh member
  rw [Heap.live_free, split, List.filter_append, kept, List.filter_singleton, bne_self_eq_false,
    ← whole fresh]
  simpa using listsRest

/-- Destroying another device drops the newest one from the table. -/
theorem InOrder.destroy_other (inOrder : InOrder s) {p q : Nat} {d d' : FirewireDeviceLibraw1394}
    (alive : s.devices p = some d) (alive' : s.devices q = some d') (later : p < q)
    (stepped : (Library.deleteDevice p s).state? = some s') : ¬Registered s' := by
  obtain ⟨front, last, split, fresh, ⟨d'', lastAlive⟩, latest⟩ := live_eq_append alive
  have lists : s.openDevices.Lists (front ++ [last]) := split ▸ inOrder
  obtain ⟨table, rest, unregistered, listsRest, -, fromFront, -⟩ :=
    OpenDevices.unregister_spec lists p
  rw [Library.deleteDevice_eq alive unregistered] at stepped
  obtain rfl := Option.some.inj stepped
  intro registered
  obtain ⟨entries, lists', -, exactly⟩ := registered.exact_entries
  obtain rfl : entries = rest := lists'.unique listsRest
  have different : last ≠ p := by
    rintro rfl
    exact Nat.lt_irrefl _ (Nat.lt_of_lt_of_le later (latest q d' alive'))
  have stillAlive : ∃ d, (s.devices.free p) last = some d :=
    ⟨d'', Heap.free_eq_some.mpr ⟨different, lastAlive⟩⟩
  exact fresh (fromFront ((exactly last).mpr stillAlive))

/-- **The table of open devices.**  In every run of constructions and
destructions, the table names exactly the live devices and `deviceIsOpen`
answers accordingly in every state, if and only if every destroyed device is
the newest one at that time. -/
theorem always_registered_iff (host : Host) (bus : β) (actions : List DeviceAction)
    (s' : Library β) (reached : (lifecycles host).run (Library.initial bus) actions = some s') :
    (lifecycles host).Always Registered (Library.initial bus) actions ↔
      (lifecycles host).StepsMeet Newest (Library.initial bus) actions := by
  refine System.always_iff_stepsMeet (inOrder_initial bus) (fun _ => InOrder.registered) ?_ ?_
    reached
  · intro s a s' inOrder newest stepped
    cases a with
    | construct port node =>
        obtain ⟨table, constructed, inOrder'⟩ := inOrder.construct host port node
        simp only [lifecycles, constructed, Outcome.state?_returned, Option.some.injEq] at stepped
        exact stepped ▸ inOrder'
    | destroy p =>
        simp only [lifecycles] at stepped
        split at stepped
        · next live =>
            obtain ⟨d, alive⟩ := Option.isSome_iff_exists.mp live
            obtain ⟨table, destroyed, inOrder'⟩ := inOrder.destroy alive newest
            rw [destroyed] at stepped
            exact Option.some.inj stepped ▸ inOrder'
        · cases stepped
  · intro s a s' inOrder unmet stepped
    cases a with
    | construct port node => exact absurd trivial unmet
    | destroy p =>
        simp only [lifecycles] at stepped
        split at stepped
        · next live =>
            obtain ⟨d, alive⟩ := Option.isSome_iff_exists.mp live
            simp only [Newest, not_forall, Nat.not_le] at unmet
            obtain ⟨q, d', alive', later⟩ := unmet
            exact inOrder.destroy_other alive alive' later stepped
        · cases stepped

/-- A machine with one port and two nodes. -/
def twoNodes : Host := ⟨.little, 1, fun _ => 2, fun _ => 0xffc1⟩

/-- Two devices, destroyed in the reverse order. -/
theorem always_registered_reverse :
    (lifecycles twoNodes).Always Registered (Library.initial ())
      [.construct 0 0xffc0, .construct 0 0xffc1, .destroy 1, .destroy 0] := by
  refine (always_registered_iff twoNodes () _ _ rfl).mpr ?_
  refine ⟨trivial, ?_⟩
  rintro s₁ ⟨⟩
  refine ⟨trivial, ?_⟩
  rintro s₂ ⟨⟩
  refine ⟨?_, ?_⟩
  · intro q d alive
    exact Nat.le_of_lt_succ (Heap.lt_next alive)
  · rintro s₃ ⟨⟩
    refine ⟨?_, fun _ _ => trivial⟩
    intro q d alive
    rcases Nat.lt_or_ge q 1 with first | later
    · exact Nat.le_of_lt_succ first
    · obtain rfl : q = 1 := Nat.le_antisymm (Nat.le_of_lt_succ (Heap.lt_next alive)) later
      cases alive

/-- Two devices, and the older one is destroyed first: the table still lists
it, and no longer lists the other one. -/
theorem older_destroyed_first :
    ¬∀ (host : Host) (bus : Unit) (actions : List DeviceAction) (s' : Library Unit),
      (lifecycles host).run (Library.initial bus) actions = some s' →
        (lifecycles host).Always Registered (Library.initial bus) actions := by
  intro claim
  have always := claim twoNodes ()
    [.construct 0 0xffc0, .construct 0 0xffc1, .destroy 0] _ rfl
  have registered := ((always.2 _ rfl).2 _ rfl).2 _ rfl
  obtain ⟨entries, lists, -, exactly⟩ := registered.exact_entries
  have listed : 1 ∈ entries := (exactly 1).mpr ⟨_, rfl⟩
  obtain ⟨entry, rfl⟩ := List.length_eq_one_iff.mp lists.number.symm
  have older : some (some 0) = some [entry][0]? := lists.entry 0 (by simp)
  obtain rfl : 0 = entry := Option.some.inj (Option.some.inj older)
  cases List.mem_singleton.mp listed

end LibPhantom
