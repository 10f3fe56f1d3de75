import PhantomDrivers.LibPhantom.IteratorWalk
import PhantomDrivers.LibPhantom.SearchTable
import PhantomDrivers.LibPhantom.SensableDevices
import PhantomDrivers.Semantics.OrderedSearch

/-!
# Which Phantom is found

`findPhantom` looks at the nodes that are not open in the order of their ports
and numbers.  It should return a Phantom on the first one that is suitable, and
`NULL` if there is none.

The library parses the configuration ROM of every node on the way, whoever made
it, and a textual leaf that is too short makes the parse ask for almost 2^32
bytes.  So the search succeeds exactly if no node before the first suitable one,
nor this one itself, has such a leaf (`findsFirst_iff`).

* `Suits`, `Wanted` — the nodes that are looked for.
* `FindsFirst` — what a search should do.
* `LeavesFit` — the condition.
* `Candidate`, `Examines`, `Opens` — what the two calls of a round do.
* `SearchEnds` — what the end of a search through the places means for the
  state.
-/

namespace LibPhantom

open Semantics Raw1394

/-! ## Methods on any bus -/

namespace FirewireDevice

variable {β : Type} [Bus β] [ServesMemory β] {host : Endian} {com : CommunicationLibraw1394}
  {device : FirewireDevice} {memory : Memory} {b : β}

theorem of_calmed {t : DeviceState β} (same : calmed t = onMemory memory device) :
    ServesMemory.contents t.bus = memory ∧ t.device = device :=
  ⟨congrArg (fun s => s.bus.memory) same, congrArg DeviceState.device same⟩

/-- A call that is seen to return on a bus without faults returns. -/
theorem returned_of_calmed {α : Type} {outcome : Outcome Exn (DeviceState β) α} {a : α}
    (same : .returned a (onMemory memory device) = outcome.mapState calmed) :
    ∃ t, outcome = .returned a t ∧ ServesMemory.contents t.bus = memory ∧ t.device = device := by
  cases outcome with
  | returned a' t =>
      rw [Outcome.mapState_returned] at same
      obtain ⟨rfl, left⟩ := Outcome.returned.inj same
      exact ⟨t, rfl, of_calmed left.symm⟩
  | thrown e t => cases same
  | undefined => cases same

/-- How `isSensableDevice` ends on a new object, whatever faults there are. -/
theorem isSensableDevice_cases (host : Endian) (com : CommunicationLibraw1394) (b : β) :
    (∃ e t, isSensableDevice host (⟨b, .new com⟩ : DeviceState β) = .thrown e t) ∨
      ((romImage (ServesMemory.contents b) com).LeafFitsOn host ∧ ∃ found t,
        isSensableDevice host (⟨b, .new com⟩ : DeviceState β) = .returned found t ∧
          ServesMemory.contents t.bus = ServesMemory.contents b ∧ t.device.com = com ∧
          (found = true ↔ IsSensable host (ServesMemory.contents b) com.handle.port com.node)) ∨
      (¬(romImage (ServesMemory.contents b) com).LeafFitsOn host ∧
        isSensableDevice host (⟨b, .new com⟩ : DeviceState β) = .undefined) := by
  rcases simulatesOrThrows_isSensableDevice host (⟨b, .new com⟩ : DeviceState β) with
    thrown | same
  · exact .inl thrown
  refine .inr ?_
  have calm : calmed (⟨b, .new com⟩ : DeviceState β) =
      onMemory (ServesMemory.contents b) (.new com) := rfl
  rw [calm] at same
  by_cases fits : (romImage (ServesMemory.contents b) com).LeafFitsOn host
  · have decides : ∃ found device', isSensableDevice host
        (onMemory (ServesMemory.contents b) (.new com)) =
          .returned found (onMemory (ServesMemory.contents b) device') ∧ device'.com = com ∧
        (found = true ↔ IsSensable host (ServesMemory.contents b) com.handle.port com.node) :=
      isSensableDevice_eq rfl rfl fits
    obtain ⟨found, device', answered, sameCom, spec⟩ := decides
    obtain ⟨t, returned, contents, device⟩ := returned_of_calmed (answered.symm.trans same)
    exact .inl ⟨fits, found, t, returned, contents, device ▸ sameCom, spec⟩
  · refine .inr ⟨fits, ?_⟩
    have undefined : isSensableDevice host (onMemory (ServesMemory.contents b) (.new com)) =
        .undefined := isSensableDevice_undefined rfl fits
    rw [undefined] at same
    cases outcome : isSensableDevice host (⟨b, .new com⟩ : DeviceState β) with
    | returned a t =>
        rw [outcome] at same
        cases same
    | thrown e t =>
        rw [outcome] at same
        cases same
    | undefined => rfl

/-- How a read of a quadlet ends. -/
theorem readQuadlet_cases (host : Endian) (address : UInt64) (s : DeviceState β) :
    (∃ e t, readQuadlet host address s = .thrown e t) ∨
      ∃ t, readQuadlet host address s = .returned
          (seenAt host (ServesMemory.contents s.bus) s.device.com.handle.port s.device.com.node
            address) t ∧
        ServesMemory.contents t.bus = ServesMemory.contents s.bus ∧ t.device = s.device := by
  rcases simulatesOrThrows_readQuadlet host address s with thrown | same
  · exact .inl thrown
  · have calm : calmed s = onMemory (ServesMemory.contents s.bus) s.device := rfl
    rw [calm, readQuadlet_onMemory] at same
    exact .inr (returned_of_calmed same)

end FirewireDevice

/-! ## What is looked for -/

/-- By its memory, the node at a place is a Phantom with this serial number, or
any Phantom. -/
structure Suits (host : Host) (serial : UInt32) (memory : Memory) (place : Nat × Nat) : Prop where
  sensable : IsSensable host.endian memory place.1 (nodeId place.2)
  serial : serial ≠ 0 →
    seenAt host.endian memory place.1 (nodeId place.2) 0x10060010 = serial

/-- The node at a place has no textual leaf that is too short. -/
def LeafFitsAt (host : Host) (memory : Memory) (place : Nat × Nat) : Prop :=
  RomImage.LeafFitsOn (memory.block place.1 (nodeId place.2) CONFIG_ROM_ADDR) host.endian

namespace Library

variable {β : Type} [Bus β] [ServesMemory β] {host : Host} {serial : UInt32} {s₀ s s' : Library β}
  {entries : List Ptr} {i p ph : Ptr} {it it' : DeviceIteratorLibraw1394} {place : Nat × Nat}

/-! ## One candidate -/

/-- `next` has just opened the device `p` for a place. -/
structure Offered (host : Host) (entries : List Ptr) (s₀ : Library β) (i : Ptr)
    (it : DeviceIteratorLibraw1394) (p : Ptr) (place : Nat × Nat) (s : Library β) : Prop where
  opened : Opened host entries s₀ p place s
  device : ∃ d com, s.devices p = some d ∧ d.toFirewireDevice = .new com ∧
    com.handle.port = place.1 ∧ com.node = nodeId place.2
  live : s.iterators i = some it
  contents : ServesMemory.contents s.bus = ServesMemory.contents s₀.bus

/-- How the examination of a candidate ends. -/
inductive Examines (host : Host) (serial : UInt32) (entries : List Ptr) (s₀ : Library β) (i : Ptr)
    (it : DeviceIteratorLibraw1394) (p : Ptr) (place : Nat × Nat) :
    Outcome Exn (Library β) (Option Ptr) → Prop
  | thrown {e : Exn} {s' : Library β} : Examines host serial entries s₀ i it p place (.thrown e s')
  | short (unfit : ¬LeafFitsAt host (ServesMemory.contents s₀.bus) place) :
      Examines host serial entries s₀ i it p place .undefined
  | dropped {s' : Library β} (fits : LeafFitsAt host (ServesMemory.contents s₀.bus) place)
      (unsuited : ¬Suits host serial (ServesMemory.contents s₀.bus) place)
      (tabled : Tabled host entries s₀ s') (live : s'.iterators i = some it)
      (contents : ServesMemory.contents s'.bus = ServesMemory.contents s₀.bus) :
      Examines host serial entries s₀ i it p place (.returned none s')
  | taken {ph : Ptr} {s' : Library β}
      (fits : LeafFitsAt host (ServesMemory.contents s₀.bus) place)
      (suits : Suits host serial (ServesMemory.contents s₀.bus) place)
      (opened : Opened host entries s₀ p place s')
      (phantom : s'.phantoms ph = some ⟨p, false, none, none⟩) :
      Examines host serial entries s₀ i it p place (.returned (some ph) s')

theorem examine_drop (opened : Opened host entries s₀ p place s) (live : s.iterators i = some it)
    (contents : ServesMemory.contents s.bus = ServesMemory.contents s₀.bus)
    (fits : LeafFitsAt host (ServesMemory.contents s₀.bus) place)
    (unsuited : ¬Suits host serial (ServesMemory.contents s₀.bus) place) :
    Examines host serial entries s₀ i it p place
      ((do deleteDevice p; return none : Call Exn (Library β) (Option Ptr)) s) := by
  obtain ⟨d, table, deleted, tabled⟩ := opened.deleteDevice
  rw [Call.bind_apply, deleted]
  exact .dropped fits unsuited tabled live contents

theorem examine_take (opened : Opened host entries s₀ p place s) (live : s.iterators i = some it)
    (fits : LeafFitsAt host (ServesMemory.contents s₀.bus) place)
    (suits : Suits host serial (ServesMemory.contents s₀.bus) place) :
    Examines host serial entries s₀ i it p place
      ((do deleteIterator i; let phantom ← newPhantom p; return some phantom :
        Call Exn (Library β) (Option Ptr)) s) := by
  rw [Call.bind_apply, deleteIterator, Call.bind_apply, iterator_of_live live,
    Outcome.andThen_returned, Call.modify_apply, Outcome.andThen_returned]
  exact .taken fits suits { opened with } (Heap.alloc_next ..)

/-- The device becomes a Phantom if its node suits; otherwise it is deleted. -/
theorem examine_spec (offered : Offered host entries s₀ i it p place s) :
    Examines host serial entries s₀ i it p place (examine host serial i p s) := by
  obtain ⟨opened, ⟨d, com, liveDevice, new, port, node⟩, live, contents⟩ := offered
  have image : romImage (ServesMemory.contents s.bus) com =
      (ServesMemory.contents s₀.bus).block place.1 (nodeId place.2) CONFIG_ROM_ADDR := by
    rw [romImage, contents, port, node]
  rw [examine, Call.bind_apply, onDevice_eq liveDevice, new]
  rcases FirewireDevice.isSensableDevice_cases host.endian com s.bus with
    ⟨e, t, thrown⟩ | ⟨fits, found, t, returned, contents₁, sameCom, spec⟩ | ⟨unfit, undefined⟩
  · rw [thrown]
    exact .thrown
  · rw [image] at fits
    rw [contents, port, node] at spec
    rw [returned, Outcome.mapState_returned, Outcome.andThen_returned, Call.ite_apply]
    have opened₁ := opened.method liveDevice t
    have contents₁ := contents₁.trans contents
    cases found with
    | false =>
        rw [if_neg Bool.false_ne_true]
        refine examine_drop opened₁ live contents₁ fits fun suits => ?_
        exact Bool.false_ne_true (spec.mpr suits.sensable)
    | true =>
        have sensable := spec.mp rfl
        have liveDevice₁ : (s.afterMethod p d t).devices p =
            some { d with toFirewireDevice := t.device } := by
          show (s.devices.modify p _) p = _
          rw [Heap.modify_self, liveDevice]
          rfl
        rw [if_pos rfl, Call.bind_apply, readDeviceSerial, onDevice_eq liveDevice₁]
        rcases FirewireDevice.readQuadlet_cases host.endian 0x10060010
            (⟨(s.afterMethod p d t).bus, t.device⟩ : DeviceState β) with
          ⟨e, t₂, thrown⟩ | ⟨t₂, returned₂, contents₂, -⟩
        · rw [thrown]
          exact .thrown
        · have seen : seenAt host.endian (ServesMemory.contents t.bus) t.device.com.handle.port
              t.device.com.node 0x10060010 = seenAt host.endian (ServesMemory.contents s₀.bus)
                place.1 (nodeId place.2) 0x10060010 := by
            rw [contents₁, sameCom, port, node]
          rw [returned₂, Outcome.mapState_returned, Outcome.andThen_returned, Call.ite_apply]
          have opened₂ := opened₁.method liveDevice₁ t₂
          have contents₂ := contents₂.trans contents₁
          split
          · next other =>
              refine examine_drop opened₂ live contents₂ fits fun suits => ?_
              exact other.2 (seen.trans (suits.serial other.1)).symm
          · next same =>
              refine examine_take opened₂ live fits ⟨sensable, fun asked => ?_⟩
              by_contra different
              exact same ⟨asked, fun equal => different (seen.symm.trans equal.symm)⟩
  · rw [undefined]
    refine .short ?_
    rw [LeafFitsAt, ← image]
    exact unfit

/-! ## The next candidate -/

/-- The state between two rounds. -/
structure Between (host : Host) (entries : List Ptr) (s₀ : Library β) (i : Ptr)
    (it : DeviceIteratorLibraw1394) (s : Library β) : Prop where
  tabled : Tabled host entries s₀ s
  live : s.iterators i = some it
  inside : it.port ≠ INT_MAX
  contents : ServesMemory.contents s.bus = ServesMemory.contents s₀.bus

/-- How `next` ends in a search: with a candidate for the first place that is
free, or behind the last place. -/
inductive Opens (host : Host) (entries : List Ptr) (s₀ : Library β) (i : Ptr)
    (it : DeviceIteratorLibraw1394) : Outcome Exn (Library β) (Option Ptr) → Prop
  | offered {p : Ptr} {skipped : List (Nat × Nat)} {place : Nat × Nat}
      {it' : DeviceIteratorLibraw1394} {s' : Library β}
      (split : it.remaining host = skipped ++ place :: it'.remaining host)
      (taken : ∀ q ∈ skipped, s₀.isOpen? q = some true)
      (free : s₀.isOpen? place = some false)
      (inside : it'.port ≠ INT_MAX)
      (offered : Offered host entries s₀ i it' p place s') :
      Opens host entries s₀ i it (.returned (some p) s')
  | ended {it' : DeviceIteratorLibraw1394} {s' : Library β}
      (taken : ∀ q ∈ it.remaining host, s₀.isOpen? q = some true)
      (tabled : Tabled host entries s₀ s')
      (live : s'.iterators i = some it') :
      Opens host entries s₀ i it (.returned none s')

variable (lists : s₀.openDevices.Lists entries) (answered : ∀ q, s₀.isOpen? q ≠ none)

omit [Bus β] [ServesMemory β] in
include lists in
/-- Between two rounds the same places are open as before the search. -/
theorem Tabled.isOpen? (tabled : Tabled host entries s₀ s) (q : Nat × Nat) :
    s.isOpen? q = s₀.isOpen? q := by
  rw [isOpen?_of_lists tabled.lists, isOpen?_of_lists lists]
  exact searched_congr fun r _ => tabled.devices r

include lists answered in
theorem next_opens (few : host.ports ≤ INT_MAX) (between : Between host entries s₀ i it s) :
    Opens host entries s₀ i it (next host i s) := by
  obtain ⟨tabled, live, inside, contents⟩ := between
  have same := tabled.isOpen? lists
  have stored (it' : DeviceIteratorLibraw1394) :
      (s.iterators.modify i fun _ => it') i = some it' := by
    rw [Heap.modify_self, live]
    rfl
  have scans := nextFrom_scans few tabled.ports (Nat.lt_succ_self (it.remaining host).length)
  rw [next_eq live]
  generalize nextFrom host ((it.remaining host).length + 1) it s = outcome at scans ⊢
  cases scans with
  | @found skipped place it' t table split taken free below quiet registered =>
      have opened := tabled.opens quiet free registered (t.iterators.modify i fun _ => it')
      obtain ⟨⟨n, log, ports, rfl⟩, known⟩ := quiet
      refine .offered split (fun q member => same q ▸ taken q member) (same place ▸ free)
        (fun last => inside (below last)) ⟨opened, ?_, stored it', contents⟩
      exact ⟨_, _, Heap.alloc_next .., rfl, rfl, rfl⟩
  | @ended it' t taken left quiet =>
      have tabled' := tabled.quiet quiet (t.iterators.modify i fun _ => it')
      obtain ⟨⟨n, log, ports, rfl⟩, known⟩ := quiet
      exact .ended (fun q member => same q ▸ taken q member) tabled' (stored it')
  | overflow last => exact absurd last inside
  | dangling member unanswered => exact absurd ((same _).symm.trans unanswered) (answered _)
  | full unregistered =>
      obtain ⟨table, registered, -⟩ := OpenDevices.register_spec tabled.lists s.devices.next
      exact absurd (unregistered.symm.trans registered) (Option.some_ne_none _).symm

/-! ## The whole search -/

/-- The end of a search through the places, and the state it leaves behind. -/
inductive SearchEnds (host : Host) (entries : List Ptr) (s₀ : Library β) :
    SearchEnd (Nat × Nat) → Outcome Exn (Library β) (Option Ptr) → Prop
  | found {p ph : Ptr} {place : Nat × Nat} {s' : Library β}
      (opened : Opened host entries s₀ p place s')
      (phantom : s'.phantoms ph = some ⟨p, false, none, none⟩) :
      SearchEnds host entries s₀ (.found place) (.returned (some ph) s')
  | exhausted {s' : Library β} (tabled : Tabled host entries s₀ s') :
      SearchEnds host entries s₀ .exhausted (.returned none s')
  | stuck : SearchEnds host entries s₀ .stuck .undefined

/-- A place that is open, or whose textual leaf fits, is examined. -/
def Examinable (host : Host) (s₀ : Library β) (place : Nat × Nat) : Prop :=
  s₀.isOpen? place = some false → LeafFitsAt host (ServesMemory.contents s₀.bus) place

/-- A place that is not open, with a Phantom that is looked for. -/
def Eligible (host : Host) (serial : UInt32) (s₀ : Library β) (place : Nat × Nat) : Prop :=
  s₀.isOpen? place = some false ∧ Suits host serial (ServesMemory.contents s₀.bus) place

include lists answered in
/-- The loop is a search through the places before the iterator, unless it
throws. -/
theorem findPhantomFrom_scan (few : host.ports ≤ INT_MAX)
    (between : Between host entries s₀ i it s) {rounds : Nat}
    (enough : (it.remaining host).length < rounds) :
    (∃ e s', findPhantomFrom host serial i rounds s = .thrown e s') ∨
      ∃ e, Scan (Examinable host s₀) (Eligible host serial s₀) (it.remaining host) e ∧
        SearchEnds host entries s₀ e (findPhantomFrom host serial i rounds s) := by
  induction rounds generalizing s it with
  | zero => exact absurd enough (Nat.not_lt_zero _)
  | succ rounds ih =>
      -- Open places are passed.
      have passed {skipped : List (Nat × Nat)} (taken : ∀ q ∈ skipped, s₀.isOpen? q = some true)
          (q : Nat × Nat) (member : q ∈ skipped) :
          Examinable host s₀ q ∧ ¬Eligible host serial s₀ q := by
        have isOpen := taken q member
        refine ⟨fun free => ?_, fun eligible => ?_⟩
        · rw [isOpen] at free
          cases free
        · rw [Eligible, isOpen] at eligible
          cases eligible.1
      have opens := next_opens lists answered few between
      rw [findPhantomFrom, Call.bind_apply]
      generalize next host i s = outcome at opens ⊢
      cases opens with
      | @ended it' s' taken tabled live =>
          have scan : Scan (Examinable host s₀) (Eligible host serial s₀)
              (it.remaining host ++ []) .exhausted := .pass_append (passed taken) .exhausted
          rw [List.append_nil] at scan
          refine .inr ⟨_, scan, ?_⟩
          rw [Outcome.andThen_returned, Call.bind_apply, deleteIterator, Call.bind_apply,
            iterator_of_live live, Outcome.andThen_returned, Call.modify_apply,
            Outcome.andThen_returned]
          exact .exhausted { tabled with }
      | @offered p skipped place it' s' split taken free inside offered =>
          have examines : Examines host serial entries s₀ i it' p place _ := examine_spec offered
          rw [Outcome.andThen_returned, Call.bind_apply, split]
          rw [split, List.length_append, List.length_cons] at enough
          generalize examine host serial i p s' = outcome at examines ⊢
          cases examines with
          | thrown => exact .inl ⟨_, _, rfl⟩
          | short unfit =>
              refine .inr ⟨_, .pass_append (passed taken) (.stuck ?_), .stuck⟩
              exact fun examined => unfit (examined free)
          | taken fits suits opened phantom =>
              refine .inr ⟨_, .pass_append (passed taken) (.found ?_ ?_), .found opened phantom⟩
              · exact fun _ => fits
              · exact ⟨free, suits⟩
          | dropped fits unsuited tabled live contents =>
              have rest : (it'.remaining host).length < rounds := by omega
              rcases ih ⟨tabled, live, inside, contents⟩ rest with thrown | ⟨e, scan, ends⟩
              · exact .inl thrown
              · refine .inr ⟨e, .pass_append (passed taken) (.pass ?_ ?_ scan), ends⟩
                · exact fun _ => fits
                · exact fun eligible => unsuited eligible.2

include lists answered in
/-- `findPhantom` is a search through the nodes of the bus in their order, unless
it throws. -/
theorem findPhantom_scan (few : host.ports ≤ INT_MAX)
    (populated : ∀ port < host.ports, 0 < host.nodeCount port) (known : PortsKnown host s₀) :
    (∃ e s', findPhantom host serial s₀ = .thrown e s') ∨
      ∃ places e, places.Pairwise DeviceIteratorLibraw1394.Before ∧
        (∀ q, q ∈ places ↔ OnBus host q) ∧
        Scan (Examinable host s₀) (Eligible host serial s₀) places e ∧
        SearchEnds host entries s₀ e (findPhantom host serial s₀) := by
  obtain ⟨t, it, created, quiet, port, node, nodes⟩ := createInstance_spec known
  have tabled : Tabled host entries s₀ s₀ := ⟨lists, fun _ => rfl, Nat.le_refl _, known⟩
  have tabled' := tabled.quiet quiet (t.iterators.alloc it)
  have inside : it.port ≠ INT_MAX := by
    rw [port]
    decide
  obtain ⟨⟨n, log, ports, rfl⟩, -⟩ := quiet
  have live := Heap.alloc_next s₀.iterators it
  rw [findPhantom, Call.bind_apply, created, Outcome.andThen_returned, Call.bind_apply,
    iterator_of_live live, Outcome.andThen_returned]
  rcases findPhantomFrom_scan lists answered few ⟨tabled', live, inside, rfl⟩
      (Nat.lt_succ_self (it.remaining host).length) with thrown | ⟨e, scan, ends⟩
  · exact .inl thrown
  · refine .inr ⟨it.remaining host, e, DeviceIteratorLibraw1394.remaining_sorted host it, ?_, scan,
      ends⟩
    exact fun q => Covers.mem_of_start (fun port _ inside => populated port inside) port node nodes

end Library

/-! ## The result -/

variable {β : Type} [Bus β] [ServesMemory β]

/-- A node that is not open and suits. -/
structure Wanted (host : Host) (serial : UInt32) (s : Library β) (place : Nat × Nat) : Prop where
  onBus : OnBus host place
  free : ¬Library.OpenAt s place.1 (nodeId place.2)
  suits : Suits host serial (ServesMemory.contents s.bus) place

/-- What a search should end with: a Phantom on the first node that is wanted,
whose device is the only new entry of the table, or `NULL` if there is none. -/
inductive FindsFirst (host : Host) (serial : UInt32) (s : Library β) (entries : List Ptr) :
    Outcome Exn (Library β) (Option Ptr) → Prop
  | found {place : Nat × Nat} {ph p : Ptr} {d : FirewireDeviceLibraw1394} {s' : Library β}
      (wanted : Wanted host serial s place)
      (first : ∀ q, Wanted host serial s q → ¬DeviceIteratorLibraw1394.Before q place)
      (phantom : s'.phantoms ph = some ⟨p, false, none, none⟩)
      (device : s'.devices p = some d ∧ d.port = place.1 ∧ d.node = nodeId place.2)
      (new : p ∉ entries)
      (table : s'.openDevices.Lists (entries ++ [p])) :
      FindsFirst host serial s entries (.returned (some ph) s')
  | null {s' : Library β} (nothing : ∀ q, ¬Wanted host serial s q)
      (table : s'.openDevices.Lists entries) :
      FindsFirst host serial s entries (.returned none s')

/-- The nodes that are not open and before which nothing is wanted have no
textual leaf that is too short. -/
def LeavesFit (host : Host) (serial : UInt32) (s : Library β) : Prop :=
  ∀ place, OnBus host place → ¬Library.OpenAt s place.1 (nodeId place.2) →
    (∀ q, Wanted host serial s q → ¬DeviceIteratorLibraw1394.Before q place) →
      LeafFitsAt host (ServesMemory.contents s.bus) place

omit [Bus β] [ServesMemory β] in
/-- A table of exactly the live devices answers whether one of them is open at a
place. -/
theorem isOpen?_of_exactly {s : Library β} {entries : List Ptr}
    (lists : s.openDevices.Lists entries)
    (exactly : ∀ p, p ∈ entries ↔ ∃ d, s.devices p = some d) (place : Nat × Nat) :
    ∃ found, s.isOpen? place = some found ∧
      (found = true ↔ Library.OpenAt s place.1 (nodeId place.2)) := by
  obtain ⟨found, searched, spec⟩ := Library.deviceIsOpen_spec lists fun q => (exactly q).mp
  refine ⟨found, congrArg Outcome.value? searched, spec.trans ?_⟩
  constructor
  · rintro ⟨q, -, d, live, same⟩
    exact ⟨q, d, live, same⟩
  · rintro ⟨q, d, live, same⟩
    exact ⟨q, (exactly q).mpr ⟨d, live⟩, d, live, same⟩

/-- Where the table answers for every place, the search looks for a node that is
wanted. -/
theorem eligible_iff_wanted {host : Host} {serial : UInt32} {s : Library β} {place : Nat × Nat}
    (free : s.isOpen? place = some false ↔ ¬Library.OpenAt s place.1 (nodeId place.2))
    (onBus : OnBus host place) :
    Library.Eligible host serial s place ↔ Wanted host serial s place := by
  rw [Library.Eligible, free]
  constructor
  · rintro ⟨closed, suits⟩
    exact ⟨onBus, closed, suits⟩
  · intro wanted
    exact ⟨wanted.free, wanted.suits⟩

/-- **The Phantom that is found.**  On every topology without empty ports, with
any contents of the memories, any open devices that are exactly those of the
table, and any serial number: a search in which no read throws finds the first
node that is wanted if and only if no textual leaf that it parses is too
short. -/
theorem findsFirst_iff (host : Host) (few : host.ports ≤ INT_MAX)
    (populated : ∀ port < host.ports, 0 < host.nodeCount port) (serial : UInt32) (s : Library β)
    (known : Library.PortsKnown host s) (entries : List Ptr)
    (lists : s.openDevices.Lists entries)
    (exactly : ∀ p, p ∈ entries ↔ ∃ d, s.devices p = some d)
    (calm : ∀ e s', Library.findPhantom host serial s ≠ .thrown e s') :
    FindsFirst host serial s entries (Library.findPhantom host serial s) ↔
      LeavesFit host serial s := by
  have isOpen := isOpen?_of_exactly lists exactly
  have free (place : Nat × Nat) : s.isOpen? place = some false ↔
      ¬Library.OpenAt s place.1 (nodeId place.2) := by
    obtain ⟨found, answer, spec⟩ := isOpen place
    rw [answer, Option.some.injEq, ← spec, Bool.not_eq_true]
  have answered (place : Nat × Nat) : s.isOpen? place ≠ none := by
    obtain ⟨found, answer, -⟩ := isOpen place
    rw [answer]
    exact Option.some_ne_none found
  have wanted {place : Nat × Nat} (onBus : OnBus host place) :
      Library.Eligible host serial s place ↔ Wanted host serial s place :=
    eligible_iff_wanted (free place) onBus
  have asymm (a b : Nat × Nat) (first : DeviceIteratorLibraw1394.Before a b)
      (second : DeviceIteratorLibraw1394.Before b a) : False :=
    Cursor.not_before_self a (Cursor.before_trans first second)
  rcases Library.findPhantom_scan lists answered few populated known with
    ⟨e, s', thrown⟩ | ⟨places, e, sorted, onBus, scan, ends⟩
  · exact absurd thrown (calm e s')
  -- The condition says that the search does not get stuck.
  have condition : LeavesFit host serial s ↔ e ≠ .stuck := by
    rw [scan.not_stuck_iff asymm sorted]
    constructor
    · intro fit place member first open'
      refine fit place ((onBus place).mp member) ((free place).mp open') fun q looked => ?_
      exact first q ((onBus q).mpr looked.onBus) ((wanted looked.onBus).mpr looked)
    · intro examined place inside open' first
      refine examined place ((onBus place).mpr inside) ?_ ((free place).mpr open')
      exact fun q member eligible => first q ((wanted ((onBus q).mp member)).mp eligible)
  rw [condition]
  generalize Library.findPhantom host serial s = outcome at ends
  cases ends with
  | stuck =>
      constructor
      · intro finds
        cases finds
      · exact fun progress => absurd rfl progress
  | found opened phantom =>
      refine ⟨fun _ => by simp, fun _ => ?_⟩
      obtain ⟨member, eligible, first⟩ := scan.first_of_found asymm sorted
      obtain ⟨d, device⟩ := opened.device
      refine .found ((wanted ((onBus _).mp member)).mp eligible) ?_ phantom device opened.not_mem
        opened.lists
      exact fun q looked => first q ((onBus q).mpr looked.onBus) ((wanted looked.onBus).mpr looked)
  | exhausted tabled =>
      refine ⟨fun _ => by simp, fun _ => .null ?_ tabled.lists⟩
      intro q looked
      exact scan.nothing_of_exhausted q ((onBus q).mpr looked.onBus)
        ((wanted looked.onBus).mpr looked)

/-- The second of two nodes is a Phantom with the serial number 7. -/
def secondPhantom : Memory :=
  (Memory.store (fun _ _ _ => 0) 0 0xffc1 CONFIG_ROM_ADDR [0x01, 0x00, 0x0b, 0x99]).store
    0 0xffc1 0x1006000c [0x00, 0x0b, 0x99, 0x00, 0x07, 0x00, 0x00, 0x00]

/-- Neither of the two nodes has a general ROM. -/
theorem leafFitsAt_secondPhantom (place : Nat × Nat) (onBus : OnBus twoNodes place) :
    LeafFitsAt twoNodes secondPhantom place := by
  intro general
  exfalso
  obtain ⟨port, index⟩ := place
  obtain rfl : port = 0 := Nat.lt_one_iff.mp onBus.1
  have two : index < 2 := onBus.2
  revert general
  interval_cases index
  · decide +kernel
  · decide +kernel

theorem findsFirst_secondPhantom :
    (Library.findPhantom twoNodes 7
        (Library.initial (⟨secondPhantom, []⟩ : MemoryBus))).value? = some (some 0) ∧
      FindsFirst twoNodes 7 (Library.initial (⟨secondPhantom, []⟩ : MemoryBus)) []
        (Library.findPhantom twoNodes 7 (Library.initial ⟨secondPhantom, []⟩)) := by
  have found : (Library.findPhantom twoNodes 7
      (Library.initial (⟨secondPhantom, []⟩ : MemoryBus))).value? = some (some 0) := by
    decide +kernel
  refine ⟨found, ?_⟩
  refine (findsFirst_iff twoNodes (by decide) (by decide) 7 _ ?_ [] OpenDevices.lists_initial ?_
    ?_).mpr fun place onBus _ _ => leafFitsAt_secondPhantom place onBus
  · intro n known
    cases known
  · intro p
    refine ⟨fun member => absurd member List.not_mem_nil, ?_⟩
    rintro ⟨d, live⟩
    cases live
  · intro e s' thrown
    rw [thrown] at found
    cases found

/-- The first node has a textual leaf of length 0 in its ROM. -/
def shortLeaf : Memory :=
  secondPhantom.store 0 0xffc0 CONFIG_ROM_ADDR
    [0x04, 0x04, 0x00, 0x00, 0x31, 0x33, 0x39, 0x34, 0, 0, 0, 0, 0, 0, 0, 0, 0, 0, 0, 0,
      0x00, 0x01, 0x00, 0x00, 0x81, 0x00, 0x00, 0x01, 0x00, 0x00, 0x00, 0x00]

theorem not_leafFitsAt_shortLeaf : ¬LeafFitsAt twoNodes shortLeaf (0, 0) := by
  intro fits
  have general : RomImage.IsGeneral (shortLeaf.block 0 (nodeId 0) CONFIG_ROM_ADDR) := by
    decide +kernel
  have accepted : RomImage.Accepted (shortLeaf.block 0 (nodeId 0) CONFIG_ROM_ADDR) .little := by
    decide +kernel
  have leaf : (RomImage.root (shortLeaf.block 0 (nodeId 0) CONFIG_ROM_ADDR)).textualLeaf =
      some 7 := by
    decide +kernel
  have long := fits general accepted 7 leaf
  revert long
  decide +kernel

/-- With a leaf that is too short on the first node, the Phantom on the second
one is not found. -/
theorem findPhantom_shortLeaf :
    Library.findPhantom twoNodes 7 (Library.initial (⟨shortLeaf, []⟩ : MemoryBus)) =
      .undefined := by
  obtain ⟨s₁, it, created, live, s, opened, bus, d, device, new⟩ : ∃ s₁ it,
      Library.createInstance twoNodes (Library.initial (⟨shortLeaf, []⟩ : MemoryBus)) =
        .returned 0 s₁ ∧ s₁.iterators 0 = some it ∧
      ∃ s, Library.next twoNodes 0 s₁ = .returned (some 0) s ∧ s.bus = ⟨shortLeaf, []⟩ ∧
        ∃ d, s.devices 0 = some d ∧ d.toFirewireDevice = .new ⟨0xffc0, ⟨2, 0⟩, none, none⟩ :=
    ⟨_, _, rfl, rfl, _, rfl, rfl, _, rfl, rfl⟩
  have stuck : FirewireDevice.isSensableDevice .little
      (⟨⟨shortLeaf, []⟩, .new ⟨0xffc0, ⟨2, 0⟩, none, none⟩⟩ : DeviceState MemoryBus) =
        .undefined :=
    FirewireDevice.isSensableDevice_undefined rfl not_leafFitsAt_shortLeaf
  have little : twoNodes.endian = .little := rfl
  rw [Library.findPhantom, Call.bind_apply, created, Outcome.andThen_returned, Call.bind_apply,
    Library.iterator_of_live live, Outcome.andThen_returned, Library.findPhantomFrom,
    Call.bind_apply, opened, Outcome.andThen_returned, Call.bind_apply, Library.examine,
    Call.bind_apply, Library.onDevice_eq device, bus, new, little, stuck]
  rfl

theorem not_findsFirst : ¬∀ (host : Host) (serial : UInt32) (memory : Memory),
    host.endian = .little → host.ports ≤ INT_MAX →
      (∀ port < host.ports, 1 ≤ host.nodeCount port ∧ host.nodeCount port ≤ 63) →
      (∀ e s', Library.findPhantom host serial (Library.initial (⟨memory, []⟩ : MemoryBus)) ≠
        .thrown e s') →
      FindsFirst host serial (Library.initial (⟨memory, []⟩ : MemoryBus)) []
        (Library.findPhantom host serial (Library.initial ⟨memory, []⟩)) := by
  intro finds
  have calm (e : Exn) (s' : Library MemoryBus) : Library.findPhantom twoNodes 7
      (Library.initial (⟨shortLeaf, []⟩ : MemoryBus)) ≠ .thrown e s' := by
    rw [findPhantom_shortLeaf]
    intro thrown
    cases thrown
  have found := finds twoNodes 7 shortLeaf rfl (by decide) (by decide) calm
  rw [findPhantom_shortLeaf] at found
  cases found

end LibPhantom
