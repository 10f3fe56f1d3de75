import PhantomDrivers.LibPhantom.BusAssertions
import PhantomDrivers.LibPhantom.FirstPhantom
import PhantomDrivers.LibPhantom.HandleLedger

/-!
# Searching for one Phantom after the other

A program gets all Phantoms by calling `findPhantom` until it returns `NULL`: a
node that has been found is open, and the next search passes it.

* `Finding` — a Phantom, its device and the place of its node.
* `Claimed` — the state of a program with some findings; it is what it was
  before the newest finding when that Phantom has been deleted.
* `Seeks`, `Claimed.seeks` — the next search.
* `Searches` — a sequence of searches all of which find something.
* `searches_enumerate` — the findings of a sequence, and what the search finds
  that comes after it.
-/

namespace LibPhantom

open Semantics Raw1394

/-- A Phantom that was found, with its device and the place of its node. -/
structure Finding where
  phantom : Ptr
  device : Ptr
  place : Nat × Nat
deriving DecidableEq, Repr

/-- Two places are in order, one way or the other. -/
theorem DeviceIteratorLibraw1394.before_total {a b : Nat × Nat} (different : a ≠ b) :
    Before a b ∨ Before b a := by
  rcases Nat.lt_trichotomy a.1 b.1 with less | same | more
  · exact .inl (.inl less)
  · rcases Nat.lt_trichotomy a.2 b.2 with less | same' | more
    · exact .inl (.inr ⟨same, less⟩)
    · exact absurd (Prod.ext same same') different
    · exact .inr (.inr ⟨same.symm, more⟩)
  · exact .inr (.inl more)

/-- The serial number of the node at a place. -/
def serialAt (host : Host) (memory : Memory) (place : Nat × Nat) : UInt32 :=
  seenAt host.endian memory place.1 (nodeId place.2) 0x10060010

namespace Library

variable {β : Type}

/-- Every device talks to its own node. -/
def Attached (s : Library β) : Prop :=
  ∀ p d, s.devices p = some d → d.com.handle.port = d.port ∧ d.com.node = d.node

/-- The Phantoms of a heap are still there. -/
def KeepsPhantoms (heap : Heap Phantom) (s : Library β) : Prop :=
  heap.next ≤ s.phantoms.next ∧ ∀ q ph, heap q = some ph → s.phantoms q = some ph

theorem stable_attached : Stable (Attached : Library β → Prop) where
  handles _ _ _ _ _ _ attached := attached
  opened s host port node table attached p d live := by
    rcases Heap.alloc_eq_some.mp live with ⟨-, rfl⟩ | old
    · exact ⟨rfl, rfl⟩
    · exact attached p d old
  deleted s p d table attached q d' live := attached q d' (Heap.free_eq_some.mp live).2

theorem stable_keepsPhantoms (heap : Heap Phantom) :
    Stable (KeepsPhantoms heap : Library β → Prop) where
  handles _ _ _ _ _ _ kept := kept
  opened _ _ _ _ _ kept := kept
  deleted _ _ _ _ kept := kept

theorem attached_onDevice {α : Type} {p : Ptr} {method : Call Exn (DeviceState β) α}
    (fixes : method.Fixes fun t => t.device.com) : (onDevice p method).Preserves Attached := by
  intro s attached
  cases live : s.devices p with
  | none =>
      rw [onDevice, Call.bind_apply, device_of_dead live]
      trivial
  | some d =>
      have after (t : DeviceState β) (same : t.device.com = d.com) :
          Attached (s.afterMethod p d t) := by
        intro q d' live'
        obtain ⟨old, there, rfl⟩ := (Heap.modify_eq_some _).mp live'
        split
        · next here =>
            subst here
            obtain rfl := Option.some.inj (there.symm.trans live)
            rw [same]
            exact attached _ old there
        · exact attached q old there
      rw [onDevice_eq live, Outcome.leaves_mapState]
      exact (fixes d.com ⟨s.bus, d.toFirewireDevice⟩ rfl).imp (fun _ => after) fun _ => after

variable [Bus β] {host : Host} {serial : UInt32}

theorem attached_findPhantom (serial : UInt32) :
    (findPhantom host serial).Preserves (Attached : Library β → Prop) := by
  refine stable_attached.findPhantom (fun p => ?_) (fun p => ?_) ?_ serial
  · exact attached_onDevice (FirewireDevice.fixesCom_isSensableDevice host.endian)
  · exact attached_onDevice (FirewireDevice.fixesCom_readQuadlet host.endian _)
  · exact fun s device attached => attached

theorem keepsPhantoms_findPhantom (heap : Heap Phantom) (serial : UInt32) :
    (findPhantom host serial).Preserves (KeepsPhantoms heap : Library β → Prop) := by
  have asked {α : Type} (p : Ptr) (method : Call Exn (DeviceState β) α) :
      (onDevice p method).Preserves (KeepsPhantoms heap) := by
    refine Call.preserves_bind Stable.device fun d => ?_
    refine Call.preserves_bind ((stable_keepsPhantoms heap).useHandle _) fun _ => ?_
    exact Call.preserves_within fun _ _ kept => kept
  refine (stable_keepsPhantoms heap).findPhantom (fun p => asked p _) (fun p => asked p _) ?_ serial
  rintro s device ⟨later, kept⟩
  refine ⟨Nat.le_succ_of_le later, fun q ph live => ?_⟩
  exact (Heap.alloc_of_ne (Nat.ne_of_lt (Nat.lt_of_lt_of_le (Heap.lt_next live) later))).trans
    (kept q ph live)

/-! ## The state with some findings -/

variable [ServesMemory β] {s₀ s s' : Library β} {entries : List Ptr} {findings : List Finding}
  {finding : Finding}

/-- A program that started in `s₀`, with these entries in the table, has these
findings. -/
structure Claimed (host : Host) (s₀ : Library β) (entries : List Ptr) (findings : List Finding)
    (s : Library β) : Prop where
  lists : s.openDevices.Lists (entries ++ findings.map Finding.device)
  live : ∀ q, (∃ d, s.devices q = some d) ↔ q ∈ entries ++ findings.map Finding.device
  older : ∀ q ∈ entries, s.devices q = s₀.devices q
  apart : (entries ++ findings.map Finding.device).Nodup
  devices : ∀ f ∈ findings, ∃ d, s.devices f.device = some d ∧
    d.port = f.place.1 ∧ d.node = nodeId f.place.2
  phantoms : ∀ f ∈ findings, s.phantoms f.phantom = some ⟨f.device, false, none, none⟩
  distinct : (findings.map Finding.phantom).Nodup
  attached : Attached s
  known : PortsKnown host s
  contents : ServesMemory.contents s.bus = ServesMemory.contents s₀.bus

/-- The places of the findings. -/
def places (findings : List Finding) : List (Nat × Nat) := findings.map Finding.place

/-- The table lists the live devices, each of them once, and these devices talk
to their own nodes. -/
structure Settled (host : Host) (entries : List Ptr) (s : Library β) : Prop where
  lists : s.openDevices.Lists entries
  live : ∀ q, (∃ d, s.devices q = some d) ↔ q ∈ entries
  apart : entries.Nodup
  attached : Attached s
  known : PortsKnown host s

omit [Bus β] [ServesMemory β] in
theorem settled_initial (host : Host) (bus : β) : Settled host [] (Library.initial bus) where
  lists := OpenDevices.lists_initial
  live _ := ⟨fun ⟨_, live⟩ => (nomatch live), fun member => absurd member List.not_mem_nil⟩
  apart := List.nodup_nil
  attached _ _ live := nomatch live
  known _ known := nomatch known

/-- Without findings the program is where it started. -/
theorem Settled.claimed (settled : Settled host entries s) : Claimed host s entries [] s where
  lists := by
    rw [List.map_nil, List.append_nil]
    exact settled.lists
  live q := by rw [List.map_nil, List.append_nil, settled.live q]
  older _ _ := rfl
  apart := by
    rw [List.map_nil, List.append_nil]
    exact settled.apart
  devices _ member := absurd member List.not_mem_nil
  phantoms _ member := absurd member List.not_mem_nil
  distinct := List.nodup_nil
  attached := settled.attached
  known := settled.known
  contents := rfl

/-! ## The next search -/

/-- The topology: there are not too many ports, each of them has a node, and
nodes are numbered with six bits. -/
structure Populated (host : Host) : Prop where
  few : host.ports ≤ INT_MAX
  nodes : ∀ port < host.ports, 0 < host.nodeCount port
  bounded : ∀ port, host.nodeCount port ≤ 63

/-- How the next search ends: with the first Phantom that is left, or with
`NULL` if there is none. -/
inductive Seeks (host : Host) (serial : UInt32) (s₀ : Library β) (entries : List Ptr)
    (findings : List Finding) : Outcome Exn (Library β) (Option Ptr) → Prop
  | thrown {e : Exn} {s' : Library β} : Seeks host serial s₀ entries findings (.thrown e s')
  | stuck {place : Nat × Nat} (onBus : OnBus host place)
      (free : ¬OpenAt s₀ place.1 (nodeId place.2))
      (unfit : ¬LeafFitsAt host (ServesMemory.contents s₀.bus) place) :
      Seeks host serial s₀ entries findings .undefined
  | null {s' : Library β} (claimed : Claimed host s₀ entries findings s')
      (complete : ∀ q, Wanted host serial s₀ q → q ∈ places findings)
      (fit : ∀ q, OnBus host q → ¬OpenAt s₀ q.1 (nodeId q.2) → q ∉ places findings →
        LeafFitsAt host (ServesMemory.contents s₀.bus) q) :
      Seeks host serial s₀ entries findings (.returned none s')
  | found {finding : Finding} {s' : Library β}
      (claimed : Claimed host s₀ entries (findings ++ [finding]) s')
      (segment : Segment DeviceIteratorLibraw1394.Before (Wanted host serial s₀)
        (places (findings ++ [finding])))
      (fits : LeafFitsAt host (ServesMemory.contents s₀.bus) finding.place) :
      Seeks host serial s₀ entries findings (.returned (some finding.phantom) s')

/-- A new finding. -/
theorem Claimed.found (claimed : Claimed host s₀ entries findings s) {p ph : Ptr}
    {place : Nat × Nat}
    (opened : Opened host (entries ++ findings.map Finding.device) s p place s')
    (phantom : s'.phantoms ph = some ⟨p, false, none, none⟩)
    (kept : KeepsPhantoms s.phantoms s') (attached : Attached s')
    (contents : ServesMemory.contents s'.bus = ServesMemory.contents s.bus) :
    Claimed host s₀ entries (findings ++ [⟨ph, p, place⟩]) s' := by
  have extended : entries ++ (findings ++ [(⟨ph, p, place⟩ : Finding)]).map Finding.device =
      entries ++ findings.map Finding.device ++ [p] := by
    rw [List.map_append, List.append_assoc, List.map_singleton]
  have new := opened.not_mem
  have same (q : Ptr) (member : q ∈ entries ++ findings.map Finding.device) :
      s'.devices q = s.devices q :=
    opened.others q fun equal => new (equal ▸ member)
  refine ⟨extended ▸ opened.lists, fun q => ?_, fun q member => ?_, ?_, fun f member => ?_,
    fun f member => ?_, ?_, attached, opened.ports, contents.trans claimed.contents⟩
  · rw [extended, List.mem_append, List.mem_singleton, ← claimed.live q]
    rcases eq_or_ne q p with rfl | different
    · obtain ⟨d, live, -⟩ := opened.device
      exact ⟨fun _ => .inr rfl, fun _ => ⟨d, live⟩⟩
    · rw [opened.others q different, or_iff_left different]
  · exact (same q (List.mem_append_left _ member)).trans (claimed.older q member)
  · rw [extended]
    exact claimed.apart.append (List.nodup_singleton p) (List.disjoint_singleton.mpr new)
  · rcases List.mem_append.mp member with old | last
    · rw [same f.device (List.mem_append_right _ (List.mem_map_of_mem old))]
      exact claimed.devices f old
    · rw [List.mem_singleton.mp last]
      exact opened.device
  · rcases List.mem_append.mp member with old | last
    · exact kept.2 _ _ (claimed.phantoms f old)
    · rw [List.mem_singleton.mp last]
      exact phantom
  · rw [List.map_append, List.map_singleton]
    refine claimed.distinct.append (List.nodup_singleton ph) (List.disjoint_singleton.mpr ?_)
    intro member
    -- the device of an old Phantom is in the table
    obtain ⟨f, old, rfl⟩ := List.mem_map.mp member
    have there := (kept.2 _ _ (claimed.phantoms f old)).symm.trans phantom
    have device : f.device = p := congrArg Phantom.firewireDevice (Option.some.inj there)
    exact new (device ▸ List.mem_append_right _ (List.mem_map_of_mem old))

/-- A search that finds nothing. -/
theorem Claimed.unchanged (claimed : Claimed host s₀ entries findings s)
    (tabled : Tabled host (entries ++ findings.map Finding.device) s s')
    (kept : KeepsPhantoms s.phantoms s') (attached : Attached s')
    (contents : ServesMemory.contents s'.bus = ServesMemory.contents s.bus) :
    Claimed host s₀ entries findings s' where
  lists := tabled.lists
  live q := by rw [tabled.devices q, claimed.live q]
  older q member := (tabled.devices q).trans (claimed.older q member)
  apart := claimed.apart
  devices f member := by
    rw [tabled.devices f.device]
    exact claimed.devices f member
  phantoms f member := kept.2 _ _ (claimed.phantoms f member)
  distinct := claimed.distinct
  attached := attached
  known := tabled.ports
  contents := contents.trans claimed.contents

section Seeks

variable (live₀ : ∀ q, (∃ d, s₀.devices q = some d) ↔ q ∈ entries)
include live₀

/-- A place is open if it was, or if it is the place of a finding. -/
theorem Claimed.openAt_iff (populated : Populated host)
    (claimed : Claimed host s₀ entries findings s)
    (onBus : ∀ q ∈ places findings, OnBus host q) {q : Nat × Nat} (here : OnBus host q) :
    OpenAt s q.1 (nodeId q.2) ↔ OpenAt s₀ q.1 (nodeId q.2) ∨ q ∈ places findings := by
  constructor
  · rintro ⟨p, d, live, port, node⟩
    rcases List.mem_append.mp ((claimed.live p).mp ⟨d, live⟩) with old | new
    · exact .inl ⟨p, d, (claimed.older p old).symm.trans live, port, node⟩
    · obtain ⟨f, member, rfl⟩ := List.mem_map.mp new
      obtain ⟨d', live', port', node'⟩ := claimed.devices f member
      obtain rfl := Option.some.inj (live'.symm.trans live)
      have inside := List.mem_map_of_mem (f := Finding.place) member
      have small (a : Nat × Nat) (onBus : OnBus host a) : a.2 < 64 :=
        Nat.lt_of_lt_of_le onBus.2 (Nat.le_succ_of_le (populated.bounded a.1))
      have index := nodeId_inj (small _ (onBus _ inside)) (small _ here)
        (node'.symm.trans node)
      have same : f.place = q := Prod.ext (port'.symm.trans port) index
      exact .inr (same ▸ inside)
  · rintro (⟨p, d, live, same⟩ | member)
    · exact ⟨p, d, (claimed.older p ((live₀ p).mp ⟨d, live⟩)).trans live, same⟩
    · obtain ⟨f, inside, rfl⟩ := List.mem_map.mp member
      obtain ⟨d, live, same⟩ := claimed.devices f inside
      exact ⟨f.device, d, live, same⟩

/-- What is wanted then was wanted from the start and has not been found. -/
theorem Claimed.wanted_iff (populated : Populated host)
    (claimed : Claimed host s₀ entries findings s)
    (onBus : ∀ q ∈ places findings, OnBus host q) {q : Nat × Nat} :
    Wanted host serial s q ↔ Wanted host serial s₀ q ∧ q ∉ places findings := by
  constructor
  · rintro ⟨here, free, suits⟩
    rw [claimed.openAt_iff live₀ populated onBus here, not_or] at free
    exact ⟨⟨here, free.1, claimed.contents ▸ suits⟩, free.2⟩
  · rintro ⟨⟨here, free, suits⟩, new⟩
    refine ⟨here, ?_, claimed.contents.symm ▸ suits⟩
    rw [claimed.openAt_iff live₀ populated onBus here, not_or]
    exact ⟨free, new⟩

/-- **The next search.**  It finds the first of the nodes that are wanted and
have not been found, or nothing if there is none, unless a read throws or a
textual leaf is too short. -/
theorem Claimed.seeks (populated : Populated host)
    (claimed : Claimed host s₀ entries findings s) (serial : UInt32)
    (segment : Segment DeviceIteratorLibraw1394.Before (Wanted host serial s₀) (places findings)) :
    Seeks host serial s₀ entries findings (findPhantom host serial s) := by
  have onBus (q : Nat × Nat) (member : q ∈ places findings) : OnBus host q :=
    (segment.hits q member).onBus
  have isOpen := isOpen?_of_exactly claimed.lists fun q => (claimed.live q).symm
  have free (place : Nat × Nat) : s.isOpen? place = some false ↔
      ¬OpenAt s place.1 (nodeId place.2) := by
    obtain ⟨found, answer, spec⟩ := isOpen place
    rw [answer, Option.some.injEq, ← spec, Bool.not_eq_true]
  have answered (place : Nat × Nat) : s.isOpen? place ≠ none := by
    obtain ⟨found, answer, -⟩ := isOpen place
    rw [answer]
    exact Option.some_ne_none found
  have left {q : Nat × Nat} (here : OnBus host q) :
      Eligible host serial s q ↔ Wanted host serial s₀ q ∧ q ∉ places findings :=
    (eligible_iff_wanted (free q) here).trans (claimed.wanted_iff live₀ populated onBus)
  have closed {q : Nat × Nat} (here : OnBus host q) : s.isOpen? q = some false ↔
      ¬OpenAt s₀ q.1 (nodeId q.2) ∧ q ∉ places findings := by
    rw [free q, claimed.openAt_iff live₀ populated onBus here, not_or]
  have kept : (findPhantom host serial s).Leaves _ _ :=
    keepsPhantoms_findPhantom s.phantoms serial s ⟨Nat.le_refl _, fun _ _ live => live⟩
  have attached : (findPhantom host serial s).Leaves _ _ :=
    attached_findPhantom serial s claimed.attached
  have contents : (findPhantom host serial s).Leaves _ _ :=
    aboutBus_findPhantom (survivesReads_contents _).reading serial s rfl
  rcases findPhantom_scan claimed.lists answered populated.few populated.nodes claimed.known with
    ⟨e, s', thrown⟩ | ⟨all, e, sorted, member, scan, ends⟩
  · rw [thrown]
    exact .thrown
  have asymm (a b : Nat × Nat) (first : DeviceIteratorLibraw1394.Before a b)
      (second : DeviceIteratorLibraw1394.Before b a) : False :=
    Cursor.not_before_self a (Cursor.before_trans first second)
  generalize findPhantom host serial s = outcome at ends kept attached contents ⊢
  cases ends with
  | stuck =>
      obtain ⟨q, inside, failed⟩ := scan.failed_of_stuck
      obtain ⟨closedHere, unfit⟩ := Classical.not_imp.mp failed
      have here := (member q).mp inside
      rw [claimed.contents] at unfit
      exact .stuck here ((closed here).mp closedHere).1 unfit
  | exhausted tabled =>
      refine .null (claimed.unchanged tabled kept attached contents) (fun q wanted => ?_) ?_
      · by_contra new
        exact scan.nothing_of_exhausted q ((member q).mpr wanted.onBus)
          ((left wanted.onBus).mpr ⟨wanted, new⟩)
      · intro q here closed₀ new
        rw [← claimed.contents]
        exact scan.sound_of_exhausted q ((member q).mpr here) ((closed here).mpr ⟨closed₀, new⟩)
  | @found p ph place s' opened phantom =>
      obtain ⟨inside, eligible, first⟩ := scan.first_of_found asymm sorted
      have here := (member place).mp inside
      obtain ⟨wanted, new⟩ := (left here).mp eligible
      have fits := scan.sound_of_found eligible.1
      rw [claimed.contents] at fits
      refine .found (claimed.found opened phantom kept attached contents) ?_ fits
      have extended : places (findings ++ [(⟨ph, p, place⟩ : Finding)]) =
          places findings ++ [place] := by
        rw [places, List.map_append, List.map_singleton]
        rfl
      rw [extended]
      refine segment.next (fun a b => DeviceIteratorLibraw1394.before_total) wanted new ?_
      exact fun q wantedQ newQ => first q ((member q).mpr wantedQ.onBus)
        ((left wantedQ.onBus).mpr ⟨wantedQ, newQ⟩)

end Seeks

/-! ## What the program does with its findings -/

/-- The newest finding can be deleted; then the program has what it had before
it. -/
theorem Claimed.delete (claimed : Claimed host s₀ entries (findings ++ [finding]) s) :
    ∃ s', deletePhantom finding.phantom s = .returned () s' ∧
      Claimed host s₀ entries findings s' := by
  have extended : entries ++ (findings ++ [finding]).map Finding.device =
      entries ++ findings.map Finding.device ++ [finding.device] := by
    rw [List.map_append, List.append_assoc, List.map_singleton]
  have last : finding ∈ findings ++ [finding] :=
    List.mem_append_right _ (List.mem_singleton_self _)
  have older (f : Finding) (member : f ∈ findings) : f ∈ findings ++ [finding] :=
    List.mem_append_left _ member
  have apart := claimed.apart
  rw [extended, List.nodup_append_comm, List.singleton_append, List.nodup_cons] at apart
  have distinct := claimed.distinct
  rw [List.map_append, List.map_singleton, List.nodup_append_comm, List.singleton_append,
    List.nodup_cons] at distinct
  obtain ⟨d, live, -⟩ := claimed.devices finding last
  have phantom := claimed.phantoms finding last
  obtain ⟨table, rest, unregistered, lists, -, -, whole⟩ :=
    OpenDevices.unregister_spec (extended ▸ claimed.lists) finding.device
  have other (q : Ptr) (member : q ∈ entries ++ findings.map Finding.device) :
      (s.devices.free finding.device) q = s.devices q :=
    Heap.free_of_ne fun same => apart.1 (same ▸ member)
  refine ⟨{ s.afterDeleteDevice finding.device d table with
    phantoms := s.phantoms.free finding.phantom }, ?_, whole apart.1 ▸ lists, fun q => ?_,
    fun q member => ?_, apart.2, fun f member => ?_, fun f member => ?_, distinct.2, ?_,
    claimed.known, claimed.contents⟩
  · rw [deletePhantom, Call.bind_apply, Call.tryCatch_apply, stopPhantom_of_idle phantom rfl]
    simp only [Outcome.rescue_returned, Outcome.andThen_returned, deleteBaseDevice,
      Call.bind_apply, phantom_of_live phantom, deleteDevice_eq live unregistered,
      Call.modify_apply]
    rfl
  · have before := claimed.live q
    rw [extended, List.mem_append, List.mem_singleton] at before
    show (∃ d, (s.devices.free finding.device) q = some d) ↔ _
    rcases eq_or_ne q finding.device with rfl | different
    · rw [Heap.free_self]
      refine ⟨?_, fun member => absurd member apart.1⟩
      rintro ⟨d, alive⟩
      exact absurd alive (Option.some_ne_none d).symm
    · rw [Heap.free_of_ne different, before, or_iff_left different]
  · exact (other q (List.mem_append_left _ member)).trans (claimed.older q member)
  · obtain ⟨d', live', same⟩ := claimed.devices f (older f member)
    exact ⟨d', (other _ (List.mem_append_right _ (List.mem_map_of_mem member))).trans live', same⟩
  · refine (Heap.free_of_ne fun same => distinct.1 ?_).trans (claimed.phantoms f (older f member))
    rw [← same]
    exact List.mem_map_of_mem member
  · exact fun q d' live' => claimed.attached q d' (Heap.free_eq_some.mp live').2

/-- The serial number of a finding. -/
theorem Claimed.readSerial (claimed : Claimed host s₀ entries findings s)
    (member : finding ∈ findings) :
    (∃ e s', readPhantomSerial host finding.phantom s = .thrown e s') ∨
      ∃ s', readPhantomSerial host finding.phantom s =
          .returned (serialAt host (ServesMemory.contents s₀.bus) finding.place) s' ∧
        Claimed host s₀ entries findings s' := by
  obtain ⟨d, live, port, node⟩ := claimed.devices finding member
  obtain ⟨ownPort, ownNode⟩ := claimed.attached finding.device d live
  rw [readPhantomSerial, Call.bind_apply, phantom_of_live (claimed.phantoms finding member),
    Outcome.andThen_returned, readDeviceSerial, onDevice_eq live]
  rcases FirewireDevice.readQuadlet_cases host.endian 0x10060010
      (⟨s.bus, d.toFirewireDevice⟩ : DeviceState β) with
    ⟨e, t, thrown⟩ | ⟨t, returned, contents, device⟩
  · rw [thrown]
    exact .inl ⟨e, _, rfl⟩
  · have number : seenAt host.endian (ServesMemory.contents s.bus) d.com.handle.port d.com.node
        0x10060010 = serialAt host (ServesMemory.contents s₀.bus) finding.place := by
      rw [claimed.contents, ownPort, ownNode, port, node, serialAt]
    rw [returned]
    refine .inr ⟨s.afterMethod finding.device d t, congrArg (Outcome.returned · _) number, ?_⟩
    -- the object is what it was before
    have unchanged (q : Ptr) : (s.afterMethod finding.device d t).devices q = s.devices q := by
      show (s.devices.modify finding.device _) q = _
      rcases eq_or_ne q finding.device with rfl | different
      · rw [Heap.modify_self, live, device]
        rfl
      · exact Heap.modify_of_ne _ different
    refine ⟨claimed.lists, fun q => ?_, fun q old => ?_, claimed.apart, fun f inside => ?_,
      claimed.phantoms, claimed.distinct, fun q d' live' => ?_, claimed.known,
      contents.trans claimed.contents⟩
    · rw [unchanged q]
      exact claimed.live q
    · rw [unchanged q]
      exact claimed.older q old
    · rw [unchanged f.device]
      exact claimed.devices f inside
    · rw [unchanged q] at live'
      exact claimed.attached q d' live'

/-! ## Sequences of searches -/

/-- Searches for the same serial number, all of which find a Phantom. -/
inductive Searches (host : Host) (serial : UInt32) (s : Library β) : List Ptr → Library β → Prop
  | none : Searches host serial s [] s
  | more {s₁ s₂ : Library β} {found : List Ptr} {p : Ptr}
      (earlier : Searches host serial s found s₁)
      (finds : findPhantom host serial s₁ = .returned (some p) s₂) :
      Searches host serial s (found ++ [p]) s₂

/-- What searches find that find something. -/
theorem Searches.claimed (populated : Populated host) {found : List Ptr}
    (settled : Settled host entries s) (searches : Searches host serial s found s') :
    ∃ findings, findings.map Finding.phantom = found ∧ Claimed host s entries findings s' ∧
      Segment DeviceIteratorLibraw1394.Before (Wanted host serial s) (places findings) := by
  induction searches with
  | none => exact ⟨[], rfl, settled.claimed, Segment.nil⟩
  | more earlier finds ih =>
      obtain ⟨findings, rfl, claimed, segment⟩ := ih
      have seeks := claimed.seeks settled.live populated serial segment
      rw [finds] at seeks
      cases seeks with
      | @found finding s' claimed' segment' fits =>
          refine ⟨findings ++ [finding], ?_, claimed', segment'⟩
          rw [List.map_append, List.map_singleton]

/-- Where a search finds nothing, nothing is left. -/
theorem Claimed.complete (populated : Populated host) (settled : Settled host entries s)
    (claimed : Claimed host s entries findings s')
    (segment : Segment DeviceIteratorLibraw1394.Before (Wanted host serial s) (places findings))
    {s'' : Library β} (nothing : findPhantom host serial s' = .returned none s'') :
    ∀ q, Wanted host serial s q → q ∈ places findings := by
  have seeks := claimed.seeks settled.live populated serial segment
  rw [nothing] at seeks
  cases seeks with
  | null claimed' complete fit => exact complete

/-- **A sequence of searches.**  From any state with an exact table, on any bus
whose nodes hold memories: searches that find something find the nodes that are
wanted from the first one on, in the order of the ports and nodes and each of
them once.  Every finding is a Phantom of its own that has not been started, and
the table gets their devices in this order.  When a search finds nothing, all
nodes that are wanted have been found. -/
theorem searches_enumerate (host : Host) (populated : Populated host) (serial : UInt32)
    {found : List Ptr} (settled : Settled host entries s)
    (searches : Searches host serial s found s') :
    ∃ findings, findings.map Finding.phantom = found ∧ Claimed host s entries findings s' ∧
      Segment DeviceIteratorLibraw1394.Before (Wanted host serial s) (places findings) ∧
      ∀ s'', findPhantom host serial s' = .returned none s'' →
        ∀ q, Wanted host serial s q → q ∈ places findings := by
  obtain ⟨findings, same, claimed, segment⟩ := searches.claimed populated settled
  refine ⟨findings, same, claimed, segment, ?_⟩
  exact fun s'' nothing => claimed.complete populated settled segment nothing

end Library

theorem populated_twoNodes : Library.Populated twoNodes := ⟨by decide, by decide, fun _ => (by decide : 2 ≤ 63)⟩

/-- One search, on the bus with a Phantom on the second node. -/
theorem searches_enumerate_once : ∃ s' findings, findings.map Finding.phantom = [0] ∧
    Library.Claimed twoNodes (Library.initial (⟨secondPhantom, []⟩ : MemoryBus)) [] findings s' ∧
      Segment DeviceIteratorLibraw1394.Before
        (Wanted twoNodes 7 (Library.initial (⟨secondPhantom, []⟩ : MemoryBus)))
        (Library.places findings) := by
  have found : (Library.findPhantom twoNodes 7
      (Library.initial (⟨secondPhantom, []⟩ : MemoryBus))).value? = some (some 0) := by
    decide +kernel
  obtain ⟨s', finds⟩ := Outcome.value?_eq_some.mp found
  obtain ⟨findings, same, claimed, segment, -⟩ := Library.searches_enumerate twoNodes
    populated_twoNodes 7 (Library.settled_initial twoNodes _) (.more .none finds)
  exact ⟨s', findings, same, claimed, segment⟩

end LibPhantom
