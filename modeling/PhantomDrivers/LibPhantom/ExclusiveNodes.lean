import PhantomDrivers.LibPhantom.FindPhantom
import PhantomDrivers.LibPhantom.PhantomRuns

/-!
# One device for each node

A program looks for devices with any number of iterators and with
`findPhantom`, and deletes what it got.  No two live devices should be open for
the same node, and an iterator that starts afresh should offer exactly the nodes
without a live device.

Both rest on the table of open devices, so they hold as long as only the newest
device is deleted, by itself or with its Phantom
(`always_exclusive_of_newest`).  `findPhantom` keeps to that by itself.
Otherwise the table forgets the newest device, and its node is opened a second
time (`opened_twice`).

* `Exclusive` — the property of a state.
* `Orderly` — the invariant: the table is in order, no two devices share a node,
  and every Phantom is idle and has a device of its own.
-/

namespace LibPhantom

open Semantics Raw1394

namespace Library

variable {β : Type}

/-- Call `next` until it returns `NULL`, at most the given number of times. -/
def offers (host : Host) (i : Ptr) : Nat → Call Exn (Library β) (List Ptr)
  | 0 => Call.undefined
  | calls + 1 => do
      match ← next host i with
      | none => return []
      | some p =>
          let later ← offers host i calls
          return p :: later

/-- What an iterator offers that starts afresh. -/
def freshOffers (host : Host) (calls : Nat) : Call Exn (Library β) (List Ptr) := do
  let i ← createInstance host
  offers host i calls

/-- No two live devices are open for the same node, and a fresh iterator offers
exactly the nodes without one. -/
structure Exclusive (host : Host) (s : Library β) : Prop where
  unique : ∀ p q d d', s.devices p = some d → s.devices q = some d' →
    d.port = d'.port → d.node = d'.node → p = q
  offered : ∃ calls ptrs s', freshOffers host calls s = .returned ptrs s' ∧
    (∀ port < host.ports, ∀ index < host.nodeCount port, ¬OpenAt s port (nodeId index) →
      ∃ p ∈ ptrs, ∃ d, s'.devices p = some d ∧ d.port = port ∧ d.node = nodeId index) ∧
    ∀ p ∈ ptrs, ∃ d, s'.devices p = some d ∧ ¬OpenAt s d.port d.node

/-! ## What an iterator offers -/

variable {host : Host} {s s' t : Library β} {it : DeviceIteratorLibraw1394} {i p : Ptr}
  {d : FirewireDeviceLibraw1394} {ph : Phantom}

/-- A new device makes its own node an open one. -/
theorem openAt_alloc (devices : s'.devices = s.devices.alloc d) {port : Nat} {node : UInt16} :
    OpenAt s' port node ↔ d.port = port ∧ d.node = node ∨ OpenAt s port node := by
  unfold OpenAt
  rw [devices]
  constructor
  · rintro ⟨p, d', live, same⟩
    rcases Heap.alloc_eq_some.mp live with ⟨-, rfl⟩ | live
    · exact .inl same
    · exact .inr ⟨p, d', live, same⟩
  · rintro (same | ⟨p, d', live, same⟩)
    · exact ⟨s.devices.next, d, Heap.alloc_next .., same⟩
    · exact ⟨p, d', Heap.alloc_of_live live, same⟩

/-- Two places with different ids of their nodes. -/
def Apart (a b : Nat × Nat) : Prop := ¬(a.1 = b.1 ∧ nodeId a.2 = nodeId b.2)

/-- An iterator called until it returns `NULL` offers the places before it that
are not open, and no others. -/
theorem offers_spec (few : host.ports ≤ INT_MAX) {calls : Nat} (known : PortsKnown host s)
    (inOrder : InOrder s) (live : s.iterators i = some it) (inside : it.port ≠ INT_MAX)
    (apart : (it.remaining host).Pairwise Apart) (enough : (it.remaining host).length < calls) :
    ∃ ptrs s', offers host i calls s = .returned ptrs s' ∧
      (∀ place ∈ it.remaining host, ¬OpenAt s place.1 (nodeId place.2) →
        ∃ p ∈ ptrs, ∃ d, s'.devices p = some d ∧ d.port = place.1 ∧ d.node = nodeId place.2) ∧
      (∀ p ∈ ptrs, ∃ d, s'.devices p = some d ∧ ¬OpenAt s d.port d.node) ∧
      ∀ p d, s.devices p = some d → s'.devices p = some d := by
  induction calls generalizing s it with
  | zero => exact absurd enough (Nat.not_lt_zero _)
  | succ calls ih =>
      have spec := next_spec few known inOrder live
      simp only [offers, Call.bind_apply]
      generalize next host i s = outcome at spec ⊢
      cases spec with
      | overflow last => exact absurd last inside
      | ended taken left devices =>
          refine ⟨[], _, rfl, ?_, ?_, ?_⟩
          · intro place member free
            exact absurd (taken place member) free
          · intro p member
            cases member
          · intro p d old
            rw [devices, old]
      | @found skipped it' d port index s₁ split taken free below device devices inOrder₁ live₁
          frame =>
          rw [split, List.pairwise_append] at apart
          obtain ⟨ahead, -⟩ := List.pairwise_cons.mp apart.2.1
          rw [split, List.length_append, List.length_cons] at enough
          obtain ⟨ptrs, s₂, offered, free₂, only, kept⟩ := ih frame.known inOrder₁ live₁
            (fun last => inside (below last)) (List.pairwise_cons.mp apart.2.1).2 (by omega)
          have new : s₂.devices s.devices.next = some d := by
            refine kept _ d ?_
            rw [devices]
            exact Heap.alloc_next ..
          refine ⟨s.devices.next :: ptrs, s₂, ?_, ?_, ?_, ?_⟩
          · simp [offered]
          · intro place member freeHere
            rw [split, List.mem_append, List.mem_cons] at member
            rcases member with early | rfl | later
            · exact absurd (taken place early) freeHere
            · exact ⟨s.devices.next, List.mem_cons_self, d, new, device⟩
            · have stillFree : ¬OpenAt s₁ place.1 (nodeId place.2) := by
                rw [openAt_alloc devices]
                rintro (⟨samePort, sameNode⟩ | open')
                · exact ahead place later
                    ⟨device.1.symm.trans samePort, device.2.symm.trans sameNode⟩
                · exact freeHere open'
              obtain ⟨p, inside', found⟩ := free₂ place later stillFree
              exact ⟨p, List.mem_cons_of_mem _ inside', found⟩
          · intro p member
            rcases List.mem_cons.mp member with rfl | later
            · refine ⟨d, new, ?_⟩
              rw [device.1, device.2]
              exact free
            · obtain ⟨d', live', free'⟩ := only p later
              exact ⟨d', live', fun open' => free' ((openAt_alloc devices).mpr (.inr open'))⟩
          · intro p d' old
            refine kept p d' ?_
            rw [devices]
            exact Heap.alloc_of_live old

/-- With at most 63 nodes on a port, all places have different ids. -/
theorem remaining_apart (bounded : ∀ port, host.nodeCount port ≤ 63) (few : it.nodes ≤ 63) :
    (it.remaining host).Pairwise Apart := by
  have small (place : Nat × Nat) (member : place ∈ it.remaining host) : place.2 < 64 := by
    have := bounded place.1
    rcases DeviceIteratorLibraw1394.mem_remaining.mp member with ⟨-, -, below⟩ | ⟨-, -, below⟩
    · omega
    · omega
  refine (DeviceIteratorLibraw1394.remaining_sorted host it).imp_of_mem ?_
  rintro a b inside inside' (less | ⟨-, less⟩) ⟨samePort, sameNode⟩
  · exact absurd samePort (Nat.ne_of_lt less)
  · exact absurd (nodeId_inj (small a inside) (small b inside') sameNode) (Nat.ne_of_lt less)

theorem freshOffers_spec (bounded : ∀ port, host.nodeCount port ≤ 63)
    (few : host.ports ≤ INT_MAX) (known : PortsKnown host s) (inOrder : InOrder s) :
    ∃ calls ptrs s', freshOffers host calls s = .returned ptrs s' ∧
      (∀ port < host.ports, ∀ index < host.nodeCount port, ¬OpenAt s port (nodeId index) →
        ∃ p ∈ ptrs, ∃ d, s'.devices p = some d ∧ d.port = port ∧ d.node = nodeId index) ∧
      ∀ p ∈ ptrs, ∃ d, s'.devices p = some d ∧ ¬OpenAt s d.port d.node := by
  obtain ⟨t, it, created, quiet, port, node, nodes⟩ := createInstance_spec known
  have atMost : it.nodes ≤ 63 := by
    rw [nodes]
    split
    · exact Nat.zero_le _
    · exact bounded 0
  obtain ⟨⟨n, log, ports, rfl⟩, known'⟩ := quiet
  have inside : it.port ≠ INT_MAX := by
    rw [port]
    decide
  obtain ⟨ptrs, s', offered, free, only, -⟩ := offers_spec
    (s := { s with
      nextHandle := n
      handleLog := log
      ports
      iterators := s.iterators.alloc it })
    few known' inOrder (Heap.alloc_next s.iterators it) inside (remaining_apart bounded atMost)
    (Nat.lt_succ_self _)
  refine ⟨(it.remaining host).length + 1, ptrs, s', ?_, ?_, only⟩
  · rw [freshOffers, Call.bind_apply, created, Outcome.andThen_returned]
    exact offered
  · intro port' inside index below freeHere
    refine free (port', index) (DeviceIteratorLibraw1394.mem_remaining.mpr ?_) freeHere
    rcases Nat.eq_zero_or_pos port' with rfl | positive
    · refine .inl ⟨port.symm, ?_, ?_⟩
      · rw [node]
        exact Nat.zero_le _
      · rw [nodes, if_neg (Nat.ne_of_gt inside)]
        exact below
    · rw [port]
      exact .inr ⟨positive, inside, lt_max_of_lt_right below⟩

/-! ## The invariant -/

/-- What holds as long as only the newest device is deleted. -/
structure Orderly (host : Host) (s : Library β) : Prop where
  inOrder : InOrder s
  known : PortsKnown host s
  unique : ∀ p q d d', s.devices p = some d → s.devices q = some d' →
    d.port = d'.port → d.node = d'.node → p = q
  connected : ∀ p ph, s.phantoms p = some ph → ∃ d, s.devices ph.firewireDevice = some d
  own : ∀ p q ph ph', s.phantoms p = some ph → s.phantoms q = some ph' →
    ph.firewireDevice = ph'.firewireDevice → p = q
  idle : ∀ p ph, s.phantoms p = some ph → ph.started = false

/-- The device is the newest one. -/
def IsNewest (s : Library β) (p : Ptr) : Prop := ∀ q d, s.devices q = some d → q ≤ p

/-- A device that is live, the newest one, and not the device of a Phantom: the
candidate of a search. -/
structure Candidate (s : Library β) (p : Ptr) : Prop where
  live : ∃ d, s.devices p = some d
  newest : IsNewest s p
  free : s.belongs p = false

namespace Orderly

theorem initial (host : Host) (bus : β) : Orderly host (Library.initial bus) where
  inOrder := inOrder_initial bus
  known := by
    intro n known
    cases known
  unique := by
    intro p q d d' live
    cases live
  connected := by
    intro p ph live
    cases live
  own := by
    intro p q ph ph' live
    cases live
  idle := by
    intro p ph live
    cases live

theorem exclusive (orderly : Orderly host s) (bounded : ∀ port, host.nodeCount port ≤ 63)
    (few : host.ports ≤ INT_MAX) : Exclusive host s :=
  ⟨orderly.unique, freshOffers_spec bounded few orderly.known orderly.inOrder⟩

/-- The iterators and handles do not matter. -/
theorem quiet (orderly : Orderly host s) (quiet : Quiet host s t)
    (iterators : Heap DeviceIteratorLibraw1394) : Orderly host { t with iterators } := by
  obtain ⟨⟨n, log, ports, rfl⟩, known⟩ := quiet
  exact { orderly with known }

/-- `next` opens at most one device, and none for a node that has one. -/
theorem next (orderly : Orderly host s) (few : host.ports ≤ INT_MAX)
    (live : s.iterators i = some it) {r : Option Ptr}
    (stepped : Library.next host i s = .returned r s') :
    Orderly host s' ∧ ∀ p, r = some p →
      Candidate s' p := by
  have spec := next_spec few orderly.known orderly.inOrder live
  rw [stepped] at spec
  cases spec with
  | ended taken left devices inOrder live' frame =>
      refine ⟨⟨inOrder, frame.known, ?_, ?_, ?_, ?_⟩, ?_⟩
      · rw [devices]
        exact orderly.unique
      · rw [devices, frame.phantoms]
        exact orderly.connected
      · rw [frame.phantoms]
        exact orderly.own
      · rw [frame.phantoms]
        exact orderly.idle
      · intro p same
        cases same
  | @found skipped it' d port index s' split taken free below device devices inOrder live' frame =>
      have fresh (q : Ptr) (d' : FirewireDeviceLibraw1394) (live : s.devices q = some d') :
          (d'.port, d'.node) ≠ (d.port, d.node) := by
        intro same
        obtain ⟨samePort, sameNode⟩ := Prod.mk.inj same
        exact free ⟨q, d', live, samePort.trans device.1, sameNode.trans device.2⟩
      refine ⟨⟨inOrder, frame.known, ?_, ?_, ?_, ?_⟩, ?_⟩
      · rw [devices]
        intro p q d₁ d₂ live₁ live₂ samePort sameNode
        refine Heap.distinct_alloc (fun p q d₁ d₂ old₁ old₂ same => ?_) fresh p q d₁ d₂ live₁ live₂
          (Prod.ext samePort sameNode)
        obtain ⟨samePort, sameNode⟩ := Prod.mk.inj same
        exact orderly.unique p q d₁ d₂ old₁ old₂ samePort sameNode
      · rw [devices, frame.phantoms]
        intro p ph live
        obtain ⟨d', live'⟩ := orderly.connected p ph live
        exact ⟨d', Heap.alloc_of_live live'⟩
      · rw [frame.phantoms]
        exact orderly.own
      · rw [frame.phantoms]
        exact orderly.idle
      · rintro p ⟨⟩
        refine ⟨⟨d, ?_⟩, ?_, ?_⟩
        · rw [devices]
          exact Heap.alloc_next ..
        · intro q d' live
          rw [devices] at live
          exact Nat.le_of_lt_succ (Heap.lt_next live)
        · -- A Phantom has an older device.
          rw [Bool.eq_false_iff, ne_eq, belongs_iff]
          rintro ⟨q, ph, live, same⟩
          rw [frame.phantoms] at live
          obtain ⟨d', live'⟩ := orderly.connected q ph live
          exact Nat.lt_irrefl _ (same ▸ Heap.lt_next live')

/-- Deleting the newest device, which belongs to no Phantom but perhaps one that
is being deleted with it. -/
theorem delete (orderly : Orderly host s) (live : s.devices p = some d) (newest : IsNewest s p)
    (phantoms : Heap Phantom)
    (others : ∀ q ph, phantoms q = some ph → s.phantoms q = some ph ∧ ph.firewireDevice ≠ p) :
    ∃ table, deleteDevice p s = .returned () (s.afterDeleteDevice p d table) ∧
      Orderly host { s.afterDeleteDevice p d table with phantoms } := by
  obtain ⟨table, deleted, inOrder⟩ := orderly.inOrder.destroy live newest
  refine ⟨table, deleted, inOrder, orderly.known, ?_, ?_, ?_, ?_⟩
  · intro p' q d₁ d₂ live₁ live₂
    exact orderly.unique p' q d₁ d₂ (Heap.free_eq_some.mp live₁).2 (Heap.free_eq_some.mp live₂).2
  · intro q ph there
    obtain ⟨before, different⟩ := others q ph there
    obtain ⟨d', live'⟩ := orderly.connected q ph before
    exact ⟨d', Heap.free_eq_some.mpr ⟨different, live'⟩⟩
  · intro q q' ph ph' there there'
    exact orderly.own q q' ph ph' (others q ph there).1 (others q' ph' there').1
  · intro q ph there
    exact orderly.idle q ph (others q ph there).1

/-- A method of a device changes no node. -/
theorem method (orderly : Orderly host s) (p : Ptr) (d : FirewireDeviceLibraw1394)
    (t : DeviceState β) : Orderly host (s.afterMethod p d t) := by
  have before (q : Ptr) (d' : FirewireDeviceLibraw1394)
      (live : (s.afterMethod p d t).devices q = some d') :
      ∃ d, s.devices q = some d ∧ d'.port = d.port ∧ d'.node = d.node := by
    obtain ⟨d, live', rfl⟩ := (Heap.modify_eq_some _).mp live
    refine ⟨d, live', ?_⟩
    split <;> exact ⟨rfl, rfl⟩
  refine { orderly with inOrder := ?_, unique := ?_, connected := ?_ }
  · show s.openDevices.Lists (s.devices.modify p _).live
    rw [Heap.live_modify]
    exact orderly.inOrder
  · intro q q' d₁ d₂ live₁ live₂ samePort sameNode
    obtain ⟨d₁', live₁', port₁, node₁⟩ := before q d₁ live₁
    obtain ⟨d₂', live₂', port₂, node₂⟩ := before q' d₂ live₂
    exact orderly.unique q q' d₁' d₂' live₁' live₂' (port₁.symm.trans (samePort.trans port₂))
      (node₁.symm.trans (sameNode.trans node₂))
  · intro q ph live
    obtain ⟨d', live'⟩ := orderly.connected q ph live
    exact ⟨_, (Heap.modify_eq_some _).mpr ⟨d', live', rfl⟩⟩

end Orderly

theorem Candidate.method (candidate : Candidate s p) (d : FirewireDeviceLibraw1394)
    (t : DeviceState β) : Candidate (s.afterMethod p d t) p where
  live := by
    obtain ⟨d', live⟩ := candidate.live
    exact ⟨_, (Heap.modify_eq_some _).mpr ⟨d', live, rfl⟩⟩
  newest := by
    intro q d' live
    obtain ⟨d, live', -⟩ := (Heap.modify_eq_some _).mp live
    exact candidate.newest q d live'
  free := candidate.free

/-- A candidate can be deleted. -/
theorem Orderly.deleteCandidate (orderly : Orderly host s) (candidate : Candidate s p) {u : Unit}
    (deleted : deleteDevice p s = .returned u s') : Orderly host s' := by
  obtain ⟨d, live⟩ := candidate.live
  obtain ⟨table, deleted', orderly'⟩ := orderly.delete live candidate.newest s.phantoms (by
    intro q ph there
    refine ⟨there, fun same => ?_⟩
    have belongs := belongs_iff.mpr ⟨q, ph, there, same⟩
    rw [candidate.free] at belongs
    exact Bool.false_ne_true belongs)
  rw [deleted'] at deleted
  cases deleted
  exact orderly'

/-- A candidate can become the device of a Phantom. -/
theorem Orderly.newPhantom (orderly : Orderly host s) (candidate : Candidate s p) :
    Orderly host { s with phantoms := s.phantoms.alloc ⟨p, false, none, none⟩ } := by
  have other (q : Ptr) (ph : Phantom) (live : s.phantoms q = some ph) :
      ph.firewireDevice ≠ p := by
    intro same
    have belongs := belongs_iff.mpr ⟨q, ph, live, same⟩
    rw [candidate.free] at belongs
    exact Bool.false_ne_true belongs
  exact { orderly with
    connected := Heap.forall_alloc candidate.live orderly.connected
    own := Heap.distinct_alloc orderly.own other
    idle := Heap.forall_alloc rfl orderly.idle }

variable [Bus β]

/-- Whatever the candidate answers, the search leaves the devices in order. -/
theorem Orderly.examine (orderly : Orderly host s) (candidate : Candidate s p) {serial : UInt32}
    {r : Option Ptr} (examined : Library.examine host serial i p s = .returned r s') :
    Orderly host s' := by
  obtain ⟨sensable, s₁, asked, rest⟩ := Call.bind_eq_returned.mp examined
  obtain ⟨d₁, t₁, -, rfl⟩ := onDevice_eq_returned asked
  have orderly₁ := orderly.method p d₁ t₁
  have candidate₁ := candidate.method d₁ t₁
  rw [Call.ite_apply] at rest
  split at rest
  · obtain ⟨deviceSerial, s₂, read, rest⟩ := Call.bind_eq_returned.mp rest
    obtain ⟨d₂, t₂, -, rfl⟩ := onDevice_eq_returned read
    have orderly₂ := orderly₁.method p d₂ t₂
    have candidate₂ := candidate₁.method d₂ t₂
    rw [Call.ite_apply] at rest
    split at rest
    · obtain ⟨_, s₃, deleted, ended⟩ := Call.bind_eq_returned.mp rest
      cases ended
      exact orderly₂.deleteCandidate candidate₂ deleted
    · obtain ⟨_, s₃, deleted, ended⟩ := Call.bind_eq_returned.mp rest
      obtain rfl := deleteIterator_eq_returned deleted
      cases ended
      exact { orderly₂.newPhantom candidate₂ with }
  · obtain ⟨_, s₂, deleted, ended⟩ := Call.bind_eq_returned.mp rest
    cases ended
    exact orderly₁.deleteCandidate candidate₁ deleted

/-- `delete` on an idle Phantom whose device is the newest one. -/
theorem Orderly.deletePhantom (orderly : Orderly host s) (live : s.phantoms p = some ph)
    (newest : IsNewest s ph.firewireDevice) (deleted : (deletePhantom p s).state? = some s') :
    Orderly host s' := by
  obtain ⟨d, liveDevice⟩ := orderly.connected p ph live
  obtain ⟨table, deletedDevice, orderly'⟩ := orderly.delete liveDevice newest (s.phantoms.free p)
    (by
      intro q ph' there
      obtain ⟨different, before⟩ := Heap.free_eq_some.mp there
      exact ⟨before, fun same => different (orderly.own q p ph' ph before live same)⟩)
  have base : deleteBaseDevice p s = .returned ()
      { s.afterDeleteDevice ph.firewireDevice d table with phantoms := s.phantoms.free p } := by
    simp only [deleteBaseDevice, Call.bind_apply, phantom_of_live live, Outcome.andThen_returned,
      deletedDevice, Call.modify_apply]
    rfl
  have stopped := congrArg Outcome.state? (stopPhantom_of_idle live (orderly.idle p ph live))
  rw [deletePhantom_state stopped base] at deleted
  exact Option.some.inj deleted ▸ orderly'

end Library

/-! ## Programs -/

variable {β : Type}

/-- The program deletes the newest device only, by itself or with its
Phantom. -/
def DeletesNewest (program : Program β) : SearchAction → Prop
  | .deleteDevice p => program.library.IsNewest p
  | .deletePhantom p => ∀ ph, program.library.phantoms p = some ph →
      program.library.IsNewest ph.firewireDevice
  | _ => True

/-- The invariant, also inside of a call of `findPhantom`. -/
structure Program.Orderly (host : Host) (program : Program β) : Prop where
  library : Library.Orderly host program.library
  candidate : ∀ search p, program.search = some search → search.candidate = some p →
    program.library.Candidate p

variable [Bus β] {host : Host} {s : Library β} {program program' : Program β}

/-- Outside of `findPhantom`, each action keeps the invariant. -/
theorem Library.Orderly.idleStep (orderly : s.Orderly host) (few : host.ports ≤ INT_MAX)
    {a : SearchAction} (newest : DeletesNewest ⟨s, none⟩ a)
    (stepped : LibPhantom.idleStep host s a = some program) : program.Orderly host := by
  have idle {s' : Library β} (library : s'.Orderly host) : Program.Orderly host ⟨s', none⟩ := by
    refine ⟨library, ?_⟩
    intro search p same
    cases same
  cases a with
  | createInstance =>
      obtain ⟨s', returned, rfl⟩ := Option.map_eq_some_iff.mp stepped
      obtain ⟨t, it, created, quiet, -⟩ := Library.createInstance_spec orderly.known
      rw [created] at returned
      cases returned
      exact idle (orderly.quiet quiet _)
  | next i =>
      obtain ⟨s', returned, rfl⟩ := Option.map_eq_some_iff.mp stepped
      cases live : s.iterators i with
      | none => simp [Library.next, Library.iterator, live] at returned
      | some it =>
          cases outcome : Library.next host i s with
          | returned r s₁ =>
              rw [outcome] at returned
              cases returned
              exact idle (orderly.next few live outcome).1
          | thrown e s₁ =>
              have spec := Library.next_spec few orderly.known orderly.inOrder live
              rw [outcome] at spec
              cases spec
          | undefined =>
              rw [outcome] at returned
              cases returned
  | deleteIterator i =>
      obtain ⟨s', returned, rfl⟩ := Option.map_eq_some_iff.mp stepped
      cases live : s.iterators i with
      | none => simp [Library.deleteIterator, Library.iterator, live] at returned
      | some it =>
          simp only [Library.deleteIterator, Call.bind_apply, Library.iterator_of_live live,
            Outcome.andThen_returned, Call.modify_apply, Outcome.state?_returned] at returned
          cases returned
          exact idle { orderly with }
  | deleteDevice p =>
      simp only [LibPhantom.idleStep] at stepped
      split at stepped
      · cases stepped
      · next free =>
          obtain ⟨s', returned, rfl⟩ := Option.map_eq_some_iff.mp stepped
          cases live : s.devices p with
          | none => simp [Library.deleteDevice, Library.device_of_dead live] at returned
          | some d =>
              have candidate : s.Candidate p := ⟨⟨d, live⟩, newest, Bool.eq_false_iff.mpr free⟩
              obtain ⟨table, deleted, -⟩ := orderly.inOrder.destroy live newest
              rw [deleted] at returned
              cases returned
              exact idle (orderly.deleteCandidate candidate deleted)
  | deletePhantom p =>
      obtain ⟨s', returned, rfl⟩ := Option.map_eq_some_iff.mp stepped
      cases live : s.phantoms p with
      | none =>
          simp [Library.deletePhantom, Library.stopPhantom, Library.phantom, live] at returned
      | some ph => exact idle (orderly.deletePhantom live (newest ph live) returned)
  | findPhantom serial =>
      obtain ⟨t, it, created, quiet, -⟩ := Library.createInstance_spec orderly.known
      simp only [LibPhantom.idleStep, created] at stepped
      cases stepped
      refine ⟨orderly.quiet quiet _, ?_⟩
      rintro search p ⟨⟩ same
      cases same
  | advance => cases stepped

/-- So does each step inside of it: what a search deletes is the newest
device. -/
theorem Program.Orderly.advance {search : Search} (orderly : Program.Orderly host ⟨s, some search⟩)
    (few : host.ports ≤ INT_MAX) {search' : Option Search} {s' : Library β}
    (advanced : search.advance host s = .returned search' s') :
    Program.Orderly host ⟨s', search'⟩ := by
  obtain ⟨serial, i, candidate⟩ := search
  cases candidate with
  | none =>
      obtain ⟨device, s₁, stepped, rest⟩ := Call.bind_eq_returned.mp advanced
      cases live : s.iterators i with
      | none => simp [Library.next, Library.iterator, live] at stepped
      | some it =>
          obtain ⟨orderly₁, found⟩ := orderly.library.next few live stepped
          cases device with
          | none =>
              obtain ⟨_, s₂, deleted, ended⟩ := Call.bind_eq_returned.mp rest
              obtain rfl := Library.deleteIterator_eq_returned deleted
              cases ended
              refine ⟨{ orderly₁ with }, ?_⟩
              intro search p same
              cases same
          | some p =>
              cases rest
              refine ⟨orderly₁, ?_⟩
              rintro search q ⟨⟩ ⟨⟩
              exact found p rfl
  | some p =>
      obtain ⟨phantom, s₁, examined, rest⟩ := Call.bind_eq_returned.mp advanced
      have orderly₁ := orderly.library.examine (orderly.candidate _ p rfl rfl) examined
      cases phantom with
      | some phantom =>
          cases rest
          refine ⟨orderly₁, ?_⟩
          intro search p same
          cases same
      | none =>
          cases rest
          refine ⟨orderly₁, ?_⟩
          rintro search q ⟨⟩ same
          cases same

/-- **One device for each node.**  On a topology with at most 63 nodes on each
port, in every run whose deletions are of the newest device, in every state, the
states inside of `findPhantom` included, no two live devices are open for the
same node, and a fresh iterator offers exactly the nodes without a live
device. -/
theorem always_exclusive_of_newest (host : Host) (bounded : ∀ port, host.nodeCount port ≤ 63)
    (few : host.ports ≤ INT_MAX) (bus : β) (actions : List SearchAction)
    (newest : (searches host).StepsMeet DeletesNewest ⟨Library.initial bus, none⟩ actions) :
    (searches host).Always (fun program => program.library.Exclusive host)
      ⟨Library.initial bus, none⟩ actions := by
  refine System.always_of_stepsMeet (I := Program.Orderly host) ?_ ?_ ?_ newest
  · refine ⟨.initial host bus, ?_⟩
    intro search p same
    cases same
  · intro program orderly
    exact orderly.library.exclusive bounded few
  · rintro ⟨s, search⟩ a program' orderly meets stepped
    cases search with
    | none => exact orderly.library.idleStep few meets stepped
    | some search =>
        cases a with
        | advance =>
            cases outcome : search.advance host s with
            | returned search' s' =>
                rw [searches_advance outcome] at stepped
                exact Option.some.inj stepped ▸ orderly.advance few outcome
            | thrown e s' => simp [searches, searchStep, outcome] at stepped
            | undefined => simp [searches, searchStep, outcome] at stepped
        | _ => cases stepped

/-- Three nodes on one port; no node is a Phantom. -/
def threeNodes : Host := ⟨.little, 1, fun _ => 3, fun _ => 0xffc2⟩

theorem threeNodes_bounded (port : Nat) : threeNodes.nodeCount port ≤ 63 :=
  show 3 ≤ 63 by decide

/-- A bus on which every byte reads as zero. -/
def silent : MemoryBus := ⟨fun _ _ _ => 0, []⟩

/-- A device is opened and deleted, and a search opens and deletes another one
for the same node. -/
theorem always_exclusive_of_newest_once :
    (searches threeNodes).Always (fun program => program.library.Exclusive threeNodes)
      ⟨Library.initial silent, none⟩
      [.createInstance, .next 0, .deleteDevice 0, .findPhantom 0, .advance, .advance] := by
  refine always_exclusive_of_newest threeNodes threeNodes_bounded (by decide) silent _ ?_
  refine ⟨trivial, ?_⟩
  rintro s₁ ⟨⟩
  refine ⟨trivial, ?_⟩
  rintro s₂ ⟨⟩
  refine ⟨?_, ?_⟩
  · intro q d live
    exact Nat.le_of_lt_succ (Heap.lt_next live)
  · intro s₃ _
    refine ⟨trivial, fun s₄ _ => ⟨trivial, fun s₅ _ => ⟨trivial, fun s₆ _ => trivial⟩⟩⟩

/-- Three devices are opened and the oldest is deleted: the table forgets the
newest, and the next iterator opens its node again. -/
def forgetful : List SearchAction :=
  [.createInstance, .next 0, .next 0, .next 0, .deleteDevice 0, .createInstance, .next 1,
    .next 1]

theorem opened_twice :
    ¬∀ (host : Host) (bus : MemoryBus) (actions : List SearchAction),
      (∀ port, host.nodeCount port ≤ 63) → host.ports ≤ INT_MAX →
        (searches host).Always (fun program => program.library.Exclusive host)
          ⟨Library.initial bus, none⟩ actions := by
  intro claim
  have always := claim threeNodes silent forgetful threeNodes_bounded (by decide)
  have twice : ((searches threeNodes).run ⟨Library.initial silent, none⟩ forgetful).map
      (fun program => ((program.library.devices 2).map fun d => (d.port, d.node),
        (program.library.devices 4).map fun d => (d.port, d.node))) =
      some (some (0, 0xffc2), some (0, 0xffc2)) := by decide
  obtain ⟨program, reached, same⟩ := Option.map_eq_some_iff.mp twice
  have exclusive := System.always_iff_prefix.mp always forgetful List.prefix_rfl program reached
  obtain ⟨same₂, same₄⟩ := Prod.mk.inj same
  obtain ⟨d₂, live₂, place₂⟩ := Option.map_eq_some_iff.mp same₂
  obtain ⟨d₄, live₄, place₄⟩ := Option.map_eq_some_iff.mp same₄
  have places := place₂.trans place₄.symm
  have shared : (2 : Nat) = 4 := exclusive.unique 2 4 d₂ d₄ live₂ live₄
    (Prod.mk.inj places).1 (Prod.mk.inj places).2
  cases shared

end LibPhantom
