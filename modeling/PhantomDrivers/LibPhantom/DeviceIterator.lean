import PhantomDrivers.LibPhantom.DeviceLifecycle

/-!
# Iterators over the nodes of the bus

`DeviceIterator.cpp` and `DeviceIteratorLibraw1394.cpp`.  An iterator walks over
the nodes of all ports and opens a device for each node that is not open at that
moment.

When `next` moves to another port it looks at its first node at once, without
asking whether the port has one: an empty port other than the first counts as a
port with one node (`visited`).

`DeviceIterator` has no virtual destructor, so `delete` on a pointer to one
frees the memory and leaves the handle of the iterator open.

* `createInstance`, `next`, `deleteIterator` — the methods.
* `remaining` — the places an iterator has not looked at.  It bounds the loop
  of `next`, and it is what the loop is about: `next` skips the places that are
  open and opens the first one that is not (`next_spec`).
-/

namespace LibPhantom

open Semantics Raw1394

/-- `node | 0xffc0` -/
def nodeId (index : Nat) : UInt16 := UInt16.ofNat index ||| 0xffc0

/-- The nodes `next` looks at when it moves to a port. -/
def visited (host : Host) (port : Nat) : List (Nat × Nat) :=
  (List.range (max 1 (host.nodeCount port))).map fun index => (port, index)

/-- The places an iterator has still to look at. -/
def DeviceIteratorLibraw1394.remaining (host : Host) (it : DeviceIteratorLibraw1394) :
    List (Nat × Nat) :=
  (List.range' it.node (it.nodes - it.node)).map (fun index => (it.port, index)) ++
    (List.range' (it.port + 1) (host.ports - (it.port + 1))).flatMap (visited host)

namespace DeviceIteratorLibraw1394

variable {host : Host} {it : DeviceIteratorLibraw1394}

theorem remaining_of_inside (inside : it.node < it.nodes) :
    it.remaining host =
      (it.port, it.node) :: { it with node := it.node + 1 }.remaining host := by
  have more : it.nodes - it.node = it.nodes - (it.node + 1) + 1 := by omega
  rw [remaining, remaining, more, List.range'_succ, List.map_cons, List.cons_append]

theorem remaining_of_through (through : it.nodes ≤ it.node) (more : it.port + 1 < host.ports)
    (handle : Option Handle) :
    it.remaining host = (it.port + 1, 0) ::
      (mk (it.port + 1) 1 (host.nodeCount (it.port + 1)) handle).remaining host := by
  have ports : host.ports - (it.port + 1) = host.ports - (it.port + 1 + 1) + 1 := by omega
  have nodes : max 1 (host.nodeCount (it.port + 1)) = host.nodeCount (it.port + 1) - 1 + 1 := by
    omega
  rw [remaining, remaining, Nat.sub_eq_zero_of_le through, ports, List.range'_succ,
    List.flatMap_cons, visited, nodes, List.range_eq_range', List.range'_succ]
  rfl

theorem remaining_of_last (through : it.nodes ≤ it.node) (last : host.ports ≤ it.port + 1) :
    it.remaining host = [] := by
  rw [remaining, Nat.sub_eq_zero_of_le through, Nat.sub_eq_zero_of_le last]
  rfl

/-- Places in the order of their ports and nodes. -/
def Before (a b : Nat × Nat) : Prop := a.1 < b.1 ∨ a.1 = b.1 ∧ a.2 < b.2

theorem mem_visited {port : Nat} {place : Nat × Nat} : place ∈ visited host port ↔
    place.1 = port ∧ place.2 < max 1 (host.nodeCount port) := by
  rw [visited, List.mem_map]
  constructor
  · rintro ⟨index, inside, rfl⟩
    exact ⟨rfl, List.mem_range.mp inside⟩
  · rintro ⟨rfl, inside⟩
    exact ⟨place.2, List.mem_range.mpr inside, rfl⟩

theorem mem_remaining {place : Nat × Nat} : place ∈ it.remaining host ↔
    place.1 = it.port ∧ it.node ≤ place.2 ∧ place.2 < it.nodes ∨
      it.port < place.1 ∧ place.1 < host.ports ∧ place.2 < max 1 (host.nodeCount place.1) := by
  rw [remaining, List.mem_append, List.mem_map, List.mem_flatMap]
  constructor
  · rintro (⟨index, inside, rfl⟩ | ⟨port, inside, member⟩)
    · rw [List.mem_range'_1] at inside
      exact .inl ⟨rfl, inside.1, by dsimp only; omega⟩
    · obtain ⟨rfl, below⟩ := mem_visited.mp member
      rw [List.mem_range'_1] at inside
      exact .inr ⟨inside.1, by omega, below⟩
  · rintro (⟨same, above, below⟩ | ⟨later, inside, below⟩)
    · refine .inl ⟨place.2, List.mem_range'_1.mpr ⟨above, by omega⟩, ?_⟩
      rw [← same]
    · exact .inr ⟨place.1, List.mem_range'_1.mpr ⟨later, by omega⟩, mem_visited.mpr ⟨rfl, below⟩⟩

/-- The nodes of a port come in order. -/
theorem sorted_of_port (port start count : Nat) :
    ((List.range' start count).map fun index => (port, index)).Pairwise Before := by
  rw [List.pairwise_map]
  exact (List.pairwise_lt_range').imp fun less => .inr ⟨rfl, less⟩

/-- An iterator looks at its places in order, so at each of them once. -/
theorem remaining_sorted (host : Host) (it : DeviceIteratorLibraw1394) :
    (it.remaining host).Pairwise Before := by
  rw [remaining, List.pairwise_append]
  refine ⟨sorted_of_port it.port _ _, ?_, ?_⟩
  · rw [List.pairwise_flatMap]
    constructor
    · intro port _
      rw [visited, List.range_eq_range']
      exact sorted_of_port port _ _
    · refine (List.pairwise_lt_range').imp ?_
      intro port port' less a inside b inside'
      rw [(mem_visited.mp inside).1.symm, (mem_visited.mp inside').1.symm] at less
      exact .inl less
  · intro a inside b later
    obtain ⟨index, -, rfl⟩ := List.mem_map.mp inside
    obtain ⟨port, above, member⟩ := List.mem_flatMap.mp later
    rw [List.mem_range'_1] at above
    exact .inl ((mem_visited.mp member).1 ▸ above.1)

end DeviceIteratorLibraw1394

/-- The nodes of a port have different ids. -/
theorem nodeId_inj {i j : Nat} (small : i < 64) (small' : j < 64) (same : nodeId i = nodeId j) :
    i = j := by
  have value : ∀ k < 64, nodeId k = UInt16.ofNat (0xffc0 + k) := by decide
  rw [value i small, value j small'] at same
  have := congrArg UInt16.toNat same
  simp only [UInt16.toNat_ofNat'] at this
  omega

namespace Library

variable {β : Type}

/-- Follow a pointer to an iterator. -/
def iterator (i : Ptr) : Call Exn (Library β) DeviceIteratorLibraw1394 := do
  match (← get).iterators i with
  | none => Call.undefined
  | some it => return it

/-- `DeviceIteratorLibraw1394::getPorts` -/
def getPorts (host : Host) : Call Exn (Library β) Nat := do
  match (← get).ports with
  | some ports => return ports
  | none =>
      -- `raw1394_new_handle`: no port is set on this handle, and none is needed
      let handle ← newHandle 0
      useHandle handle
      modify fun s => { s with ports := some host.ports }
      destroyHandle handle
      return host.ports

/-- A handle on a port, and the number of nodes it reports. -/
def openPort (host : Host) (port : Nat) : Call Exn (Library β) (Handle × Nat) := do
  let handle ← newHandle port
  useHandle handle
  return (handle, host.nodeCount port)

/-- `DeviceIterator::createInstance`, and the constructor of
`DeviceIteratorLibraw1394`. -/
def createInstance (host : Host) : Call Exn (Library β) Ptr := do
  let this := (← get).iterators.next
  if (← getPorts host) = 0 then
    modify fun s => { s with iterators := s.iterators.alloc ⟨0, 0, 0, none⟩ }
    return this
  else
    let opened ← openPort host 0
    modify fun s =>
      { s with iterators := s.iterators.alloc ⟨0, 0, opened.2, some opened.1⟩ }
    return this

/-- `delete` on a `DeviceIterator`. -/
def deleteIterator (i : Ptr) : Call Exn (Library β) Unit := do
  let _ ← iterator i
  modify fun s => { s with iterators := s.iterators.free i }

/-- `raw1394_destroy_handle`, which ignores a null pointer. -/
def closePort (handle : Option Handle) : Call Exn (Library β) Unit := do
  match handle with
  | none => return ()
  | some handle => destroyHandle handle

/-- The first half of a round of the loop of `next`: an iterator that is through
with its port moves to the next one, if there is one. -/
def nextPort (host : Host) (it : DeviceIteratorLibraw1394) :
    Call Exn (Library β) (Bool × DeviceIteratorLibraw1394) := do
  if it.nodes ≤ it.node then
    -- `port++` on an `int`
    if it.port = INT_MAX then
      Call.undefined
    else if (← getPorts host) ≤ it.port + 1 then
      return (false, { it with port := it.port + 1 })
    else
      closePort it.handle
      let opened ← openPort host (it.port + 1)
      return (true, ⟨it.port + 1, 0, opened.2, some opened.1⟩)
  else
    return (true, it)

/-- The second half: the node is opened, unless it is open. -/
def lookAt (host : Host) (it : DeviceIteratorLibraw1394) :
    Call Exn (Library β) (Option Ptr × DeviceIteratorLibraw1394) := do
  if ← deviceIsOpen it.port (nodeId it.node) then
    return (none, { it with node := it.node + 1 })
  else
    let device ← newDevice host it.port (nodeId it.node)
    return (some device, { it with node := it.node + 1 })

/-- The loop of `next` on the fields of an iterator, with the given number of
rounds left. -/
def nextFrom (host : Host) : Nat → DeviceIteratorLibraw1394 →
    Call Exn (Library β) (Option Ptr × DeviceIteratorLibraw1394)
  | 0, _ => Call.undefined
  | rounds + 1, it => do
      match ← nextPort host it with
      | (false, it) => return (none, it)
      | (true, it) =>
          match ← lookAt host it with
          | (some device, it) => return (some device, it)
          | (none, it) => nextFrom host rounds it

/-- `DeviceIteratorLibraw1394::next` -/
def next (host : Host) (i : Ptr) : Call Exn (Library β) (Option Ptr) := do
  let it ← iterator i
  let result ← nextFrom host ((it.remaining host).length + 1) it
  modify fun s => { s with iterators := s.iterators.modify i fun _ => result.2 }
  return result.1

/-! ## What changes -/

/-- Nothing has changed but handles and the cached number of ports. -/
structure Quiet (host : Host) (s t : Library β) : Prop where
  same : ∃ nextHandle handleLog ports, t = { s with nextHandle, handleLog, ports }
  ports : ∀ n, t.ports = some n → n = host.ports

/-- There is a live device for this node. -/
def OpenAt (s : Library β) (port : Nat) (node : UInt16) : Prop :=
  ∃ p d, s.devices p = some d ∧ d.port = port ∧ d.node = node

/-- The number of ports, if it is known, is the one of the machine. -/
def PortsKnown (host : Host) (s : Library β) : Prop := ∀ n, s.ports = some n → n = host.ports

variable {s t u : Library β} {host : Host} {it it' : DeviceIteratorLibraw1394} {i p : Ptr}
  {port : Nat} {node : UInt16}

namespace Quiet

theorem refl (known : PortsKnown host s) : Quiet host s s := ⟨⟨_, _, _, rfl⟩, known⟩

theorem trans (first : Quiet host s t) (second : Quiet host t u) : Quiet host s u := by
  obtain ⟨⟨n, log, ports, rfl⟩, -⟩ := first
  obtain ⟨⟨n', log', ports', rfl⟩, known⟩ := second
  exact ⟨⟨n', log', ports', rfl⟩, known⟩

/-- A change of handles only. -/
theorem handles (known : PortsKnown host s) (n : Nat) (log : List HandleEvent) :
    Quiet host s { s with nextHandle := n, handleLog := log } :=
  ⟨⟨n, log, s.ports, rfl⟩, known⟩

theorem next (quiet : Quiet host s t) : t.devices.next = s.devices.next := by
  obtain ⟨⟨n, log, ports, rfl⟩, -⟩ := quiet
  rfl

theorem openDevices (quiet : Quiet host s t) : t.openDevices = s.openDevices := by
  obtain ⟨⟨n, log, ports, rfl⟩, -⟩ := quiet
  rfl

theorem devices (quiet : Quiet host s t) : t.devices = s.devices := by
  obtain ⟨⟨n, log, ports, rfl⟩, -⟩ := quiet
  rfl

theorem iterators (quiet : Quiet host s t) : t.iterators = s.iterators := by
  obtain ⟨⟨n, log, ports, rfl⟩, -⟩ := quiet
  rfl

theorem inOrder (quiet : Quiet host s t) (inOrder : InOrder s) : InOrder t := by
  obtain ⟨⟨n, log, ports, rfl⟩, -⟩ := quiet
  exact inOrder

end Quiet

/-! ### What `deviceIsOpen` answers -/

/-- The answer of `deviceIsOpen` for a place, if it has one: a pointer to a
deleted device in the table leaves it undefined. -/
def isOpen? (s : Library β) (place : Nat × Nat) : Option Bool :=
  (deviceIsOpen place.1 (nodeId place.2) s).value?

/-- The answer depends on the table and the devices, and asking changes
nothing. -/
theorem searchOpen_congr (openDevices : t.openDevices = s.openDevices)
    (devices : t.devices = s.devices) (n j : Nat) :
    searchOpen port node n j t =
      match (searchOpen port node n j s).value? with
      | some found => .returned found t
      | none => .undefined := by
  induction n generalizing j with
  | zero => rfl
  | succ n ih =>
      simp only [searchOpen, Call.bind_apply, Call.get_apply, Outcome.andThen_returned,
        openDevices]
      split
      · next p _ =>
          cases live : s.devices p with
          | none =>
              have live' : t.devices p = none := by rw [devices, live]
              rw [Call.bind_apply, Call.bind_apply, device_of_dead live, device_of_dead live']
              rfl
          | some d =>
              have live' : t.devices p = some d := by rw [devices, live]
              rw [Call.bind_apply, Call.bind_apply, device_of_live live, device_of_live live',
                Outcome.andThen_returned, Outcome.andThen_returned, Call.ite_apply,
                Call.ite_apply]
              split
              · rfl
              · exact ih (j + 1)
      · rfl

theorem deviceIsOpen_congr (openDevices : t.openDevices = s.openDevices)
    (devices : t.devices = s.devices) (place : Nat × Nat) :
    deviceIsOpen place.1 (nodeId place.2) t =
      match s.isOpen? place with
      | some found => .returned found t
      | none => .undefined := by
  simp only [isOpen?, deviceIsOpen, Call.bind_apply, Call.get_apply, Outcome.andThen_returned,
    openDevices]
  exact searchOpen_congr openDevices devices s.openDevices.number 0

theorem Quiet.deviceIsOpen (quiet : Quiet host s t) (place : Nat × Nat) :
    Library.deviceIsOpen place.1 (nodeId place.2) t =
      match s.isOpen? place with
      | some found => .returned found t
      | none => .undefined :=
  deviceIsOpen_congr quiet.openDevices quiet.devices place

/-- If the table is in order, the places with a live device are the open
ones. -/
theorem isOpen?_of_inOrder (inOrder : InOrder s) (place : Nat × Nat) :
    ∃ found, s.isOpen? place = some found ∧
      (found = true ↔ OpenAt s place.1 (nodeId place.2)) := by
  obtain ⟨found, searched, spec⟩ := inOrder.registered.deviceIsOpen place.1 (nodeId place.2)
  exact ⟨found, congrArg Outcome.value? searched, spec⟩

theorem iterator_of_live (live : s.iterators i = some it) : iterator i s = .returned it s := by
  simp [iterator, live]

theorem getPorts_eq (known : PortsKnown host s) :
    ∃ t, getPorts host s = .returned host.ports t ∧ Quiet host s t := by
  cases cached : s.ports with
  | none =>
      refine ⟨{ s with
        nextHandle := s.nextHandle + 1
        handleLog := s.handleLog ++ [.opened s.nextHandle] ++ [.used s.nextHandle] ++
          [.destroyed s.nextHandle]
        ports := some host.ports }, ?_, ⟨_, _, _, rfl⟩, ?_⟩
      · simp [getPorts, newHandle, useHandle, destroyHandle, cached]
      · rintro n ⟨⟩
        rfl
  | some n =>
      refine ⟨s, ?_, .refl known⟩
      simp [getPorts, cached, known n cached]

theorem closePort_quiet (known : PortsKnown host s) (handle : Option Handle) :
    ∃ t, closePort handle s = .returned () t ∧ Quiet host s t := by
  cases handle with
  | none => exact ⟨s, rfl, .refl known⟩
  | some handle => exact ⟨_, rfl, .handles known _ _⟩

theorem openPort_quiet (known : PortsKnown host s) (port : Nat) :
    ∃ t opened, openPort host port s = .returned (opened, host.nodeCount port) t ∧
      Quiet host s t :=
  ⟨_, _, rfl, .handles known _ _⟩

/-! ## The loop of `next` -/

/-- How the loop ends that an iterator enters in a state `s`, whatever the table
of open devices is like. -/
inductive Scans (host : Host) (s : Library β) (it : DeviceIteratorLibraw1394) :
    Outcome Exn (Library β) (Option Ptr × DeviceIteratorLibraw1394) → Prop
  | found {skipped : List (Nat × Nat)} {place : Nat × Nat} {it' : DeviceIteratorLibraw1394}
      {t : Library β} {table : OpenDevices}
      (split : it.remaining host = skipped ++ place :: it'.remaining host)
      (taken : ∀ q ∈ skipped, s.isOpen? q = some true)
      (free : s.isOpen? place = some false)
      (below : it'.port = INT_MAX → it.port = INT_MAX)
      (quiet : Quiet host s t)
      (registered : t.openDevices.register s.devices.next = some table) :
      Scans host s it (.returned (some s.devices.next, it')
        (t.afterNewDevice host place.1 (nodeId place.2) table))
  | ended {it' : DeviceIteratorLibraw1394} {t : Library β}
      (taken : ∀ q ∈ it.remaining host, s.isOpen? q = some true)
      (left : it'.remaining host = [])
      (quiet : Quiet host s t) :
      Scans host s it (.returned (none, it') t)
  | overflow (last : it.port = INT_MAX) : Scans host s it .undefined
  | dangling {place : Nat × Nat} (member : place ∈ it.remaining host)
      (unanswered : s.isOpen? place = none) : Scans host s it .undefined
  | full (unregistered : s.openDevices.register s.devices.next = none) : Scans host s it .undefined

theorem Quiet.isOpen? (quiet : Quiet host s t) (place : Nat × Nat) :
    t.isOpen? place = s.isOpen? place := by
  have answered := congrArg Outcome.value? (quiet.deviceIsOpen place)
  cases value : s.isOpen? place with
  | none => rwa [value] at answered
  | some found => rwa [value] at answered

/-- A place that is open is skipped. -/
theorem Scans.skip {o : Outcome Exn (Library β) (Option Ptr × DeviceIteratorLibraw1394)}
    {place : Nat × Nat} (scans : Scans host t it' o) (quiet : Quiet host s t)
    (split : it.remaining host = place :: it'.remaining host)
    (open' : s.isOpen? place = some true) (below : it'.port = INT_MAX → it.port = INT_MAX) :
    Scans host s it o := by
  cases scans with
  | @found skipped place' it'' t' table split' taken free below' quiet' registered =>
      have whole : it.remaining host =
          (place :: skipped) ++ place' :: it''.remaining host := by
        rw [split, split', List.cons_append]
      rw [quiet.next] at registered ⊢
      refine .found whole ?_ (quiet.isOpen? place' ▸ free) (fun last => below (below' last))
        (quiet.trans quiet') registered
      intro q member
      rcases List.mem_cons.mp member with rfl | later
      · exact open'
      · exact quiet.isOpen? q ▸ taken q later
  | ended taken left quiet' =>
      refine .ended ?_ left (quiet.trans quiet')
      intro q member
      rw [split] at member
      rcases List.mem_cons.mp member with rfl | later
      · exact open'
      · exact quiet.isOpen? q ▸ taken q later
  | overflow last => exact .overflow (below last)
  | @dangling place' member unanswered =>
      have unanswered' : s.isOpen? place' = none := quiet.isOpen? place' ▸ unanswered
      refine .dangling ?_ unanswered'
      rw [split]
      exact List.mem_cons_of_mem _ member
  | full unregistered =>
      rw [quiet.openDevices, quiet.next] at unregistered
      exact .full unregistered

/-- How a round starts: at the next of the remaining places, if there is one. -/
theorem nextPort_cases (few : host.ports ≤ INT_MAX) (known : PortsKnown host s)
    (it : DeviceIteratorLibraw1394) :
    it.port = INT_MAX ∧ nextPort host it s = .undefined ∨
      ∃ t it₁, Quiet host s t ∧
        (nextPort host it s = .returned (false, it₁) t ∧ it.remaining host = [] ∧
            it₁.remaining host = [] ∨
          nextPort host it s = .returned (true, it₁) t ∧
            (it₁.port = INT_MAX → it.port = INT_MAX) ∧
            it.remaining host = (it₁.port, it₁.node) ::
              { it₁ with node := it₁.node + 1 }.remaining host) := by
  by_cases inside : it.node < it.nodes
  · refine .inr ⟨s, it, .refl known, .inr ⟨?_, id, ?_⟩⟩
    · rw [nextPort, if_neg (Nat.not_le.mpr inside)]
      rfl
    · exact DeviceIteratorLibraw1394.remaining_of_inside inside
  have through := Nat.not_lt.mp inside
  by_cases last : it.port = INT_MAX
  · refine .inl ⟨last, ?_⟩
    simp [nextPort, through, last]
  obtain ⟨t, ports, quiet⟩ := getPorts_eq known
  by_cases more : it.port + 1 < host.ports
  · obtain ⟨t₁, closed, quiet₁⟩ := closePort_quiet quiet.ports it.handle
    obtain ⟨t₂, opened, reopened, quiet₂⟩ := openPort_quiet quiet₁.ports (it.port + 1)
    refine .inr ⟨t₂, ⟨it.port + 1, 0, host.nodeCount (it.port + 1), some opened⟩,
      (quiet.trans quiet₁).trans quiet₂, .inr ⟨?_, ?_, ?_⟩⟩
    · simp [nextPort, through, last, ports, Nat.not_le.mpr more, closed, reopened]
    · intro same
      exact absurd same (Nat.ne_of_lt (Nat.lt_of_lt_of_le more few))
    · exact DeviceIteratorLibraw1394.remaining_of_through through more (some opened)
  · have past := Nat.not_lt.mp more
    refine .inr ⟨t, { it with port := it.port + 1 }, quiet, .inl ⟨?_, ?_, ?_⟩⟩
    · simp [nextPort, through, last, ports, past]
    · exact DeviceIteratorLibraw1394.remaining_of_last through past
    · exact DeviceIteratorLibraw1394.remaining_of_last through (Nat.le_succ_of_le past)

/-- The loop always ends, and it ends as `Scans` says. -/
theorem nextFrom_scans (few : host.ports ≤ INT_MAX) {rounds : Nat} (known : PortsKnown host s)
    (enough : (it.remaining host).length < rounds) :
    Scans host s it (nextFrom host rounds it s) := by
  induction rounds generalizing s it with
  | zero => exact absurd enough (Nat.not_lt_zero _)
  | succ rounds ih =>
      rcases nextPort_cases few known it with
        ⟨last, moved⟩ | ⟨t, it₁, quiet, ⟨moved, done, left⟩ | ⟨moved, below, split⟩⟩
      · have step : nextFrom host (rounds + 1) it s = .undefined := by simp [nextFrom, moved]
        rw [step]
        exact .overflow last
      · have step : nextFrom host (rounds + 1) it s = .returned (none, it₁) t := by
          simp [nextFrom, moved]
        rw [step]
        refine .ended ?_ left quiet
        intro place member
        rw [done] at member
        cases member
      · have asked := quiet.deviceIsOpen (it₁.port, it₁.node)
        cases answer : s.isOpen? (it₁.port, it₁.node) with
        | none =>
            rw [answer] at asked
            have step : nextFrom host (rounds + 1) it s = .undefined := by
              simp [nextFrom, moved, lookAt, asked]
            rw [step]
            exact .dangling (split ▸ List.mem_cons_self) answer
        | some found =>
            rw [answer] at asked
            cases found with
            | true =>
                -- The place is open: the loop goes on with one place less.
                have step : nextFrom host (rounds + 1) it s =
                    nextFrom host rounds { it₁ with node := it₁.node + 1 } t := by
                  simp [nextFrom, moved, lookAt, asked]
                rw [split, List.length_cons] at enough
                have rest := ih quiet.ports (Nat.lt_of_succ_lt_succ enough)
                rw [step]
                exact rest.skip quiet split answer below
            | false =>
                cases registered : t.openDevices.register t.devices.next with
                | none =>
                    have step : nextFrom host (rounds + 1) it s = .undefined := by
                      simp [nextFrom, moved, lookAt, asked, newDevice, newCommunication,
                        newHandle, useHandle, registered]
                    rw [step]
                    rw [quiet.openDevices, quiet.next] at registered
                    exact .full registered
                | some table =>
                    have step : nextFrom host (rounds + 1) it s =
                        .returned (some s.devices.next, { it₁ with node := it₁.node + 1 })
                          (t.afterNewDevice host it₁.port (nodeId it₁.node) table) := by
                      simp [nextFrom, moved, lookAt, asked, newDevice_eq registered, quiet.next]
                    rw [step]
                    rw [quiet.next] at registered
                    refine .found (split.trans (List.nil_append _).symm) ?_ answer below quiet
                      registered
                    intro q member
                    cases member

/-- How the loop ends if the table is in order. -/
inductive Sweeps (host : Host) (s : Library β) (it : DeviceIteratorLibraw1394) :
    Outcome Exn (Library β) (Option Ptr × DeviceIteratorLibraw1394) → Prop
  | found {skipped : List (Nat × Nat)} {port index : Nat} {it' : DeviceIteratorLibraw1394}
      {t : Library β} {table : OpenDevices}
      (split : it.remaining host = skipped ++ (port, index) :: it'.remaining host)
      (taken : ∀ place ∈ skipped, OpenAt s place.1 (nodeId place.2))
      (free : ¬OpenAt s port (nodeId index))
      (below : it'.port = INT_MAX → it.port = INT_MAX)
      (quiet : Quiet host s t)
      (inOrder : InOrder (t.afterNewDevice host port (nodeId index) table)) :
      Sweeps host s it (.returned (some s.devices.next, it')
        (t.afterNewDevice host port (nodeId index) table))
  | ended {it' : DeviceIteratorLibraw1394} {t : Library β}
      (taken : ∀ place ∈ it.remaining host, OpenAt s place.1 (nodeId place.2))
      (left : it'.remaining host = [])
      (quiet : Quiet host s t) :
      Sweeps host s it (.returned (none, it') t)
  | overflow (last : it.port = INT_MAX) : Sweeps host s it .undefined

/-- In order, the open places are those with a live device. -/
theorem Scans.sweeps {o : Outcome Exn (Library β) (Option Ptr × DeviceIteratorLibraw1394)}
    (scans : Scans host s it o) (inOrder : InOrder s) : Sweeps host s it o := by
  have open' (place : Nat × Nat) (answer : s.isOpen? place = some true) :
      OpenAt s place.1 (nodeId place.2) := by
    obtain ⟨found, answered, spec⟩ := isOpen?_of_inOrder inOrder place
    exact spec.mp (Option.some.inj (answered.symm.trans answer))
  cases scans with
  | @found skipped place it' t table split taken free below quiet registered =>
      refine .found split (fun q member => open' q (taken q member)) ?_ below quiet ?_
      · intro isOpen
        obtain ⟨found, answered, spec⟩ := isOpen?_of_inOrder inOrder place
        rw [free, Option.some.injEq] at answered
        exact Bool.false_ne_true (answered.trans (spec.mpr isOpen))
      · obtain ⟨table', constructed, inOrder'⟩ :=
          (quiet.inOrder inOrder).construct host place.1 (nodeId place.2)
        rw [← quiet.next] at registered
        rw [newDevice_eq registered] at constructed
        rw [(Outcome.returned.inj constructed).2]
        exact inOrder'
  | ended taken left quiet => exact .ended (fun q member => open' q (taken q member)) left quiet
  | overflow last => exact .overflow last
  | @dangling place member unanswered =>
      obtain ⟨found, answered, -⟩ := isOpen?_of_inOrder inOrder place
      exact absurd (unanswered.symm.trans answered) (Option.some_ne_none _).symm
  | full unregistered =>
      obtain ⟨table, registered, -⟩ := OpenDevices.register_spec inOrder s.devices.next
      exact absurd (unregistered.symm.trans registered) (Option.some_ne_none _).symm

theorem nextFrom_sweeps (few : host.ports ≤ INT_MAX) {rounds : Nat} (known : PortsKnown host s)
    (inOrder : InOrder s) (enough : (it.remaining host).length < rounds) :
    Sweeps host s it (nextFrom host rounds it s) :=
  (nextFrom_scans few known enough).sweeps inOrder

/-! ## The specification of `next` -/

/-- What a call of `next` leaves alone, beside the devices. -/
structure NextFrame (host : Host) (i : Ptr) (s s' : Library β) : Prop where
  phantoms : s'.phantoms = s.phantoms
  isoChannels : s'.isoChannels = s.isoChannels
  bus : s'.bus = s.bus
  others : ∀ j ≠ i, s'.iterators j = s.iterators j
  known : PortsKnown host s'

/-- How a call of `next` on the iterator `i` ends. -/
inductive Nexts (host : Host) (s : Library β) (i : Ptr) (it : DeviceIteratorLibraw1394) :
    Outcome Exn (Library β) (Option Ptr) → Prop
  | found {skipped : List (Nat × Nat)} {it' : DeviceIteratorLibraw1394}
      {d : FirewireDeviceLibraw1394} {port index : Nat} {s' : Library β}
      (split : it.remaining host = skipped ++ (port, index) :: it'.remaining host)
      (taken : ∀ place ∈ skipped, OpenAt s place.1 (nodeId place.2))
      (free : ¬OpenAt s port (nodeId index))
      (below : it'.port = INT_MAX → it.port = INT_MAX)
      (device : d.port = port ∧ d.node = nodeId index)
      (devices : s'.devices = s.devices.alloc d)
      (inOrder : InOrder s')
      (live : s'.iterators i = some it')
      (frame : NextFrame host i s s') :
      Nexts host s i it (.returned (some s.devices.next) s')
  | ended {it' : DeviceIteratorLibraw1394} {s' : Library β}
      (taken : ∀ place ∈ it.remaining host, OpenAt s place.1 (nodeId place.2))
      (left : it'.remaining host = [])
      (devices : s'.devices = s.devices)
      (inOrder : InOrder s')
      (live : s'.iterators i = some it')
      (frame : NextFrame host i s s') :
      Nexts host s i it (.returned none s')
  | overflow (last : it.port = INT_MAX) : Nexts host s i it .undefined

/-- A call of `next` is the loop on the fields of the iterator. -/
theorem next_eq (live : s.iterators i = some it) : next host i s =
    (nextFrom host ((it.remaining host).length + 1) it s).andThen fun result =>
      ⟨fun t => .returned result.1
        { t with iterators := t.iterators.modify i fun _ => result.2 }⟩ := by
  simp only [next, Call.bind_apply, iterator_of_live live, Outcome.andThen_returned]
  rfl

/-- `next` skips the open places and opens the first one that is not open. -/
theorem next_spec (few : host.ports ≤ INT_MAX) (known : PortsKnown host s) (inOrder : InOrder s)
    (live : s.iterators i = some it) : Nexts host s i it (next host i s) := by
  have stored (t : Heap DeviceIteratorLibraw1394) (same : t = s.iterators)
      (it' : DeviceIteratorLibraw1394) : (t.modify i fun _ => it') i = some it' := by
    rw [Heap.modify_self, same, live]
    rfl
  have sweeps := nextFrom_sweeps few known inOrder (Nat.lt_succ_self (it.remaining host).length)
  rw [next_eq live]
  generalize nextFrom host ((it.remaining host).length + 1) it s = outcome at sweeps ⊢
  cases sweeps with
  | found split taken free below quiet inOrder' =>
      obtain ⟨⟨n, log, ports, rfl⟩, known'⟩ := quiet
      exact .found split taken free below ⟨rfl, rfl⟩ rfl inOrder' (stored _ rfl _)
        ⟨rfl, rfl, rfl, fun j different => Heap.modify_of_ne _ different, known'⟩
  | ended taken left quiet =>
      obtain ⟨⟨n, log, ports, rfl⟩, known'⟩ := quiet
      exact .ended taken left rfl inOrder (stored _ rfl _)
        ⟨rfl, rfl, rfl, fun j different => Heap.modify_of_ne _ different, known'⟩
  | overflow last => exact .overflow last

/-- A new iterator has all the places before it. -/
theorem createInstance_spec (known : PortsKnown host s) :
    ∃ t it, createInstance host s = .returned s.iterators.next
        { t with iterators := t.iterators.alloc it } ∧
      Quiet host s t ∧ it.port = 0 ∧ it.node = 0 ∧
      it.nodes = if host.ports = 0 then 0 else host.nodeCount 0 := by
  obtain ⟨t, ports, quiet⟩ := getPorts_eq known
  by_cases empty : host.ports = 0
  · refine ⟨t, ⟨0, 0, 0, none⟩, ?_, quiet, rfl, rfl, (if_pos empty).symm⟩
    simp [createInstance, ports, empty]
  · obtain ⟨u, handle, opened, quiet'⟩ := openPort_quiet quiet.ports 0
    refine ⟨u, ⟨0, 0, host.nodeCount 0, some handle⟩, ?_, quiet.trans quiet', rfl, rfl,
      (if_neg empty).symm⟩
    simp [createInstance, ports, empty, opened]

end Library

end LibPhantom
