import PhantomDrivers.LibPhantom.DeviceIterator

/-!
# A walk over the bus

One iterator is called again and again, while others open and close devices in
between, in any order.

What an iterator is for does not speak about ports that are entered or nodes
that are counted: it walks over the places of the bus in their order, returns
each of them unless its device is open when its turn comes, and then `NULL` for
ever.  `Iterates` says this of a record of calls.

* `Cursor`, `Allows`, `Iterates` — an iterator as it should be.
* `walks` — the runs.
* `NextSafe` — when a call of `next` goes well.
* `always_iterates_of_safe` — the iterator of the library keeps to it as long as
  `next` meets no pointer to a deleted device in the table, does not have to stop
  at a port without nodes, and can count the port up.
-/

namespace LibPhantom

open Semantics Raw1394

/-! ## An iterator as it should be -/

/-- There is such a node. -/
def OnBus (host : Host) (place : Nat × Nat) : Prop :=
  place.1 < host.ports ∧ place.2 < host.nodeCount place.1

/-- How far an iterator has come. -/
inductive Cursor where
  | start
  | after (place : Nat × Nat)
  | finished
deriving DecidableEq, Repr

/-- How a call of `next` ends: with a device for a place, with `NULL`, or with
no defined behaviour. -/
inductive NextResult where
  | device (place : Nat × Nat)
  | null
  | failed
deriving DecidableEq, Repr

/-- A call of `next`: what `deviceIsOpen` answers for each place at that moment,
and how the call ends. -/
structure NextCall where
  isOpen : Nat × Nat → Option Bool
  result : NextResult

namespace Cursor

open DeviceIteratorLibraw1394

/-- The places whose turn has not come. -/
def Ahead : Cursor → Nat × Nat → Prop
  | start, _ => True
  | after place, q => Before place q
  | finished, _ => False

/-- The cursor after a call. -/
def advance (c : Cursor) (call : NextCall) : Cursor :=
  match call.result with
  | .device place => after place
  | .null => finished
  | .failed => c

/-- The call may end as it does: it returns a node of the bus, or `NULL` at the
end of the bus, and what it skips is open. -/
def Allows (host : Host) (c : Cursor) (call : NextCall) : Prop :=
  match call.result with
  | .device place => OnBus host place ∧ c.Ahead place ∧
      ∀ q, OnBus host q → c.Ahead q → Before q place → call.isOpen q = some true
  | .null => ∀ q, OnBus host q → c.Ahead q → call.isOpen q = some true
  | .failed => False

/-- An iterator that has come to the cursor may answer the calls so. -/
def Iterates (host : Host) : Cursor → List NextCall → Prop
  | _, [] => True
  | c, call :: calls => Allows host c call ∧ Iterates host (c.advance call) calls

variable {host : Host} {c : Cursor} {calls : List NextCall} {call : NextCall}
  {a b d place q : Nat × Nat}

theorem iterates_concat : Iterates host c (calls ++ [call]) ↔
    Iterates host c calls ∧ Allows host (calls.foldl advance c) call := by
  induction calls generalizing c with
  | nil => simp [Iterates]
  | cons first calls ih => rw [List.cons_append, Iterates, Iterates, ih, List.foldl_cons, and_assoc]

/-- What an iterator returns exists. -/
theorem Iterates.onBus (iterates : Iterates host c calls) (member : call ∈ calls)
    (result : call.result = .device place) : OnBus host place := by
  induction calls generalizing c with
  | nil => cases member
  | cons first calls ih =>
      rcases List.mem_cons.mp member with rfl | later
      · have allowed := iterates.1
        rw [Allows, result] at allowed
        exact allowed.1
      · exact ih iterates.2 later

theorem before_trans (first : Before a b) (second : Before b d) : Before a d := by
  unfold Before at *
  omega

theorem not_before_self (a : Nat × Nat) : ¬Before a a := by
  unfold Before
  omega

theorem Ahead.trans (ahead : c.Ahead place) (later : Before place q) : c.Ahead q := by
  cases c with
  | start => trivial
  | after first => exact before_trans ahead later
  | finished => exact ahead.elim

end Cursor

/-! ## Runs -/

/-- An iterator and what its calls ended with. -/
structure Walk (β : Type) where
  library : Library β
  iterator : Option Ptr
  calls : List NextCall

/-- What happens: the iterator is created or called, or somebody opens or closes
a device. -/
inductive WalkAction where
  | createInstance
  | next
  | openDevice (port : Nat) (node : UInt16)
  | closeDevice (p : Ptr)
deriving DecidableEq, Repr

variable {β : Type}

/-- The place of a device. -/
def FirewireDeviceLibraw1394.place (d : FirewireDeviceLibraw1394) : Nat × Nat :=
  (d.port, (d.node &&& 0x3f).toNat)

/-- How a call of `next` ended. -/
def nextResult (outcome : Outcome Exn (Library β) (Option Ptr)) : NextResult :=
  match outcome with
  | .returned none _ => .null
  | .returned (some p) s =>
      match s.devices p with
      | some d => .device d.place
      | none => .failed
  | _ => .failed

namespace Walk

/-- A program that has just started. -/
def initial (bus : β) : Walk β := ⟨Library.initial bus, none, []⟩

/-- A call of `next`. -/
def next (host : Host) (w : Walk β) (i : Ptr) : Walk β :=
  let outcome := Library.next host i w.library
  { w with
    library := outcome.state?.getD w.library
    calls := w.calls ++ [⟨w.library.isOpen?, nextResult outcome⟩] }

/-- The next action, if it is possible. -/
def act (host : Host) (w : Walk β) : WalkAction → Option (Walk β)
  | .createInstance =>
      match w.iterator, Library.createInstance host w.library with
      | none, .returned i library => some { w with library, iterator := some i }
      | _, _ => none
  | .next => w.iterator.map (w.next host)
  | .openDevice port node =>
      (Library.newDevice host port node w.library).state?.map fun library => { w with library }
  | .closeDevice p =>
      if (w.library.devices p).isSome then
        (Library.deleteDevice p w.library).state?.map fun library => { w with library }
      else none

end Walk

/-- The runs.  Nothing follows a call that has no defined behaviour. -/
def walks (host : Host) : System (Walk β) WalkAction where
  step w a := if w.calls.any fun call => call.result = .failed then none else w.act host a

/-- `next` is only called while the port of the iterator can still be counted up,
`deviceIsOpen` is defined for the places before it (it meets no pointer to a
deleted device in the table), and the first of them that is not open has a node:
the iterator looks at a port without nodes as if there were one. -/
def NextSafe (host : Host) (w : Walk β) : WalkAction → Prop
  | .next => ∀ i it, w.iterator = some i → w.library.iterators i = some it →
      it.port ≠ INT_MAX ∧ (∀ place ∈ it.remaining host, w.library.isOpen? place ≠ none) ∧
        ∀ place ∈ (it.remaining host).find? fun q => w.library.isOpen? q ≠ some true,
          place.2 < host.nodeCount place.1
  | _ => True

/-! ## The invariant -/

open DeviceIteratorLibraw1394

variable {host : Host} {s t : Library β} {w w' : Walk β} {i p : Ptr}
  {it : DeviceIteratorLibraw1394} {c : Cursor}

/-- The iterator has the nodes before it that are ahead of the cursor, and with
them at most the empty ports ahead. -/
structure Covers (host : Host) (c : Cursor) (it : DeviceIteratorLibraw1394) : Prop where
  sound : ∀ q ∈ it.remaining host, q.1 < host.ports ∧ c.Ahead q
  complete : ∀ q, OnBus host q → c.Ahead q → q ∈ it.remaining host

/-- The invariant. -/
structure Walk.Sound (host : Host) (w : Walk β) : Prop where
  iterates : Cursor.Iterates host .start w.calls
  counted : Counted w.library
  known : Library.PortsKnown host w.library
  unused : w.iterator = none → w.calls = []
  covers : ∀ i, w.iterator = some i → ∃ it, w.library.iterators i = some it ∧
    Covers host (w.calls.foldl Cursor.advance .start) it

theorem Walk.sound_initial (host : Host) (bus : β) : Walk.Sound host (Walk.initial bus) where
  iterates := trivial
  counted := counted_initial bus
  known _ known := nomatch known
  unused _ := rfl
  covers _ same := nomatch same

/-- The node behind a node id. -/
theorem nodeId_and {index : Nat} (small : index < 64) : (nodeId index &&& 0x3f).toNat = index := by
  revert index
  decide

namespace Covers

/-- A new iterator has the whole bus before it. -/
theorem start (port : it.port = 0) (node : it.node = 0)
    (nodes : it.nodes = if host.ports = 0 then 0 else host.nodeCount 0) :
    Covers host .start it where
  sound q member := by
    refine ⟨?_, trivial⟩
    rcases mem_remaining.mp member with ⟨same, -, below⟩ | ⟨-, inside, -⟩
    · rw [nodes] at below
      split at below
      · exact absurd below (Nat.not_lt_zero _)
      · next some =>
          rw [same, port]
          exact Nat.pos_of_ne_zero some
    · exact inside
  complete q onBus _ := by
    rw [mem_remaining, port, node, nodes]
    rcases Nat.eq_zero_or_pos q.1 with first | later
    · rw [if_neg (Nat.ne_of_gt (Nat.lt_of_le_of_lt (Nat.zero_le _) onBus.1))]
      exact .inl ⟨first, Nat.zero_le _, first ▸ onBus.2⟩
    · exact .inr ⟨later, onBus.1, lt_max_of_lt_right onBus.2⟩

/-- If only the first port may be empty, it has nothing else before it. -/
theorem mem_of_start (populated : ∀ port, 0 < port → port < host.ports → 0 < host.nodeCount port)
    (port : it.port = 0) (node : it.node = 0)
    (nodes : it.nodes = if host.ports = 0 then 0 else host.nodeCount 0) {q : Nat × Nat} :
    q ∈ it.remaining host ↔ OnBus host q := by
  have covers := start port node nodes
  refine ⟨fun member => ⟨(covers.sound q member).1, ?_⟩, fun onBus => covers.complete q onBus trivial⟩
  rcases mem_remaining.mp member with ⟨same, -, below⟩ | ⟨later, inside, below⟩
  · rw [port] at same
    rw [nodes] at below
    split at below
    · exact absurd below (Nat.not_lt_zero _)
    · rwa [same]
  · rw [port] at later
    rwa [max_eq_right (populated q.1 later inside)] at below

variable {skipped : List (Nat × Nat)} {place : Nat × Nat} {it' : DeviceIteratorLibraw1394}

/-- The places before the one that is returned are the skipped ones. -/
theorem skipped_of_before (covers : Covers host c it)
    (split : it.remaining host = skipped ++ place :: it'.remaining host) {q : Nat × Nat}
    (onBus : OnBus host q) (ahead : c.Ahead q) (before : Before q place) : q ∈ skipped := by
  have member := covers.complete q onBus ahead
  have sorted := remaining_sorted host it
  rw [split] at member sorted
  rw [List.pairwise_append, List.pairwise_cons] at sorted
  rcases List.mem_append.mp member with early | late
  · exact early
  · rcases List.mem_cons.mp late with rfl | later
    · exact (Cursor.not_before_self _ before).elim
    · exact (Cursor.not_before_self _
        (Cursor.before_trans before (sorted.2.1.1 q later))).elim

/-- The iterator goes on behind the place it returned. -/
theorem after (covers : Covers host c it)
    (split : it.remaining host = skipped ++ place :: it'.remaining host) :
    Covers host (.after place) it' where
  sound q member := by
    have sorted := remaining_sorted host it
    have inside := covers.sound q
    rw [split] at sorted inside
    rw [List.pairwise_append, List.pairwise_cons] at sorted
    refine ⟨?_, sorted.2.1.1 q member⟩
    exact (inside (List.mem_append_right _ (List.mem_cons_of_mem _ member))).1
  complete q onBus later := by
    have sorted := remaining_sorted host it
    have here := covers.sound place
    have member := covers.complete q onBus
    rw [split] at sorted here member
    rw [List.pairwise_append] at sorted
    have ahead := (here (List.mem_append_right _ List.mem_cons_self)).2
    rcases List.mem_append.mp (member (ahead.trans later)) with early | late
    · have before := sorted.2.2 q early place List.mem_cons_self
      exact (Cursor.not_before_self _ (Cursor.before_trans before later)).elim
    · rcases List.mem_cons.mp late with rfl | rest
      · exact (Cursor.not_before_self _ later).elim
      · exact rest

/-- An iterator with nothing before it has finished. -/
theorem finished (left : it'.remaining host = []) : Covers host .finished it' where
  sound q member := by
    rw [left] at member
    cases member
  complete _ _ ahead := ahead.elim

end Covers

theorem nextResult_of_live {d : FirewireDeviceLibraw1394} {place : Nat × Nat}
    (live : s.devices p = some d) (same : d.place = place) :
    nextResult (.returned (some p) s) = .device place := by
  simp only [nextResult, live, same]

/-- Handles and ports do not matter for the table. -/
theorem Counted.quiet (counted : Counted s) (quiet : Library.Quiet host s t) : Counted t := by
  obtain ⟨entries, lists, length⟩ := counted
  exact ⟨entries, quiet.openDevices ▸ lists, quiet.devices ▸ length⟩

/-- The invariant after a call that may end as it does. -/
theorem Walk.Sound.called (sound : w.Sound host) {call : NextCall}
    (allowed : Cursor.Allows host (w.calls.foldl Cursor.advance .start) call)
    (same : w.iterator = some i) (counted : Counted s) (known : Library.PortsKnown host s)
    (live : s.iterators i = some it)
    (covers : Covers host ((w.calls.foldl Cursor.advance .start).advance call) it) :
    Walk.Sound host { w with library := s, calls := w.calls ++ [call] } where
  iterates := Cursor.iterates_concat.mpr ⟨sound.iterates, allowed⟩
  counted := counted
  known := known
  unused none := absurd (same.symm.trans none) (Option.some_ne_none i)
  covers j same' := by
    obtain rfl := Option.some.inj (same.symm.trans same')
    refine ⟨it, live, ?_⟩
    rw [List.foldl_append]
    exact covers

/-- A call of `next` keeps to what an iterator should do. -/
theorem Walk.Sound.next (sound : w.Sound host) (bounded : ∀ port, host.nodeCount port ≤ 63)
    (few : host.ports ≤ INT_MAX) (same : w.iterator = some i)
    (safe : NextSafe host w .next) : (w.next host i).Sound host := by
  obtain ⟨it, live, covers⟩ := sound.covers i same
  obtain ⟨inside, answered, inhabited⟩ := safe i it same live
  have scans := Library.nextFrom_scans few sound.known
    (Nat.lt_succ_self (it.remaining host).length)
  have stored {u : Heap DeviceIteratorLibraw1394} (same : u = w.library.iterators)
      (it' : DeviceIteratorLibraw1394) : (u.modify i fun _ => it') i = some it' := by
    rw [Heap.modify_self, same, live]
    rfl
  simp only [Walk.next, Library.next_eq live]
  generalize Library.nextFrom host ((it.remaining host).length + 1) it w.library = outcome
    at scans ⊢
  cases scans with
  | @found skipped place it' t table split taken free below quiet registered =>
      rw [← quiet.next] at registered
      obtain ⟨table', constructed, counted⟩ :=
        (Counted.quiet sound.counted quiet).newDevice host place.1 (nodeId place.2)
      rw [Library.newDevice_eq registered] at constructed
      rw [← (Outcome.returned.inj constructed).2] at counted
      obtain ⟨port, here⟩ :=
        covers.sound place (split ▸ List.mem_append_right _ List.mem_cons_self)
      have node : place.2 < host.nodeCount place.1 := by
        apply inhabited place
        rw [split, Option.mem_def, List.find?_append, List.find?_eq_none.mpr]
        · rw [Option.none_or, List.find?_cons_of_pos]
          simp [free]
        · intro q member
          simp [taken q member]
      have small : place.2 < 64 := Nat.lt_succ_of_le (node.le.trans (bounded place.1))
      have there : (t.devices.alloc (t.constructed host place.1 (nodeId place.2)))
          w.library.devices.next = some (t.constructed host place.1 (nodeId place.2)) := by
        rw [← quiet.next]
        exact Heap.alloc_next ..
      have itsPlace : (t.constructed host place.1 (nodeId place.2)).place = place :=
        Prod.ext rfl (nodeId_and small)
      have result := nextResult_of_live
        (s := { t.afterNewDevice host place.1 (nodeId place.2) table with
          iterators := t.iterators.modify i fun _ => it' })
        there itsPlace
      refine sound.called ?_ same counted quiet.ports (stored quiet.iterators it') ?_
      · rw [Outcome.andThen_returned]
        refine result.symm ▸ ?_
        refine ⟨⟨port, node⟩, here, fun q onBus ahead before => taken q ?_⟩
        exact covers.skipped_of_before split onBus ahead before
      · rw [Outcome.andThen_returned]
        refine result.symm ▸ ?_
        exact covers.after split
  | @ended it' t taken left quiet =>
      have counted : Counted t := Counted.quiet sound.counted quiet
      refine sound.called ?_ same counted quiet.ports (stored quiet.iterators it')
        (Covers.finished left)
      exact fun q onBus ahead => taken q (covers.complete q onBus ahead)
  | overflow last => exact absurd last inside
  | dangling member unanswered => exact absurd unanswered (answered _ member)
  | full unregistered =>
      obtain ⟨entries, lists, -⟩ := sound.counted
      obtain ⟨table, registered, -⟩ :=
        OpenDevices.register_spec lists w.library.devices.next
      exact absurd (unregistered.symm.trans registered) (Option.some_ne_none _).symm

/-- What others do does not touch the iterator. -/
theorem Walk.Sound.others (sound : w.Sound host) (counted : Counted s)
    (ports : s.ports = w.library.ports) (iterators : s.iterators = w.library.iterators) :
    Walk.Sound host { w with library := s } where
  iterates := sound.iterates
  counted := counted
  known n same := sound.known n (ports ▸ same)
  unused := sound.unused
  covers i same := by
    obtain ⟨it, live, covers⟩ := sound.covers i same
    exact ⟨it, iterators ▸ live, covers⟩

/-- Every action keeps the invariant. -/
theorem Walk.Sound.act (sound : w.Sound host) (bounded : ∀ port, host.nodeCount port ≤ 63)
    (few : host.ports ≤ INT_MAX) {a : WalkAction} (safe : NextSafe host w a) (acted : w.act host a = some w') : w'.Sound host := by
  cases a with
  | createInstance =>
      obtain ⟨t, it, created, quiet, port, node, nodes⟩ :=
        Library.createInstance_spec sound.known
      simp only [Walk.act, created] at acted
      cases fresh : w.iterator with
      | some i => simp [fresh] at acted
      | none =>
          simp only [fresh, Option.some.injEq] at acted
          obtain rfl := acted
          have unused := sound.unused fresh
          have counted : Counted t := Counted.quiet sound.counted quiet
          refine ⟨sound.iterates, counted, quiet.ports, ?_, ?_⟩
          · exact fun same => absurd same (Option.some_ne_none _)
          · rintro i ⟨⟩
            refine ⟨it, ?_, ?_⟩
            · rw [← quiet.iterators]
              exact Heap.alloc_next ..
            · rw [unused]
              exact Covers.start port node nodes
  | next =>
      obtain ⟨i, same, rfl⟩ := Option.map_eq_some_iff.mp acted
      exact sound.next bounded few same safe
  | openDevice port node =>
      obtain ⟨table, constructed, counted⟩ := sound.counted.newDevice host port node
      simp only [Walk.act, constructed, Outcome.state?_returned, Option.map_some,
        Option.some.injEq] at acted
      obtain rfl := acted
      exact sound.others counted rfl rfl
  | closeDevice p =>
      simp only [Walk.act] at acted
      split at acted
      · next live =>
          obtain ⟨d, live⟩ := Option.isSome_iff_exists.mp live
          obtain ⟨table, deleted, counted⟩ := sound.counted.deleteDevice live
          simp only [deleted, Outcome.state?_returned, Option.map_some, Option.some.injEq] at acted
          obtain rfl := acted
          exact sound.others counted rfl rfl
      · cases acted

/-- **A walk over the bus.**  Whatever others open and close in between, an
iterator returns the places of the bus in their order, skips a place only if
`deviceIsOpen` is true for it when its turn comes, and then returns `NULL` for
ever, as long as `next` is called when it meets no pointer to a deleted device in
the table, does not have to stop at a port without nodes, and can count the port
of the iterator up. -/
theorem always_iterates_of_safe (host : Host) (bounded : ∀ port, host.nodeCount port ≤ 63)
    (few : host.ports ≤ INT_MAX) (bus : β) (actions : List WalkAction)
    (safe : (walks host).StepsMeet (NextSafe host) (Walk.initial bus) actions) :
    (walks host).Always (fun w => Cursor.Iterates host .start w.calls) (Walk.initial bus)
      actions := by
  refine System.always_of_stepsMeet (I := Walk.Sound host) (Walk.sound_initial host bus)
    (fun w sound => sound.iterates) ?_ safe
  intro w a w' sound met stepped
  simp only [walks] at stepped
  split at stepped
  · cases stepped
  · exact sound.act bounded few met stepped

/-- Two ports with a node each. -/
def twoPorts : Host := ⟨.little, 2, fun _ => 1, fun _ => 0xffc0⟩

/-- Somebody opens and closes a node while the iterator walks over the bus. -/
theorem always_iterates_of_safe_once :
    (walks twoPorts).Always (fun w => Cursor.Iterates twoPorts .start w.calls)
      (Walk.initial ())
      [.createInstance, .openDevice 0 0xffc0, .next, .closeDevice 1, .next, .next] := by
  refine always_iterates_of_safe twoPorts ?_ (by decide) () _ ?_
  · exact fun port => show 1 ≤ 63 by decide
  refine ⟨trivial, ?_⟩
  rintro w₁ ⟨⟩
  refine ⟨trivial, ?_⟩
  rintro w₂ ⟨⟩
  refine ⟨by rintro i it ⟨⟩ ⟨⟩; decide, ?_⟩
  rintro w₃ ⟨⟩
  refine ⟨trivial, ?_⟩
  rintro w₄ ⟨⟩
  refine ⟨by rintro i it ⟨⟩ ⟨⟩; decide, ?_⟩
  rintro w₅ ⟨⟩
  refine ⟨by rintro i it ⟨⟩ ⟨⟩; decide, ?_⟩
  rintro w₆ ⟨⟩
  trivial

/-- A node, and behind it a port without any. -/
def emptyPort : Host := ⟨.little, 2, fun port => if port = 0 then 1 else 0, fun _ => 0xffc0⟩

/-- The second call returns a node of the empty port. -/
theorem iterated_empty_port :
    ¬∀ (host : Host) (actions : List WalkAction), (∀ port, host.nodeCount port ≤ 63) →
      host.ports ≤ INT_MAX →
        (walks host).Always (fun w => Cursor.Iterates host .start w.calls) (Walk.initial ())
          actions := by
  intro claim
  have bounded (port : Nat) : emptyPort.nodeCount port ≤ 63 := by
    show (if port = 0 then 1 else 0) ≤ 63
    split
    · decide
    · decide
  have always := claim emptyPort [.createInstance, .next, .next] bounded (by decide)
  have second : ((walks emptyPort).run (Walk.initial ()) [.createInstance, .next, .next]).map
      (fun w => w.calls.map NextCall.result) = some [.device (0, 0), .device (1, 0)] := by
    decide +kernel
  obtain ⟨w, reached, results⟩ := Option.map_eq_some_iff.mp second
  have iterates := System.always_iff_prefix.mp always _ List.prefix_rfl w reached
  have returned : NextResult.device (1, 0) ∈ w.calls.map NextCall.result := by
    rw [results]
    exact List.mem_cons_of_mem _ List.mem_cons_self
  obtain ⟨call, member, result⟩ := List.mem_map.mp returned
  exact Nat.lt_irrefl 0 (iterates.onBus member result).2

end LibPhantom
