import PhantomDrivers.Raw1394.Memory

/-!
# A bus with a record

Every node is a byte memory, as in `Raw1394.Memory`, but the outcomes of the
transactions are an arbitrary sequence, and every read that is attempted is
recorded.

* `Outcomes` — a sequence of outcomes with finitely many `EAGAIN`s.
* `TracedBus` — the memories, the outcomes to come and the record.
* `TracedBus.Makes` — one state of the bus becomes another one by attempts.
* `Fetched` — the attempts read a block, each byte once and in order.
-/

namespace Raw1394

open Semantics

/-- The outcomes of the coming transactions, `none` for a success.  From `calm`
on, the nodes are ready. -/
structure Outcomes where
  stream : Stream' (Option Errno)
  calm : Nat
  ready : ∀ i, calm ≤ i → stream.get i ≠ some EAGAIN

namespace Outcomes

/-- The sequences of `Outcomes` are those with finitely many `EAGAIN`s. -/
theorem exists_of_finite {stream : Stream' (Option Errno)}
    (finite : {i | stream.get i = some EAGAIN}.Finite) :
    ∃ outcomes : Outcomes, outcomes.stream = stream := by
  obtain ⟨last, bound⟩ := finite.bddAbove
  refine ⟨⟨stream, last + 1, fun i late again => ?_⟩, rfl⟩
  have := bound (show i ∈ {i | stream.get i = some EAGAIN} from again)
  omega

/-- The outcomes behind the first one. -/
def tail (outcomes : Outcomes) : Outcomes where
  stream := outcomes.stream.tail
  calm := outcomes.calm - 1
  ready i late := outcomes.ready (i + 1) (by omega)

theorem calm_tail_lt {outcomes : Outcomes} (again : outcomes.stream.head = some EAGAIN) :
    outcomes.tail.calm < outcomes.calm := by
  have waiting : 0 < outcomes.calm := by
    by_contra none
    exact outcomes.ready 0 (by omega) again
  exact Nat.sub_lt waiting Nat.one_pos

end Outcomes

/-- An attempted read: its arguments and its outcome. -/
structure Attempt where
  port : Nat
  node : UInt16
  address : UInt64
  length : Nat
  outcome : Option Errno
deriving DecidableEq

namespace Attempt

/-- The attempt failed with another `errno` than `EAGAIN`. -/
def Hard (t : Attempt) : Prop := ∃ e, t.outcome = some e ∧ e ≠ EAGAIN

/-- The addresses of the bytes that the attempt read. -/
def fetched (t : Attempt) : List UInt64 :=
  match t.outcome with
  | none => (List.range t.length).map fun i => t.address + UInt64.ofNat i
  | some _ => []

theorem fetched_of_success {t : Attempt} (success : t.outcome = none) :
    t.fetched = (List.range t.length).map fun i => t.address + UInt64.ofNat i := by
  rw [fetched, success]

theorem fetched_of_failure {t : Attempt} {e : Errno} (failure : t.outcome = some e) :
    t.fetched = [] := by
  rw [fetched, failure]

end Attempt

/-- The attempts are reads of at most a quadlet on one node, and those among
them that succeeded read each of `count` bytes once, in increasing order. -/
structure Fetched (made : List Attempt) (port : Nat) (node : UInt16) (address : UInt64)
    (count : Nat) : Prop where
  chunks : ∀ t ∈ made, t.port = port ∧ t.node = node ∧ t.length ≤ 4
  once : made.flatMap Attempt.fetched =
    (List.range count).map fun i => address + UInt64.ofNat i

namespace Fetched

variable {made made' : List Attempt} {port : Nat} {node : UInt16} {address : UInt64}
  {count count' : Nat}

theorem nil : Fetched [] port node address 0 := ⟨nofun, rfl⟩

/-- Two blocks in a row. -/
theorem append (first : Fetched made port node address count)
    (second : Fetched made' port node (address + UInt64.ofNat count) count') :
    Fetched (made ++ made') port node address (count + count') := by
  constructor
  · exact List.forall_mem_append.mpr ⟨first.chunks, second.chunks⟩
  · rw [List.flatMap_append, first.once, second.once, List.range_add, List.map_append,
      List.map_map]
    congr 2
    ext i
    rw [Function.comp_apply, UInt64.ofNat_add, UInt64.add_assoc]

end Fetched

/-- A bus of byte memories with a record of the attempted reads. -/
structure TracedBus where
  memory : Memory
  outcomes : Outcomes
  record : List Attempt

namespace TracedBus

/-- The bus behind its next outcome. -/
def next (b : TracedBus) : TracedBus := { b with outcomes := b.outcomes.tail }

/-- A read. -/
def readBlock (port : Nat) (node : UInt16) (address : UInt64) (length : Nat) :
    Transaction TracedBus (Nat → UInt8) := fun b =>
  let after := { b.next with
    record := b.record ++ [⟨port, node, address, length, b.outcomes.stream.head⟩] }
  match b.outcomes.stream.head with
  | some e => (.error e, after)
  | none => (.ok (b.memory.block port node address), after)

/-- A write. -/
def writeBlock (port : Nat) (node : UInt16) (address : UInt64) (data : List UInt8) :
    Transaction TracedBus Unit := fun b =>
  match b.outcomes.stream.head with
  | some e => (.error e, b.next)
  | none => (.ok (), { b.next with memory := b.memory.store port node address data })

variable {b b' b₁ b₂ b₃ : TracedBus} {port : Nat} {node : UInt16} {address : UInt64}
  {length : Nat} {data : List UInt8}

theorem readBlock_eq : ∃ r, readBlock port node address length b =
      (r, { b.next with
        record := b.record ++ [⟨port, node, address, length, b.outcomes.stream.head⟩] }) ∧
    ∀ e, r = .error e ↔ b.outcomes.stream.head = some e := by
  unfold readBlock
  cases b.outcomes.stream.head with
  | none => exact ⟨_, rfl, by simp⟩
  | some e => exact ⟨_, rfl, by simp⟩

instance : Bus TracedBus where
  read handle node address length := readBlock handle.port node address length
  write handle node address data := writeBlock handle.port node address data
  channelModify _ _ _ b := (false, b.next)
  patience b := b.outcomes.calm
  read_patience handle node address length b := by
    obtain ⟨r, attempt, -⟩ := readBlock_eq
    rw [attempt]
    exact Nat.sub_le ..
  read_again {handle node address length b b'} attempt := by
    obtain ⟨r, made, failed⟩ := readBlock_eq
    obtain ⟨rfl, rfl⟩ := Prod.mk.inj (made.symm.trans attempt)
    exact Outcomes.calm_tail_lt ((failed EAGAIN).mp rfl)
  write_again {handle node address data b b'} attempt := by
    unfold writeBlock at attempt
    split at attempt
    · next e head =>
        obtain ⟨⟨⟩, rfl⟩ := Prod.mk.inj attempt
        exact Outcomes.calm_tail_lt head
    · cases (Prod.mk.inj attempt).1

/-- The attempts made on the way from one state to another: they are recorded,
and their outcomes are the next ones of the sequence. -/
structure Makes (b : TracedBus) (made : List Attempt) (b' : TracedBus) : Prop where
  memory : b'.memory = b.memory
  record : b'.record = b.record ++ made
  outcomes : b.outcomes.stream = made.map Attempt.outcome ++ₛ b'.outcomes.stream

namespace Makes

variable {made made' : List Attempt}

theorem refl (b : TracedBus) : b.Makes [] b := ⟨rfl, (List.append_nil _).symm, rfl⟩

theorem trans (first : b₁.Makes made b₂) (second : b₂.Makes made' b₃) :
    b₁.Makes (made ++ made') b₃ where
  memory := second.memory.trans first.memory
  record := by rw [second.record, first.record, List.append_assoc]
  outcomes := by
    rw [first.outcomes, second.outcomes, List.map_append, Stream'.append_append_stream]

/-- The outcome of an attempt is the one of its place in the sequence. -/
theorem outcome_last {before : List Attempt} {last : Attempt}
    (makes : b.Makes (before ++ [last]) b') :
    last.outcome = b.outcomes.stream.get before.length := by
  have place : before.length = (before.map Attempt.outcome).length := (List.length_map _).symm
  rw [makes.outcomes, List.map_append, Stream'.append_append_stream, place,
    Stream'.get_append_length]
  rfl

end Makes

/-- One read is one attempt. -/
theorem makes_readBlock {r : Except Errno (Nat → UInt8)}
    (attempt : readBlock port node address length b = (r, b')) :
    ∃ t : Attempt, b.Makes [t] b' ∧ t = ⟨port, node, address, length, t.outcome⟩ ∧
      (∀ e, r = .error e → t.outcome = some e) ∧
      ∀ block, r = .ok block → t.outcome = none ∧ block = b.memory.block port node address := by
  have stream : b.outcomes.stream = [b.outcomes.stream.head] ++ₛ b.outcomes.stream.tail :=
    (Stream'.append_stream_head_tail _).symm
  unfold readBlock at attempt
  split at attempt
  · next e head =>
      obtain ⟨rfl, rfl⟩ := Prod.mk.inj attempt
      refine ⟨_, ⟨rfl, rfl, stream⟩, rfl, fun e' same => ?_, nofun⟩
      rw [head, Except.error.inj same]
  · next head =>
      obtain ⟨rfl, rfl⟩ := Prod.mk.inj attempt
      exact ⟨_, ⟨rfl, rfl, stream⟩, rfl, nofun, fun block same => ⟨head, (Except.ok.inj same).symm⟩⟩

instance : ServesMemory TracedBus where
  contents b := b.memory
  read_spec attempt := by
    obtain ⟨t, makes, -, -, delivered⟩ := makes_readBlock attempt
    exact ⟨makes.memory, fun block same => (delivered block same).2⟩

/-- A read that is repeated while the node is not ready: at last it delivers
the block, or it fails. -/
theorem makes_settles {handle : Handle} {r : Except Errno (Nat → UInt8)}
    (settles : Settles (Bus.read handle node address length) b r b') (short : length ≤ 4) :
    ∃ waited last, b.Makes (waited ++ [last]) b' ∧ (∀ t ∈ waited, ¬t.Hard) ∧
      (∀ e, r = .error e → last.outcome = some e ∧
        Fetched (waited ++ [last]) handle.port node address 0) ∧
      ∀ block, r = .ok block → ¬last.Hard ∧ block = b.memory.block handle.port node address ∧
        Fetched (waited ++ [last]) handle.port node address length := by
  induction settles with
  | @ended b b' r attempt final =>
      obtain ⟨t, makes, same, failed, succeeded⟩ := makes_readBlock attempt
      have chunk : ∀ t' ∈ [] ++ [t], t'.port = handle.port ∧ t'.node = node ∧ t'.length ≤ 4 := by
        intro t' member
        rw [List.mem_singleton.mp member, same]
        exact ⟨rfl, rfl, short⟩
      refine ⟨[], t, makes, nofun, fun e error => ⟨failed e error, chunk, ?_⟩, fun block ok => ?_⟩
      · simp [Attempt.fetched_of_failure (failed e error)]
      · obtain ⟨success, delivered⟩ := succeeded block ok
        refine ⟨fun ⟨e, failure, _⟩ => ?_, delivered, chunk, ?_⟩
        · cases success.symm.trans failure
        · rw [List.nil_append, List.flatMap_singleton, Attempt.fetched_of_success success, same]
  | @again b b₁ b' r attempt rest ih =>
      obtain ⟨t, makes, same, failed, -⟩ := makes_readBlock attempt
      obtain ⟨waited, last, makes', soft, error, ok⟩ := ih
      have wait := failed EAGAIN rfl
      have fetchedNone : Fetched [t] handle.port node address 0 := by
        refine ⟨fun t' member => ?_, by simp [Attempt.fetched_of_failure wait]⟩
        rw [List.mem_singleton.mp member, same]
        exact ⟨rfl, rfl, short⟩
      have extend {count : Nat} (rest : Fetched (waited ++ [last]) handle.port node address count) :
          Fetched (t :: waited ++ [last]) handle.port node address count := by
        have behind : Fetched (waited ++ [last]) handle.port node (address + UInt64.ofNat 0) count := by
          rwa [show UInt64.ofNat 0 = 0 from rfl, UInt64.add_zero]
        have both := fetchedNone.append behind
        rwa [Nat.zero_add] at both
      refine ⟨t :: waited, last, makes.trans makes', ?_, fun e failure => ?_, fun block success => ?_⟩
      · rintro t' (_ | ⟨_, member⟩)
        · rintro ⟨e, failure, hard⟩
          exact hard (Option.some.inj (failure.symm.trans wait))
        · exact soft t' member
      · exact ⟨(error e failure).1, extend (error e failure).2⟩
      · obtain ⟨notHard, delivered, fetched⟩ := ok block success
        exact ⟨notHard, delivered.trans (by rw [makes.memory]), extend fetched⟩

end TracedBus

end Raw1394
