import PhantomDrivers.LibPhantom.MemoryReads
import PhantomDrivers.Semantics.Runs

/-!
# Acknowledged writes

A caller of `CommunicationLibraw1394::write` has only one way to learn that its
data did not arrive: the exception.  Over a run of reads and writes on nodes
that are byte memories, the memories should therefore be what the writes that
returned made of them.

`read` repeats a chunk that fails with `EAGAIN`; `write` returns.  So the run
is faithful as long as no write meets `EAGAIN`, and it stops being faithful at
the first one that does and had anything to change
(`always_noWriteLost_iff`).  A second, remote defect is in the same functions:
`read` counts in an `int`, so a read of more than `0x7ffffffc` bytes overflows
unless it fails first.
-/

namespace LibPhantom

open Semantics Raw1394 CommunicationLibraw1394

/-- A call on a communication object. -/
inductive Transfer where
  | read (com : CommunicationLibraw1394) (address : UInt64) (length : UInt32)
  | write (com : CommunicationLibraw1394) (address : UInt64) (data : List UInt8)

/-- What the call does; a write delivers no bytes. -/
def Transfer.perform : Transfer → Call Exn MemoryBus (List UInt8)
  | read com address length => com.read address length
  | write com address data => do
      com.write address data
      return []

/-- A finished call and the bytes it delivered, or `none` if it threw. -/
structure Entry where
  call : Transfer
  delivered : Option (List UInt8)

/-- A run in progress: the bus and the calls made so far.  `defined` is lost
once a call has no defined behaviour. -/
structure Session where
  bus : MemoryBus
  log : List Entry
  defined : Bool

/-- The run of transfers: every call is possible at any time. -/
def transfers : System Session Transfer where
  step s call := some <|
    match call.perform s.bus with
    | .returned bytes b => { s with bus := b, log := s.log ++ [⟨call, some bytes⟩] }
    | .thrown _ b => { s with bus := b, log := s.log ++ [⟨call, none⟩] }
    | .undefined => { s with defined := false }

/-- Nothing has been called yet. -/
def Session.start (memory : Memory) (faults : List (Option Errno)) : Session :=
  ⟨⟨memory, faults⟩, [], true⟩

/-! ## What a caller may rely on -/

/-- The memories after a finished call, as its caller has to assume: a write
that returned was carried out, anything else changed nothing. -/
def acknowledge (memory : Memory) : Entry → Memory
  | ⟨.write com address data, some _⟩ => memory.store com.handle.port com.node address data
  | _ => memory

/-- The memories with exactly the acknowledged writes carried out, in call
order. -/
def acknowledged (memory : Memory) (log : List Entry) : Memory := log.foldl acknowledge memory

/-- A read that returned delivered what the memory held. -/
def Entry.Delivers (memory : Memory) : Entry → Prop
  | ⟨.read com address length, some bytes⟩ =>
      bytes = bytesOf (memory.block com.handle.port com.node address) length.toNat
  | _ => True

/-- Every read of the log that returned delivered what the memory held then. -/
def Delivers : Memory → List Entry → Prop
  | _, [] => True
  | memory, entry :: log => entry.Delivers memory ∧ Delivers (acknowledge memory entry) log

/-- No acknowledged write is lost. -/
structure NoWriteLost (initial : Memory) (s : Session) : Prop where
  defined : s.defined = true
  memory : s.bus.memory = acknowledged initial s.log
  delivers : Delivers initial s.log

/-- The transaction of a write does not meet `EAGAIN` with something to change,
and a read is not so long that its position overflows. -/
def Kept (s : Session) : Transfer → Prop
  | .read _ _ length =>
      length.toNat ≤ 2147483644 ∨ MemoryBus.hardFailureWithin (2 ^ 29) s.bus.faults = true
  | .write com address data =>
      s.bus.faults.head? = some (some EAGAIN) →
        s.bus.memory.store com.handle.port com.node address data = s.bus.memory

theorem acknowledged_append (memory : Memory) (log : List Entry) (entry : Entry) :
    acknowledged memory (log ++ [entry]) = acknowledge (acknowledged memory log) entry := by
  simp [acknowledged]

theorem delivers_append {memory : Memory} {log : List Entry} {entry : Entry} :
    Delivers memory (log ++ [entry]) ↔
      Delivers memory log ∧ entry.Delivers (acknowledged memory log) := by
  induction log generalizing memory with
  | nil => simp [Delivers, acknowledged]
  | cons head log ih =>
      rw [List.cons_append, Delivers, Delivers, ih, and_assoc]
      rfl

/-! ## Reads that overflow -/

section Reads

variable {handle : Handle} {node : UInt16} {address : UInt64} {length pos : Nat}
  {buffer : List UInt8} {b : MemoryBus} {outcome : Outcome Shortfall MemoryBus (List UInt8)}

/-- The position overflows exactly if the read is too long and the bus lets it
get that far. -/
theorem readLoop_undefined_iff
    (loop : ReadLoop handle node address length pos buffer b outcome)
    {chunks : Nat} (position : pos + 4 * chunks = 2 ^ 31) (positive : 0 < chunks) :
    outcome = .undefined ↔
      2147483644 < length ∧ MemoryBus.hardFailureWithin chunks b.faults = false := by
  induction loop generalizing chunks with
  | done reached =>
      constructor
      · intro returned
        cases returned
      · intro overflows
        omega
  | @chunk pos buffer b b' block outcome inside settles fits _ ih =>
      unfold INT_MAX at fits
      obtain ⟨rest, rfl⟩ : ∃ rest, chunks = rest + 1 := ⟨chunks - 1, by omega⟩
      rw [ih (show pos + 4 + 4 * rest = 2 ^ 31 by omega) (by omega),
        (MemoryBus.hardFailureWithin_settles rest settles).1 block rfl]
  | @overflow pos buffer b b' block inside settles overflows =>
      unfold INT_MAX at overflows
      obtain rfl : chunks = 0 + 1 := by omega
      rw [(MemoryBus.hardFailureWithin_settles 0 settles).1 block rfl]
      exact ⟨fun _ => ⟨by omega, by simp [MemoryBus.hardFailureWithin]⟩, fun _ => rfl⟩
  | @failed pos buffer b b' e inside settles =>
      obtain ⟨rest, rfl⟩ : ∃ rest, chunks = rest + 1 := ⟨chunks - 1, by omega⟩
      rw [(MemoryBus.hardFailureWithin_settles rest settles).2 e rfl]
      constructor
      · intro thrown
        cases thrown
      · intro overflows
        cases overflows.2

end Reads

section Calls

variable (com : CommunicationLibraw1394) (address : UInt64) (length : UInt32)
  (data : List UInt8) (b : MemoryBus)

/-- A read that does not overflow. -/
theorem ends_read_of_memory (kept : length.toNat ≤ 2147483644 ∨
      MemoryBus.hardFailureWithin (2 ^ 29) b.faults = true) :
    ((Transfer.read com address length).perform b).Ends
      (fun bytes b' => b'.memory = b.memory ∧
        bytes = bytesOf (b.memory.block com.handle.port com.node address) length.toNat)
      (fun _ b' => b'.memory = b.memory) := by
  obtain ⟨outcome, loop, equation⟩ := exists_readLoop com.handle com.node address length b
  have defined : outcome ≠ .undefined := by
    rw [Ne, readLoop_undefined_iff loop (show 0 + 4 * 2 ^ 29 = 2 ^ 31 by decide) (by decide)]
    rintro ⟨long, unbroken⟩
    rcases kept with short | broken
    · omega
    · rw [broken] at unbroken
      cases unbroken
  have ends := ends_readLoop_of_memory loop defined
  show (readNode com.handle com.node address length b).Ends _ _
  rw [equation]
  cases outcome with
  | returned bytes b' =>
      obtain ⟨same, filled⟩ := ends
      refine ⟨same, ?_⟩
      rw [filled, List.nil_append, Nat.sub_zero, show UInt64.ofNat 0 = 0 from rfl,
        UInt64.add_zero]
  | thrown shortfall b' => exact ends
  | undefined => exact absurd rfl defined

/-- A read that overflows. -/
theorem read_undefined (broken : ¬(length.toNat ≤ 2147483644 ∨
      MemoryBus.hardFailureWithin (2 ^ 29) b.faults = true)) :
    (Transfer.read com address length).perform b = .undefined := by
  obtain ⟨outcome, loop, equation⟩ := exists_readLoop com.handle com.node address length b
  rw [not_or, Bool.not_eq_true, Nat.not_le] at broken
  have undefined := (readLoop_undefined_iff loop (show 0 + 4 * 2 ^ 29 = 2 ^ 31 by decide)
    (by decide)).mpr broken
  show readNode com.handle com.node address length b = .undefined
  rw [equation, undefined]
  rfl

/-- A write whose transaction does not meet `EAGAIN` is carried out if it
returns, and has no effect if it throws. -/
theorem ends_write_of_memory (ready : b.faults.head? ≠ some (some EAGAIN)) :
    ((Transfer.write com address data).perform b).Ends
      (fun _ b' => b'.memory = b.memory.store com.handle.port com.node address data)
      (fun _ b' => b'.memory = b.memory) := by
  have attempt : ∃ r b', Bus.write com.handle com.node address data b = (r, b') ∧
      (r = .ok () ∧ b'.memory = b.memory.store com.handle.port com.node address data ∨
        ∃ e, e ≠ EAGAIN ∧ r = .error e ∧ b'.memory = b.memory) := by
    refine ⟨_, _, rfl, ?_⟩
    show (MemoryBus.writeBlock _ _ _ _ b).1 = _ ∧ _ ∨ _
    unfold MemoryBus.writeBlock MemoryBus.outcome
    cases faults : b.faults with
    | nil => exact .inl ⟨rfl, rfl⟩
    | cons fault rest =>
        cases fault with
        | none => exact .inl ⟨rfl, rfl⟩
        | some e =>
            refine .inr ⟨e, fun again => ready ?_, rfl, rfl⟩
            rw [faults, again]
            rfl
  obtain ⟨r, b', attempt, carried | ⟨e, hard, failed, same⟩⟩ := attempt
  · obtain ⟨rfl, stored⟩ := carried
    simp only [Transfer.perform, CommunicationLibraw1394.write, Call.bind_apply,
      writeNode_of_ok attempt]
    exact stored
  · subst failed
    simp only [Transfer.perform, CommunicationLibraw1394.write, Call.bind_apply,
      writeNode_of_error attempt hard]
    exact same

/-- A write whose transaction meets `EAGAIN` returns without effect. -/
theorem write_of_again (again : b.faults.head? = some (some EAGAIN)) :
    ∃ b', (Transfer.write com address data).perform b = .returned [] b' ∧
      b'.memory = b.memory := by
  obtain ⟨memory, faults⟩ := b
  cases faults with
  | nil => cases again
  | cons fault rest =>
      obtain rfl : fault = some EAGAIN := Option.some.inj again
      refine ⟨⟨memory, rest⟩, ?_, rfl⟩
      have attempt : Bus.write com.handle com.node address data
          (⟨memory, some EAGAIN :: rest⟩ : MemoryBus) = (.error EAGAIN, ⟨memory, rest⟩) := rfl
      simp only [Transfer.perform, CommunicationLibraw1394.write, Call.bind_apply,
        writeNode_of_again attempt]
      rfl

end Calls

/-! ## Runs -/

variable {initial : Memory} {s s' : Session} {call : Transfer}

/-- A call that keeps the condition keeps the run faithful. -/
theorem NoWriteLost.step (faithful : NoWriteLost initial s) (kept : Kept s call)
    (stepped : transfers.step s call = some s') : NoWriteLost initial s' := by
  obtain ⟨defined, memory, delivers⟩ := faithful
  obtain rfl := Option.some.inj stepped
  cases call with
  | read com address length =>
      have ends := ends_read_of_memory com address length s.bus kept
      cases performed : (Transfer.read com address length).perform s.bus with
      | returned bytes b' =>
          obtain ⟨same, filled⟩ := ends.of_returned performed
          refine ⟨defined, ?_, ?_⟩
          · rw [acknowledged_append]
            exact same.trans memory
          · rw [delivers_append, ← memory]
            exact ⟨delivers, filled⟩
      | thrown e b' =>
          have same := ends.of_thrown performed
          refine ⟨defined, ?_, ?_⟩
          · rw [acknowledged_append]
            exact same.trans memory
          · exact delivers_append.mpr ⟨delivers, trivial⟩
      | undefined =>
          rw [performed] at ends
          exact ends.elim
  | write com address data =>
      by_cases again : s.bus.faults.head? = some (some EAGAIN)
      · obtain ⟨b', performed, same⟩ := write_of_again com address data s.bus again
        rw [performed]
        refine ⟨defined, ?_, delivers_append.mpr ⟨delivers, trivial⟩⟩
        rw [acknowledged_append, ← memory]
        exact same.trans (kept again).symm
      · have ends := ends_write_of_memory com address data s.bus again
        cases performed : (Transfer.write com address data).perform s.bus with
        | returned bytes b' =>
            have stored := ends.of_returned performed
            refine ⟨defined, ?_, delivers_append.mpr ⟨delivers, trivial⟩⟩
            rw [acknowledged_append, ← memory]
            exact stored
        | thrown e b' =>
            have same := ends.of_thrown performed
            refine ⟨defined, ?_, delivers_append.mpr ⟨delivers, trivial⟩⟩
            rw [acknowledged_append]
            exact same.trans memory
        | undefined =>
            rw [performed] at ends
            exact ends.elim

/-- A call that does not keep the condition loses a write, or has no defined
behaviour. -/
theorem NoWriteLost.broken (faithful : NoWriteLost initial s) (unkept : ¬Kept s call)
    (stepped : transfers.step s call = some s') : ¬NoWriteLost initial s' := by
  obtain rfl := Option.some.inj stepped
  cases call with
  | read com address length =>
      rw [read_undefined com address length s.bus unkept]
      intro lost
      cases lost.defined
  | write com address data =>
      obtain ⟨again, changes⟩ := Classical.not_imp.mp unkept
      obtain ⟨b', performed, same⟩ := write_of_again com address data s.bus again
      rw [performed]
      intro lost
      have memory := lost.memory
      rw [acknowledged_append, ← faithful.memory] at memory
      exact changes (memory.symm.trans same)

theorem noWriteLost_start (initial : Memory) (faults : List (Option Errno)) :
    NoWriteLost initial (Session.start initial faults) :=
  ⟨rfl, rfl, trivial⟩

/-- Every run of transfers goes through. -/
theorem transfers_run (s : Session) (calls : List Transfer) :
    ∃ s', transfers.run s calls = some s' := by
  induction calls generalizing s with
  | nil => exact ⟨s, rfl⟩
  | cons call calls ih =>
      obtain ⟨s₁, stepped⟩ : ∃ s₁, transfers.step s call = some s₁ := ⟨_, rfl⟩
      obtain ⟨s', reached⟩ := ih s₁
      exact ⟨s', System.run_cons_eq_some.mpr ⟨s₁, stepped, reached⟩⟩

/-- **Acknowledged writes.**  From any memory contents, under any schedule of
faults and for any run of reads and writes: no acknowledged write is lost at
any point of the run, and every read delivered what the memory held, if and
only if no write meets `EAGAIN` with something to change and no read gets so
far that its position overflows. -/
theorem always_noWriteLost_iff (initial : Memory) (faults : List (Option Errno))
    (calls : List Transfer) :
    transfers.Always (NoWriteLost initial) (Session.start initial faults) calls ↔
      transfers.StepsMeet Kept (Session.start initial faults) calls := by
  obtain ⟨s', reached⟩ := transfers_run (Session.start initial faults) calls
  exact System.always_iff_stepsMeet (noWriteLost_start initial faults) (fun _ faithful => faithful)
    (fun _ _ _ faithful kept stepped => faithful.step kept stepped)
    (fun _ _ _ faithful unkept stepped => faithful.broken unkept stepped) reached

/-- One write of a 1 to a memory of zeros, on a node that is not ready: the
write returns and the memory still holds 0. -/
theorem write_lost_on_again :
    ¬∀ (initial : Memory) (faults : List (Option Errno)) (calls : List Transfer),
      transfers.Always (NoWriteLost initial) (Session.start initial faults) calls := by
  intro always
  let com : CommunicationLibraw1394 := ⟨0xffc0, ⟨1, 0⟩, none, none⟩
  have holds := always (fun _ _ _ => 0) [some EAGAIN] [.write com 0x1087 [1]]
  have memory := (holds.2 _ rfl).memory
  have byte := congrFun (congrFun (congrFun memory 0) 0xffc0) 0x1087
  exact absurd byte (by decide)

end LibPhantom
