import PhantomDrivers.LibPhantom.BufferReads
import PhantomDrivers.Semantics.Runs

/-!
# The receive program on Mac OS X

`CommunicationMacOSX` receives packets with a program of data stream commands
that IOKit executes: a label, a hundred pairs of a command that receives a
packet into a slot of its own and one that calls the driver back, and a jump to
the label.

* `writeProgram`, `startRecvIsoTransfer`, `DCLCallbackHandler`,
  `callbackRecvHandler` — `CommunicationMacOSX.cpp` and `Communication.cpp`.
* `engine` — the execution of a program, packet by packet.
* `Serving` — what all executions keep: which command comes next, and what the
  first slot holds.
* `serving_all` — all packets are received, and there is a call for each.
* `callbacks_given_iff` — when every call is given its packet.
-/

namespace LibPhantom

open Semantics

/-- The bytes of a packet. -/
abbrev Packet : Type := List UInt8

/-- A `CommunicationMacOSX`, as far as packets are received. -/
structure CommunicationMacOSX where
  /-- the address of the buffer that the constructor allocates -/
  buffer : Nat
  isoChannel : Option Ptr
deriving DecidableEq, Repr

/-- A data stream command. -/
inductive DCLCommand where
  | label
  | receivePacketStart (buffer size : Nat)
  /-- The procedure is `DCLCallbackHandler`, the only one there is. -/
  | callProc (procData : Ptr)
  | jump (label : Nat)
deriving DecidableEq, Repr

/-- A call of `PhantomIsoChannel::receivedData`. -/
structure ReceivedData where
  isoChannel : Ptr
  data : Nat
  /-- the `len` bytes at `data`, at the time of the call -/
  contents : List UInt8
deriving DecidableEq, Repr

/-- A program while it is executed. -/
structure DCLMachine where
  memory : HostMemory
  coms : Heap CommunicationMacOSX
  program : List DCLCommand
  /-- the command that is executed next -/
  next : Nat
  calls : List ReceivedData

namespace CommunicationMacOSX

/-! ## The code -/

/-- Follow a pointer to a communication object. -/
def object (this : Ptr) : Call Exn DCLMachine CommunicationMacOSX := do
  match (← get).coms this with
  | some com => return com
  | none => Call.undefined

/-- `Communication::callbackRecvHandler` -/
def callbackRecvHandler (com : CommunicationMacOSX) (data len : Nat) : Call Exn DCLMachine Unit := do
  match com.isoChannel with
  | some isoChannel =>
      modify fun s =>
        { s with
          calls := s.calls ++ [⟨isoChannel, data, bytesOf (fun i => s.memory (data + i)) len⟩] }
  | none => Call.undefined

/-- `DCLCallbackHandler` -/
def DCLCallbackHandler (procData : Ptr) : Call Exn DCLMachine Unit := do
  let com ← object procData
  callbackRecvHandler com (com.buffer + 0) 64

/-- The pairs that the loop of `startRecvIsoTransfer` appends. -/
def receivePairs (buffer : Nat) (this : Ptr) (n : Nat) : List DCLCommand :=
  (List.range n).foldl
    (fun program i => program ++ [.receivePacketStart (buffer + 64 * i) 64] ++ [.callProc this])
    [.label]

/-- The program of `startRecvIsoTransfer`. -/
def writeProgram (buffer : Nat) (this : Ptr) : List DCLCommand :=
  receivePairs buffer this 100 ++ [.jump 0]

/-- `CommunicationMacOSX::startRecvIsoTransfer`, where the ports and the channel
of IOKit are created and started. -/
def startRecvIsoTransfer (this isoChannel : Ptr) : Call Exn DCLMachine Unit := do
  let com ← object this
  modify fun s =>
    { s with
      coms := s.coms.modify this fun com => { com with isoChannel := some isoChannel }
      program := writeProgram com.buffer this
      next := 0 }

end CommunicationMacOSX

/-! ## Execution -/

/-- A packet arrives, or the program goes on without one. -/
inductive DCLEvent where
  | packet (packet : Packet)
  | goesOn
deriving DecidableEq, Repr

/-- Execute a command.  A packet is stored as far as the size of its command
reaches. -/
def DCLCommand.execute : DCLCommand → DCLEvent → DCLMachine → Option DCLMachine
  | .label, .goesOn, s => some { s with next := s.next + 1 }
  | .receivePacketStart buffer size, .packet packet, s =>
      some { s with memory := s.memory.store buffer (packet.take size), next := s.next + 1 }
  | .callProc procData, .goesOn, s =>
      (CommunicationMacOSX.DCLCallbackHandler procData s).state?.map fun s' =>
        { s' with next := s'.next + 1 }
  | .jump first, .goesOn, s => some { s with next := first }
  | _, _, _ => none

/-- The commands of a program, one after the other. -/
def engine : System DCLMachine DCLEvent where
  step s event := s.program[s.next]?.bind fun command => command.execute event s

/-- The packets among the events. -/
def packetsOf : List DCLEvent → List Packet
  | [] => []
  | .packet packet :: events => packet :: packetsOf events
  | .goesOn :: events => packetsOf events

theorem packetsOf_append (events later : List DCLEvent) :
    packetsOf (events ++ later) = packetsOf events ++ packetsOf later := by
  induction events with
  | nil => rfl
  | cons event events ih =>
      cases event with
      | packet packet => exact congrArg (packet :: ·) ih
      | goesOn => exact ih

/-! ## The commands of the program -/

namespace CommunicationMacOSX

section Program

variable {buffer n i : Nat} {this : Ptr}

theorem receivePairs_succ : receivePairs buffer this (n + 1) =
    receivePairs buffer this n ++ [.receivePacketStart (buffer + 64 * n) 64] ++
      [.callProc this] := by
  rw [receivePairs, List.range_succ, List.foldl_append]
  rfl

theorem length_receivePairs : (receivePairs buffer this n).length = 1 + 2 * n := by
  induction n with
  | zero => rfl
  | succ n ih =>
      rw [receivePairs_succ, List.length_append, List.length_append, ih]
      simp
      omega

/-- The pair with the number `i`. -/
theorem getElem?_receivePairs (inside : i < n) :
    (receivePairs buffer this n)[1 + 2 * i]? = some (.receivePacketStart (buffer + 64 * i) 64) ∧
      (receivePairs buffer this n)[2 + 2 * i]? = some (.callProc this) := by
  induction n with
  | zero => omega
  | succ n ih =>
      have length : (receivePairs buffer this n).length = 1 + 2 * n := length_receivePairs
      rw [receivePairs_succ, List.append_assoc]
      rcases Nat.lt_succ_iff_lt_or_eq.mp inside with earlier | rfl
      · rw [List.getElem?_append_left (by omega), List.getElem?_append_left (by omega)]
        exact ih earlier
      · constructor
        · rw [List.getElem?_append_right (Nat.le_of_eq length), length, Nat.sub_self]
          rfl
        · rw [List.getElem?_append_right (by omega), length,
            show 2 + 2 * i - (1 + 2 * i) = 1 by omega]
          rfl

theorem writeProgram_label : (writeProgram buffer this)[0]? = some .label := by
  have first : ∀ n, (receivePairs buffer this n)[0]? = some .label := by
    intro n
    induction n with
    | zero => rfl
    | succ n ih =>
        have length : (receivePairs buffer this n).length = 1 + 2 * n := length_receivePairs
        rw [receivePairs_succ, List.append_assoc, List.getElem?_append_left (by omega)]
        exact ih
  have length : (receivePairs buffer this 100).length = 1 + 2 * 100 := length_receivePairs
  rw [writeProgram, List.getElem?_append_left (by omega)]
  exact first 100

theorem writeProgram_pair (inside : i < 100) :
    (writeProgram buffer this)[1 + 2 * i]? = some (.receivePacketStart (buffer + 64 * i) 64) ∧
      (writeProgram buffer this)[2 + 2 * i]? = some (.callProc this) := by
  have length : (receivePairs buffer this 100).length = 1 + 2 * 100 := length_receivePairs
  rw [writeProgram, List.getElem?_append_left (by omega), List.getElem?_append_left (by omega)]
  exact getElem?_receivePairs inside

theorem writeProgram_jump : (writeProgram buffer this)[201]? = some (.jump 0) := by
  have length : (receivePairs buffer this 100).length = 1 + 2 * 100 := length_receivePairs
  rw [writeProgram, List.getElem?_append_right (by omega), length]
  rfl

end Program

end CommunicationMacOSX

/-! ## The invariant -/

/-- The command that comes next, after this many packets and this many calls. -/
inductive Position : Nat → Nat → Nat → Prop
  | label {received : Nat} (turn : received % 100 = 0) : Position 0 received received
  | receive {received i : Nat} (inside : i < 100) (slot : received % 100 = i) :
      Position (1 + 2 * i) received received
  | call {received i : Nat} (inside : i < 100) (slot : received % 100 = i) :
      Position (2 + 2 * i) (received + 1) received
  | jump {received : Nat} (turn : received % 100 = 0) : Position 201 received received

/-- The number of the last packet before `k` or at `k` that goes into the first
slot. -/
def firstSlot (k : Nat) : Nat := 100 * (k / 100)

/-- The contents begin with the packet, as far as a slot reaches. -/
def BeginsWith (contents : Nat → UInt8) (packet : Packet) : Prop :=
  ∀ j byte, j < 64 → packet[j]? = some byte → contents j = byte

/-- What all executions of the program of an object keep, which has received
these packets. -/
structure Serving (buffer : Nat) (this : Ptr) (packets : List Packet) (s : DCLMachine) : Prop where
  program : s.program = CommunicationMacOSX.writeProgram buffer this
  object : ∃ com isoChannel, s.coms this = some com ∧ com.buffer = buffer ∧
    com.isoChannel = some isoChannel
  position : Position s.next packets.length s.calls.length
  /-- what the first slot holds -/
  slot : ∀ k packet, packets.length = k + 1 → packets[firstSlot k]? = some packet →
    BeginsWith (fun j => s.memory (buffer + j)) packet
  given : ∀ k call, s.calls[k]? = some call → ∃ contents, call.contents = bytesOf contents 64 ∧
    ∀ packet, packets[firstSlot k]? = some packet → BeginsWith contents packet

section Invariant

variable {buffer : Nat} {this : Ptr} {packets : List Packet} {s s' : DCLMachine}
  {event : DCLEvent} {events : List DCLEvent} {k next : Nat}

/-- A command that changes nothing but what comes next. -/
theorem Serving.goTo (serving : Serving buffer this packets s)
    (position : Position next packets.length s.calls.length) :
    Serving buffer this packets { s with next } where
  program := serving.program
  object := serving.object
  position
  slot := serving.slot
  given := serving.given

theorem firstSlot_of_turn (turn : k % 100 = 0) : firstSlot k = k := by
  unfold firstSlot
  omega

theorem firstSlot_succ (within : (k + 1) % 100 ≠ 0) : firstSlot (k + 1) = firstSlot k := by
  unfold firstSlot
  omega

theorem firstSlot_le (k : Nat) : firstSlot k ≤ k := by
  unfold firstSlot
  omega

/-- A packet that has been stored in a slot. -/
theorem beginsWith_store (memory : HostMemory) (buffer : Nat) (packet : Packet) :
    BeginsWith (fun j => memory.store buffer (packet.take 64) (buffer + j)) packet := by
  intro j byte inside there
  show HostMemory.store memory buffer (packet.take 64) (buffer + j) = byte
  rw [HostMemory.store, if_pos (Nat.le_add_right ..), Nat.add_sub_cancel_left,
    List.getElem?_take_of_lt inside, there, Option.getD_some]

/-- A packet is received. -/
theorem Serving.receive (serving : Serving buffer this packets s) (packet : Packet) {i : Nat}
    (inside : i < 100)
    (slot : packets.length % 100 = i) (idle : s.calls.length = packets.length) :
    Serving buffer this (packets ++ [packet])
      { s with
        memory := s.memory.store (buffer + 64 * i) (packet.take 64)
        next := 2 + 2 * i } where
  program := serving.program
  object := serving.object
  position := by
    rw [List.length_append, List.length_singleton, idle]
    exact .call inside slot
  slot := by
    intro k first length there
    obtain rfl : packets.length = k := by simpa using length
    by_cases turn : packets.length % 100 = 0
    · -- The packet goes into the first slot.
      rw [firstSlot_of_turn turn, List.getElem?_append_right (Nat.le_refl _), Nat.sub_self] at there
      obtain rfl : packet = first := Option.some.inj there
      obtain rfl : i = 0 := slot.symm.trans turn
      exact beginsWith_store s.memory buffer packet
    · -- It goes behind the first slot, which stays as it is.
      obtain ⟨k, length'⟩ : ∃ k, packets.length = k + 1 :=
        Nat.exists_eq_succ_of_ne_zero fun zero => turn (by rw [zero])
      rw [length', firstSlot_succ (length' ▸ turn), List.getElem?_append_left] at there
      · intro j byte inside' at_
        have before : buffer + j < buffer + 64 * i := by omega
        show HostMemory.store s.memory (buffer + 64 * i) _ (buffer + j) = byte
        rw [HostMemory.store_outside (.inl before)]
        exact serving.slot k first length' there j byte inside' at_
      · have := firstSlot_le k
        omega
  given := by
    intro k call there
    obtain ⟨contents, same, begins⟩ := serving.given k call there
    refine ⟨contents, same, fun first at_ => begins first ?_⟩
    have earlier : k < s.calls.length := (List.getElem?_eq_some_iff.mp there).1
    rwa [List.getElem?_append_left (by have := firstSlot_le k; omega)] at at_

/-- The driver is called back. -/
theorem Serving.call (serving : Serving buffer this packets s) {i : Nat} (inside : i < 100)
    (slot : s.calls.length % 100 = i) (owed : packets.length = s.calls.length + 1) :
    ∃ call, (CommunicationMacOSX.DCLCallbackHandler this s).state? =
        some { s with calls := s.calls ++ [call] } ∧
      Serving buffer this packets { s with calls := s.calls ++ [call], next := 3 + 2 * i } := by
  obtain ⟨com, isoChannel, live, rfl, channel⟩ := serving.object
  refine ⟨⟨isoChannel, com.buffer + 0, bytesOf (fun j => s.memory (com.buffer + 0 + j)) 64⟩, ?_, ?_⟩
  · simp [CommunicationMacOSX.DCLCallbackHandler, CommunicationMacOSX.object,
      CommunicationMacOSX.callbackRecvHandler, live, channel]
  · refine ⟨serving.program, serving.object, ?_, serving.slot, ?_⟩
    · show Position _ _ (s.calls ++ [_]).length
      rw [List.length_append, List.length_singleton, owed]
      by_cases last : i = 99
      · rw [last]
        exact .jump (by omega)
      · rw [show 3 + 2 * i = 1 + 2 * (i + 1) by omega]
        exact .receive (by omega) (by omega)
    · intro k call there
      rw [List.getElem?_append] at there
      split at there
      · exact serving.given k call there
      · next behind =>
          -- This is the new call.
          rw [List.getElem?_singleton] at there
          split at there
          · next here =>
              cases there
              have number : k = s.calls.length := by omega
              exact ⟨_, rfl, fun first at_ => serving.slot k first (by omega) at_⟩
          · cases there

theorem step_eq {command : DCLCommand} {program : List DCLCommand} (same : s.program = program)
    (here : s.next = next) (there : program[next]? = some command) :
    engine.step s event = command.execute event s := by
  subst same here
  exact congrArg (Option.bind · _) there

/-- **One step** of the execution. -/
theorem Serving.step (serving : Serving buffer this packets s)
    (stepped : engine.step s event = some s') :
    Serving buffer this (packets ++ packetsOf [event]) s' := by
  have position := serving.position
  generalize here : s.next = next at position
  generalize r : packets.length = received at position
  generalize c : s.calls.length = called at position
  cases position with
  | label turn =>
      rw [step_eq serving.program here CommunicationMacOSX.writeProgram_label] at stepped
      cases event with
      | packet packet => cases stepped
      | goesOn =>
          cases stepped
          rw [packetsOf, packetsOf, List.append_nil]
          refine serving.goTo ?_
          rw [here, r, c]
          exact .receive (by omega) turn
  | @receive _ i inside slot =>
      rw [step_eq serving.program here (CommunicationMacOSX.writeProgram_pair inside).1] at stepped
      cases event with
      | packet packet =>
          cases stepped
          have received := serving.receive packet inside (r ▸ slot) (c.trans r.symm)
          rw [here, show 1 + 2 * i + 1 = 2 + 2 * i by omega]
          exact received
      | goesOn => cases stepped
  | @call _ i inside slot =>
      rw [step_eq serving.program here (CommunicationMacOSX.writeProgram_pair inside).2] at stepped
      cases event with
      | packet packet => cases stepped
      | goesOn =>
          obtain ⟨call, called, serving'⟩ := serving.call inside (c ▸ slot) (by omega)
          rw [DCLCommand.execute, called, Option.map_some] at stepped
          cases stepped
          rw [packetsOf, packetsOf, List.append_nil]
          dsimp only
          rw [here, show 2 + 2 * i + 1 = 3 + 2 * i by omega]
          exact serving'
  | jump turn =>
      rw [step_eq serving.program here CommunicationMacOSX.writeProgram_jump] at stepped
      cases event with
      | packet packet => cases stepped
      | goesOn =>
          cases stepped
          rw [packetsOf, packetsOf, List.append_nil]
          refine serving.goTo ?_
          rw [r, c]
          exact .label turn

/-- **All steps.** -/
theorem Serving.run (serving : Serving buffer this packets s)
    (reached : engine.run s events = some s') :
    Serving buffer this (packets ++ packetsOf events) s' := by
  induction events generalizing packets s with
  | nil =>
      cases reached
      rw [packetsOf, List.append_nil]
      exact serving
  | cons event events ih =>
      obtain ⟨s₁, stepped, reached⟩ := System.run_cons_eq_some.mp reached
      have serving' := ih (serving.step stepped) reached
      rwa [List.append_assoc, ← packetsOf_append, List.singleton_append] at serving'

/-! ### No packet is left -/

/-- Where no call is owed, the program comes to a command that receives. -/
theorem Serving.comes_to_receive (serving : Serving buffer this packets s)
    (idle : s.calls.length = packets.length) : ∃ events,
      engine.run s events = some { s with next := 1 + 2 * (packets.length % 100) } ∧
        packetsOf events = [] := by
  have position := serving.position
  generalize here : s.next = next at position
  generalize r : packets.length = received at position
  generalize c : s.calls.length = called at position
  have from_label (s : DCLMachine) (program : s.program = CommunicationMacOSX.writeProgram buffer this)
      (here : s.next = 0) : engine.step s .goesOn = some { s with next := 1 } := by
    rw [step_eq program here CommunicationMacOSX.writeProgram_label, DCLCommand.execute, here]
  cases position with
  | label turn =>
      refine ⟨[.goesOn], ?_, rfl⟩
      rw [System.run_cons_eq_some]
      exact ⟨_, from_label s serving.program here, by rw [turn]; rfl⟩
  | receive inside slot =>
      refine ⟨[], ?_, rfl⟩
      rw [slot, ← here]
      rfl
  | call inside slot => omega
  | jump turn =>
      refine ⟨[.goesOn, .goesOn], ?_, rfl⟩
      rw [System.run_cons_eq_some]
      refine ⟨{ s with next := 0 }, ?_, ?_⟩
      · rw [step_eq serving.program here CommunicationMacOSX.writeProgram_jump]
        rfl
      · rw [System.run_cons_eq_some]
        exact ⟨_, from_label { s with next := 0 } serving.program rfl, by rw [turn]; rfl⟩

theorem Serving.exists_receive (serving : Serving buffer this packets s) (packet : Packet) {i : Nat}
    (inside : i < 100) (here : s.next = 1 + 2 * i) :
    ∃ s', engine.step s (.packet packet) = some s' ∧ s'.next = 2 + 2 * i ∧ s'.calls = s.calls := by
  refine ⟨{ s with
    memory := s.memory.store (buffer + 64 * i) (packet.take 64)
    next := s.next + 1 }, ?_, ?_, rfl⟩
  · rw [step_eq serving.program here (CommunicationMacOSX.writeProgram_pair inside).1]
    rfl
  · show s.next + 1 = _
    omega

theorem Serving.exists_call (serving : Serving buffer this packets s) {i : Nat}
    (inside : i < 100) (slot : s.calls.length % 100 = i) (owed : packets.length = s.calls.length + 1)
    (here : s.next = 2 + 2 * i) :
    ∃ s', engine.step s .goesOn = some s' ∧ s'.calls.length = s.calls.length + 1 := by
  obtain ⟨call, called, -⟩ := serving.call inside slot owed
  refine ⟨{ s with calls := s.calls ++ [call], next := s.next + 1 }, ?_, by simp⟩
  rw [step_eq serving.program here (CommunicationMacOSX.writeProgram_pair inside).2,
    DCLCommand.execute, called]
  rfl

/-- A packet is received, and the driver is called back. -/
theorem Serving.serve (serving : Serving buffer this packets s)
    (idle : s.calls.length = packets.length) (packet : Packet) :
    ∃ events s', engine.run s events = some s' ∧ packetsOf events = [packet] ∧
      s'.calls.length = packets.length + 1 := by
  obtain ⟨before, reached, noPacket⟩ := serving.comes_to_receive idle
  have inside : packets.length % 100 < 100 := Nat.mod_lt _ (by decide)
  have ready := serving.run reached
  rw [noPacket, List.append_nil] at ready
  obtain ⟨s₁, received, here, calls⟩ := ready.exists_receive packet inside rfl
  have waiting := ready.step received
  have owed : (packets ++ packetsOf [DCLEvent.packet packet]).length = s₁.calls.length + 1 := by
    rw [List.length_append, calls, ← idle]
    rfl
  obtain ⟨s', called, longer⟩ := waiting.exists_call inside (by rw [calls, idle]) owed here
  refine ⟨before ++ [.packet packet, .goesOn], s', ?_, ?_, ?_⟩
  · rw [System.run_append, reached, Option.bind_some]
    exact System.run_cons_eq_some.mpr
      ⟨s₁, received, System.run_cons_eq_some.mpr ⟨s', called, rfl⟩⟩
  · rw [packetsOf_append, noPacket]
    rfl
  · rw [longer, calls, ← idle]

/-- **All packets** are received, and there is a call for each. -/
theorem serving_all (serving : Serving buffer this [] s) (idle : s.calls = [])
    (packets : List Packet) : ∃ events s', engine.run s events = some s' ∧
      packetsOf events = packets ∧ s'.calls.length = packets.length := by
  induction packets using List.reverseRecOn with
  | nil => exact ⟨[], s, rfl, rfl, congrArg List.length idle⟩
  | append_singleton packets packet ih =>
      obtain ⟨events, s₁, reached, same, length⟩ := ih
      have serving₁ := serving.run reached
      rw [same, List.nil_append] at serving₁
      obtain ⟨later, s', reached', one, length'⟩ := serving₁.serve length packet
      refine ⟨events ++ later, s', ?_, ?_, ?_⟩
      · rw [System.run_append, reached]
        exact reached'
      · rw [packetsOf_append, same, one]
      · rw [length', List.length_append, List.length_singleton]

end Invariant

/-! ## What the calls are given -/

section Calls

variable {s s₁ : DCLMachine} {this isoChannel buffer : Nat} {packets : List Packet}

theorem serving_start {u : Unit} (fresh : s.calls = [])
    (started : CommunicationMacOSX.startRecvIsoTransfer this isoChannel s = .returned u s₁) :
    ∃ buffer, Serving buffer this [] s₁ ∧ s₁.calls = [] := by
  obtain ⟨com, s₂, found, rest⟩ := Call.bind_eq_returned.mp started
  have live : s.coms this = some com ∧ s₂ = s := by
    unfold CommunicationMacOSX.object at found
    cases live : s.coms this with
    | none => simp [live] at found
    | some com' =>
        simp only [Call.bind_apply, Call.get_apply, Outcome.andThen_returned, live,
          Call.pure_apply, Outcome.returned.injEq] at found
        exact ⟨congrArg some found.1, found.2.symm⟩
  obtain ⟨live, rfl⟩ := live
  cases rest
  refine ⟨com.buffer, ⟨rfl, ?_, ?_, ?_, ?_⟩, fresh⟩
  · refine ⟨{ com with isoChannel := some isoChannel }, isoChannel, ?_, rfl, rfl⟩
    show (s₂.coms.modify this _) this = _
    rw [Heap.modify_self, live]
    rfl
  · show Position 0 0 s₂.calls.length
    rw [fresh]
    exact .label rfl
  · intro k packet length
    cases length
  · intro k call there
    dsimp only at there
    rw [fresh] at there
    cases there

/-- Whenever the engine has received these packets, the call with the number `k`
has been given the packet with the number `k`. -/
def GivesPackets (s : DCLMachine) (packets : List Packet) : Prop :=
  ∀ events s', engine.run s events = some s' → packetsOf events = packets →
    ∀ (k : Nat) (call : ReceivedData), s'.calls[k]? = some call →
      packets[k]? = some call.contents

/-- All packets fill a slot, and they are equal to those that go into the first
slot. -/
def FillFirstSlot (packets : List Packet) : Prop :=
  ∀ k packet, packets[k]? = some packet →
    packet.length = 64 ∧ packets[firstSlot k]? = some packet

/-- A packet that fills the slot is all that is in it. -/
theorem BeginsWith.eq {contents : Nat → UInt8} {packet : Packet} (begins : BeginsWith contents packet)
    (fills : packet.length = 64) : bytesOf contents 64 = packet := by
  apply List.ext_getElem?
  intro j
  by_cases inside : j < 64
  · rw [getElem?_bytesOf contents inside, List.getElem?_eq_getElem (fills ▸ inside)]
    exact congrArg some (begins j _ inside (List.getElem?_eq_getElem _))
  · rw [List.getElem?_eq_none, List.getElem?_eq_none]
    · rw [fills]
      exact Nat.le_of_not_lt inside
    · rw [length_bytesOf]
      exact Nat.le_of_not_lt inside

theorem Serving.gives_of_fill (serving : Serving buffer this [] s) (fill : FillFirstSlot packets) :
    GivesPackets s packets := by
  intro events s' reached same k call there
  have serving' := serving.run reached
  rw [same, List.nil_append] at serving'
  obtain ⟨contents, given, begins⟩ := serving'.given k call there
  -- There is no call without a packet.
  have called : k < s'.calls.length := (List.getElem?_eq_some_iff.mp there).1
  have received : k < packets.length := by
    have position := serving'.position
    generalize s'.next = next at position
    generalize packets.length = received at position ⊢
    generalize s'.calls.length = calls at position called
    cases position <;> omega
  have at_ := List.getElem?_eq_getElem received
  obtain ⟨length, first⟩ := fill k _ at_
  rw [given, (begins _ first).eq length]
  exact at_

theorem Serving.fill_of_gives (serving : Serving buffer this [] s) (idle : s.calls = [])
    (gives : GivesPackets s packets) : FillFirstSlot packets := by
  obtain ⟨events, s', reached, same, length⟩ := serving_all serving idle packets
  have serving' := serving.run reached
  rw [same, List.nil_append] at serving'
  -- What the call with the number `k` has been given.
  have given (k : Nat) (packet : Packet) (there : packets[k]? = some packet) :
      packet.length = 64 ∧ ∀ first, packets[firstSlot k]? = some first → first.length = 64 →
        packet = first := by
    have inside : k < s'.calls.length := by
      rw [length]
      exact (List.getElem?_eq_some_iff.mp there).1
    have called := List.getElem?_eq_getElem inside
    have right := gives events s' reached same k _ called
    obtain ⟨contents, bytes, begins⟩ := serving'.given k _ called
    rw [there, bytes] at right
    obtain rfl : packet = bytesOf contents 64 := Option.some.inj right
    exact ⟨length_bytesOf contents 64, fun first at_ fills => (begins first at_).eq fills⟩
  intro k packet there
  obtain ⟨fills, equal⟩ := given k packet there
  have inside : firstSlot k < packets.length :=
    Nat.lt_of_le_of_lt (firstSlot_le k) (List.getElem?_eq_some_iff.mp there).1
  have first := List.getElem?_eq_getElem inside
  refine ⟨fills, ?_⟩
  rw [first, equal _ first (given _ _ first).1]

/-- **The packets that are handed on.**  All packets are received and the driver
is called back for each, but every call is given its packet exactly if all
packets fill a slot and are equal to the last one before them that went into the
first slot. -/
theorem callbacks_given_iff (this isoChannel : Ptr) (s s₁ : DCLMachine) (fresh : s.calls = [])
    (started : CommunicationMacOSX.startRecvIsoTransfer this isoChannel s = .returned () s₁)
    (packets : List Packet) :
    (∃ events s', engine.run s₁ events = some s' ∧ packetsOf events = packets ∧
      s'.calls.length = packets.length) ∧
    (GivesPackets s₁ packets ↔ FillFirstSlot packets) := by
  obtain ⟨buffer, serving, idle⟩ := serving_start fresh started
  exact ⟨serving_all serving idle packets, serving.fill_of_gives idle, serving.gives_of_fill⟩

end Calls

/-- A communication object whose buffer is at `0x1000`. -/
def beforeTransfer : DCLMachine where
  memory _ := 0
  coms := Heap.empty.alloc ⟨0x1000, none⟩
  program := []
  next := 0
  calls := []

/-- A hundred equal packets, and one more for the first slot. -/
theorem callbacks_given_equal : ∃ s₁,
    CommunicationMacOSX.startRecvIsoTransfer 0 7 beforeTransfer = .returned () s₁ ∧
      GivesPackets s₁ (List.replicate 100 (List.replicate 64 1) ++ [List.replicate 64 2]) := by
  refine ⟨_, rfl, (callbacks_given_iff 0 7 beforeTransfer _ rfl rfl _).2.mpr ?_⟩
  intro k packet there
  have inside := (List.getElem?_eq_some_iff.mp there).1
  rw [List.length_append, List.length_replicate, List.length_singleton] at inside
  rcases Nat.lt_succ_iff_lt_or_eq.mp inside with earlier | rfl
  · rw [List.getElem?_append_left (by simpa using earlier), List.getElem?_replicate_of_lt earlier]
      at there
    obtain rfl := Option.some.inj there
    have lap : firstSlot k = 0 := by
      unfold firstSlot
      omega
    rw [lap]
    exact ⟨rfl, rfl⟩
  · obtain rfl : List.replicate 64 2 = packet := Option.some.inj there
    exact ⟨rfl, rfl⟩

/-- Two packets that fill a slot and are not equal: the second call is given the
first one again. -/
theorem callbacks_repeat : ∃ s₁,
    CommunicationMacOSX.startRecvIsoTransfer 0 7 beforeTransfer = .returned () s₁ ∧
      ¬GivesPackets s₁ [List.replicate 64 1, List.replicate 64 2] := by
  have started : CommunicationMacOSX.startRecvIsoTransfer 0 7 beforeTransfer = .returned () _ := rfl
  obtain ⟨buffer, serving, idle⟩ := serving_start rfl started
  refine ⟨_, started, fun gives => ?_⟩
  have first := (serving.fill_of_gives idle gives 1 _ rfl).2
  revert first
  decide

end LibPhantom
