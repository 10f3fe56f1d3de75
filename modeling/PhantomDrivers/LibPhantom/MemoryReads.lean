import PhantomDrivers.LibPhantom.Communication
import PhantomDrivers.Raw1394.Memory

/-!
# Reads of byte memories

The loop of `CommunicationLibraw1394::read` on a bus of byte memories.

* `bytesOf_chunk` — a block is its next chunk followed by the rest.
* `ends_readLoop_of_memory` — whatever fails, a read that returns delivers what
  the memory holds.
* `readNode_faultless` — where nothing fails, it returns.
-/

namespace LibPhantom

open Semantics Raw1394 CommunicationLibraw1394

variable {memory : Memory} {handle : Handle} {node : UInt16} {address : UInt64}
  {length pos : Nat} {buffer : List UInt8}

/-- A block is its next chunk followed by the rest. -/
theorem bytesOf_chunk (port : Nat) :
    bytesOf (memory.block port node (address + UInt64.ofNat pos)) (chunkLength length pos) ++
        bytesOf (memory.block port node (address + UInt64.ofNat (pos + 4))) (length - (pos + 4)) =
      bytesOf (memory.block port node (address + UInt64.ofNat pos)) (length - pos) := by
  by_cases full : pos + 4 ≤ length
  · rw [chunkLength_of_le full, show length - pos = 4 + (length - (pos + 4)) by omega,
      bytesOf_add]
    congr 2
    funext i
    rw [Memory.block_add, Memory.block_add, Nat.add_assoc]
  · have short : length ≤ pos + 4 := by omega
    rw [chunkLength_of_short short, Nat.sub_eq_zero_of_le short, bytesOf_zero, List.append_nil]

/-- The loop delivers what the memory holds and leaves it alone. -/
theorem ends_readLoop_of_contents {β : Type} [Bus β] [ServesMemory β] {b : β}
    {outcome : Outcome Shortfall β (List UInt8)}
    (loop : ReadLoop handle node address length pos buffer b outcome)
    (defined : outcome ≠ .undefined) :
    outcome.Ends
      (fun bytes b' => ServesMemory.contents b' = ServesMemory.contents b ∧ bytes = buffer ++
        bytesOf ((ServesMemory.contents b).block handle.port node (address + UInt64.ofNat pos))
          (length - pos))
      (fun _ b' => ServesMemory.contents b' = ServesMemory.contents b) := by
  induction loop with
  | @done pos buffer b reached =>
      rw [Nat.sub_eq_zero_of_le reached]
      exact ⟨rfl, (List.append_nil _).symm⟩
  | @chunk pos buffer b b' block outcome inside settles _ _ ih =>
      obtain ⟨same, delivered⟩ := ServesMemory.settles_read settles
      refine (ih defined).imp ?_ fun _ s kept => kept.trans same
      rintro bytes s ⟨kept, filled⟩
      refine ⟨kept.trans same, ?_⟩
      rw [filled, delivered block rfl, same, List.append_assoc, bytesOf_chunk]
  | overflow => exact absurd rfl defined
  | failed _ settles => exact (ServesMemory.settles_read settles).1

theorem ends_readLoop_of_memory {b : MemoryBus} {outcome : Outcome Shortfall MemoryBus (List UInt8)}
    (loop : ReadLoop handle node address length pos buffer b outcome)
    (defined : outcome ≠ .undefined) :
    outcome.Ends
      (fun bytes b' => b'.memory = b.memory ∧ bytes = buffer ++
        bytesOf (b.memory.block handle.port node (address + UInt64.ofNat pos)) (length - pos))
      (fun _ b' => b'.memory = b.memory) :=
  ends_readLoop_of_contents loop defined

/-- A loop that is left by an exception came to a hard failure before it had all
of its chunks. -/
theorem hardFailureWithin_of_thrown {b : MemoryBus} {outcome : Outcome Shortfall MemoryBus (List UInt8)}
    (loop : ReadLoop handle node address length pos buffer b outcome) {chunks : Nat}
    (enough : length ≤ pos + 4 * chunks) {shortfall : Shortfall} {b' : MemoryBus}
    (thrown : outcome = .thrown shortfall b') :
    MemoryBus.hardFailureWithin chunks b.faults = true := by
  induction loop generalizing chunks with
  | done => cases thrown
  | chunk inside settles _ _ ih =>
      cases chunks with
      | zero => omega
      | succ chunks =>
          rw [(MemoryBus.hardFailureWithin_settles chunks settles).1 _ rfl]
          exact ih (by omega) thrown
  | overflow => cases thrown
  | failed inside settles =>
      cases chunks with
      | zero => omega
      | succ chunks => exact (MemoryBus.hardFailureWithin_settles chunks settles).2 _ rfl

/-- Where nothing fails, every chunk arrives. -/
theorem readLoop_faultless (memory : Memory) (handle : Handle) (node : UInt16) (address : UInt64)
    (buffer : List UInt8) (small : length ≤ 2147483644) (aligned : pos % 4 = 0) :
    ReadLoop handle node address length pos buffer (⟨memory, []⟩ : MemoryBus)
      (.returned (buffer ++
          bytesOf (memory.block handle.port node (address + UInt64.ofNat pos)) (length - pos))
        ⟨memory, []⟩) := by
  induction missing : length - pos using Nat.strongRecOn generalizing pos buffer with
  | ind _ ih =>
      subst missing
      by_cases inside : pos < length
      · have rest (front : List UInt8) := ih (length - (pos + 4)) (by omega) front
          (show (pos + 4) % 4 = 0 by omega) rfl
        have chunk := rest (buffer ++
          bytesOf (memory.block handle.port node (address + UInt64.ofNat pos))
            (chunkLength length pos))
        rw [List.append_assoc, bytesOf_chunk] at chunk
        exact .chunk inside (.ended rfl nofun) (by unfold INT_MAX; omega) chunk
      · rw [Nat.sub_eq_zero_of_le (Nat.le_of_not_lt inside), bytesOf_zero, List.append_nil]
        exact .done (Nat.le_of_not_lt inside)

theorem readNode_faultless (memory : Memory) (handle : Handle) (node : UInt16) (address : UInt64)
    {length : UInt32} (small : length.toNat ≤ 2147483644) :
    readNode handle node address length (⟨memory, []⟩ : MemoryBus) =
      .returned (bytesOf (memory.block handle.port node address) length.toNat) ⟨memory, []⟩ := by
  have loop := readLoop_faultless memory handle node address [] small (show 0 % 4 = 0 from rfl)
  rw [readNode_eq loop, List.nil_append, show UInt64.ofNat 0 = 0 from rfl, UInt64.add_zero,
    Nat.sub_zero]
  rfl

end LibPhantom
