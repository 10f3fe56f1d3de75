import PhantomDrivers.LibPhantom.MemoryReads
import PhantomDrivers.Raw1394.Traced

/-!
# Reads into a buffer

`CommunicationLibraw1394::read` stores what it reads through a pointer.  Here
the memory of the host is part of the state, and every transaction that
succeeds stores its bytes at `buffer + pos`.

* `readBuffer` — the function of the source.
* `readBuffer_eq` — it stores what `readNode` delivers, and nothing else.
* `readBuffer_fills` — over every sequence of outcomes, it fills the buffer with
  the bytes of the device, or a front of it of whole quadlets.
-/

namespace LibPhantom

open Semantics Raw1394

/-- The memory of the host. -/
abbrev HostMemory : Type := Nat → UInt8

namespace HostMemory

/-- Store data from an address on. -/
def store (host : HostMemory) (dest : Nat) (data : List UInt8) : HostMemory := fun a =>
  if dest ≤ a then (data[a - dest]?).getD (host a) else host a

variable {host : HostMemory} {dest a : Nat} {data : List UInt8}

@[simp] theorem store_nil : host.store dest [] = host := by
  funext a
  simp [store]

theorem store_outside (outside : a < dest ∨ dest + data.length ≤ a) :
    host.store dest data a = host a := by
  unfold store
  split
  · rw [List.getElem?_eq_none (by omega), Option.getD_none]
  · rfl

theorem store_bytesOf {block : Nat → UInt8} {n i : Nat} (inside : i < n) :
    host.store dest (bytesOf block n) (dest + i) = block i := by
  rw [store, if_pos (Nat.le_add_right ..), Nat.add_sub_cancel_left, getElem?_bytesOf block inside,
    Option.getD_some]

theorem store_append (front back : List UInt8) :
    (host.store dest front).store (dest + front.length) back = host.store dest (front ++ back) := by
  funext a
  unfold store
  by_cases behind : dest + front.length ≤ a
  · rw [if_pos behind, if_pos (by omega), if_pos (by omega),
      List.getElem?_append_right (by omega), List.getElem?_eq_none (show front.length ≤ a - dest by omega),
      Option.getD_none, Nat.sub_sub]
  · rw [if_neg behind]
    split
    · rw [List.getElem?_append_left (by omega)]
    · rfl

end HostMemory

/-- The memory of the host, next to the bus. -/
structure Buffered (β : Type) where
  host : HostMemory
  bus : β

namespace CommunicationLibraw1394

section

variable {β : Type} [Bus β]

/-- The `while` loop of `read`: the exception is the `errno`. -/
def readBufferLoop (handle : Handle) (node : UInt16) (address : UInt64) (buffer length : Nat) :
    Nat → Nat → Buffered β → Outcome Errno (Buffered β) Unit
  | 0, _, _ => .undefined
  | fuel + 1, pos, s =>
      if pos < length then
        match Bus.read handle node (address + UInt64.ofNat pos) (chunkLength length pos) s.bus with
        | (.error e, b') =>
            if e ≠ EAGAIN then .thrown e { s with bus := b' }
            else readBufferLoop handle node address buffer length fuel pos { s with bus := b' }
        | (.ok block, b') =>
            -- `raw1394_read` stores as many bytes as it was asked for
            let host := s.host.store (buffer + pos) (bytesOf block (chunkLength length pos))
            if pos + 4 ≤ INT_MAX then
              readBufferLoop handle node address buffer length fuel (pos + 4) ⟨host, b'⟩
            else .undefined
      else .returned () s

/-- The exception `read` leaves with. -/
def raiseErrno {σ : Type} (node : UInt16) (address : UInt64) :
    Outcome Errno σ Unit → Outcome Exn σ Unit
  | .returned () s => .returned () s
  | .thrown e s => .thrown (.failedTransfer address node e) s
  | .undefined => .undefined

/-- `CommunicationLibraw1394::read(node, address, buffer, length)` -/
def readBuffer (handle : Handle) (node : UInt16) (address : UInt64) (buffer : Nat)
    (length : UInt32) : Call Exn (Buffered β) Unit where
  run s := raiseErrno node address
    (readBufferLoop handle node address buffer length.toNat
      (length.toNat + Bus.patience s.bus + 1) 0 s)

/-- The end of a read, with what it stored in the memory of the host. -/
def intoBuffer (host : HostMemory) (buffer : Nat) :
    Outcome Shortfall β (List UInt8) → Outcome Errno (Buffered β) Unit
  | .returned bytes b => .returned () ⟨host.store buffer bytes, b⟩
  | .thrown shortfall b => .thrown shortfall.errno ⟨host.store buffer shortfall.stored, b⟩
  | .undefined => .undefined

variable {handle : Handle} {node : UInt16} {address : UInt64} {buffer length pos : Nat}
  {stored : List UInt8} {host : HostMemory}

/-- The loop stores what the loop of `readNode` collects. -/
theorem readBufferLoop_eq (fuel : Nat) (b : β) (front : stored.length = min pos length) :
    readBufferLoop handle node address buffer length fuel pos ⟨host.store buffer stored, b⟩ =
      intoBuffer host buffer (readLoop handle node address length fuel pos stored b) := by
  induction fuel generalizing pos stored b with
  | zero => rfl
  | succ fuel ih =>
      rw [readBufferLoop, readLoop]
      by_cases inside : pos < length
      · rw [if_pos inside, if_pos inside]
        obtain ⟨r, b', attempt⟩ : ∃ r b', Bus.read handle node (address + UInt64.ofNat pos)
            (chunkLength length pos) b = (r, b') := ⟨_, _, rfl⟩
        simp only [attempt]
        cases r with
        | error e =>
            dsimp only
            split
            · rfl
            · exact ih b' front
        | ok block =>
            dsimp only
            split
            · have place : buffer + pos = buffer + stored.length := by omega
              have longer : (stored ++ bytesOf block (chunkLength length pos)).length =
                  min (pos + 4) length := by
                rw [List.length_append, length_bytesOf, front]
                unfold chunkLength
                split <;> omega
              rw [place, HostMemory.store_append]
              exact ih b' longer
            · rfl
      · rw [if_neg inside, if_neg inside]
        rfl

/-- The read stores what the loop of `readNode` ends with. -/
theorem readBuffer_eq {length : UInt32} {b : β} {outcome : Outcome Shortfall β (List UInt8)}
    (loop : ReadLoop handle node address length.toNat 0 [] b outcome) :
    readBuffer handle node address buffer length ⟨host, b⟩ =
      raiseErrno node address (intoBuffer host buffer outcome) := by
  have nothing : ([] : List UInt8).length = min 0 length.toNat := (Nat.zero_min _).symm
  have computed : readLoop handle node address length.toNat
      (length.toNat + Bus.patience b + 1) 0 [] b = outcome :=
    (readLoop_eq_iff (Nat.le_refl _)).mpr loop
  have same : readBufferLoop handle node address buffer length.toNat
      (length.toNat + Bus.patience b + 1) 0 ⟨host.store buffer [], b⟩ = _ :=
    readBufferLoop_eq _ b nothing
  rw [HostMemory.store_nil, computed] at same
  exact congrArg (raiseErrno node address) same

end

/-! ## Reads over a sequence of outcomes -/

section

variable {handle : Handle} {node : UInt16} {address : UInt64} {buffer length pos : Nat}
  {stored : List UInt8}

/-- A chunk and the block behind it. -/
theorem fetched_chunk {made rest : List Attempt} {port : Nat} (inside : pos < length)
    (chunk : Fetched made port node (address + UInt64.ofNat pos) (chunkLength length pos))
    (behind : Fetched rest port node (address + UInt64.ofNat (pos + 4)) (length - (pos + 4))) :
    Fetched (made ++ rest) port node (address + UInt64.ofNat pos) (length - pos) := by
  rw [← chunkLength_add]
  apply chunk.append
  by_cases full : pos + 4 ≤ length
  · rwa [chunkLength_of_le full, UInt64.add_assoc, ← UInt64.ofNat_add]
  · -- the last chunk may be short, but nothing follows it
    rw [Nat.sub_eq_zero_of_le (show length ≤ pos + 4 by omega)] at behind ⊢
    exact ⟨behind.chunks, behind.once⟩

/-- What the loop asks for and what it stores, over every sequence of
outcomes. -/
theorem ends_readLoop_of_traced {b : TracedBus} {outcome : Outcome Shortfall TracedBus (List UInt8)}
    (loop : ReadLoop handle node address length pos stored b outcome)
    (defined : outcome ≠ .undefined) :
    outcome.Ends
      (fun bytes b' => ∃ made, b.Makes made b' ∧ (∀ t ∈ made, ¬t.Hard) ∧
        Fetched made handle.port node (address + UInt64.ofNat pos) (length - pos) ∧
        bytes = stored ++
          bytesOf (b.memory.block handle.port node (address + UInt64.ofNat pos)) (length - pos))
      (fun shortfall b' => ∃ before last k, b.Makes (before ++ [last]) b' ∧
        (∀ t ∈ before, ¬t.Hard) ∧ last.outcome = some shortfall.errno ∧
        shortfall.errno ≠ EAGAIN ∧ pos + 4 * k < length ∧
        Fetched (before ++ [last]) handle.port node (address + UInt64.ofNat pos) (4 * k) ∧
        shortfall.stored = stored ++
          bytesOf (b.memory.block handle.port node (address + UInt64.ofNat pos)) (4 * k)) := by
  induction loop with
  | @done pos stored b reached =>
      rw [Nat.sub_eq_zero_of_le reached]
      exact ⟨[], .refl b, nofun, .nil, (List.append_nil _).symm⟩
  | @chunk pos stored b b' block outcome inside settles _ _ ih =>
      obtain ⟨waited, last, makes, soft, -, ok⟩ :=
        TracedBus.makes_settles settles (chunkLength_le length pos)
      obtain ⟨notHard, delivered, fetched⟩ := ok block rfl
      have allSoft : ∀ t ∈ waited ++ [last], ¬t.Hard :=
        List.forall_mem_append.mpr ⟨soft, List.forall_mem_singleton.mpr notHard⟩
      refine (ih defined).imp ?_ ?_
      · rintro bytes b₂ ⟨made, makes', soft', fetched', filled⟩
        refine ⟨(waited ++ [last]) ++ made, makes.trans makes',
          List.forall_mem_append.mpr ⟨allSoft, soft'⟩, fetched_chunk inside fetched fetched', ?_⟩
        rw [filled, delivered, makes.memory, List.append_assoc, bytesOf_chunk]
      · rintro shortfall b₂ ⟨before, bad, k, makes', soft', failed, hard, room, fetched', filled⟩
        have full : chunkLength length pos = 4 := chunkLength_of_le (by omega)
        have next : address + UInt64.ofNat (pos + 4) = address + UInt64.ofNat pos + UInt64.ofNat 4 := by
          rw [UInt64.ofNat_add, UInt64.add_assoc]
        have count : 4 * (k + 1) = 4 + 4 * k := by omega
        rw [full] at fetched
        rw [next] at fetched'
        refine ⟨(waited ++ [last]) ++ before, bad, k + 1, ?_,
          List.forall_mem_append.mpr ⟨allSoft, soft'⟩, failed, hard, by omega, ?_, ?_⟩
        · rw [List.append_assoc]
          exact makes.trans makes'
        · rw [List.append_assoc, count]
          exact fetched.append fetched'
        · rw [filled, delivered, makes.memory, List.append_assoc, full, count, bytesOf_add, next]
          congr 3
          funext i
          rw [Memory.block_add]
  | overflow => exact absurd rfl defined
  | @failed pos stored b b' e inside settles =>
      obtain ⟨waited, last, makes, soft, error, -⟩ :=
        TracedBus.makes_settles settles (chunkLength_le length pos)
      obtain ⟨failed, fetched⟩ := error e rfl
      have hard : e ≠ EAGAIN := fun again => settles.final (congrArg Except.error again)
      exact ⟨waited, last, 0, makes, soft, failed, hard, by omega, fetched,
        (List.append_nil _).symm⟩

end

end CommunicationLibraw1394

open CommunicationLibraw1394

/-- The attempts `made` filled the first `count` bytes of the buffer with the
bytes of the device, and nothing else was written. -/
structure Fills (s s' : Buffered TracedBus) (made : List Attempt) (port : Nat) (node : UInt16)
    (address : UInt64) (buffer count : Nat) : Prop where
  makes : s.bus.Makes made s'.bus
  fetched : Fetched made port node address count
  filled : ∀ i < count, s'.host (buffer + i) = s.bus.memory.block port node address i
  frame : ∀ a, a < buffer ∨ buffer + count ≤ a → s'.host a = s.host a

theorem fills_store {s : Buffered TracedBus} {b' : TracedBus} {made : List Attempt} {port : Nat}
    {node : UInt16} {address : UInt64} {count : Nat} (buffer : Nat)
    (makes : s.bus.Makes made b') (fetched : Fetched made port node address count) :
    Fills s ⟨s.host.store buffer (bytesOf (s.bus.memory.block port node address) count), b'⟩ made
      port node address buffer count where
  makes := makes
  fetched := fetched
  filled _ inside := HostMemory.store_bytesOf inside
  frame _ outside := HostMemory.store_outside (by rwa [length_bytesOf])

/-- **Reads into a buffer.**  Over every sequence of outcomes, a read of at most
`0x7ffffffc` bytes ends.  If none of its attempts fails with another `errno`
than `EAGAIN`, it returns with the whole buffer filled; otherwise it throws at
the first one that does, with a front of whole quadlets filled. -/
theorem readBuffer_fills (handle : Handle) (node : UInt16) (address : UInt64) (buffer : Nat)
    (length : UInt32) (small : length.toNat ≤ 0x7ffffffc) (s : Buffered TracedBus) :
    ∃ s' made,
      ((∀ t ∈ made, ¬t.Hard) ∧
        Fills s s' made handle.port node address buffer length.toNat ∧
        readBuffer handle node address buffer length s = .returned () s') ∨
      ∃ before last e count, made = before ++ [last] ∧ (∀ t ∈ before, ¬t.Hard) ∧
        last.outcome = some e ∧ e ≠ EAGAIN ∧ count < length.toNat ∧ 4 ∣ count ∧
        Fills s s' made handle.port node address buffer count ∧
        readBuffer handle node address buffer length s =
          .thrown (.failedTransfer address node e) s' := by
  obtain ⟨outcome, loop, -⟩ := exists_readLoop handle node address length s.bus
  have defined := loop.defined small rfl
  have ends := ends_readLoop_of_traced loop defined
  have reads : readBuffer handle node address buffer length s =
      raiseErrno node address (intoBuffer s.host buffer outcome) := readBuffer_eq loop
  have start : address + UInt64.ofNat 0 = address := by
    rw [show UInt64.ofNat 0 = 0 from rfl, UInt64.add_zero]
  rw [start] at ends
  cases outcome with
  | returned bytes b' =>
      obtain ⟨made, makes, soft, fetched, filled⟩ := ends
      rw [filled, List.nil_append] at reads
      exact ⟨_, made, .inl ⟨soft, fills_store buffer makes fetched, reads⟩⟩
  | thrown shortfall b' =>
      obtain ⟨before, last, k, makes, soft, failed, hard, room, fetched, filled⟩ := ends
      rw [intoBuffer, filled, List.nil_append] at reads
      exact ⟨_, before ++ [last], .inr ⟨before, last, shortfall.errno, 4 * k, rfl, soft, failed,
        hard, by omega, ⟨k, rfl⟩, fills_store buffer makes fetched, reads⟩⟩
  | undefined => exact absurd rfl defined

/-- A bus on which the second transaction has to be repeated. -/
def hesitant : TracedBus where
  memory _ _ a := a.toUInt8
  outcomes :=
    { stream := fun i => if i = 1 then some EAGAIN else none
      calm := 2
      ready := fun i late => by
        show (if i = 1 then some EAGAIN else none) ≠ some EAGAIN
        rw [if_neg (by omega)]
        nofun }
  record := []

/-- A read of six bytes makes its second chunk twice. -/
theorem readBuffer_fills_six : ∃ s',
    readBuffer ⟨1, 0⟩ 0xffc0 0x100 16 6 ⟨fun _ => 0, hesitant⟩ = .returned () s' ∧
      ∀ i < 6, s'.host (16 + i) = UInt8.ofNat i := by
  have read := readBuffer_fills ⟨1, 0⟩ 0xffc0 0x100 16 6 (by decide) ⟨fun _ => 0, hesitant⟩
  obtain ⟨s', made, full | broken⟩ := read
  · obtain ⟨-, fills, returned⟩ := full
    refine ⟨s', returned, fun i inside => ?_⟩
    rw [fills.filled i inside]
    interval_cases i <;> rfl
  · obtain ⟨before, last, e, count, rfl, -, failed, hard, -, -, fills, -⟩ := broken
    rw [fills.makes.outcome_last] at failed
    have outcome : (if before.length = 1 then some EAGAIN else none) = some e := failed
    split at outcome
    · exact absurd (Option.some.inj outcome).symm hard
    · cases outcome

end LibPhantom
