import PhantomDrivers.Raw1394.Interface

/-!
# A bus of byte memories

Every node is a byte memory.  Transactions either succeed or fail, as a
schedule of faults says; a failing transaction has no effect on the memories.
There is no isochronous resource manager on this bus: requests for channels
are refused.

* `Memory`, `Memory.store`, `Memory.block` — the contents of all nodes.
* `ServesMemory` — the buses whose reads deliver what such memories hold.
* `MemoryBus` — the memories and the outcomes of the coming transactions.
* `hardFailureWithin` — whether a schedule lets fewer than `n` transactions
  succeed before one fails for good.
-/

namespace Raw1394

open Semantics

/-- The bytes of all nodes, by port, node and address. -/
abbrev Memory : Type := Nat → UInt16 → UInt64 → UInt8

namespace Memory

/-- Store data from an address on. -/
def store (memory : Memory) (port : Nat) (node : UInt16) (address : UInt64)
    (data : List UInt8) : Memory := fun p n a =>
  if p = port ∧ n = node then (data[(a - address).toNat]?).getD (memory p n a)
  else memory p n a

/-- The bytes from an address on. -/
def block (memory : Memory) (port : Nat) (node : UInt16) (address : UInt64) : Nat → UInt8 :=
  fun i => memory port node (address + UInt64.ofNat i)

/-- The quadlet at an address, as it is sent over the bus. -/
def quadlet (memory : Memory) (port : Nat) (node : UInt16) (address : UInt64) : UInt32 :=
  beQuadlet (memory.block port node address 0) (memory.block port node address 1)
    (memory.block port node address 2) (memory.block port node address 3)

variable {memory : Memory} {port : Nat} {node : UInt16} {address : UInt64}

theorem block_add (i k : Nat) :
    memory.block port node (address + UInt64.ofNat i) k = memory.block port node address (i + k) := by
  rw [block, block, UInt64.ofNat_add, UInt64.add_assoc]

theorem store_other_node {p : Nat} {n : UInt16} {a : UInt64} {data : List UInt8}
    (different : ¬(p = port ∧ n = node)) :
    memory.store port node address data p n a = memory p n a :=
  if_neg different

/-- A register of one byte holds what was written to it. -/
@[simp] theorem store_singleton_self (byte : UInt8) :
    memory.store port node address [byte] port node address = byte := by
  simp [store]

theorem store_singleton_of_ne {a : UInt64} {byte : UInt8} {p : Nat} {n : UInt16}
    (different : a ≠ address) : memory.store port node address [byte] p n a = memory p n a := by
  have apart : (a - address).toNat ≠ 0 := by
    intro zero
    have same : a - address = 0 := UInt64.toNat_inj.mp zero
    rw [UInt64.sub_eq_iff_eq_add, UInt64.zero_add] at same
    exact different same
  unfold store
  split
  · rw [List.getElem?_eq_none (by rw [List.length_singleton]; omega), Option.getD_none]
  · rfl

/-- Writing a register again. -/
theorem store_store_singleton (byte byte' : UInt8) :
    (memory.store port node address [byte]).store port node address [byte'] =
      memory.store port node address [byte'] := by
  ext p n a : 3
  by_cases here : p = port ∧ n = node
  · obtain ⟨rfl, rfl⟩ := here
    rcases eq_or_ne a address with rfl | different
    · rw [store_singleton_self, store_singleton_self]
    · rw [store_singleton_of_ne different, store_singleton_of_ne different,
        store_singleton_of_ne different]
  · rw [store_other_node here, store_other_node here, store_other_node here]

/-- A register is written with what it holds. -/
theorem store_singleton_same :
    memory.store port node address [memory port node address] = memory := by
  ext p n a : 3
  by_cases here : p = port ∧ n = node
  · obtain ⟨rfl, rfl⟩ := here
    rcases eq_or_ne a address with rfl | different
    · exact store_singleton_self _
    · exact store_singleton_of_ne different
  · exact store_other_node here

/-- Two registers are written in any order. -/
theorem store_singleton_comm {address' : UInt64} (different : address ≠ address') (byte byte' : UInt8) :
    (memory.store port node address [byte]).store port node address' [byte'] =
      (memory.store port node address' [byte']).store port node address [byte] := by
  ext p n a : 3
  by_cases here : p = port ∧ n = node
  · obtain ⟨rfl, rfl⟩ := here
    rcases eq_or_ne a address with rfl | notFirst
    · rw [store_singleton_of_ne different, store_singleton_self, store_singleton_self]
    · rcases eq_or_ne a address' with rfl | notSecond
      · rw [store_singleton_self, store_singleton_of_ne notFirst, store_singleton_self]
      · rw [store_singleton_of_ne notSecond, store_singleton_of_ne notFirst,
          store_singleton_of_ne notFirst, store_singleton_of_ne notSecond]
  · rw [store_other_node here, store_other_node here, store_other_node here,
      store_other_node here]

end Memory

/-- A bus whose reads deliver what byte memories hold and leave these alone,
whatever else may happen on it. -/
class ServesMemory (β : Type) [Bus β] where
  contents : β → Memory
  read_spec {handle : Handle} {node : UInt16} {address : UInt64} {length : Nat} {b b' : β}
    {r : Except Errno (Nat → UInt8)} :
    Bus.read handle node address length b = (r, b') →
      contents b' = contents b ∧
        ∀ block, r = .ok block → block = (contents b).block handle.port node address

/-- Repeating a read leaves the memories alone, too. -/
theorem ServesMemory.settles_read {β : Type} [Bus β] [ServesMemory β] {handle : Handle}
    {node : UInt16} {address : UInt64} {length : Nat} {b b' : β}
    {r : Except Errno (Nat → UInt8)}
    (settles : Settles (Bus.read handle node address length) b r b') :
    contents b' = contents b ∧
      ∀ block, r = .ok block → block = (contents b).block handle.port node address := by
  induction settles with
  | ended attempt _ => exact read_spec attempt
  | again attempt _ ih =>
      have same := (read_spec attempt).1
      rw [same] at ih
      exact ih

/-- A bus of byte memories.  `faults` are the outcomes of the coming
transactions, `none` for a success; behind its end all succeed. -/
structure MemoryBus where
  memory : Memory
  faults : List (Option Errno)

namespace MemoryBus

/-- The outcome of the next transaction, and the bus after it. -/
def outcome (b : MemoryBus) : Option Errno × MemoryBus :=
  match b.faults with
  | [] => (none, b)
  | fault :: faults => (fault, { b with faults := faults })

/-- A read. -/
def readBlock (port : Nat) (node : UInt16) (address : UInt64) :
    Transaction MemoryBus (Nat → UInt8) := fun b =>
  match b.outcome with
  | (some e, b') => (.error e, b')
  | (none, b') => (.ok (b.memory.block port node address), b')

/-- A write. -/
def writeBlock (port : Nat) (node : UInt16) (address : UInt64) (data : List UInt8) :
    Transaction MemoryBus Unit := fun b =>
  match b.outcome with
  | (some e, b') => (.error e, b')
  | (none, b') => (.ok (), { b' with memory := b'.memory.store port node address data })

theorem outcome_patience (b : MemoryBus) : b.outcome.2.faults.length ≤ b.faults.length := by
  unfold outcome
  cases faults : b.faults <;> simp [faults]

theorem outcome_patience_of_fault {b b' : MemoryBus} {e : Errno}
    (equation : b.outcome = (some e, b')) : b'.faults.length < b.faults.length := by
  unfold outcome at equation
  cases faults : b.faults with
  | nil => simp [faults] at equation
  | cons fault rest =>
      simp only [faults, Prod.mk.injEq] at equation
      obtain ⟨-, rfl⟩ := equation
      simp

theorem outcome_of_read_error {port : Nat} {node : UInt16} {address : UInt64} {b b' : MemoryBus}
    {e : Errno} (attempt : readBlock port node address b = (.error e, b')) :
    b.outcome = (some e, b') := by
  unfold readBlock at attempt
  split at attempt
  · next e₁ b₁ equation =>
      obtain ⟨⟨⟩, rfl⟩ := Prod.mk.inj attempt
      exact equation
  · cases (Prod.mk.inj attempt).1

theorem outcome_of_write_error {port : Nat} {node : UInt16} {address : UInt64}
    {data : List UInt8} {b b' : MemoryBus} {e : Errno}
    (attempt : writeBlock port node address data b = (.error e, b')) :
    b.outcome = (some e, b') := by
  unfold writeBlock at attempt
  split at attempt
  · next e₁ b₁ equation =>
      obtain ⟨⟨⟩, rfl⟩ := Prod.mk.inj attempt
      exact equation
  · cases (Prod.mk.inj attempt).1

instance : Bus MemoryBus where
  read handle node address _ := readBlock handle.port node address
  write handle node address data := writeBlock handle.port node address data
  channelModify _ _ _ b := (false, b.outcome.2)
  patience b := b.faults.length
  read_patience handle node address _ b := by
    have := b.outcome_patience
    unfold readBlock
    split <;> simp_all
  read_again attempt := outcome_patience_of_fault (outcome_of_read_error attempt)
  write_again attempt := outcome_patience_of_fault (outcome_of_write_error attempt)

/-! ## What transactions do -/

@[simp] theorem memory_outcome (b : MemoryBus) : b.outcome.2.memory = b.memory := by
  unfold outcome
  cases b.faults <;> rfl

variable {handle : Handle} {node : UInt16} {address : UInt64} {length : Nat} {b b' : MemoryBus}

theorem read_eq : Bus.read handle node address length b = readBlock handle.port node address b :=
  rfl

/-- A read attempt leaves the memories alone, and delivers what they hold if it
succeeds. -/
theorem readBlock_spec {port : Nat} {r : Except Errno (Nat → UInt8)}
    (attempt : readBlock port node address b = (r, b')) :
    b'.memory = b.memory ∧ ∀ block, r = .ok block → block = b.memory.block port node address := by
  have memory := b.memory_outcome
  unfold readBlock at attempt
  split at attempt
  · next e b₁ equation =>
      obtain ⟨rfl, rfl⟩ := Prod.mk.inj attempt
      rw [equation] at memory
      exact ⟨memory, nofun⟩
  · next b₁ equation =>
      obtain ⟨rfl, rfl⟩ := Prod.mk.inj attempt
      rw [equation] at memory
      exact ⟨memory, fun block same => (Except.ok.inj same).symm⟩

instance : ServesMemory MemoryBus where
  contents b := b.memory
  read_spec attempt := readBlock_spec attempt

/-! ## Schedules -/

/-- Fewer than `n` transactions succeed before one fails with another `errno`
than `EAGAIN`. -/
def hardFailureWithin : Nat → List (Option Errno) → Bool
  | 0, _ => false
  | _ + 1, [] => false
  | n + 1, none :: faults => hardFailureWithin n faults
  | n + 1, some e :: faults =>
      if e = EAGAIN then hardFailureWithin (n + 1) faults else true

theorem hardFailureWithin_nil (n : Nat) : hardFailureWithin n [] = false := by
  cases n <;> rfl

/-- A settled read takes one success off the schedule, or ends at a hard
failure. -/
theorem hardFailureWithin_settles {r : Except Errno (Nat → UInt8)} (n : Nat)
    (settles : Settles (Bus.read handle node address length) b r b') :
    (∀ block, r = .ok block →
        hardFailureWithin (n + 1) b.faults = hardFailureWithin n b'.faults) ∧
      ∀ e, r = .error e → hardFailureWithin (n + 1) b.faults = true := by
  induction settles with
  | @ended b b' r attempt final =>
      rw [read_eq] at attempt
      unfold readBlock outcome at attempt
      cases faults : b.faults with
      | nil =>
          simp only [faults] at attempt
          obtain ⟨rfl, rfl⟩ := Prod.mk.inj attempt
          rw [faults]
          exact ⟨fun _ _ => by cases n <;> rfl, nofun⟩
      | cons fault rest =>
          cases fault with
          | none =>
              simp only [faults] at attempt
              obtain ⟨rfl, rfl⟩ := Prod.mk.inj attempt
              exact ⟨fun _ _ => rfl, nofun⟩
          | some e =>
              simp only [faults] at attempt
              obtain ⟨rfl, rfl⟩ := Prod.mk.inj attempt
              have hard : e ≠ EAGAIN := fun again => final (congrArg _ again)
              exact ⟨nofun, fun _ _ => by simp [hardFailureWithin, hard]⟩
  | @again b b₁ b' r attempt _ ih =>
      rw [read_eq] at attempt
      have equation := outcome_of_read_error attempt
      unfold outcome at equation
      cases faults : b.faults with
      | nil => simp [faults] at equation
      | cons fault rest =>
          simp only [faults, Prod.mk.injEq] at equation
          obtain ⟨rfl, rfl⟩ := equation
          simpa [hardFailureWithin] using ih

end MemoryBus

end Raw1394
