import PhantomDrivers.Raw1394.Memory

/-!
# A bus with isochronous resource managers

Every port has a node that manages its isochronous channels.  Other nodes take
free channels and give theirs back at any time; between two transactions of the
host they may do so any number of times.

* `Allocation` — who holds which channel.
* `Turn` — what happens before the next transaction, and how that ends.  Faults
  of the manager are kept apart from those of the other registers.
* `ManagedBus` — byte memories, the allocation, and the coming turns.
* `Elapses` — the bus goes on as far as the host can tell: its own channels and
  the memories stay as they are.  What a transaction does is stated as a state
  from which the bus then elapses.
-/

namespace Raw1394

open Semantics

/-- Who holds a channel. -/
inductive Holder where
  | library
  | other
deriving DecidableEq, Repr

/-- The holders of the channels, by port. -/
abbrev Allocation : Type := Nat → Nat → Option Holder

/-- What another node does. -/
inductive ForeignAct where
  | takes (port channel : Nat)
  | givesBack (port channel : Nat)
deriving DecidableEq, Repr

namespace Allocation

/-- Give a channel to a holder, or to nobody. -/
def assign (allocation : Allocation) (port channel : Nat) (holder : Option Holder) :
    Allocation := fun p c => if p = port ∧ c = channel then holder else allocation p c

/-- Another node takes a channel that is free, or gives back one that it
holds. -/
def foreign (allocation : Allocation) : ForeignAct → Allocation
  | .takes port channel =>
      if allocation port channel = none then allocation.assign port channel (some .other)
      else allocation
  | .givesBack port channel =>
      if allocation port channel = some .other then allocation.assign port channel none
      else allocation

variable {allocation : Allocation} {port channel p c : Nat} {holder : Option Holder}

@[simp] theorem assign_self : allocation.assign port channel holder port channel = holder :=
  if_pos ⟨rfl, rfl⟩

theorem assign_of_ne (different : ¬(p = port ∧ c = channel)) :
    allocation.assign port channel holder p c = allocation p c :=
  if_neg different

/-- Other nodes do not touch what the library holds. -/
theorem foreign_eq_library (act : ForeignAct) :
    allocation.foreign act p c = some .library ↔ allocation p c = some .library := by
  cases act with
  | takes port channel =>
      rw [foreign]
      split
      · next free =>
          by_cases same : p = port ∧ c = channel
          · obtain ⟨rfl, rfl⟩ := same
            simp [free]
          · rw [assign_of_ne same]
      · rfl
  | givesBack port channel =>
      rw [foreign]
      split
      · next held =>
          by_cases same : p = port ∧ c = channel
          · obtain ⟨rfl, rfl⟩ := same
            simp [held]
          · rw [assign_of_ne same]
      · rfl

theorem foldl_foreign_eq_library (acts : List ForeignAct) :
    acts.foldl foreign allocation p c = some .library ↔ allocation p c = some .library := by
  induction acts generalizing allocation with
  | nil => rfl
  | cons act acts ih => exact ih.trans (foreign_eq_library act)

end Allocation

/-- What other nodes do before a transaction, and how the transaction ends if
it reaches a register or the manager. -/
structure Turn where
  acts : List ForeignAct
  fault : Option Errno
  managerFault : Option Errno
deriving DecidableEq, Repr

/-- A bus with managers.  Behind the end of `turns` other nodes do nothing and
all transactions succeed. -/
structure ManagedBus where
  memory : Memory
  /-- the node that manages the channels of a port -/
  irm : Nat → UInt16
  allocation : Allocation
  turns : List Turn

/-- `CSR_REGISTER_BASE + CSR_CHANNELS_AVAILABLE_HI` -/
def CSR_CHANNELS_AVAILABLE : UInt64 := 0xfffff0000224

namespace ManagedBus

/-- The register of the free channels has eight bytes. -/
def IsManagerRegister (address : UInt64) : Prop := (address - CSR_CHANNELS_AVAILABLE).toNat < 8

instance (address : UInt64) : Decidable (IsManagerRegister address) :=
  inferInstanceAs (Decidable (_ < _))

/-- A byte of the register: a bit is set if its channel is free, the first
channel in front. -/
def availableByte (b : ManagedBus) (port i : Nat) : UInt8 :=
  (List.range 8).foldl
    (fun byte j => byte <<< 1 ||| if b.allocation port (8 * i + j) = none then 1 else 0) 0

/-- The byte a node holds at an address. -/
def byte (b : ManagedBus) (port : Nat) (node : UInt16) (address : UInt64) : UInt8 :=
  if node = b.irm port ∧ IsManagerRegister address then
    b.availableByte port (address - CSR_CHANNELS_AVAILABLE).toNat
  else b.memory port node address

/-- The next turn, and the bus when the transaction takes place. -/
def turn (b : ManagedBus) : Turn × ManagedBus :=
  match b.turns with
  | [] => (⟨[], none, none⟩, b)
  | t :: turns =>
      (t, { b with allocation := t.acts.foldl Allocation.foreign b.allocation, turns })

/-- A read. -/
def readBlock (port : Nat) (node : UInt16) (address : UInt64) :
    Transaction ManagedBus (Nat → UInt8) := fun b =>
  let (t, b') := b.turn
  match if node = b.irm port ∧ IsManagerRegister address then t.managerFault else t.fault with
  | some e => (.error e, b')
  | none => (.ok fun i => b'.byte port node (address + UInt64.ofNat i), b')

/-- A write. -/
def writeBlock (port : Nat) (node : UInt16) (address : UInt64) (data : List UInt8) :
    Transaction ManagedBus Unit := fun b =>
  let (t, b') := b.turn
  match t.fault with
  | some e => (.error e, b')
  | none => (.ok (), { b' with memory := b'.memory.store port node address data })

/-- A change of the allocation: a free channel is taken, one that is held by
anybody becomes free. -/
def modifyChannel (port channel : Nat) (mode : Modify) (b : ManagedBus) : Bool × ManagedBus :=
  let (t, b') := b.turn
  match mode with
  | .alloc =>
      if t.managerFault = none ∧ channel < 64 ∧ b'.allocation port channel = none then
        (true, { b' with allocation := b'.allocation.assign port channel (some .library) })
      else (false, b')
  | .free =>
      if b'.allocation port channel ≠ none then
        (true, { b' with allocation := b'.allocation.assign port channel none })
      else (false, b')

/-! ## Passing turns -/

/-- The bus goes on, as far as the host can tell. -/
structure Elapses (b b' : ManagedBus) : Prop where
  memory : b'.memory = b.memory
  irm : b'.irm = b.irm
  turns : b'.turns <:+ b.turns
  held : ∀ port channel, b'.allocation port channel = some .library ↔
    b.allocation port channel = some .library

namespace Elapses

variable {b b₁ b₂ : ManagedBus}

theorem refl (b : ManagedBus) : Elapses b b := ⟨rfl, rfl, List.suffix_rfl, fun _ _ => Iff.rfl⟩

theorem trans (first : Elapses b b₁) (second : Elapses b₁ b₂) : Elapses b b₂ where
  memory := second.memory.trans first.memory
  irm := second.irm.trans first.irm
  turns := second.turns.trans first.turns
  held port channel := (second.held port channel).trans (first.held port channel)

theorem turn (b : ManagedBus) : Elapses b b.turn.2 := by
  unfold ManagedBus.turn
  split
  · exact refl b
  · next t turns equation =>
      exact ⟨rfl, rfl, equation ▸ List.suffix_cons t turns,
        fun _ _ => Allocation.foldl_foreign_eq_library t.acts⟩

/-- Exchanging the memories at both ends. -/
theorem withMemory (elapses : Elapses b b₁) (memory : Memory) :
    Elapses { b with memory } { b₁ with memory } where
  memory := rfl
  irm := elapses.irm
  turns := elapses.turns
  held := elapses.held

/-- Storing data at both ends. -/
theorem store (elapses : Elapses b b₁) (port : Nat) (node : UInt16) (address : UInt64)
    (data : List UInt8) :
    Elapses { b with memory := b.memory.store port node address data }
      { b₁ with memory := b₁.memory.store port node address data } := by
  rw [elapses.memory]
  exact elapses.withMemory _

/-- Assigning a channel at both ends. -/
theorem assign (elapses : Elapses b b₁) (port channel : Nat) (holder : Option Holder) :
    Elapses { b with allocation := b.allocation.assign port channel holder }
      { b₁ with allocation := b₁.allocation.assign port channel holder } where
  memory := elapses.memory
  irm := elapses.irm
  turns := elapses.turns
  held p c := by
    dsimp only
    by_cases same : p = port ∧ c = channel
    · obtain ⟨rfl, rfl⟩ := same
      rw [Allocation.assign_self, Allocation.assign_self]
    · rw [Allocation.assign_of_ne same, Allocation.assign_of_ne same, elapses.held]

end Elapses

theorem patience_turn (b : ManagedBus) : b.turn.2.turns.length ≤ b.turns.length :=
  (Elapses.turn b).turns.length_le

theorem patience_of_fault {b : ManagedBus} {e : Errno}
    (fault : b.turn.1.fault = some e ∨ b.turn.1.managerFault = some e) :
    b.turn.2.turns.length < b.turns.length := by
  unfold turn at fault ⊢
  split
  · next equation => simp [equation] at fault
  · next t turns equation => simp [equation]

theorem readBlock_error {port : Nat} {node : UInt16} {address : UInt64} {b b' : ManagedBus}
    {e : Errno} (attempt : readBlock port node address b = (.error e, b')) :
    (b.turn.1.fault = some e ∨ b.turn.1.managerFault = some e) ∧ b' = b.turn.2 := by
  unfold readBlock at attempt
  dsimp only at attempt
  split at attempt
  · next e₁ equation =>
      obtain ⟨⟨⟩, rfl⟩ := Prod.mk.inj attempt
      split at equation
      · exact ⟨.inr equation, rfl⟩
      · exact ⟨.inl equation, rfl⟩
  · cases (Prod.mk.inj attempt).1

theorem writeBlock_error {port : Nat} {node : UInt16} {address : UInt64} {data : List UInt8}
    {b b' : ManagedBus} {e : Errno}
    (attempt : writeBlock port node address data b = (.error e, b')) :
    b.turn.1.fault = some e ∧ b' = b.turn.2 := by
  unfold writeBlock at attempt
  dsimp only at attempt
  split at attempt
  · next e₁ equation =>
      obtain ⟨⟨⟩, rfl⟩ := Prod.mk.inj attempt
      exact ⟨equation, rfl⟩
  · cases (Prod.mk.inj attempt).1

theorem readBlock_state {port : Nat} {node : UInt16} {address : UInt64} (b : ManagedBus) :
    (readBlock port node address b).2 = b.turn.2 := by
  unfold readBlock
  dsimp only
  split <;> rfl

instance : Bus ManagedBus where
  read handle node address _ := readBlock handle.port node address
  write handle node address data := writeBlock handle.port node address data
  channelModify handle channel mode := modifyChannel handle.port channel mode
  patience b := b.turns.length
  read_patience handle node address _ b := by
    rw [readBlock_state]
    exact b.patience_turn
  read_again attempt := by
    obtain ⟨fault, rfl⟩ := readBlock_error attempt
    exact patience_of_fault fault
  write_again attempt := by
    obtain ⟨fault, rfl⟩ := writeBlock_error attempt
    exact patience_of_fault (.inl fault)

/-! ## What transactions do -/

section Transactions

variable {b b' : ManagedBus} {handle : Handle} {node : UInt16} {address : UInt64}
  {length channel : Nat}

/-- A read changes nothing, whatever it ends with. -/
theorem elapses_of_settles {r : Except Errno (Nat → UInt8)}
    (settles : Settles (Bus.read handle node address length) b r b') : Elapses b b' := by
  have attempt_elapses {b b' : ManagedBus} {r : Except Errno (Nat → UInt8)}
      (attempt : Bus.read handle node address length b = (r, b')) : Elapses b b' := by
    have state : b.turn.2 = b' :=
      (readBlock_state b).symm.trans (congrArg Prod.snd attempt)
    exact state ▸ Elapses.turn b
  induction settles with
  | ended attempt _ => exact attempt_elapses attempt
  | again attempt _ ih => exact (attempt_elapses attempt).trans ih

/-- A read that settles delivers what the bus then holds. -/
theorem block_of_settles {block : Nat → UInt8}
    (settles : Settles (Bus.read handle node address length) b (.ok block) b') :
    block = fun i => b'.byte handle.port node (address + UInt64.ofNat i) := by
  generalize result : (Except.ok block : Except Errno (Nat → UInt8)) = r at settles
  induction settles with
  | @ended b b' r attempt _ =>
      subst result
      change readBlock handle.port node address b = _ at attempt
      unfold readBlock at attempt
      dsimp only at attempt
      split at attempt
      · cases (Prod.mk.inj attempt).1
      · obtain ⟨same, rfl⟩ := Prod.mk.inj attempt
        exact (Except.ok.inj same).symm
  | again _ _ ih => exact ih result

/-- A register is read, whatever happened before. -/
theorem register_of_settles {block : Nat → UInt8}
    (settles : Settles (Bus.read handle node address length) b (.ok block) b')
    (plain : ¬IsManagerRegister address) : block 0 = b.memory handle.port node address := by
  rw [block_of_settles settles, ← (elapses_of_settles settles).memory]
  show b'.byte handle.port node (address + 0) = _
  rw [UInt64.add_zero, byte, if_neg fun managed => plain managed.2]

/-- A write that settles stores its data, unless it fails. -/
theorem elapses_of_write {data : List UInt8} {r : Except Errno Unit}
    (settles : Settles (Bus.write handle node address data) b r b') :
    (r = .ok () → Elapses
      { b with memory := b.memory.store handle.port node address data } b') ∧
    ∀ e, r = .error e → Elapses b b' := by
  induction settles with
  | @ended b b' r attempt _ =>
      cases r with
      | error e =>
          obtain ⟨-, rfl⟩ := writeBlock_error attempt
          exact ⟨nofun, fun _ _ => Elapses.turn b⟩
      | ok =>
          refine ⟨fun _ => ?_, nofun⟩
          change writeBlock handle.port node address data b = _ at attempt
          unfold writeBlock at attempt
          dsimp only at attempt
          split at attempt
          · cases (Prod.mk.inj attempt).1
          · obtain ⟨-, rfl⟩ := Prod.mk.inj attempt
            exact (Elapses.turn b).store handle.port node address data
  | again attempt _ ih =>
      obtain ⟨-, rfl⟩ := writeBlock_error attempt
      have elapses := Elapses.turn
      exact ⟨fun ok => ((elapses _).store handle.port node address data).trans (ih.1 ok),
        fun e failed => (elapses _).trans (ih.2 e failed)⟩

/-- No transaction with a register fails any more. -/
def Reliable (b : ManagedBus) : Prop := ∀ t ∈ b.turns, t.fault = none

theorem Elapses.reliable (elapses : Elapses b b') (reliable : b.Reliable) : b'.Reliable :=
  fun t member => reliable t (elapses.turns.subset member)

theorem Reliable.turn (reliable : b.Reliable) : b.turn.1.fault = none := by
  unfold ManagedBus.turn
  split
  · rfl
  · next t turns equation => exact reliable t (equation ▸ List.mem_cons_self)

/-- A register of a reliable bus is read. -/
theorem Reliable.read (reliable : b.Reliable) (handle : Handle) (node : UInt16) (length : Nat)
    (plain : ¬IsManagerRegister address) :
    ∃ block b', Settles (Bus.read handle node address length) b (.ok block) b' ∧
      block 0 = b.memory handle.port node address ∧ Elapses b b' := by
  refine ⟨fun i => b.turn.2.byte handle.port node (address + UInt64.ofNat i), b.turn.2,
    .ended ?_ (by simp), ?_, Elapses.turn b⟩
  · show readBlock handle.port node address b = _
    unfold readBlock
    dsimp only
    rw [if_neg fun managed => plain managed.2, reliable.turn]
  · show b.turn.2.byte handle.port node (address + 0) = _
    rw [UInt64.add_zero, byte,
      if_neg fun managed => plain managed.2, (Elapses.turn b).memory]

/-- A register of a reliable bus is written. -/
theorem Reliable.write (reliable : b.Reliable) (handle : Handle) (node : UInt16)
    (address : UInt64) (data : List UInt8) :
    ∃ b', Bus.write handle node address data b = (.ok (), b') ∧
      Elapses { b with memory := b.memory.store handle.port node address data } b' := by
  refine ⟨_, ?_, (Elapses.turn b).store handle.port node address data⟩
  show writeBlock handle.port node address data b = _
  unfold writeBlock
  dsimp only
  rw [reliable.turn]

/-- Changes of the allocation do not touch the registers. -/
theorem memory_channelModify {mode : Modify} {acknowledged : Bool}
    (change : Bus.channelModify handle channel mode b = (acknowledged, b')) :
    b'.memory = b.memory ∧ b'.turns <:+ b.turns := by
  obtain rfl : (modifyChannel handle.port channel mode b).2 = b' := congrArg Prod.snd change
  have elapses := Elapses.turn b
  cases mode with
  | alloc =>
      unfold modifyChannel
      dsimp only
      split <;> exact ⟨elapses.memory, elapses.turns⟩
  | free =>
      unfold modifyChannel
      dsimp only
      split <;> exact ⟨elapses.memory, elapses.turns⟩

/-- A channel that could be taken was free, and is held by the library. -/
theorem elapses_of_alloc (taken : Bus.channelModify handle channel .alloc b = (true, b')) :
    channel < 64 ∧ b.allocation handle.port channel ≠ some .library ∧
      Elapses
        { b with allocation := b.allocation.assign handle.port channel (some .library) } b' := by
  change modifyChannel handle.port channel .alloc b = _ at taken
  unfold modifyChannel at taken
  dsimp only at taken
  split at taken
  · next free =>
      obtain ⟨-, rfl⟩ := Prod.mk.inj taken
      refine ⟨free.2.1, ?_, (Elapses.turn b).assign handle.port channel _⟩
      rw [Ne, ← (Elapses.turn b).held, free.2.2]
      simp
  · cases (Prod.mk.inj taken).1

/-- A failed attempt to take a channel changes nothing. -/
theorem elapses_of_refused (refused : Bus.channelModify handle channel .alloc b = (false, b')) :
    Elapses b b' := by
  change modifyChannel handle.port channel .alloc b = _ at refused
  unfold modifyChannel at refused
  dsimp only at refused
  split at refused
  · cases (Prod.mk.inj refused).1
  · obtain ⟨-, rfl⟩ := Prod.mk.inj refused
    exact Elapses.turn b

/-- A channel the library holds can be given back. -/
theorem free_of_held (held : b.allocation handle.port channel = some .library) :
    ∃ b', Bus.channelModify handle channel .free b = (true, b') ∧
      Elapses { b with allocation := b.allocation.assign handle.port channel none } b' := by
  refine ⟨_, ?_, (Elapses.turn b).assign handle.port channel none⟩
  show modifyChannel handle.port channel .free b = _
  unfold modifyChannel
  dsimp only
  rw [if_pos]
  rw [((Elapses.turn b).held handle.port channel).mpr held]
  simp

end Transactions

end ManagedBus

end Raw1394
