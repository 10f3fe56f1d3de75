import PhantomDrivers.Raw1394.Manager

/-!
# A quiet bus

A bus with managers is quiet if nothing fails any more and other nodes do
nothing.  Then every transaction ends at the first attempt, and the state it
leaves behind is known exactly and not only as far as the host can tell.

* `Quiet` — no turns are left.
* `Quiet.read`, `Quiet.write`, `Quiet.alloc_of_free` — what a transaction does.
* `Quiet.settles_read`, `Quiet.settles_write` — what a repeated one does.
* `Undisturbed` — other nodes do nothing, and a read of the register of the free
  channels has to be repeated at most.
* `Undisturbed.settles_read`, `Undisturbed.modify` — what it delivers, and what a
  change of the allocation does.
-/

namespace Raw1394

open Semantics

namespace ManagedBus

/-- A register of a node. -/
theorem byte_register {b : ManagedBus} {address : UInt64} (plain : ¬IsManagerRegister address)
    (port : Nat) (node : UInt16) :
    b.byte port node (address + UInt64.ofNat 0) = b.memory port node address := by
  show b.byte port node (address + 0) = _
  rw [UInt64.add_zero, byte, if_neg fun managed => plain managed.2]

/-- Nothing fails any more, and other nodes do nothing. -/
def Quiet (b : ManagedBus) : Prop := b.turns = []

namespace Quiet

variable {b b' : ManagedBus} {handle : Handle} {node : UInt16} {address : UInt64}
  {length channel : Nat} {data : List UInt8}

theorem turn (quiet : b.Quiet) : b.turn = (⟨[], none, none⟩, b) := by
  unfold ManagedBus.turn
  rw [show b.turns = [] from quiet]

theorem reliable (quiet : b.Quiet) : b.Reliable := by
  intro t member
  rw [show b.turns = [] from quiet] at member
  cases member

theorem read (quiet : b.Quiet) : Bus.read handle node address length b =
    (.ok fun i => b.byte handle.port node (address + UInt64.ofNat i), b) := by
  show readBlock handle.port node address b = _
  simp [readBlock, quiet.turn]

theorem write (quiet : b.Quiet) : Bus.write handle node address data b =
    (.ok (), { b with memory := b.memory.store handle.port node address data }) := by
  show writeBlock handle.port node address data b = _
  simp [writeBlock, quiet.turn]

theorem alloc_of_free (quiet : b.Quiet) (small : channel < 64)
    (free : b.allocation handle.port channel = none) :
    Bus.channelModify handle channel .alloc b =
      (true, { b with
        allocation := b.allocation.assign handle.port channel (some .library) }) := by
  show modifyChannel handle.port channel .alloc b = _
  simp [modifyChannel, quiet.turn, small, free]

/-- A read that settles delivers what the bus holds. -/
theorem settles_read (quiet : b.Quiet) {r : Except Errno (Nat → UInt8)}
    (settles : Settles (Bus.read handle node address length) b r b') :
    r = .ok (fun i => b.byte handle.port node (address + UInt64.ofNat i)) ∧ b' = b :=
  settles.unique (.ended quiet.read (by simp))

/-- A write that settles stores its data. -/
theorem settles_write (quiet : b.Quiet) {r : Except Errno Unit}
    (settles : Settles (Bus.write handle node address data) b r b') :
    r = .ok () ∧
      b' = { b with memory := b.memory.store handle.port node address data } :=
  settles.unique (.ended quiet.write (by simp))

end Quiet

/-! ## An undisturbed bus -/

/-- Other nodes do nothing any more, and the manager is busy at worst. -/
def Undisturbed (b : ManagedBus) : Prop :=
  ∀ t ∈ b.turns, t.acts = [] ∧ ∀ e, t.managerFault = some e → e = EAGAIN

namespace Undisturbed

variable {b b' : ManagedBus} {handle : Handle} {node : UInt16} {channel : Nat} {mode : Modify}

/-- A turn passes, and that is all. -/
theorem turn (undisturbed : b.Undisturbed) :
    ∃ turns, b.turn.2 = { b with turns } ∧ Undisturbed { b with turns } ∧
      ∀ e, b.turn.1.managerFault = some e → e = EAGAIN := by
  unfold ManagedBus.turn
  split
  · exact ⟨b.turns, rfl, undisturbed, nofun⟩
  · next t turns equation =>
      obtain ⟨silent, busy⟩ := undisturbed t (equation ▸ List.mem_cons_self)
      refine ⟨turns, ?_, ?_, busy⟩
      · rw [silent]
        rfl
      · intro t' later
        exact undisturbed t' (equation ▸ List.mem_cons_of_mem t later)

/-- A register of the manager is read, sooner or later. -/
theorem settles_read (undisturbed : b.Undisturbed) (handle : Handle) (address : UInt64)
    (length : Nat) (manages : node = b.irm handle.port) (register : IsManagerRegister address) :
    ∃ turns, Undisturbed { b with turns } ∧
      Settles (Bus.read handle node address length) b
        (.ok fun i => b.byte handle.port node (address + UInt64.ofNat i)) { b with turns } := by
  obtain ⟨r, b', settles⟩ := exists_settles (patient_read handle node address length) b
  induction settles with
  | @ended b b' r attempt final =>
      obtain ⟨turns, passed, undisturbed', busy⟩ := undisturbed.turn
      refine ⟨turns, undisturbed', .ended ?_ (by simp)⟩
      change readBlock handle.port node address b = _ at attempt
      show readBlock handle.port node address b = _
      unfold readBlock at attempt ⊢
      dsimp only at attempt ⊢
      rw [if_pos ⟨manages, register⟩] at attempt ⊢
      cases fault : b.turn.1.managerFault with
      | some e =>
          -- A manager that is busy is asked again.
          rw [fault, busy e fault] at attempt
          exact absurd (Prod.mk.inj attempt).1.symm final
      | none =>
          dsimp only
          rw [passed]
          rfl
  | again attempt _ ih =>
      obtain ⟨-, rfl⟩ := readBlock_error attempt
      obtain ⟨turns, passed, undisturbed', -⟩ := undisturbed.turn
      rw [passed] at ih attempt
      obtain ⟨turns', undisturbed'', settles⟩ := ih undisturbed' manages
      exact ⟨turns', undisturbed'', .again attempt settles⟩

/-- A change of the allocation that is acknowledged has been made. -/
theorem modify (undisturbed : b.Undisturbed)
    (change : Bus.channelModify handle channel mode b = (true, b')) :
    ∃ turns, Undisturbed { b with turns } ∧
      b' =
        { b with
          turns
          allocation := b.allocation.assign handle.port channel
            (if mode = .alloc then some .library else none) } := by
  obtain ⟨turns, passed, undisturbed', -⟩ := undisturbed.turn
  refine ⟨turns, undisturbed', ?_⟩
  change modifyChannel handle.port channel mode b = _ at change
  unfold modifyChannel at change
  dsimp only at change
  rw [passed] at change
  cases mode with
  | alloc =>
      dsimp only at change
      split at change
      · exact (Prod.mk.inj change).2.symm
      · cases (Prod.mk.inj change).1
  | free =>
      dsimp only at change
      split at change
      · exact (Prod.mk.inj change).2.symm
      · cases (Prod.mk.inj change).1

/-- A channel that somebody holds can be given back. -/
theorem free_of_held (undisturbed : b.Undisturbed)
    (held : b.allocation handle.port channel ≠ none) :
    ∃ b', Bus.channelModify handle channel .free b = (true, b') := by
  obtain ⟨turns, passed, -⟩ := undisturbed.turn
  have kept : b.turn.2.allocation handle.port channel ≠ none := by rwa [passed]
  refine ⟨{ b.turn.2 with
    allocation := b.turn.2.allocation.assign handle.port channel none }, ?_⟩
  show modifyChannel handle.port channel .free b = _
  exact if_pos kept

end Undisturbed

end ManagedBus

end Raw1394
