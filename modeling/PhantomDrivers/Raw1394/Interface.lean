import PhantomDrivers.Semantics.Bytes

/-!
# The interface of libraw1394

Both drivers reach the bus through libraw1394, which is not part of this
repository.  It is a parameter of the model: `Bus β` says what a host on the
bus can ask for when the bus (the other nodes, the isochronous resource
manager, everything that may go wrong on the way) is in a state `b : β`.  A
theorem about every `Bus β` is a theorem about every pattern of answers and
failures.

The only law is that the bus does not answer `EAGAIN` for ever: `patience`
bounds the number of `EAGAIN`s in a row.  It is what makes the retry loops of
the drivers end.

* `Host` — what libraw1394 tells about the machine and the fixed topology.
* `Handle` — a libraw1394 handle, bound to a port when it is opened.
* `Bus` — the transactions.
* `Settles` — a transaction repeated until it ends with something else than
  `EAGAIN`; `retry` computes it.
-/

namespace Raw1394

open Semantics

/-- The value of `errno` after a failed transaction. -/
abbrev Errno : Type := Nat

/-- The device was not ready; the transaction may be repeated. -/
def EAGAIN : Errno := 11

/-- A libraw1394 handle, opened on a port. -/
structure Handle where
  id : Nat
  port : Nat
deriving DecidableEq, Repr

/-- The `mode` of `raw1394_channel_modify`. -/
inductive Modify where
  | alloc
  | free
deriving DecidableEq, Repr

/-- The machine and the topology of its ports. -/
structure Host where
  endian : Endian
  /-- `raw1394_get_port_info` -/
  ports : Nat
  /-- `raw1394_get_nodecount` of a handle on a port -/
  nodeCount : Nat → Nat
  /-- `raw1394_get_irm_id` of a handle on a port -/
  irmId : Nat → UInt16

/-- A transaction: it ends with a value or an `errno`, and moves the bus on. -/
abbrev Transaction (β α : Type) : Type := β → Except Errno α × β

/-- What a host can ask for on a bus with states `β`. -/
class Bus (β : Type) where
  /-- `raw1394_read`: the block that starts at the address; the caller stores
  its first `length` bytes. -/
  read (handle : Handle) (node : UInt16) (address : UInt64) (length : Nat) :
    Transaction β (Nat → UInt8)
  /-- `raw1394_write` -/
  write (handle : Handle) (node : UInt16) (address : UInt64) (data : List UInt8) :
    Transaction β Unit
  /-- `raw1394_channel_modify`; `true` stands for the return value 0. -/
  channelModify (handle : Handle) (channel : Nat) (mode : Modify) : β → Bool × β
  /-- How often in a row the bus may still answer `EAGAIN`. -/
  patience : β → Nat
  read_patience (handle : Handle) (node : UInt16) (address : UInt64) (length : Nat) (b : β) :
    patience (read handle node address length b).2 ≤ patience b
  read_again {handle : Handle} {node : UInt16} {address : UInt64} {length : Nat} {b b' : β} :
    read handle node address length b = (.error EAGAIN, b') → patience b' < patience b
  write_again {handle : Handle} {node : UInt16} {address : UInt64} {data : List UInt8}
    {b b' : β} :
    write handle node address data b = (.error EAGAIN, b') → patience b' < patience b

/-! ## Retrying a transaction -/

section Retry

variable {β α : Type} {op : Transaction β α}

/-- The transaction, repeated while it fails with `EAGAIN`, ends with `r` and
leaves the bus in the state `b'`. -/
inductive Settles (op : Transaction β α) : β → Except Errno α → β → Prop
  | ended {b b' : β} {r : Except Errno α} (attempt : op b = (r, b'))
      (final : r ≠ .error EAGAIN) : Settles op b r b'
  | again {b b₁ b' : β} {r : Except Errno α} (attempt : op b = (.error EAGAIN, b₁))
      (rest : Settles op b₁ r b') : Settles op b r b'

theorem Settles.final {b b' : β} {r : Except Errno α} (settles : Settles op b r b') :
    r ≠ .error EAGAIN := by
  induction settles with
  | ended _ final => exact final
  | again _ _ ih => exact ih

/-- A repeated transaction settles in one way only. -/
theorem Settles.unique {b b₁ b₂ : β} {r₁ r₂ : Except Errno α}
    (left : Settles op b r₁ b₁) (right : Settles op b r₂ b₂) : r₁ = r₂ ∧ b₁ = b₂ := by
  induction left with
  | ended attempt final =>
      cases right with
      | ended attempt₂ _ =>
          rw [attempt] at attempt₂
          exact Prod.mk.inj attempt₂
      | again attempt₂ _ =>
          rw [attempt] at attempt₂
          exact absurd (Prod.mk.inj attempt₂).1 final
  | again attempt _ ih =>
      cases right with
      | ended attempt₂ final =>
          rw [attempt] at attempt₂
          exact absurd (Prod.mk.inj attempt₂).1.symm final
      | again attempt₂ rest₂ =>
          rw [attempt] at attempt₂
          obtain ⟨-, rfl⟩ := Prod.mk.inj attempt₂
          exact ih rest₂

/-- `while((ret = op()) && errno == EAGAIN);` with the given number of
repetitions. -/
def retry (op : Transaction β α) : Nat → Transaction β α
  | 0, b => op b
  | repetitions + 1, b =>
      match op b with
      | (.error e, b') => if e = EAGAIN then retry op repetitions b' else (.error e, b')
      | (.ok a, b') => (.ok a, b')

variable [Bus β]

/-- The transaction wears the patience of the bus down. -/
def Patient (op : Transaction β α) : Prop :=
  ∀ b b', op b = (.error EAGAIN, b') → Bus.patience b' < Bus.patience b

theorem patient_read (handle : Handle) (node : UInt16) (address : UInt64) (length : Nat) :
    Patient (Bus.read (β := β) handle node address length) :=
  fun _ _ => Bus.read_again

theorem patient_write (handle : Handle) (node : UInt16) (address : UInt64) (data : List UInt8) :
    Patient (Bus.write (β := β) handle node address data) :=
  fun _ _ => Bus.write_again

/-- As many repetitions as the bus has patience are enough. -/
theorem settles_retry (patient : Patient op) {repetitions : Nat} {b : β}
    (enough : Bus.patience b ≤ repetitions) :
    Settles op b (retry op repetitions b).1 (retry op repetitions b).2 := by
  induction repetitions generalizing b with
  | zero =>
      refine .ended rfl fun again => ?_
      have := patient b (op b).2 (Prod.ext again rfl)
      omega
  | succ repetitions ih =>
      cases attempt : op b with
      | mk r b' =>
          cases r with
          | ok a =>
              simp only [retry, attempt]
              exact .ended attempt (by simp)
          | error e =>
              by_cases again : e = EAGAIN
              · subst again
                simp only [retry, attempt, if_pos]
                exact .again attempt (ih (by have := patient b b' attempt; omega))
              · simp only [retry, attempt, if_neg again]
                exact .ended attempt (by simpa using again)

/-- Every transaction settles. -/
theorem exists_settles (patient : Patient op) (b : β) : ∃ r b', Settles op b r b' :=
  ⟨_, _, settles_retry patient (Nat.le_refl _)⟩

/-- `retry` computes what a transaction settles to. -/
theorem retry_eq_iff (patient : Patient op) {b b' : β} {r : Except Errno α} :
    retry op (Bus.patience b) b = (r, b') ↔ Settles op b r b' := by
  have computed := settles_retry patient (Nat.le_refl (Bus.patience b))
  constructor
  · intro equation
    rw [equation] at computed
    exact computed
  · intro settles
    obtain ⟨value, state⟩ := settles.unique computed
    rw [value, state]

end Retry

end Raw1394
