import PhantomDrivers.Raw1394.Interface
import PhantomDrivers.Semantics.Call

/-!
# Transfers of the reference driver

`rev-eng/easy-com.c`: transactions that are repeated while the node answers
`EAGAIN`, reads and writes alike.

* `writeDataChar`, `readDataChar`, `readData`, `getExpectedChar`,
  `getExpectedQuadlet` — the functions.
* The lemmas next to them say what they return, by what their transaction
  settles to.
-/

namespace RevEng

open Semantics Raw1394

variable {β : Type} [Bus β]

/-- A transaction, repeated while it fails with `EAGAIN`. -/
def settle {α : Type} (op : Transaction β α) : Call Empty β (Except Errno α) where
  run b := .returned (retry op (Bus.patience b) b).1 (retry op (Bus.patience b) b).2

/-- `write_data_char` -/
def writeDataChar (handle : Handle) (node : UInt16) (address : UInt64) (buf : UInt8) :
    Call Empty β (Except Errno Unit) :=
  settle (Bus.write handle node address [buf])

/-- `read_data`: the bytes it stores. -/
def readData (handle : Handle) (node : UInt16) (address : UInt64) (length : Nat) :
    Call Empty β (Except Errno (List UInt8)) := do
  let block ← settle (Bus.read handle node address length)
  return block.map fun block => bytesOf block length

/-- `read_data_char`: the byte it stores. -/
def readDataChar (handle : Handle) (node : UInt16) (address : UInt64) :
    Call Empty β (Except Errno UInt8) := do
  let block ← settle (Bus.read handle node address 1)
  return block.map fun block => block 0

/-- `get_expected_char`: whether it returns 0. -/
def getExpectedChar (handle : Handle) (node : UInt16) (address : UInt64)
    (expectedResponse : UInt8) : Call Empty β Bool := do
  match ← readDataChar handle node address with
  | .error _ => return false
  | .ok buf => return buf == expectedResponse

/-- `get_expected_quadlet`: whether it returns 0. -/
def getExpectedQuadlet (endian : Endian) (handle : Handle) (node : UInt16) (address : UInt64)
    (expectedResponse : UInt32) : Call Empty β Bool := do
  match ← readData handle node address 4 with
  | .error _ => return false
  | .ok buf => return endian.decode buf == expectedResponse

variable {α : Type} {op : Transaction β α} {b b' : β} {r : Except Errno α} {handle : Handle}
  {node : UInt16} {address : UInt64} {length : Nat} {buf : UInt8}

theorem settle_of_settles (patient : Patient op) (settles : Settles op b r b') :
    settle op b = .returned r b' := by
  have computed := (retry_eq_iff patient).mpr settles
  show Outcome.returned (retry op (Bus.patience b) b).1 (retry op (Bus.patience b) b).2 = _
  rw [computed]

/-- The loop returns what the transaction settles with. -/
theorem settle_eq_returned (patient : Patient op) :
    settle op b = .returned r b' ↔ Settles op b r b' := by
  refine ⟨fun settled => ?_, settle_of_settles patient⟩
  obtain ⟨r₁, b₁, settles⟩ := exists_settles patient b
  rw [settle_of_settles patient settles] at settled
  cases settled
  exact settles

end RevEng
