import PhantomDrivers.Raw1394.Interface
import PhantomDrivers.Semantics.Call
import PhantomDrivers.Semantics.Heap

/-!
# Communication with a node

`CommunicationLibraw1394.cpp`: a communication object reaches one node through
a handle of its own.  `read` fetches a block in chunks of at most a quadlet and
repeats a chunk that the node was not ready for; `write` makes one transaction
and does not repeat it.

* `readLoop`, `read`, `write` — the functions of the source.
* `ReadLoop` — the loop of `read` without fuel: what it ends with, as a
  relation.  `readLoop_eq_iff` connects the two, and everything later is proved
  from the relation.
-/

namespace LibPhantom

open Semantics Raw1394

/-- What the library throws.  Every exception is a C string: a literal, or a
text with the given values printed into it. -/
inductive Exn where
  /-- a string literal of the source -/
  | text (message : String)
  /-- `"Failed to read data at address 0x%lx from device %x: (%d) %s\n"`, the
  text of a failed read and of a failed write -/
  | failedTransfer (address : UInt64) (node : UInt16) (errno : Errno)
  /-- `"line %d: Expected 0x.. but got 0x%2.2x instead!\n"` -/
  | unexpectedRegister (line : Nat) (expected got : UInt8)
deriving DecidableEq

/-- The largest `int`. -/
def INT_MAX : Nat := 2147483647

/-- An isochronous context of a handle: its direction and its channel. -/
structure IsoContext where
  receiving : Bool
  channel : Nat
deriving DecidableEq, Repr

/-- A communication object. -/
structure CommunicationLibraw1394 where
  node : UInt16
  handle : Handle
  /-- the object whose callbacks the isochronous transfer calls -/
  isoChannel : Option Ptr
  /-- the isochronous context of the handle, once it is initialised -/
  context : Option IsoContext
deriving DecidableEq, Repr

namespace CommunicationLibraw1394

variable {β : Type} [Bus β]

/-- Why `read` gave up, and what it had stored in the buffer by then. -/
structure Shortfall where
  errno : Errno
  stored : List UInt8

/-- `length - pos >= 4 ? 4 : length - pos` -/
def chunkLength (length pos : Nat) : Nat := if length - pos ≥ 4 then 4 else length - pos

/-- The `while` loop of `read`.  `buffer` holds the bytes stored so far; `pos`
is an `int`. -/
def readLoop (handle : Handle) (node : UInt16) (address : UInt64) (length : Nat) :
    Nat → Nat → List UInt8 → β → Outcome Shortfall β (List UInt8)
  | 0, _, _, _ => .undefined
  | fuel + 1, pos, buffer, b =>
      if pos < length then
        match Bus.read handle node (address + UInt64.ofNat pos) (chunkLength length pos) b with
        | (.error e, b') =>
            if e ≠ EAGAIN then .thrown ⟨e, buffer⟩ b'
            else readLoop handle node address length fuel pos buffer b'
        | (.ok block, b') =>
            if pos + 4 ≤ INT_MAX then
              readLoop handle node address length fuel (pos + 4)
                (buffer ++ bytesOf block (chunkLength length pos)) b'
            else .undefined
      else .returned buffer b

/-- The exception `read` leaves with. -/
def raise (node : UInt16) (address : UInt64) :
    Outcome Shortfall β (List UInt8) → Outcome Exn β (List UInt8)
  | .returned buffer b => .returned buffer b
  | .thrown shortfall b => .thrown (.failedTransfer address node shortfall.errno) b
  | .undefined => .undefined

/-- `CommunicationLibraw1394::read(node, address, buffer, length)`: the bytes
stored in the buffer. -/
def readNode (handle : Handle) (node : UInt16) (address : UInt64) (length : UInt32) :
    Call Exn β (List UInt8) where
  run b := raise node address
    (readLoop handle node address length.toNat (length.toNat + Bus.patience b + 1) 0 [] b)

/-- `CommunicationLibraw1394::write(node, address, buffer, length)` -/
def writeNode (handle : Handle) (node : UInt16) (address : UInt64) (data : List UInt8) :
    Call Exn β Unit where
  run b :=
    match Bus.write handle node address data b with
    | (.error e, b') =>
        if e ≠ EAGAIN then .thrown (.failedTransfer address node e) b' else .returned () b'
    | (.ok (), b') => .returned () b'

/-- `CommunicationLibraw1394::read(address, buffer, length)` -/
def read (com : CommunicationLibraw1394) (address : UInt64) (length : UInt32) :
    Call Exn β (List UInt8) :=
  readNode com.handle com.node address length

/-- `CommunicationLibraw1394::write(address, buffer, length)` -/
def write (com : CommunicationLibraw1394) (address : UInt64) (data : List UInt8) :
    Call Exn β Unit :=
  writeNode com.handle com.node address data

/-- A read of one byte into an `unsigned char`. -/
def readChar (com : CommunicationLibraw1394) (address : UInt64) : Call Exn β UInt8 := do
  let buffer ← com.read address 1
  return buffer.getD 0 0

/-- `raw1394_iso_recv_init` and `raw1394_iso_xmit_init`: a handle that already
has a context keeps it. -/
def initContext (com : CommunicationLibraw1394) (receiving : Bool) (channel : Nat) :
    Option IsoContext :=
  match com.context with
  | some context => some context
  | none => some ⟨receiving, channel⟩

/-- `startRecvIsoTransfer` -/
def startRecvIsoTransfer (com : CommunicationLibraw1394) (channel : Nat) (isoChannel : Ptr) :
    CommunicationLibraw1394 :=
  { com with isoChannel := some isoChannel, context := com.initContext true channel }

/-- `startXmitIsoTransfer` -/
def startXmitIsoTransfer (com : CommunicationLibraw1394) (channel : Nat) (isoChannel : Ptr) :
    CommunicationLibraw1394 :=
  { com with isoChannel := some isoChannel, context := com.initContext false channel }

/-- `stopIsoTransfer`: `raw1394_iso_shutdown` -/
def stopIsoTransfer (com : CommunicationLibraw1394) : CommunicationLibraw1394 :=
  { com with context := none }

/-! ## The loop of `read` without fuel -/

theorem chunkLength_of_le {length pos : Nat} (full : pos + 4 ≤ length) :
    chunkLength length pos = 4 := by
  unfold chunkLength
  split <;> omega

theorem chunkLength_of_short {length pos : Nat} (short : length ≤ pos + 4) :
    chunkLength length pos = length - pos := by
  unfold chunkLength
  split <;> omega

theorem chunkLength_le (length pos : Nat) : chunkLength length pos ≤ 4 := by
  unfold chunkLength
  split <;> omega

/-- A chunk and what lies behind it. -/
theorem chunkLength_add (length pos : Nat) :
    chunkLength length pos + (length - (pos + 4)) = length - pos := by
  unfold chunkLength
  split <;> omega

/-- The loop at position `pos`, with `buffer` stored so far, ends with the
outcome. -/
inductive ReadLoop (handle : Handle) (node : UInt16) (address : UInt64) (length : Nat) :
    Nat → List UInt8 → β → Outcome Shortfall β (List UInt8) → Prop
  | done {pos : Nat} {buffer : List UInt8} {b : β} (reached : length ≤ pos) :
      ReadLoop handle node address length pos buffer b (.returned buffer b)
  | chunk {pos : Nat} {buffer : List UInt8} {b b' : β} {block : Nat → UInt8}
      {outcome : Outcome Shortfall β (List UInt8)} (inside : pos < length)
      (settles : Settles
        (Bus.read handle node (address + UInt64.ofNat pos) (chunkLength length pos)) b
        (.ok block) b')
      (fits : pos + 4 ≤ INT_MAX)
      (rest : ReadLoop handle node address length (pos + 4)
        (buffer ++ bytesOf block (chunkLength length pos)) b' outcome) :
      ReadLoop handle node address length pos buffer b outcome
  | overflow {pos : Nat} {buffer : List UInt8} {b b' : β} {block : Nat → UInt8}
      (inside : pos < length)
      (settles : Settles
        (Bus.read handle node (address + UInt64.ofNat pos) (chunkLength length pos)) b
        (.ok block) b')
      (overflows : INT_MAX < pos + 4) :
      ReadLoop handle node address length pos buffer b .undefined
  | failed {pos : Nat} {buffer : List UInt8} {b b' : β} {e : Errno} (inside : pos < length)
      (settles : Settles
        (Bus.read handle node (address + UInt64.ofNat pos) (chunkLength length pos)) b
        (.error e) b') :
      ReadLoop handle node address length pos buffer b (.thrown ⟨e, buffer⟩ b')

section Loop

variable {handle : Handle} {node : UInt16} {address : UInt64} {length pos : Nat}
  {buffer : List UInt8} {b b' : β} {outcome outcome' : Outcome Shortfall β (List UInt8)}

/-- An attempt that the node was not ready for changes nothing but the bus. -/
theorem ReadLoop.again (inside : pos < length)
    (attempt : Bus.read handle node (address + UInt64.ofNat pos) (chunkLength length pos) b
      = (.error EAGAIN, b'))
    (rest : ReadLoop handle node address length pos buffer b' outcome) :
    ReadLoop handle node address length pos buffer b outcome := by
  cases rest with
  | done reached => omega
  | chunk _ settles fits rest => exact .chunk inside (.again attempt settles) fits rest
  | overflow _ settles overflows => exact .overflow inside (.again attempt settles) overflows
  | failed _ settles => exact .failed inside (.again attempt settles)

/-- The loop ends in one way only. -/
theorem ReadLoop.unique (left : ReadLoop handle node address length pos buffer b outcome)
    (right : ReadLoop handle node address length pos buffer b outcome') : outcome = outcome' := by
  induction left with
  | done reached =>
      cases right with
      | done => rfl
      | chunk inside => omega
      | overflow inside => omega
      | failed inside => omega
  | chunk inside settles fits _ ih =>
      cases right with
      | done reached => omega
      | chunk _ settles₂ _ rest₂ =>
          obtain ⟨⟨⟩, rfl⟩ := settles.unique settles₂
          exact ih rest₂
      | overflow _ _ overflows => omega
      | failed _ settles₂ => cases (settles.unique settles₂).1
  | overflow inside settles overflows =>
      cases right with
      | done reached => omega
      | chunk _ _ fits => omega
      | overflow => rfl
      | failed _ settles₂ => cases (settles.unique settles₂).1
  | failed inside settles =>
      cases right with
      | done reached => omega
      | chunk _ settles₂ => cases (settles.unique settles₂).1
      | overflow _ settles₂ => cases (settles.unique settles₂).1
      | failed _ settles₂ =>
          obtain ⟨⟨⟩, rfl⟩ := settles.unique settles₂
          rfl

/-- With one unit of fuel for every byte that is missing and for every
`EAGAIN` the bus may still answer, the loop does not run out of it. -/
theorem readLoop_spec {fuel : Nat} (enough : length - pos + Bus.patience b + 1 ≤ fuel) :
    ReadLoop handle node address length pos buffer b
      (readLoop handle node address length fuel pos buffer b) := by
  induction fuel generalizing pos buffer b with
  | zero => omega
  | succ fuel ih =>
      rw [readLoop]
      by_cases inside : pos < length
      · rw [if_pos inside]
        cases attempt : Bus.read handle node (address + UInt64.ofNat pos)
            (chunkLength length pos) b with
        | mk r b' =>
            have patience := Bus.read_patience handle node (address + UInt64.ofNat pos)
              (chunkLength length pos) b
            rw [attempt] at patience
            cases r with
            | ok block =>
                dsimp only
                by_cases fits : pos + 4 ≤ INT_MAX
                · rw [if_pos fits]
                  exact .chunk inside (.ended attempt (by simp)) fits
                    (ih (by dsimp only at patience; omega))
                · rw [if_neg fits]
                  exact .overflow inside (.ended attempt (by simp)) (by omega)
            | error e =>
                dsimp only
                by_cases again : e = EAGAIN
                · subst again
                  rw [if_neg (by simp)]
                  have := Bus.read_again attempt
                  exact .again inside attempt (ih (by omega))
                · rw [if_pos again]
                  exact .failed inside (.ended attempt (by simpa using again))
      · rw [if_neg inside]
        exact .done (by omega)

theorem readLoop_eq_iff {fuel : Nat} (enough : length - pos + Bus.patience b + 1 ≤ fuel) :
    readLoop handle node address length fuel pos buffer b = outcome ↔
      ReadLoop handle node address length pos buffer b outcome := by
  constructor
  · rintro rfl
    exact readLoop_spec enough
  · exact (readLoop_spec enough).unique

/-- A read that returns has filled the whole buffer. -/
theorem ReadLoop.length_returned (loop : ReadLoop handle node address length pos buffer b outcome)
    (stored : buffer.length = min pos length) {bytes : List UInt8}
    (returns : outcome = .returned bytes b') : bytes.length = length := by
  induction loop with
  | done reached =>
      cases returns
      omega
  | @chunk pos _ _ _ _ _ inside _ _ _ ih =>
      refine ih ?_ returns
      rw [List.length_append, length_bytesOf, stored]
      unfold chunkLength
      split <;> omega
  | overflow => cases returns
  | failed => cases returns

/-- A read of at most `0x7ffffffc` bytes is defined. -/
theorem ReadLoop.defined (loop : ReadLoop handle node address length pos buffer b outcome)
    (small : length ≤ 2147483644) (aligned : pos % 4 = 0) : outcome ≠ .undefined := by
  induction loop with
  | done => nofun
  | chunk _ _ _ _ ih => exact ih (by omega)
  | overflow inside _ overflows =>
      unfold INT_MAX at overflows
      omega
  | failed => nofun

end Loop

/-! ## The functions, by what their transactions settle to -/

section Transfers

variable {handle : Handle} {node : UInt16} {address : UInt64} {length : UInt32} {b b' : β}

theorem readNode_eq {outcome : Outcome Shortfall β (List UInt8)}
    (loop : ReadLoop handle node address length.toNat 0 [] b outcome) :
    readNode handle node address length b = raise node address outcome :=
  congrArg (raise node address) ((readLoop_eq_iff (Nat.le_refl _)).mpr loop)

/-- The loop of a read, exhibited. -/
theorem exists_readLoop (handle : Handle) (node : UInt16) (address : UInt64) (length : UInt32)
    (b : β) : ∃ outcome, ReadLoop handle node address length.toNat 0 [] b outcome ∧
      readNode handle node address length b = raise node address outcome :=
  ⟨_, readLoop_spec (Nat.le_refl _), rfl⟩

/-- A read within a quadlet makes one transaction. -/
theorem readNode_of_ok (positive : 0 < length.toNat) (short : length.toNat ≤ 4)
    {block : Nat → UInt8}
    (settles : Settles (Bus.read handle node address length.toNat) b (.ok block) b') :
    readNode handle node address length b = .returned (bytesOf block length.toNat) b' := by
  have whole : chunkLength length.toNat 0 = length.toNat := chunkLength_of_short short
  have first : Settles
      (Bus.read handle node (address + UInt64.ofNat 0) (chunkLength length.toNat 0)) b
      (.ok block) b' := by
    rw [whole, show UInt64.ofNat 0 = 0 from rfl, UInt64.add_zero]
    exact settles
  have rest : ReadLoop handle node address length.toNat (0 + 4)
      ([] ++ bytesOf block (chunkLength length.toNat 0)) b'
      (.returned (bytesOf block length.toNat) b') := by
    rw [whole, List.nil_append]
    exact .done short
  exact readNode_eq (.chunk positive first (by unfold INT_MAX; omega) rest)

theorem readNode_of_error (positive : 0 < length.toNat) (short : length.toNat ≤ 4) {e : Errno}
    (settles : Settles (Bus.read handle node address length.toNat) b (.error e) b') :
    readNode handle node address length b = .thrown (.failedTransfer address node e) b' := by
  have whole : chunkLength length.toNat 0 = length.toNat := chunkLength_of_short short
  have first : Settles
      (Bus.read handle node (address + UInt64.ofNat 0) (chunkLength length.toNat 0)) b
      (.error e) b' := by
    rw [whole, show UInt64.ofNat 0 = 0 from rfl, UInt64.add_zero]
    exact settles
  exact readNode_eq (.failed positive first)

/-- Every read of at most `0x7ffffffc` bytes is defined; it returns a full
buffer or throws the library's exception. -/
theorem ends_readNode (small : length.toNat ≤ 2147483644) :
    (readNode handle node address length b).Ends
      (fun bytes _ => bytes.length = length.toNat)
      (fun e _ => ∃ errno, e = .failedTransfer address node errno) := by
  obtain ⟨outcome, loop, equation⟩ := exists_readLoop handle node address length b
  rw [equation]
  cases outcome with
  | returned bytes b' => exact loop.length_returned (by simp) rfl
  | thrown shortfall b' => exact ⟨shortfall.errno, rfl⟩
  | undefined => exact absurd rfl (loop.defined small rfl)

theorem writeNode_of_ok {data : List UInt8}
    (attempt : Bus.write handle node address data b = (.ok (), b')) :
    writeNode handle node address data b = .returned () b' := by
  simp only [writeNode, attempt]

/-- **A write passes over `EAGAIN`**: it returns, though nothing was
written. -/
theorem writeNode_of_again {data : List UInt8}
    (attempt : Bus.write handle node address data b = (.error EAGAIN, b')) :
    writeNode handle node address data b = .returned () b' := by
  simp [writeNode, attempt]

theorem writeNode_of_error {data : List UInt8} {e : Errno}
    (attempt : Bus.write handle node address data b = (.error e, b')) (hard : e ≠ EAGAIN) :
    writeNode handle node address data b = .thrown (.failedTransfer address node e) b' := by
  simp [writeNode, attempt, hard]

/-- Every write is defined. -/
theorem ends_writeNode (data : List UInt8) :
    (writeNode handle node address data b).Ends (fun _ _ => True)
      (fun e _ => ∃ errno, e = .failedTransfer address node errno) := by
  obtain ⟨r, b', attempt⟩ : ∃ r b', Bus.write handle node address data b = (r, b') :=
    ⟨_, _, rfl⟩
  cases r with
  | ok =>
      rw [writeNode_of_ok attempt]
      trivial
  | error e =>
      by_cases again : e = EAGAIN
      · subst again
        rw [writeNode_of_again attempt]
        trivial
      · rw [writeNode_of_error attempt again]
        exact ⟨e, rfl⟩

end Transfers

/-! ## Registers of one byte -/

section Registers

variable {com : CommunicationLibraw1394} {address : UInt64} {b b' : β}

theorem readChar_of_ok {block : Nat → UInt8}
    (settles : Settles (Bus.read com.handle com.node address 1) b (.ok block) b') :
    com.readChar address b = .returned (block 0) b' := by
  have reading : readNode com.handle com.node address 1 b = .returned (bytesOf block 1) b' :=
    readNode_of_ok (by decide) (by decide) settles
  simp only [readChar, read, Call.bind_apply, reading]
  rfl

theorem readChar_of_error {e : Errno}
    (settles : Settles (Bus.read com.handle com.node address 1) b (.error e) b') :
    com.readChar address b = .thrown (.failedTransfer address com.node e) b' := by
  have reading : readNode com.handle com.node address 1 b =
      .thrown (.failedTransfer address com.node e) b' :=
    readNode_of_error (by decide) (by decide) settles
  simp only [readChar, read, Call.bind_apply, reading]
  rfl

/-- A register read returns a value exactly if its transaction settles to
it. -/
theorem readChar_eq_returned {c : UInt8} : com.readChar address b = .returned c b' ↔
    ∃ block, Settles (Bus.read com.handle com.node address 1) b (.ok block) b' ∧
      block 0 = c := by
  constructor
  · intro returns
    obtain ⟨r, b₁, settles⟩ := exists_settles (patient_read com.handle com.node address 1) b
    cases r with
    | ok block =>
        rw [readChar_of_ok settles] at returns
        cases returns
        exact ⟨block, settles, rfl⟩
    | error e =>
        rw [readChar_of_error settles] at returns
        cases returns
  · rintro ⟨block, settles, rfl⟩
    exact readChar_of_ok settles

theorem ends_readChar : (com.readChar address b).Ends (fun _ _ => True) (fun _ _ => True) := by
  refine Call.ends_bind (Q := fun _ _ => True) ?_ fun _ _ _ => trivial
  exact (ends_readNode (by decide)).imp (fun _ _ _ => trivial) fun _ _ _ => trivial

end Registers

end CommunicationLibraw1394

end LibPhantom
