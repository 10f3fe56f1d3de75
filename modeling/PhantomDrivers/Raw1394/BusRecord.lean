import PhantomDrivers.Raw1394.Interface

/-!
# A bus with a record

What a driver does to the world is seen best on the bus.  `BusRecord β` is any
bus with a record of all reads and writes that were sent and of all channels that
were asked for or given back, in their order; the bus itself does not notice.

* `SentRead` — a read, with the answer to it.
* `SentWrite` — a write as it was sent, whether it was acknowledged or not.
* `ChannelRequest` — a `raw1394_channel_modify`, whether it was granted or not.
* `BusRecord` — the bus and its record.
* `Settles.keeps` — what every attempt keeps is kept until the transaction
  settles.
* `reads_of_settles` — what a read that is repeated leaves in the record.
-/

namespace Raw1394

open Semantics

/-- A read. -/
structure SentRead where
  handle : Handle
  node : UInt16
  address : UInt64
  answer : Except Errno (List UInt8)

/-- A write. -/
structure SentWrite where
  port : Nat
  node : UInt16
  address : UInt64
  data : List UInt8
deriving DecidableEq, Repr

/-- A change of a channel that was asked for. -/
structure ChannelRequest where
  handle : Handle
  channel : Nat
  mode : Modify
deriving DecidableEq, Repr

/-- A bus, the reads and the writes that were sent on it and the channels that
were asked for. -/
structure BusRecord (β : Type) where
  bus : β
  reads : List SentRead
  writes : List SentWrite
  requests : List ChannelRequest

/-- What each attempt keeps, all attempts together keep. -/
theorem Settles.keeps {β α : Type} {op : Transaction β α} {P : β → Prop}
    (attempt : ∀ b, P b → P (op b).2) {b b' : β} {r : Except Errno α} (settles : Settles op b r b')
    (holds : P b) : P b' := by
  induction settles with
  | ended ends _ =>
      have kept := attempt _ holds
      rwa [ends] at kept
  | again ends _ ih =>
      have kept := attempt _ holds
      rw [ends] at kept
      exact ih kept

namespace BusRecord

variable {β : Type}

/-- A bus that has just been opened. -/
def opened (bus : β) : BusRecord β := ⟨bus, [], [], []⟩

variable [Bus β]

/-- The transaction of the bus, and its entry. -/
def recorded {α : Type} (op : Transaction β α)
    (enter : Except Errno α → BusRecord β → BusRecord β) : Transaction (BusRecord β) α := fun b =>
  ((op b.bus).1, enter (op b.bus).1 { b with bus := (op b.bus).2 })

instance : Bus (BusRecord β) where
  read handle node address length :=
    recorded (Bus.read handle node address length) fun answer b =>
      { b with
        reads := b.reads ++ [⟨handle, node, address, answer.map fun block => bytesOf block length⟩] }
  write handle node address data :=
    recorded (Bus.write handle node address data) fun _ b =>
      { b with writes := b.writes ++ [⟨handle.port, node, address, data⟩] }
  channelModify handle channel mode b :=
    ((Bus.channelModify handle channel mode b.bus).1,
      { b with
        bus := (Bus.channelModify handle channel mode b.bus).2
        requests := b.requests ++ [⟨handle, channel, mode⟩] })
  patience b := Bus.patience b.bus
  read_patience handle node address length b := Bus.read_patience handle node address length b.bus
  read_again attempt := by
    obtain ⟨error, rfl⟩ := Prod.mk.inj attempt
    exact Bus.read_again (Prod.ext error rfl)
  write_again attempt := by
    obtain ⟨error, rfl⟩ := Prod.mk.inj attempt
    exact Bus.write_again (Prod.ext error rfl)

variable {handle : Handle} {node : UInt16} {address : UInt64} {b : BusRecord β}

/-- A read writes nothing. -/
@[simp] theorem writes_read (length : Nat) :
    (Bus.read handle node address length b).2.writes = b.writes := rfl

@[simp] theorem writes_channelModify (channel : Nat) (mode : Modify) :
    (Bus.channelModify handle channel mode b).2.writes = b.writes := rfl

/-- A write is recorded whether it succeeds or not. -/
@[simp] theorem writes_write (data : List UInt8) :
    (Bus.write handle node address data b).2.writes =
      b.writes ++ [⟨handle.port, node, address, data⟩] := rfl

/-- A read is recorded with what it delivers. -/
@[simp] theorem reads_read (length : Nat) :
    (Bus.read handle node address length b).2.reads =
      b.reads ++ [⟨handle, node, address, (Bus.read handle node address length b).1.map
        fun block => bytesOf block length⟩] := rfl

@[simp] theorem reads_channelModify (channel : Nat) (mode : Modify) :
    (Bus.channelModify handle channel mode b).2.reads = b.reads := rfl

@[simp] theorem reads_write (data : List UInt8) :
    (Bus.write handle node address data b).2.reads = b.reads := rfl

@[simp] theorem requests_read (length : Nat) :
    (Bus.read handle node address length b).2.requests = b.requests := rfl

/-- A request to the manager is recorded whether it succeeds or not. -/
@[simp] theorem requests_channelModify (channel : Nat) (mode : Modify) :
    (Bus.channelModify handle channel mode b).2.requests =
      b.requests ++ [⟨handle, channel, mode⟩] := rfl

@[simp] theorem requests_write (data : List UInt8) :
    (Bus.write handle node address data b).2.requests = b.requests := rfl

/-- A read is sent again while it is answered with `EAGAIN`. -/
theorem reads_of_settles {length : Nat} {r : Except Errno (Nat → UInt8)} {b' : BusRecord β}
    (settles : Settles (Bus.read handle node address length) b r b') :
    ∃ repeated : List SentRead, (∀ read ∈ repeated, read.answer = .error EAGAIN) ∧
      b'.reads = b.reads ++ repeated ++
        [⟨handle, node, address, r.map fun block => bytesOf block length⟩] := by
  induction settles with
  | @ended b b' r attempt _ =>
      refine ⟨[], nofun, ?_⟩
      have sent := @reads_read _ _ handle node address b length
      rw [attempt] at sent
      rw [List.append_nil]
      exact sent
  | @again b b₁ b' r attempt _ ih =>
      obtain ⟨repeated, again, sent'⟩ := ih
      have sent := @reads_read _ _ handle node address b length
      rw [attempt] at sent
      refine ⟨⟨handle, node, address, .error EAGAIN⟩ :: repeated, ?_, ?_⟩
      · exact List.forall_mem_cons.mpr ⟨rfl, again⟩
      · rw [sent', sent, List.append_cons b.reads _ repeated]
        rfl

end BusRecord

end Raw1394
