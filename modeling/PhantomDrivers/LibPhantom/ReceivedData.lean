import PhantomDrivers.LibPhantom.PhantomIsoChannel
import Mathlib.Logic.Function.DependsOn

/-!
# Packets that are received

libraw1394 hands a packet to `recv_handler` as a buffer and a length.  Both are
passed on to `PhantomIsoChannel::receivedData`, which lays `PhantomDataRead` over
the buffer and prints its fields.

* `PhantomDataRead` — the fields the code looks at, as bytes and bit-fields of
  the buffer.
* `receivedData`, `recvHandler` — `PhantomIsoChannel.cpp`, and the handlers in
  front of it.
* `dependsOn_iff` — how much of a buffer a function looks at.
* `receivedData_dependsOn_iff` — what is printed depends on the first 28 bytes,
  whatever the length says.
-/

namespace LibPhantom

open Semantics Raw1394

/-! ## Fields of a packed structure -/

/-- The `unsigned short` at an offset. -/
def short (data : Nat → UInt8) (offset : Nat) : Endian → BitVec 16
  | .little => (data (offset + 1)).toBitVec ++ (data offset).toBitVec
  | .big => (data offset).toBitVec ++ (data (offset + 1)).toBitVec

/-- The bit-field of `width` bits behind `before` bits.  Where the first byte is
the most significant one, the first bit is it, too. -/
def bitField {unit : Nat} (value : BitVec unit) (before width : Nat) : Endian → BitVec width
  | .little => value.extractLsb' before width
  | .big => value.extractLsb' (unit - before - width) width

/-- `PhantomDataRead`, laid over a buffer on a host. -/
structure PhantomDataRead where
  data : Nat → UInt8
  host : Endian

namespace PhantomDataRead

variable (d : PhantomDataRead)

/-- `encoder_x` -/
def encoderX : BitVec 16 := short d.data 4 d.host

/-- `encoder_y` -/
def encoderY : BitVec 16 := short d.data 6 d.host

/-- `encoder_z` -/
def encoderZ : BitVec 16 := short d.data 8 d.host

/-- An axis of a `GimbalData`: the lower five bits are unused. -/
def gimbalAxis (offset : Nat) : BitVec 11 := bitField (short d.data offset d.host) 5 11 d.host

/-- `gimbal.x` -/
def gimbalX : BitVec 11 := d.gimbalAxis 10

/-- `gimbal.y` -/
def gimbalY : BitVec 11 := d.gimbalAxis 12

/-- `gimbal.z` -/
def gimbalZ : BitVec 11 := d.gimbalAxis 14

/-- A bit of `status`. -/
def statusBit (before : Nat) : BitVec 1 := bitField (d.data 19).toBitVec before 1 d.host

/-- `status.button1` -/
def button1 : BitVec 1 := d.statusBit 0

/-- `status.button2` -/
def button2 : BitVec 1 := d.statusBit 1

/-- `status.docked` -/
def docked : BitVec 1 := d.statusBit 2

/-- `gimbal_inv.x` -/
def gimbalInvX : BitVec 11 := d.gimbalAxis 22

/-- `gimbal_inv.y` -/
def gimbalInvY : BitVec 11 := d.gimbalAxis 24

/-- `gimbal_inv.z` -/
def gimbalInvZ : BitVec 11 := d.gimbalAxis 26

end PhantomDataRead

/-- A line of output: `"… X %6h Y %6h Z %6h\n"` with the values of three axes, or
a text. -/
inductive Line where
  | axes (label : String) (x y z : Int)
  | text (text : String)
deriving DecidableEq, Repr

/-! ## The handlers -/

/-- A text for a bit that is clear, or an empty line. -/
def whenClear (bit : BitVec 1) (text : String) : Line := .text (if bit = 0 then text else "")

namespace PhantomIsoChannel

/-- `PhantomIsoChannel::receivedData`: what it prints.  An encoder is printed as
a signed number. -/
def receivedData (host : Endian) (data : Nat → UInt8) (_len : UInt32) : List Line :=
  let d : PhantomDataRead := ⟨data, host⟩
  [.axes "Encoder     " d.encoderX.toInt d.encoderY.toInt d.encoderZ.toInt,
    .axes "Gimbal      " d.gimbalX.toNat d.gimbalY.toNat d.gimbalZ.toNat,
    .axes "Gimbal (inv)" d.gimbalInvX.toNat d.gimbalInvY.toNat d.gimbalInvZ.toNat,
    whenClear d.button1 "Button1 pressed", whenClear d.button2 "Button2 pressed",
    whenClear d.docked "Gimbal docked"]

end PhantomIsoChannel

namespace Library

variable {β : Type}

/-- `Communication::callbackRecvHandler` -/
def callbackRecvHandler (host : Endian) (com : CommunicationLibraw1394) (data : Nat → UInt8)
    (len : UInt32) : Call Exn (Library β) (List Line) := do
  match com.isoChannel with
  | none => Call.undefined
  | some q =>
      let _ ← isoChannel q
      return PhantomIsoChannel.receivedData host data len

/-- `CommunicationLibraw1394::recv_handler`, for the object that the handle has
as its user data. -/
def recvHandler (host : Endian) (com : CommunicationLibraw1394) (data : Nat → UInt8)
    (len : UInt32) : Call Exn (Library β) (List Line) :=
  callbackRecvHandler host com data len

end Library

/-! ## What is looked at -/

section Dependence

variable {α : Type} {f : (Nat → UInt8) → α} {a b : Nat → UInt8} {n len : Nat}

/-- A function looks at the bytes up to the one with the number `n` and, in some
buffer, at this one: it depends on the first `len` bytes exactly if this one is
among them. -/
theorem dependsOn_iff (depends : DependsOn f (Set.Iio (n + 1))) (same : ∀ i < n, a i = b i)
    (differ : f a ≠ f b) : DependsOn f (Set.Iio len) ↔ n < len := by
  constructor
  · intro dependsOn
    by_contra short
    exact differ (dependsOn fun i inside => same i (Nat.lt_of_lt_of_le inside (Nat.le_of_not_lt short)))
  · intro inside
    exact depends.mono fun i below => Nat.lt_of_lt_of_le below inside

end Dependence

namespace PhantomIsoChannel

variable {host : Endian} {len : UInt32} {n : Nat}

theorem dependsOn_receivedData (host : Endian) (len : UInt32) :
    DependsOn (fun data => receivedData host data len) (Set.Iio 28) := by
  intro a b same
  have shorts (offset : Nat) (inside : offset + 1 < 28) :
      short a offset host = short b offset host := by
    have first : a offset = b offset := same offset (Nat.lt_of_succ_lt inside)
    have second : a (offset + 1) = b (offset + 1) := same (offset + 1) inside
    cases host <;> rw [short, short, first, second]
  have status : a 19 = b 19 := same 19 (by decide)
  have axes (offset : Nat) (inside : offset + 1 < 28) :
      (⟨a, host⟩ : PhantomDataRead).gimbalAxis offset =
        (⟨b, host⟩ : PhantomDataRead).gimbalAxis offset :=
    congrArg (bitField · 5 11 host) (shorts offset inside)
  have bits (before : Nat) : (⟨a, host⟩ : PhantomDataRead).statusBit before =
      (⟨b, host⟩ : PhantomDataRead).statusBit before :=
    congrArg (fun byte : UInt8 => bitField byte.toBitVec before 1 host) status
  simp only [receivedData, PhantomDataRead.encoderX, PhantomDataRead.encoderY,
    PhantomDataRead.encoderZ, PhantomDataRead.gimbalX, PhantomDataRead.gimbalY,
    PhantomDataRead.gimbalZ, PhantomDataRead.gimbalInvX, PhantomDataRead.gimbalInvY,
    PhantomDataRead.gimbalInvZ, PhantomDataRead.button1, PhantomDataRead.button2,
    PhantomDataRead.docked, bits, shorts 4 (by decide), shorts 6 (by decide), shorts 8 (by decide),
    axes 10 (by decide), axes 12 (by decide), axes 14 (by decide), axes 22 (by decide),
    axes 24 (by decide), axes 26 (by decide)]

/-- A buffer of zeros, and one with another byte at 27. -/
theorem receivedData_differ (host : Endian) (len : UInt32) :
    receivedData host (fun _ => 0) len ≠
      receivedData host (fun i => if i = 27 then 0xff else 0) len := by
  intro same
  have third := congrArg (fun lines => lines[2]?) same
  have axis := (Line.axes.inj (Option.some.inj third)).2.2.2
  revert axis
  cases host <;> decide

/-- **What is printed** depends on the first 28 bytes of the buffer. -/
theorem receivedData_dependsOn_iff (host : Endian) (len : UInt32) :
    DependsOn (fun data => receivedData host data len) (Set.Iio n) ↔ 27 < n := by
  refine dependsOn_iff (dependsOn_receivedData host len) (fun i inside => ?_)
    (receivedData_differ host len)
  exact (if_neg (Nat.ne_of_lt inside)).symm

end PhantomIsoChannel

namespace Library

variable {β : Type} {s : Library β} {com : CommunicationLibraw1394} {q : Ptr}
  {c : PhantomIsoChannel} {host : Endian} {len : UInt32} {data : Nat → UInt8} {n : Nat}

/-- The handlers in front of `receivedData` pass everything on. -/
theorem recvHandler_eq (called : com.isoChannel = some q) (live : s.isoChannels q = some c) :
    recvHandler host com data len s =
      .returned (PhantomIsoChannel.receivedData host data len) s := by
  simp [recvHandler, callbackRecvHandler, called, isoChannel, live]

theorem recvHandler_dependsOn_iff (called : com.isoChannel = some q)
    (live : s.isoChannels q = some c) :
    DependsOn (fun data => recvHandler host com data len s) (Set.Iio n) ↔ 27 < n := by
  rw [← PhantomIsoChannel.receivedData_dependsOn_iff host len]
  simp only [DependsOn, recvHandler_eq called live, Outcome.returned.injEq, and_true]

end Library

end LibPhantom
