import PhantomDrivers.LibPhantom.Communication

/-!
# The registers of a channel

`PhantomIsoChannel.cpp`: how a Phantom is told to start and to stop its
isochronous transfer.  Both methods first look at two registers whose meaning
is unknown, and end with the same control register.

* `startRegisters`, `stopRegisters` — the register accesses of `start` and of
  `stop`.
* `Reads`, `Writes` — one access, answered by the bus in a way that lets the
  method go on.  A write that meets `EAGAIN` counts, since `write` returns.
* `StartAnswered`, `StopAnswered` — all accesses of a method, answered so.
  `startRegisters_eq_returned` and `stopRegisters_eq_returned` say that this is
  exactly when the method returns.
-/

namespace LibPhantom

open Semantics Raw1394

/-- sets the xmit isochronous channel -/
def ADDR_XMIT_CHANNEL : UInt64 := 0x1000

/-- sets the recv isochronous channel -/
def ADDR_RECV_CHANNEL : UInt64 := 0x1001

/-- the control register -/
def ADDR_CONTROL : UInt64 := 0x1087

/-- the bit of the control register that enables the isochronous transfer -/
def ADDR_CONTROL_enable_iso : UInt8 := (1 : UInt8) <<< 3

namespace PhantomIsoChannel

variable {β : Type} [Bus β]

/-- The two registers both methods look at; the arguments are the lines of the
exceptions. -/
def checkStatus (com : CommunicationLibraw1394) (line₀ line₁ : Nat) : Call Exn β Unit := do
  let c ← com.readChar 0x1083
  if c ≠ 0xc0 then
    throw (.unexpectedRegister line₀ 0xc0 c)
  else
    let c ← com.readChar 0x1082
    if c ≠ 0 then
      throw (.unexpectedRegister line₁ 0 c)

/-- What `start` does if the channel is receiving. -/
def checkRecvChannel (com : CommunicationLibraw1394) (channel : Nat) : Call Exn β Unit := do
  let c ← com.readChar ADDR_RECV_CHANNEL
  if c.toNat ≠ channel then
    throw (.text "Receiving unexpected value instead of receiving channel")
  else
    com.write ADDR_RECV_CHANNEL [0x40]
    let c ← com.readChar ADDR_RECV_CHANNEL
    if c ≠ 0x40 then
      throw (.text "Receiving unexpected value instead of 0x40")
    else
      com.write ADDR_RECV_CHANNEL [UInt8.ofNat channel]

/-- `if (receiving) …` -/
def confirmChannel (com : CommunicationLibraw1394) (receiving : Bool) (channel : Nat) :
    Call Exn β Unit :=
  if receiving then checkRecvChannel com channel else pure ()

/-- The end of `start`. -/
def enableIso (com : CommunicationLibraw1394) : Call Exn β Unit := do
  let c ← com.readChar ADDR_CONTROL
  if c &&& ADDR_CONTROL_enable_iso = 0 then
    com.write ADDR_CONTROL [c ||| ADDR_CONTROL_enable_iso]

/-- The register accesses of `start`. -/
def startRegisters (com : CommunicationLibraw1394) (receiving : Bool) (channel : Nat) :
    Call Exn β Unit := do
  com.write (if receiving then ADDR_RECV_CHANNEL else ADDR_XMIT_CHANNEL) [UInt8.ofNat channel]
  confirmChannel com receiving channel
  checkStatus com 101 110
  enableIso com

/-- The end of `stop`: the mask keeps the bit that it is meant to clear. -/
def disableIso (com : CommunicationLibraw1394) : Call Exn β Unit := do
  let c ← com.readChar ADDR_CONTROL
  if c &&& ADDR_CONTROL_enable_iso ≠ 0 then
    com.write ADDR_CONTROL [c &&& ADDR_CONTROL_enable_iso]

/-- The register accesses of `stop`. -/
def stopRegisters (com : CommunicationLibraw1394) : Call Exn β Unit := do
  checkStatus com 136 145
  disableIso com

/-! ## Answers of the bus -/

/-- The register reads as `c`. -/
def Reads (com : CommunicationLibraw1394) (address : UInt64) (c : UInt8) (b b' : β) : Prop :=
  ∃ block, Settles (Bus.read com.handle com.node address 1) b (.ok block) b' ∧ block 0 = c

/-- Writing `c` to the register ends without an error that counts. -/
def Writes (com : CommunicationLibraw1394) (address : UInt64) (c : UInt8) (b b' : β) : Prop :=
  Bus.write com.handle com.node address [c] b = (.ok (), b') ∨
    Bus.write com.handle com.node address [c] b = (.error EAGAIN, b')

/-- The two status registers read as expected. -/
def StatusAnswered (com : CommunicationLibraw1394) (b b' : β) : Prop :=
  ∃ b₁, Reads com 0x1083 0xc0 b b₁ ∧ Reads com 0x1082 0 b₁ b'

/-- The device understands on which channel it is to receive. -/
def RecvAnswered (com : CommunicationLibraw1394) (channel : Nat) (b b' : β) : Prop :=
  ∃ c b₁ b₂ b₃, Reads com ADDR_RECV_CHANNEL c b b₁ ∧ c.toNat = channel ∧
    Writes com ADDR_RECV_CHANNEL 0x40 b₁ b₂ ∧ Reads com ADDR_RECV_CHANNEL 0x40 b₂ b₃ ∧
    Writes com ADDR_RECV_CHANNEL (UInt8.ofNat channel) b₃ b'

/-- The control register is answered when the transfer is enabled. -/
def EnableAnswered (com : CommunicationLibraw1394) (b b' : β) : Prop :=
  ∃ c b₁, Reads com ADDR_CONTROL c b b₁ ∧
    if c &&& ADDR_CONTROL_enable_iso = 0 then
      Writes com ADDR_CONTROL (c ||| ADDR_CONTROL_enable_iso) b₁ b'
    else b' = b₁

/-- The control register is answered when the transfer is disabled. -/
def DisableAnswered (com : CommunicationLibraw1394) (b b' : β) : Prop :=
  ∃ c b₁, Reads com ADDR_CONTROL c b b₁ ∧
    if c &&& ADDR_CONTROL_enable_iso ≠ 0 then
      Writes com ADDR_CONTROL (c &&& ADDR_CONTROL_enable_iso) b₁ b'
    else b' = b₁

/-- All accesses of `start` are answered as expected. -/
def StartAnswered (com : CommunicationLibraw1394) (receiving : Bool) (channel : Nat)
    (b b' : β) : Prop :=
  ∃ b₁ b₂ b₃,
    Writes com (if receiving then ADDR_RECV_CHANNEL else ADDR_XMIT_CHANNEL)
      (UInt8.ofNat channel) b b₁ ∧
    (if receiving then RecvAnswered com channel b₁ b₂ else b₂ = b₁) ∧
    StatusAnswered com b₂ b₃ ∧ EnableAnswered com b₃ b'

/-- All accesses of `stop` are answered as expected. -/
def StopAnswered (com : CommunicationLibraw1394) (b b' : β) : Prop :=
  ∃ b₁, StatusAnswered com b b₁ ∧ DisableAnswered com b₁ b'

/-! ## The methods return exactly if the bus answers -/

variable {com : CommunicationLibraw1394} {address : UInt64} {c : UInt8} {b b' : β}
  {channel line₀ line₁ : Nat} {receiving : Bool} {u : Unit}

/-- `ReadChar` returns what the register reads as. -/
theorem readChar_eq_returned : com.readChar address b = .returned c b' ↔
    Reads com address c b b' :=
  CommunicationLibraw1394.readChar_eq_returned

/-- A write that fails with `EAGAIN` counts as a success. -/
theorem write_eq_returned : com.write address [c] b = .returned u b' ↔
    Writes com address c b b' := by
  obtain ⟨r, b₁, attempt⟩ : ∃ r b₁, Bus.write com.handle com.node address [c] b = (r, b₁) :=
    ⟨_, _, rfl⟩
  rw [Writes, attempt, CommunicationLibraw1394.write]
  cases r with
  | ok =>
      rw [CommunicationLibraw1394.writeNode_of_ok attempt]
      simp
  | error e =>
      by_cases again : e = EAGAIN
      · subst again
        rw [CommunicationLibraw1394.writeNode_of_again attempt]
        simp
      · rw [CommunicationLibraw1394.writeNode_of_error attempt again]
        simp [again]

/-- Both checks pass if the registers read as expected. -/
theorem checkStatus_eq_returned : checkStatus com line₀ line₁ b = .returned u b' ↔
    StatusAnswered com b b' := by
  simp only [checkStatus, Call.bind_eq_returned, Call.check_eq_returned, readChar_eq_returned,
    Call.pure_apply, Outcome.returned.injEq, true_and, not_not, StatusAnswered]
  constructor
  · rintro ⟨_, b₁, first, rfl, _, _, second, rfl, rfl⟩
    exact ⟨b₁, first, second⟩
  · rintro ⟨b₁, first, second⟩
    exact ⟨_, b₁, first, rfl, _, b', second, rfl, rfl⟩

/-- The test of the receive channel passes if the device reads its channel and the test
value back. -/
theorem checkRecvChannel_eq_returned : checkRecvChannel com channel b = .returned u b' ↔
    RecvAnswered com channel b b' := by
  simp only [checkRecvChannel, Call.bind_eq_returned, Call.check_eq_returned,
    readChar_eq_returned, write_eq_returned, not_not, RecvAnswered]
  constructor
  · rintro ⟨c, b₁, first, same, _, b₂, test, _, b₃, second, rfl, last⟩
    exact ⟨c, b₁, b₂, b₃, first, same, test, second, last⟩
  · rintro ⟨c, b₁, b₂, b₃, first, same, test, second, last⟩
    exact ⟨c, b₁, first, same, (), b₂, test, _, b₃, second, rfl, last⟩

/-- A transmitting channel is not tested. -/
theorem confirmChannel_eq_returned :
    confirmChannel com receiving channel b = .returned u b' ↔
      if receiving then RecvAnswered com channel b b' else b' = b := by
  unfold confirmChannel
  split
  · exact checkRecvChannel_eq_returned
  · simp [eq_comm]

/-- The control register is written only if the bit is not set. -/
theorem enableIso_eq_returned : enableIso com b = .returned u b' ↔
    EnableAnswered com b b' := by
  simp only [enableIso, Call.bind_eq_returned, readChar_eq_returned, Call.when_eq_returned,
    write_eq_returned, EnableAnswered]

/-- The control register is written only if the bit is set. -/
theorem disableIso_eq_returned : disableIso com b = .returned u b' ↔
    DisableAnswered com b b' := by
  simp only [disableIso, Call.bind_eq_returned, readChar_eq_returned, Call.when_eq_returned,
    write_eq_returned, DisableAnswered]

/-- `start` returns exactly if all its accesses are answered. -/
theorem startRegisters_eq_returned : startRegisters com receiving channel b = .returned u b' ↔
    StartAnswered com receiving channel b b' := by
  simp only [startRegisters, Call.bind_eq_returned, write_eq_returned, checkStatus_eq_returned,
    confirmChannel_eq_returned, enableIso_eq_returned, StartAnswered]
  constructor
  · rintro ⟨_, b₁, first, _, b₂, recv, _, b₃, status, last⟩
    exact ⟨b₁, b₂, b₃, first, recv, status, last⟩
  · rintro ⟨b₁, b₂, b₃, first, recv, status, last⟩
    exact ⟨(), b₁, first, (), b₂, recv, (), b₃, status, last⟩

/-- `stop` returns exactly if all its accesses are answered. -/
theorem stopRegisters_eq_returned : stopRegisters com b = .returned u b' ↔
    StopAnswered com b b' := by
  simp only [stopRegisters, Call.bind_eq_returned, checkStatus_eq_returned,
    disableIso_eq_returned, StopAnswered]
  constructor
  · rintro ⟨_, b₁, status, last⟩
    exact ⟨b₁, status, last⟩
  · rintro ⟨b₁, status, last⟩
    exact ⟨(), b₁, status, last⟩

/-- A `stop` is answered in one way only. -/
theorem StopAnswered.unique {b₁ b₂ : β} (first : StopAnswered com b b₁)
    (second : StopAnswered com b b₂) : b₁ = b₂ := by
  have returned := stopRegisters_eq_returned (u := ()) |>.mpr first
  rw [stopRegisters_eq_returned (u := ()) |>.mpr second] at returned
  exact (Outcome.returned.inj returned).2.symm

/-! ## The methods are defined -/

/-- A call with defined behaviour. -/
def Defined {σ α : Type} (o : Outcome Exn σ α) : Prop := o.Ends (fun _ _ => True) fun _ _ => True

/-- A read that is repeated ends some time. -/
theorem defined_readChar : Defined (com.readChar address b) :=
  CommunicationLibraw1394.ends_readChar

theorem defined_write : Defined (com.write address [c] b) :=
  (CommunicationLibraw1394.ends_writeNode [c]).imp (fun _ _ _ => trivial) fun _ _ _ => trivial

/-- A sequence is defined if its parts are. -/
theorem defined_bind {σ α γ : Type} {m : Call Exn σ α} {next : α → Call Exn σ γ} {s : σ}
    (first : Defined (m s)) (second : ∀ a s', Defined (next a s')) : Defined ((m >>= next) s) :=
  Call.ends_bind first fun a s' _ => second a s'

theorem defined_checkStatus : Defined (checkStatus com line₀ line₁ b) := by
  refine defined_bind defined_readChar fun c b₁ => ?_
  split
  · trivial
  · refine defined_bind defined_readChar fun c b₂ => ?_
    split <;> trivial

theorem defined_checkRecvChannel : Defined (checkRecvChannel com channel b) := by
  refine defined_bind defined_readChar fun c b₁ => ?_
  split
  · trivial
  refine defined_bind defined_write fun _ b₂ => defined_bind defined_readChar fun c b₃ => ?_
  split
  · trivial
  · exact defined_write

theorem defined_confirmChannel : Defined (confirmChannel com receiving channel b) := by
  unfold confirmChannel
  split
  · exact defined_checkRecvChannel
  · trivial

theorem defined_enableIso : Defined (enableIso com b) := by
  refine defined_bind defined_readChar fun c b₁ => ?_
  split
  · exact defined_write
  · trivial

theorem defined_disableIso : Defined (disableIso com b) := by
  refine defined_bind defined_readChar fun c b₁ => ?_
  split
  · exact defined_write
  · trivial

/-- `start` returns or throws. -/
theorem defined_startRegisters : Defined (startRegisters com receiving channel b) := by
  refine defined_bind defined_write fun _ b₁ => ?_
  refine defined_bind defined_confirmChannel fun _ b₂ => ?_
  exact defined_bind defined_checkStatus fun _ b₃ => defined_enableIso

/-- `stop` returns or throws. -/
theorem defined_stopRegisters : Defined (stopRegisters com b) :=
  defined_bind defined_checkStatus fun _ _ => defined_disableIso

end PhantomIsoChannel

end LibPhantom
