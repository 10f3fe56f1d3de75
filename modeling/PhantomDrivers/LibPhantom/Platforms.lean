import PhantomDrivers.LibPhantom.ChannelsAvailable
import PhantomDrivers.LibPhantom.StartPhantom
import PhantomDrivers.Semantics.Runs
import PhantomDrivers.Semantics.Simulation
import PhantomDrivers.Semantics.Traces

/-!
# The two platforms

`PhantomIsoChannel` reaches the host through the virtual methods of
`Communication`, which are implemented twice: for libraw1394 and for Mac OS X.
Here `start` and `stop` are stated over the virtual methods, and both
implementations are put in their place.

* `Registers`, `Communication` — the virtual methods; `PhantomIsoChannel.start`,
  `PhantomIsoChannel.stop` — the code above them.
* `Recorded` — the writes are recorded; `simulates_start` says that this changes
  nothing else.
* `onLibraw1394` — the first implementation.  `start_onLibraw1394` connects it
  with the accesses to the registers on which the model of the whole library
  rests.
* `onMacOSX` — the second one, over the part of IOKit it uses.
* `start_agrees_iff` — whether the device sends on the channel on which the host
  listens.
-/

namespace LibPhantom

open Semantics Raw1394

/-- The accesses of a `Communication` object to its device.  `read` is given what
its buffer holds before. -/
structure Registers (σ : Type) where
  read (address : UInt64) (buffer : List UInt8) : Call Exn σ (List UInt8)
  write (address : UInt64) (data : List UInt8) : Call Exn σ Unit

/-- The virtual methods of a `Communication` object. -/
structure Communication (σ : Type) extends Registers σ where
  startRecvIsoTransfer (channel : Nat) (isoChannel : Ptr) : Call Exn σ Unit
  startXmitIsoTransfer (channel : Nat) (isoChannel : Ptr) : Call Exn σ Unit
  stopIsoTransfer : Call Exn σ Unit

/-- A read of one byte into a variable. -/
def Registers.readChar {σ : Type} (com : Registers σ) (address : UInt64) (c : UInt8) :
    Call Exn σ UInt8 := do
  let buffer ← com.read address [c]
  return buffer.getD 0 0

/-! ## The methods of a channel -/

namespace PhantomIsoChannel

section Methods

variable {σ : Type} (com : Communication σ) (comConfig : Registers σ)

/-- The two registers both methods look at. -/
def expectStatus (line₀ line₁ : Nat) (c : UInt8) : Call Exn σ Unit := do
  let c ← comConfig.readChar 0x1083 c
  if c ≠ 0xc0 then
    throw (.unexpectedRegister line₀ 0xc0 c)
  else
    let c ← comConfig.readChar 0x1082 c
    if c ≠ 0 then
      throw (.unexpectedRegister line₁ 0 c)

/-- `if (receiving) …` -/
def confirm (receiving : Bool) (channel : Nat) : Call Exn σ Unit :=
  if receiving then do
    let c ← comConfig.readChar ADDR_RECV_CHANNEL (UInt8.ofNat channel)
    if c.toNat ≠ channel then
      throw (.text "Receiving unexpected value instead of receiving channel")
    else
      comConfig.write ADDR_RECV_CHANNEL [0x40]
      let c ← comConfig.readChar ADDR_RECV_CHANNEL 0x40
      if c ≠ 0x40 then
        throw (.text "Receiving unexpected value instead of 0x40")
      else
        comConfig.write ADDR_RECV_CHANNEL [UInt8.ofNat channel]
  else pure ()

/-- The end of `start`; the variable is 0 since it was compared. -/
def enable : Call Exn σ Unit := do
  let c ← comConfig.readChar ADDR_CONTROL 0
  if c &&& ADDR_CONTROL_enable_iso = 0 then
    comConfig.write ADDR_CONTROL [c ||| ADDR_CONTROL_enable_iso]

/-- What `start` does behind the call that starts the transfer.  Whether it is
confirmed or not, the variable holds the channel then. -/
def announce (receiving : Bool) (channel : Nat) : Call Exn σ Unit := do
  comConfig.write (if receiving then ADDR_RECV_CHANNEL else ADDR_XMIT_CHANNEL)
    [UInt8.ofNat channel]
  confirm comConfig receiving channel
  expectStatus comConfig 101 110 (UInt8.ofNat channel)
  enable comConfig

/-- The transfer is started on the host. -/
def startIsoTransfer (receiving : Bool) (channel : Nat) (this : Ptr) : Call Exn σ Unit :=
  if receiving then com.startRecvIsoTransfer channel this
  else com.startXmitIsoTransfer channel this

/-- `PhantomIsoChannel::start` -/
def start (receiving : Bool) (channel : Nat) (this : Ptr) : Call Exn σ Unit := do
  startIsoTransfer com receiving channel this
  announce comConfig receiving channel

/-- The end of `stop`, before the transfer is stopped on the host. -/
def disable : Call Exn σ Unit := do
  let c ← comConfig.readChar ADDR_CONTROL 0
  if c &&& ADDR_CONTROL_enable_iso ≠ 0 then
    comConfig.write ADDR_CONTROL [c &&& ADDR_CONTROL_enable_iso]

/-- What `stop` does before the call that stops the transfer. -/
def silence (c : UInt8) : Call Exn σ Unit := do
  expectStatus comConfig 136 145 c
  disable comConfig

/-- `PhantomIsoChannel::stop`; `c` is what the variable happens to hold, which is
not initialised. -/
def stop (c : UInt8) : Call Exn σ Unit := do
  silence comConfig c
  com.stopIsoTransfer

end Methods

/-! ### Simulations -/

section Simulations

variable {σ τ : Type} {f : σ → τ} {comConfig : Registers σ} {comConfig' : Registers τ}

/-- The accesses of two objects correspond. -/
structure Accesses (f : σ → τ) (com : Registers σ) (com' : Registers τ) : Prop where
  read : ∀ address buffer, Call.Simulates f (com.read address buffer) (com'.read address buffer)
  write : ∀ address data, Call.Simulates f (com.write address data) (com'.write address data)

variable (accesses : Accesses f comConfig comConfig')

include accesses

theorem Accesses.readChar (address : UInt64) (c : UInt8) :
    Call.Simulates f (comConfig.readChar address c) (comConfig'.readChar address c) :=
  Call.simulates_bind (accesses.read address [c]) fun _ => Call.simulates_pure _

theorem Accesses.expectStatus (line₀ line₁ : Nat) (c : UInt8) :
    Call.Simulates f (expectStatus comConfig line₀ line₁ c)
      (expectStatus comConfig' line₀ line₁ c) := by
  refine Call.simulates_bind (accesses.readChar _ _) fun c => ?_
  refine Call.simulates_ite (Call.simulates_throw _) ?_
  refine Call.simulates_bind (accesses.readChar _ _) fun c => ?_
  exact Call.simulates_ite (Call.simulates_throw _) (Call.simulates_pure _)

theorem Accesses.confirm (receiving : Bool) (channel : Nat) :
    Call.Simulates f (confirm comConfig receiving channel)
      (confirm comConfig' receiving channel) := by
  refine Call.simulates_ite ?_ (Call.simulates_pure _)
  refine Call.simulates_bind (accesses.readChar _ _) fun c => ?_
  refine Call.simulates_ite (Call.simulates_throw _) ?_
  refine Call.simulates_bind (accesses.write _ _) fun _ => ?_
  refine Call.simulates_bind (accesses.readChar _ _) fun c => ?_
  exact Call.simulates_ite (Call.simulates_throw _) (accesses.write _ _)

theorem Accesses.announce (receiving : Bool) (channel : Nat) :
    Call.Simulates f (announce comConfig receiving channel)
      (announce comConfig' receiving channel) := by
  refine Call.simulates_bind (accesses.write _ _) fun _ => ?_
  refine Call.simulates_bind (accesses.confirm _ _) fun _ => ?_
  refine Call.simulates_bind (accesses.expectStatus _ _ _) fun _ => ?_
  refine Call.simulates_bind (accesses.readChar _ _) fun c => ?_
  exact Call.simulates_ite (accesses.write _ _) (Call.simulates_pure _)

theorem Accesses.silence (c : UInt8) :
    Call.Simulates f (silence comConfig c) (silence comConfig' c) := by
  refine Call.simulates_bind (accesses.expectStatus _ _ _) fun _ => ?_
  refine Call.simulates_bind (accesses.readChar _ _) fun c => ?_
  exact Call.simulates_ite (accesses.write _ _) (Call.simulates_pure _)

end Simulations

/-- What reads and writes keep is kept by all accesses of `start`. -/
theorem keeps_announce {σ : Type} {I : σ → Prop} {comConfig : Registers σ}
    (reads : ∀ address buffer, Call.Keeps I (comConfig.read address buffer))
    (writes : ∀ address data, Call.Keeps I (comConfig.write address data)) (receiving : Bool)
    (channel : Nat) : Call.Keeps I (announce comConfig receiving channel) := by
  have readChars (address : UInt64) (c : UInt8) : Call.Keeps I (comConfig.readChar address c) :=
    Call.keeps_bind (reads _ _) fun _ => Call.keeps_pure _
  refine Call.keeps_bind (writes _ _) fun _ => Call.keeps_bind ?_ fun _ => ?_
  · refine Call.keeps_ite (Call.keeps_bind (readChars _ _) fun c => ?_) (Call.keeps_pure _)
    refine Call.keeps_ite (Call.keeps_throw _) (Call.keeps_bind (writes _ _) fun _ => ?_)
    refine Call.keeps_bind (readChars _ _) fun c => ?_
    exact Call.keeps_ite (Call.keeps_throw _) (writes _ _)
  · refine Call.keeps_bind ?_ fun _ => Call.keeps_bind (readChars _ _) fun c => ?_
    · refine Call.keeps_bind (readChars _ _) fun c => ?_
      refine Call.keeps_ite (Call.keeps_throw _) (Call.keeps_bind (readChars _ _) fun c => ?_)
      exact Call.keeps_ite (Call.keeps_throw _) (Call.keeps_pure _)
    · exact Call.keeps_ite (writes _ _) (Call.keeps_pure _)

end PhantomIsoChannel

/-! ## Recording the writes -/

/-- A write to a register. -/
structure RegisterWrite where
  address : UInt64
  data : List UInt8
deriving DecidableEq, Repr

/-- A state with the writes so far, for the theorems only. -/
structure Recorded (σ : Type) where
  inner : σ
  writes : List RegisterWrite

section Recording

variable {σ α : Type}

/-- A call that writes nothing. -/
def unrecorded (m : Call Exn σ α) : Call Exn (Recorded σ) α :=
  Call.within Recorded.inner (fun t s => { s with inner := t }) m

/-- The accesses, with a record of the writes. -/
def Registers.recorded (com : Registers σ) : Registers (Recorded σ) where
  read address buffer := unrecorded (com.read address buffer)
  write address data := do
    modify fun s => { s with writes := s.writes ++ [⟨address, data⟩] }
    unrecorded (com.write address data)

/-- The virtual methods, with a record of the writes. -/
def Communication.recorded (com : Communication σ) : Communication (Recorded σ) where
  toRegisters := com.toRegisters.recorded
  startRecvIsoTransfer channel isoChannel := unrecorded (com.startRecvIsoTransfer channel isoChannel)
  startXmitIsoTransfer channel isoChannel := unrecorded (com.startXmitIsoTransfer channel isoChannel)
  stopIsoTransfer := unrecorded com.stopIsoTransfer

theorem simulates_unrecorded (m : Call Exn σ α) :
    Call.Simulates Recorded.inner (unrecorded m) m := by
  intro s
  rw [unrecorded, Call.within_apply]
  cases m s.inner <;> rfl

theorem Registers.accesses_recorded (com : Registers σ) :
    PhantomIsoChannel.Accesses Recorded.inner com.recorded com where
  read _ _ := simulates_unrecorded _
  write address data s := simulates_unrecorded (com.write address data)
    { s with writes := s.writes ++ [⟨address, data⟩] }

variable {com : Communication σ} {comConfig : Registers σ} {receiving : Bool} {channel : Nat}
  {this : Ptr} {s s' : Recorded σ}

/-- The record changes nothing else. -/
theorem simulates_start : Call.Simulates Recorded.inner
    (PhantomIsoChannel.start com.recorded comConfig.recorded receiving channel this)
    (PhantomIsoChannel.start com comConfig receiving channel this) := by
  refine Call.simulates_bind ?_ fun _ => comConfig.accesses_recorded.announce receiving channel
  exact Call.simulates_ite (simulates_unrecorded _) (simulates_unrecorded _)

theorem simulates_stop (c : UInt8) : Call.Simulates Recorded.inner
    (PhantomIsoChannel.stop com.recorded comConfig.recorded c)
    (PhantomIsoChannel.stop com comConfig c) :=
  Call.simulates_bind (comConfig.accesses_recorded.silence c) fun _ => simulates_unrecorded _

/-! ### What is written last -/

/-- A write to the register of the receive channel. -/
def RegisterWrite.ToRecvChannel (w : RegisterWrite) : Prop := w.address = ADDR_RECV_CHANNEL

/-- The last value written to the register of the receive channel. -/
def LastWritten (s : Recorded σ) (c : UInt8) : Prop :=
  Latest RegisterWrite.ToRecvChannel s.writes ⟨ADDR_RECV_CHANNEL, [c]⟩

theorem keeps_read {I : Recorded σ → Prop} (kept : ∀ s t, I s → I { s with inner := t })
    (address : UInt64) (c : UInt8) : Call.Keeps I (comConfig.recorded.readChar address c) :=
  Call.keeps_bind (Call.keeps_within kept) fun _ => Call.keeps_pure _

/-- A receiving `start` that returns has written the channel last, and the
channel fits into the register. -/
theorem lastWritten_of_announce
    (returned : PhantomIsoChannel.announce comConfig.recorded true channel s = .returned () s') :
    (UInt8.ofNat channel).toNat = channel ∧ LastWritten s' (UInt8.ofNat channel) := by
  have unread (s : Recorded σ) (t : σ) (last : LastWritten s (UInt8.ofNat channel)) :
      LastWritten { s with inner := t } (UInt8.ofNat channel) := last
  obtain ⟨_, s₁, written, rest₁⟩ := Call.bind_eq_returned.mp returned
  obtain ⟨_, s₂, confirmed, rest₂⟩ := Call.bind_eq_returned.mp rest₁
  -- The channel is confirmed, and written once more.
  have last : (UInt8.ofNat channel).toNat = channel ∧ LastWritten s₂ (UInt8.ofNat channel) := by
    obtain ⟨c, s₃, read, rest₃⟩ := Call.bind_eq_returned.mp confirmed
    obtain ⟨same, rest₄⟩ := Call.check_eq_returned.mp rest₃
    obtain ⟨_, s₄, tested, rest₅⟩ := Call.bind_eq_returned.mp rest₄
    obtain ⟨c', s₅, read', rest₆⟩ := Call.bind_eq_returned.mp rest₅
    obtain ⟨_, rest₇⟩ := Call.check_eq_returned.mp rest₆
    obtain ⟨_, s₆, noted, stored⟩ := Call.bind_eq_returned.mp rest₇
    cases noted
    have small : channel < 256 := not_not.mp same ▸ c.toNat_lt
    refine ⟨by rw [UInt8.toNat_ofNat', Nat.mod_eq_of_lt small], ?_⟩
    refine Call.keeps_within unread { s₅ with writes := _ } () s₂ ?_ stored
    exact latest_append_self (show RegisterWrite.ToRecvChannel _ from rfl)
  refine ⟨last.1, ?_⟩
  -- Behind that, the registers are read, and another one is written.
  have status : Call.Keeps (fun s => LastWritten s (UInt8.ofNat channel))
      (PhantomIsoChannel.expectStatus comConfig.recorded 101 110 (UInt8.ofNat channel)) := by
    refine Call.keeps_bind (keeps_read unread _ _) fun c => ?_
    refine Call.keeps_ite (Call.keeps_throw _) ?_
    refine Call.keeps_bind (keeps_read unread _ _) fun c => ?_
    exact Call.keeps_ite (Call.keeps_throw _) (Call.keeps_pure _)
  have enables : Call.Keeps (fun s => LastWritten s (UInt8.ofNat channel))
      (PhantomIsoChannel.enable comConfig.recorded) := by
    refine Call.keeps_bind (keeps_read unread _ _) fun c => ?_
    refine Call.keeps_ite ?_ (Call.keeps_pure _)
    refine Call.keeps_bind (Call.keeps_modify fun s last => ?_) fun _ => Call.keeps_within unread
    exact Latest.append last (show ADDR_CONTROL ≠ ADDR_RECV_CHANNEL by decide)
  exact Call.keeps_bind status (fun _ => enables) s₂ () s' last.2 rest₂

end Recording

/-! ## libraw1394 -/

/-- `CommunicationLibraw1394::read` and `CommunicationLibraw1394::write`. -/
def CommunicationLibraw1394.registers {β : Type} [Bus β] (com : CommunicationLibraw1394) :
    Registers β where
  read address buffer := com.read address (UInt32.ofNat buffer.length)
  write := com.write

/-- The bus, and the two objects of a channel. -/
structure Libraw1394 (β : Type) where
  bus : β
  com : CommunicationLibraw1394
  comConfig : CommunicationLibraw1394

namespace Libraw1394

variable {β : Type}

/-- The channel on which the handle of `com` listens. -/
def listening (s : Libraw1394 β) : Option Nat :=
  match s.com.context with
  | some ⟨true, channel⟩ => some channel
  | _ => none

variable [Bus β]

/-- The accesses of one of the objects. -/
def accesses (member : Libraw1394 β → CommunicationLibraw1394) : Registers (Libraw1394 β) where
  read address buffer :=
    ⟨fun s => ((member s).registers.read address buffer s.bus).mapState fun b => { s with bus := b }⟩
  write address data :=
    ⟨fun s => ((member s).registers.write address data s.bus).mapState fun b => { s with bus := b }⟩

/-- The object for the transfer. -/
def transfers : Communication (Libraw1394 β) where
  toRegisters := accesses com
  startRecvIsoTransfer channel isoChannel :=
    modify fun s => { s with com := s.com.startRecvIsoTransfer channel isoChannel }
  startXmitIsoTransfer channel isoChannel :=
    modify fun s => { s with com := s.com.startXmitIsoTransfer channel isoChannel }
  stopIsoTransfer := modify fun s => { s with com := s.com.stopIsoTransfer }

/-- The object for the configuration. -/
def configures : Registers (Libraw1394 β) := accesses comConfig

theorem accesses_configures (com config : CommunicationLibraw1394) :
    PhantomIsoChannel.Accesses (fun b : β => (⟨b, com, config⟩ : Libraw1394 β)) config.registers
      configures where
  read _ _ _ := rfl
  write _ _ _ := rfl

variable {receiving : Bool} {channel : Nat} {this : Ptr}

/-- On libraw1394, `start` starts the transfer and then makes the accesses of
`startRegisters`. -/
theorem start_eq (b : β) (com config : CommunicationLibraw1394) :
    PhantomIsoChannel.start transfers configures receiving channel this ⟨b, com, config⟩ =
      (PhantomIsoChannel.startRegisters config receiving channel b).mapState fun b =>
        ⟨b, if receiving then com.startRecvIsoTransfer channel this
          else com.startXmitIsoTransfer channel this, config⟩ := by
  cases receiving with
  | false => exact (accesses_configures _ config).announce false channel b
  | true => exact (accesses_configures _ config).announce true channel b

/-- On libraw1394, `stop` makes the accesses of `stopRegisters` and then stops
the transfer. -/
theorem stop_eq (c : UInt8) (b : β) (com config : CommunicationLibraw1394) :
    PhantomIsoChannel.stop transfers configures c ⟨b, com, config⟩ =
      ((PhantomIsoChannel.stopRegisters config b).mapState fun b => ⟨b, com, config⟩).andThen
        fun _ => transfers.stopIsoTransfer := by
  rw [PhantomIsoChannel.stop, Call.bind_apply]
  exact congrArg (Outcome.andThen · _) ((accesses_configures com config).silence c b)

end Libraw1394

/-! ## Mac OS X -/

/-- The part of IOKit that is used, on a system with states `κ`. -/
structure IOKit (κ : Type) where
  /-- what a buffer holds behind `Read`, whether it succeeds or not -/
  Read (address : UInt64) (buffer : List UInt8) : κ → List UInt8 × κ
  Write (address : UInt64) (data : List UInt8) : κ → κ
  /-- the channels the local port supports -/
  localSupported : UInt64
  /-- the channel `AllocateChannel` picks, if it does not fail -/
  AllocateChannel (supported : UInt64) : κ → Option Nat × κ
  supported_allocateChannel {supported : UInt64} {s : κ} {channel : Nat} :
    (AllocateChannel supported s).1 = some channel →
      channel < 64 ∧ Library.CHANNEL_IS_FREE supported channel = true

/-- The system, and the object of a channel for the transfer. -/
structure MacOSX (κ : Type) where
  system : κ
  isoChannel : Option Ptr
  /-- the channel on which the local port of `mChannel` listens -/
  listening : Option Nat

namespace MacOSX

variable {κ : Type} (iokit : IOKit κ)

/-- `RemotePort_GetSupported`: all channels. -/
def RemotePort_GetSupported : UInt64 := (0xFFFFFFFF : UInt64) <<< 32 ||| 0xFFFFFFFF

/-- `RemotePort_AllocatePort`: the channel is printed, and not stored. -/
def RemotePort_AllocatePort (_channel : Nat) : Call Exn (MacOSX κ) Unit := pure ()

/-- The channel that `AllocateChannel` is going to pick. -/
def picks (s : MacOSX κ) : Option Nat :=
  (iokit.AllocateChannel (iokit.localSupported &&& RemotePort_GetSupported) s.system).1

/-- The accesses, whose results are not looked at. -/
def accesses : Registers (MacOSX κ) where
  read address buffer := ⟨fun s =>
    .returned (iokit.Read address buffer s.system).1
      { s with system := (iokit.Read address buffer s.system).2 }⟩
  write address data := modify fun s => { s with system := iokit.Write address data s.system }

/-- `AllocateChannel` on a channel with the local port as listener and the remote
port as talker: both are told the channel.  A failure ends the program. -/
def allocateChannel : Call Exn (MacOSX κ) Unit := do
  let s ← get
  match iokit.AllocateChannel (iokit.localSupported &&& RemotePort_GetSupported) s.system with
  | (none, _) => Call.undefined
  | (some channel, system) =>
      set { s with system, listening := some channel }
      RemotePort_AllocatePort channel

/-- `CommunicationMacOSX` -/
def transfers : Communication (MacOSX κ) where
  toRegisters := accesses iokit
  -- the channel is not handed on
  startRecvIsoTransfer _ isoChannel := do
    modify fun s => { s with isoChannel := some isoChannel }
    allocateChannel iokit
  startXmitIsoTransfer _ _ := throw (.text "Not implemented startXmitIsoTransfer")
  stopIsoTransfer := pure ()

variable {iokit}

theorem listening_of_startRecvIsoTransfer {s s' : MacOSX κ} {channel : Nat} {this : Ptr}
    (returned : (transfers iokit).startRecvIsoTransfer channel this s = .returned () s') :
    s'.listening = picks iokit s ∧ ∃ k, picks iokit s = some k := by
  obtain ⟨_, s₁, noted, rest₁⟩ := Call.bind_eq_returned.mp returned
  cases noted
  obtain ⟨_, _, got, rest₂⟩ := Call.bind_eq_returned.mp rest₁
  cases got
  unfold picks
  dsimp only at rest₂
  generalize iokit.AllocateChannel (iokit.localSupported &&& RemotePort_GetSupported) s.system =
    picked at rest₂ ⊢
  obtain ⟨channel', system⟩ := picked
  cases channel' with
  | none => cases rest₂
  | some k =>
      cases rest₂
      exact ⟨rfl, k, rfl⟩

end MacOSX

/-! ## Runs of a channel -/

/-- The methods of a channel object. -/
inductive ChannelMethod where
  | start
  | stop (c : UInt8)
deriving DecidableEq, Repr

section Runs

variable {σ : Type} (com : Communication σ) (comConfig : Registers σ) (channel : Nat) (this : Ptr)

/-- A method of a receiving channel, with a record of the writes. -/
def methodCall : ChannelMethod → Call Exn (Recorded σ) Unit
  | .start => PhantomIsoChannel.start com.recorded comConfig.recorded true channel this
  | .stop c => PhantomIsoChannel.stop com.recorded comConfig.recorded c

/-- The runs of a channel object: its methods are called in any order, and may
throw. -/
def channelRuns : System (Recorded σ) ChannelMethod where
  step s method := (methodCall com comConfig channel this method s).state?

/-- The host listens on the channel that was written to the device last. -/
def Agrees (listening : σ → Option Nat) (s : Recorded σ) : Prop :=
  ∃ c : UInt8, LastWritten s c ∧ listening s.inner = some c.toNat

variable {com comConfig channel this} {listening : σ → Option Nat} {s s' : Recorded σ}

/-- After a `start` that returns, the device was told the channel of the object.
What is left is the channel on which the host listens. -/
theorem agrees_iff_listening
    (returned : methodCall com comConfig channel this .start s = .returned () s') :
    Agrees listening s' ↔ listening s'.inner = some channel := by
  obtain ⟨_, s₁, -, announced⟩ := Call.bind_eq_returned.mp returned
  obtain ⟨fits, last⟩ := lastWritten_of_announce announced
  constructor
  · rintro ⟨c, last', listens⟩
    obtain ⟨⟩ := last'.unique last
    rw [listens, fits]
  · intro listens
    exact ⟨_, last, listens.trans (congrArg some fits.symm)⟩

end Runs

/-! ### libraw1394 -/

namespace Libraw1394

variable {β : Type} [Bus β] {channel : Nat} {this : Ptr} {s s' : Recorded (Libraw1394 β)}

/-- The handle has no context, or one on the channel of the object. -/
def OnChannel (channel : Nat) (s : Recorded (Libraw1394 β)) : Prop :=
  s.inner.com.context = none ∨ s.inner.com.context = some ⟨true, channel⟩

omit [Bus β] in
theorem OnChannel.start (onChannel : OnChannel channel s) :
    (s.inner.com.startRecvIsoTransfer channel this).context = some ⟨true, channel⟩ := by
  show s.inner.com.initContext true channel = _
  rcases onChannel with none | own
  · rw [CommunicationLibraw1394.initContext, none]
  · rw [CommunicationLibraw1394.initContext, own]

/-- `start` leaves the context on the channel, whether it returns or not. -/
theorem context_of_start (onChannel : OnChannel channel s)
    (left : (methodCall transfers configures channel this .start s).state? = some s') :
    s'.inner.com.context = some ⟨true, channel⟩ := by
  have inner := simulates_start.state? left
  rw [show PhantomIsoChannel.start transfers configures true channel this s.inner = _ from
    start_eq s.inner.bus s.inner.com s.inner.comConfig, Outcome.state?_mapState,
    Option.map_eq_some_iff] at inner
  obtain ⟨b, -, same⟩ := inner
  rw [← same]
  exact onChannel.start

/-- `stop` stops the transfer, or leaves it alone if it throws. -/
theorem context_of_stop {c : UInt8}
    (left : (methodCall transfers configures channel this (.stop c) s).state? = some s') :
    s'.inner.com.context = none ∨ s'.inner.com.context = s.inner.com.context := by
  have inner := (simulates_stop c).state? left
  rw [show PhantomIsoChannel.stop transfers configures c s.inner = _ from
    stop_eq c s.inner.bus s.inner.com s.inner.comConfig] at inner
  cases ended : PhantomIsoChannel.stopRegisters s.inner.comConfig s.inner.bus with
  | returned u b =>
      rw [ended] at inner
      exact .inl (Option.some.inj inner ▸ rfl)
  | thrown e b =>
      rw [ended] at inner
      exact .inr (Option.some.inj inner ▸ rfl)
  | undefined =>
      rw [ended] at inner
      cases inner

/-- Along every run, the handle has no context but on the channel. -/
theorem onChannel_of_run {methods : List ChannelMethod} (fresh : OnChannel channel s)
    (reached : (channelRuns transfers configures channel this).run s methods = some s') :
    OnChannel channel s' := by
  refine System.run_induction fresh (fun s method s' onChannel stepped => ?_) reached
  cases method with
  | start => exact .inr (context_of_start onChannel stepped)
  | stop c =>
      rcases context_of_stop stepped with stopped | kept
      · exact .inl stopped
      · rw [OnChannel, kept]
        exact onChannel

/-- A `start` that returns listens on the channel. -/
theorem listening_of_start (onChannel : OnChannel channel s)
    (returned : methodCall transfers configures channel this .start s = .returned () s') :
    s'.inner.listening = some channel := by
  rw [listening, context_of_start onChannel (congrArg Outcome.state? returned)]

end Libraw1394

/-! ### Mac OS X -/

namespace MacOSX

/-- A `start` that returns listens on the channel that was picked. -/
theorem listening_of_start {κ : Type} {iokit : IOKit κ} {channel : Nat} {this : Ptr}
    {s s' : Recorded (MacOSX κ)}
    (returned : methodCall (transfers iokit) (accesses iokit) channel this .start s =
      .returned () s') : s'.inner.listening = picks iokit s.inner := by
  have inner : PhantomIsoChannel.start (transfers iokit) (accesses iokit) true channel this
      s.inner = .returned () s'.inner := simulates_start.returned returned
  obtain ⟨_, s₁, started, announced⟩ := Call.bind_eq_returned.mp inner
  obtain ⟨listens, -⟩ := listening_of_startRecvIsoTransfer started
  have reads (address : UInt64) (buffer : List UInt8) :
      Call.Keeps (fun t => t.listening = s₁.listening) ((accesses iokit).read address buffer) := by
    rintro t bytes t' same ⟨⟩
    exact same
  have writes (address : UInt64) (data : List UInt8) :
      Call.Keeps (fun t => t.listening = s₁.listening) ((accesses iokit).write address data) := by
    rintro t bytes t' same ⟨⟩
    exact same
  rw [← listens]
  exact PhantomIsoChannel.keeps_announce reads writes true channel s₁ () s'.inner rfl announced

end MacOSX

/-- A system with one device, whose state is the register of the receive channel.
The first of the given channels is picked. -/
def picksFirst (localSupported : UInt64) : IOKit UInt8 where
  Read address _ c :=
    ([if address = 0x1083 then 0xc0 else if address = ADDR_RECV_CHANNEL then c else 0], c)
  Write address data c := if address = ADDR_RECV_CHANNEL then data.getD 0 0 else c
  localSupported
  AllocateChannel supported c := (Library.firstFree supported, c)
  supported_allocateChannel picked := by
    obtain ⟨inside, supported, -⟩ := Library.firstFree_eq_some.mp picked
    exact ⟨inside, supported⟩

/-- A channel object for the channel 0 that is about to be started. -/
def aboutToStart : Recorded (MacOSX UInt8) := ⟨⟨0, none, none⟩, []⟩

/-- A channel object on a bus where nothing fails for some time. -/
def aboutToStartOmni : Recorded (Libraw1394 ManagedBus) :=
  ⟨⟨Library.failingAfter 0 20, ⟨0xffc0, ⟨2, 0⟩, none, none⟩, ⟨0xffc0, ⟨3, 0⟩, none, none⟩⟩, []⟩

end LibPhantom
