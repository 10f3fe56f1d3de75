import PhantomDrivers.Raw1394.Manager
import PhantomDrivers.RevEng.Omni

/-!
# What `initialise_device` does

The part of `initialise_device` behind the handles reads the register of the
free channels, claims two of them, and writes and reads the registers of the
device.

* `Wrote`, `Showed` — one access that ends as the function needs it.
* `RegistersAnswered` — all of them; `configureRegisters_eq_returned` says that
  this is exactly when the function goes on.
* `configuredMemory` — what the registers hold then.
* `openHandles_eq_returned`, `configureDevice_eq_returned` — the two parts of
  `initialise_device`, taken apart.
* `keeps_configureDevice` — the invariants it keeps.
-/

namespace RevEng

open Semantics Raw1394
open LibPhantom (ADDR_XMIT_CHANNEL ADDR_RECV_CHANNEL ADDR_CONTROL ADDR_CONTROL_enable_iso
  CHANNELS_AVAILABLE_ADDR IsoContext)

/-! ## Answers of the bus -/

section Answers

variable {β : Type} [Bus β]

/-- The register is written in the end. -/
def Wrote (handle : Handle) (node : UInt16) (address : UInt64) (byte : UInt8) (b b' : β) : Prop :=
  Settles (Bus.write handle node address [byte]) b (.ok ()) b'

/-- The register is read in the end, and holds the byte. -/
def Showed (handle : Handle) (node : UInt16) (address : UInt64) (byte : UInt8) (b b' : β) : Prop :=
  ∃ block, Settles (Bus.read handle node address 1) b (.ok block) b' ∧ block 0 = byte

/-- The device understands its channels. -/
def ChannelsAnswered (config : Handle) (node : UInt16) (recv xmit : UInt8) (b b' : β) : Prop :=
  ∃ b₁ b₂ b₃ b₄ b₅, Wrote config node ADDR_XMIT_CHANNEL xmit b b₁ ∧
    Wrote config node ADDR_RECV_CHANNEL recv b₁ b₂ ∧
    Showed config node ADDR_RECV_CHANNEL recv b₂ b₃ ∧
    Wrote config node ADDR_RECV_CHANNEL 0x40 b₃ b₄ ∧
    Showed config node ADDR_RECV_CHANNEL 0x40 b₄ b₅ ∧
    Wrote config node ADDR_RECV_CHANNEL recv b₅ b'

/-- The status registers are as expected, and the transfer can be enabled. -/
def EnableAnswered (config : Handle) (node : UInt16) (b b' : β) : Prop :=
  ∃ bufc b₁ b₂ b₃, Showed config node 0x1083 0xc0 b b₁ ∧ Showed config node 0x1082 0 b₁ b₂ ∧
    Showed config node ADDR_CONTROL bufc b₂ b₃ ∧
    Wrote config node ADDR_CONTROL (bufc ||| ADDR_CONTROL_enable_iso) b₃ b'

/-- All accesses to the registers end as expected. -/
def RegistersAnswered (config : Handle) (node : UInt16) (recv xmit : UInt8) (b b' : β) : Prop :=
  ∃ b₁, ChannelsAnswered config node recv xmit b b₁ ∧ EnableAnswered config node b₁ b'

variable {handle config : Handle} {node : UInt16} {address : UInt64} {byte recv xmit : UInt8}
  {b b' : β}

theorem written_eq_returned : written handle node address byte b = .returned true b' ↔
    Wrote handle node address byte b b' := by
  obtain ⟨r, b₁, settles⟩ := exists_settles (patient_write handle node address [byte]) b
  have settled := settle_of_settles (patient_write handle node address [byte]) settles
  rw [written, writeDataChar, Call.bind_apply, settled, Outcome.andThen_returned]
  cases r with
  | error e =>
      constructor
      · intro returned
        cases returned
      · intro wrote
        cases (settles.unique wrote).1
  | ok =>
      constructor
      · intro returned
        cases returned
        exact settles
      · intro wrote
        rw [(settles.unique wrote).2]
        rfl

theorem readDataChar_eq_returned : readDataChar handle node address b = .returned (.ok byte) b' ↔
    Showed handle node address byte b b' := by
  obtain ⟨r, b₁, settles⟩ := exists_settles (patient_read handle node address 1) b
  have settled := settle_of_settles (patient_read handle node address 1) settles
  rw [readDataChar, Call.bind_apply, settled, Outcome.andThen_returned]
  cases r with
  | error e =>
      constructor
      · intro returned
        cases returned
      · rintro ⟨block, showed, -⟩
        cases (settles.unique showed).1
  | ok block =>
      constructor
      · intro returned
        cases returned
        exact ⟨block, settles, rfl⟩
      · rintro ⟨block', showed, rfl⟩
        obtain ⟨same, rfl⟩ := settles.unique showed
        cases same
        rfl

theorem getExpectedChar_eq_returned :
    getExpectedChar handle node address byte b = .returned true b' ↔
      Showed handle node address byte b b' := by
  rw [getExpectedChar, Call.bind_eq_returned]
  constructor
  · rintro ⟨r, b₁, answered, compared⟩
    cases r with
    | error e => cases compared
    | ok buf =>
        obtain ⟨same, rfl⟩ := Outcome.returned.inj compared
        rw [← readDataChar_eq_returned, ← eq_of_beq same]
        exact answered
  · intro showed
    exact ⟨.ok byte, b', readDataChar_eq_returned.mpr showed, by simp⟩

omit [Bus β] in
/-- Where the function goes on after an access. -/
theorem unless_eq_returned {access rest : Call Empty β Bool} :
    (do if !(← access) then return false else rest) b = .returned true b' ↔
      ∃ b₁, access b = .returned true b₁ ∧ rest b₁ = .returned true b' := by
  rw [Call.bind_eq_returned]
  constructor
  · rintro ⟨done, b₁, accessed, went⟩
    cases done with
    | false => cases went
    | true => exact ⟨b₁, accessed, went⟩
  · rintro ⟨b₁, accessed, went⟩
    exact ⟨true, b₁, accessed, went⟩

theorem enableTransfer_eq_returned :
    enableTransfer config node b = .returned true b' ↔
      ∃ bufc b₁, Showed config node ADDR_CONTROL bufc b b₁ ∧
        Wrote config node ADDR_CONTROL (bufc ||| ADDR_CONTROL_enable_iso) b₁ b' := by
  rw [enableTransfer, Call.bind_eq_returned]
  constructor
  · rintro ⟨r, b₁, answered, went⟩
    cases r with
    | error e => cases went
    | ok bufc =>
        exact ⟨bufc, b₁, readDataChar_eq_returned.mp answered, written_eq_returned.mp went⟩
  · rintro ⟨bufc, b₁, showed, wrote⟩
    exact ⟨.ok bufc, b₁, readDataChar_eq_returned.mpr showed, written_eq_returned.mpr wrote⟩

theorem configureRegisters_eq_returned :
    configureRegisters config node recv xmit b = .returned true b' ↔
      RegistersAnswered config node recv xmit b b' := by
  simp only [configureRegisters, unless_eq_returned, written_eq_returned,
    getExpectedChar_eq_returned, enableTransfer_eq_returned, RegistersAnswered, ChannelsAnswered,
    EnableAnswered]
  constructor
  · rintro ⟨b₁, xmits, b₂, recvs, b₃, shows, b₄, tests, b₅, tested, b₆, recvs', b₇, status₀, b₈,
      status₁, bufc, b₉, control, enables⟩
    exact ⟨b₆, ⟨b₁, b₂, b₃, b₄, b₅, xmits, recvs, shows, tests, tested, recvs'⟩, bufc, b₇, b₈, b₉,
      status₀, status₁, control, enables⟩
  · rintro ⟨b₆, ⟨b₁, b₂, b₃, b₄, b₅, xmits, recvs, shows, tests, tested, recvs'⟩, bufc, b₇, b₈, b₉,
      status₀, status₁, control, enables⟩
    exact ⟨b₁, xmits, b₂, recvs, b₃, shows, b₄, tests, b₅, tested, b₆, recvs', b₇, status₀, b₈,
      status₁, bufc, b₉, control, enables⟩

/-! ### Invariants -/

section Invariants

variable {I : β → Prop}

theorem keeps_written
    (writes : ∀ b r b', I b → Settles (Bus.write handle node address [byte]) b r b' → I b') :
    Call.Keeps I (written handle node address byte) := by
  refine Call.keeps_bind ?_ fun r => ?_
  · intro b r b' holds returned
    exact writes b r b' holds ((settle_eq_returned (patient_write _ _ _ _)).mp returned)
  · cases r with
    | error e => exact Call.keeps_pure _
    | ok => exact Call.keeps_pure _

theorem keeps_readDataChar
    (reads : ∀ b r b', I b → Settles (Bus.read handle node address 1) b r b' → I b') :
    Call.Keeps I (readDataChar handle node address) := by
  refine Call.keeps_bind ?_ fun r => Call.keeps_pure _
  intro b r b' holds returned
  exact reads b r b' holds ((settle_eq_returned (patient_read _ _ _ _)).mp returned)

theorem keeps_getExpectedChar
    (reads : ∀ b r b', I b → Settles (Bus.read handle node address 1) b r b' → I b') :
    Call.Keeps I (getExpectedChar handle node address byte) := by
  refine Call.keeps_bind (keeps_readDataChar reads) fun r => ?_
  cases r with
  | error e => exact Call.keeps_pure _
  | ok buf => exact Call.keeps_pure _

/-- What the reads of the registers keep, and the writes to them, is kept however
the accesses end.  The register of the free channels is none of them. -/
theorem keeps_configureRegisters_of
    (reads : ∀ address, address ≠ CHANNELS_AVAILABLE_ADDR → ∀ b r b', I b →
      Settles (Bus.read config node address 1) b r b' → I b')
    (xmits : ∀ b r b', I b →
      Settles (Bus.write config node ADDR_XMIT_CHANNEL [xmit]) b r b' → I b')
    (recvs : ∀ b r b', I b →
      Settles (Bus.write config node ADDR_RECV_CHANNEL [recv]) b r b' → I b')
    (tests : ∀ b r b', I b →
      Settles (Bus.write config node ADDR_RECV_CHANNEL [0x40]) b r b' → I b')
    (enables : ∀ byte b r b', I b →
      Settles (Bus.write config node ADDR_CONTROL [byte ||| ADDR_CONTROL_enable_iso]) b r b' →
      I b') :
    Call.Keeps I (configureRegisters config node recv xmit) := by
  have goesOn {access rest : Call Empty β Bool} (first : Call.Keeps I access)
      (later : Call.Keeps I rest) :
      Call.Keeps I (do if !(← access) then return false else rest) :=
    Call.keeps_bind first fun _ => Call.keeps_ite (Call.keeps_pure _) later
  have expects {address : UInt64} (register : address ≠ CHANNELS_AVAILABLE_ADDR) (byte : UInt8) :
      Call.Keeps I (getExpectedChar config node address byte) :=
    keeps_getExpectedChar (reads address register)
  refine goesOn (keeps_written xmits) (goesOn (keeps_written recvs) ?_)
  refine goesOn (expects (by decide) _) (goesOn (keeps_written tests) ?_)
  refine goesOn (expects (by decide) _) (goesOn (keeps_written recvs) ?_)
  refine goesOn (expects (by decide) _) (goesOn (expects (by decide) _) ?_)
  refine Call.keeps_bind (keeps_readDataChar (reads ADDR_CONTROL (by decide))) fun r => ?_
  cases r with
  | error e => exact Call.keeps_pure _
  | ok bufc => exact keeps_written (enables bufc)

/-- What every transaction keeps is kept, however the accesses end. -/
theorem keeps_configureRegisters
    (writes : ∀ handle node address (byte : UInt8) b r b', I b →
      Settles (Bus.write handle node address [byte]) b r b' → I b')
    (reads : ∀ handle node address b r b', I b →
      Settles (Bus.read handle node address 1) b r b' → I b') :
    Call.Keeps I (configureRegisters config node recv xmit) :=
  keeps_configureRegisters_of (fun address _ => reads _ _ address) (writes _ _ _ _)
    (writes _ _ _ _) (writes _ _ _ _) fun _ => writes _ _ _ _

end Invariants

end Answers

/-! ## The registers of the device -/

section Registers

variable {b b' : ManagedBus} {handle config : Handle} {node : UInt16} {address : UInt64}
  {byte recv xmit : UInt8} {memory : Memory} {port : Nat}

/-- The registers after they have been told the channels. -/
def announcedMemory (memory : Memory) (port : Nat) (node : UInt16) (recv xmit : UInt8) : Memory :=
  (((memory.store port node ADDR_XMIT_CHANNEL [xmit]).store port node ADDR_RECV_CHANNEL
    [recv]).store port node ADDR_RECV_CHANNEL [0x40]).store port node ADDR_RECV_CHANNEL [recv]

/-- The registers after `initialise_device` has returned 0. -/
def configuredMemory (memory : Memory) (port : Nat) (node : UInt16) (recv xmit : UInt8) : Memory :=
  (announcedMemory memory port node recv xmit).store port node ADDR_CONTROL
    [memory port node ADDR_CONTROL ||| ADDR_CONTROL_enable_iso]

theorem announcedMemory_of_ne (notXmit : address ≠ ADDR_XMIT_CHANNEL)
    (notRecv : address ≠ ADDR_RECV_CHANNEL) {p : Nat} {n : UInt16} :
    announcedMemory memory port node recv xmit p n address = memory p n address := by
  rw [announcedMemory, Memory.store_singleton_of_ne notRecv, Memory.store_singleton_of_ne notRecv,
    Memory.store_singleton_of_ne notRecv, Memory.store_singleton_of_ne notXmit]

theorem configuredMemory_recv :
    configuredMemory memory port node recv xmit port node ADDR_RECV_CHANNEL = recv := by
  rw [configuredMemory, Memory.store_singleton_of_ne (by decide), announcedMemory,
    Memory.store_singleton_self]

theorem configuredMemory_xmit :
    configuredMemory memory port node recv xmit port node ADDR_XMIT_CHANNEL = xmit := by
  rw [configuredMemory, Memory.store_singleton_of_ne (by decide), announcedMemory,
    Memory.store_singleton_of_ne (by decide), Memory.store_singleton_of_ne (by decide),
    Memory.store_singleton_of_ne (by decide), Memory.store_singleton_self]

theorem Wrote.elapses (wrote : Wrote handle node address byte b b') :
    ManagedBus.Elapses
      { b with memory := b.memory.store handle.port node address [byte] } b' :=
  (ManagedBus.elapses_of_write wrote).1 rfl

theorem Showed.elapses (showed : Showed handle node address byte b b') : b.Elapses b' := by
  obtain ⟨block, settles, -⟩ := showed
  exact ManagedBus.elapses_of_settles settles

theorem Showed.value (showed : Showed handle node address byte b b')
    (plain : ¬ManagedBus.IsManagerRegister address) : b.memory handle.port node address = byte := by
  obtain ⟨block, settles, same⟩ := showed
  rw [← ManagedBus.register_of_settles settles plain, same]

theorem ChannelsAnswered.elapses (answered : ChannelsAnswered config node recv xmit b b') :
    ManagedBus.Elapses
      { b with memory := announcedMemory b.memory config.port node recv xmit } b' := by
  obtain ⟨b₁, b₂, b₃, b₄, b₅, xmits, recvs, shows, tests, tested, recvs'⟩ := answered
  have told := (xmits.elapses.store ..).trans recvs.elapses
  have checked := ((told.trans shows.elapses).store ..).trans tests.elapses
  exact ((checked.trans tested.elapses).store ..).trans recvs'.elapses

theorem EnableAnswered.elapses (answered : EnableAnswered config node b b') :
    ManagedBus.Elapses
        { b with
          memory := b.memory.store config.port node ADDR_CONTROL
            [b.memory config.port node ADDR_CONTROL ||| ADDR_CONTROL_enable_iso] } b' ∧
      b.memory config.port node 0x1083 = 0xc0 ∧ b.memory config.port node 0x1082 = 0 := by
  obtain ⟨bufc, b₁, b₂, b₃, status₀, status₁, control, enables⟩ := answered
  have read := (status₀.elapses.trans status₁.elapses).trans control.elapses
  have value : b.memory config.port node ADDR_CONTROL = bufc := by
    rw [← (status₀.elapses.trans status₁.elapses).memory]
    exact control.value (by decide)
  rw [value]
  refine ⟨(read.store ..).trans enables.elapses, status₀.value (by decide), ?_⟩
  rw [← status₀.elapses.memory]
  exact status₁.value (by decide)

/-- What the accesses do if they all end as expected. -/
theorem RegistersAnswered.elapses (answered : RegistersAnswered config node recv xmit b b') :
    ManagedBus.Elapses
        { b with memory := configuredMemory b.memory config.port node recv xmit } b' ∧
      b.memory config.port node 0x1083 = 0xc0 ∧ b.memory config.port node 0x1082 = 0 := by
  obtain ⟨b₁, channels, enable⟩ := answered
  obtain ⟨elapses, status₀, status₁⟩ := enable.elapses
  rw [channels.elapses.memory] at elapses status₀ status₁
  dsimp only at elapses status₀ status₁
  rw [announcedMemory_of_ne (by decide) (by decide)] at elapses status₀ status₁
  exact ⟨(channels.elapses.withMemory _).trans elapses, status₀, status₁⟩

theorem wrote_of_reliable (reliable : b.Reliable) (handle : Handle) (node : UInt16)
    (address : UInt64) (byte : UInt8) : ∃ b', Wrote handle node address byte b b' := by
  obtain ⟨b', attempt, -⟩ := reliable.write handle node address [byte]
  exact ⟨b', .ended attempt (by simp)⟩

theorem showed_of_reliable (reliable : b.Reliable) (handle : Handle) (node : UInt16)
    (address : UInt64) (byte : UInt8) (plain : ¬ManagedBus.IsManagerRegister address)
    (value : b.memory handle.port node address = byte) :
    ∃ b', Showed handle node address byte b b' := by
  obtain ⟨block, b', settles, same, -⟩ := reliable.read handle node 1 plain
  exact ⟨b', block, settles, same.trans value⟩

/-- Where nothing fails, a device whose status registers are as expected is
configured. -/
theorem registersAnswered_of_reliable (reliable : b.Reliable) (recv xmit : UInt8)
    (status₀ : b.memory config.port node 0x1083 = 0xc0)
    (status₁ : b.memory config.port node 0x1082 = 0) :
    ∃ b', RegistersAnswered config node recv xmit b b' := by
  obtain ⟨b₁, xmits⟩ := wrote_of_reliable reliable config node ADDR_XMIT_CHANNEL xmit
  have told₁ := xmits.elapses
  obtain ⟨b₂, recvs⟩ := wrote_of_reliable (told₁.reliable reliable) config node ADDR_RECV_CHANNEL recv
  have told₂ := (told₁.store ..).trans recvs.elapses
  obtain ⟨b₃, shows⟩ := showed_of_reliable (told₂.reliable reliable) config node
    ADDR_RECV_CHANNEL recv (by decide) (by
      rw [recvs.elapses.memory]
      exact Memory.store_singleton_self _)
  have told₃ := told₂.trans shows.elapses
  obtain ⟨b₄, tests⟩ := wrote_of_reliable (told₃.reliable reliable) config node ADDR_RECV_CHANNEL 0x40
  have told₄ := (told₃.store ..).trans tests.elapses
  obtain ⟨b₅, tested⟩ := showed_of_reliable (told₄.reliable reliable) config node
    ADDR_RECV_CHANNEL 0x40 (by decide) (by
      rw [tests.elapses.memory]
      exact Memory.store_singleton_self _)
  have told₅ := told₄.trans tested.elapses
  obtain ⟨b₆, recvs'⟩ := wrote_of_reliable (told₅.reliable reliable) config node ADDR_RECV_CHANNEL recv
  have channels : ChannelsAnswered config node recv xmit b b₆ :=
    ⟨b₁, b₂, b₃, b₄, b₅, xmits, recvs, shows, tests, tested, recvs'⟩
  have reliable₆ : b₆.Reliable := channels.elapses.reliable reliable
  have kept {address : UInt64} (notXmit : address ≠ ADDR_XMIT_CHANNEL)
      (notRecv : address ≠ ADDR_RECV_CHANNEL) :
      b₆.memory config.port node address = b.memory config.port node address := by
    rw [channels.elapses.memory]
    exact announcedMemory_of_ne notXmit notRecv
  obtain ⟨b₇, shows₀⟩ := showed_of_reliable reliable₆ config node 0x1083 0xc0 (by decide)
    ((kept (by decide) (by decide)).trans status₀)
  have reliable₇ := shows₀.elapses.reliable reliable₆
  obtain ⟨b₈, shows₁⟩ := showed_of_reliable reliable₇ config node 0x1082 0 (by decide) (by
    rw [shows₀.elapses.memory]
    exact (kept (by decide) (by decide)).trans status₁)
  have reliable₈ := shows₁.elapses.reliable reliable₇
  obtain ⟨b₉, control⟩ := showed_of_reliable reliable₈ config node ADDR_CONTROL _
    (by decide) rfl
  obtain ⟨b₁₀, enables⟩ := wrote_of_reliable (control.elapses.reliable reliable₈) config node
    ADDR_CONTROL _
  exact ⟨b₁₀, b₆, channels, _, b₇, b₈, b₉, shows₀, shows₁, control, enables⟩

end Registers

/-! ## The handles of the table -/

section Handles

/-- The handles of the table are older than a number. -/
def Older (devices : List DeviceInfo) (member : DeviceInfo → Option Handle) (next : Nat) : Prop :=
  ∀ (d : Nat) (info : DeviceInfo) (h : Handle), devices[d]? = some info → member info = some h →
    h.id < next

/-- No two devices share a handle. -/
def Own (devices : List DeviceInfo) (member : DeviceInfo → Option Handle) : Prop :=
  ∀ (d d' : Nat) (info info' : DeviceInfo) (h : Handle), devices[d]? = some info →
    devices[d']? = some info' → member info = some h → member info' = some h → d = d'

variable {devices : List DeviceInfo} {member : DeviceInfo → Option Handle} {next : Nat}
  {f : DeviceInfo → DeviceInfo}

/-- A column of the table that the change of a row leaves alone. -/
theorem map_modify_of_same {α γ : Type} {f : α → α} {g : α → γ} (same : ∀ a, g (f a) = g a)
    (l : List α) (i : Nat) : (l.modify i f).map g = l.map g := by
  ext j : 1
  rw [List.getElem?_map, List.getElem?_map, List.getElem?_modify, Option.map_eq_map,
    Option.map_map]
  apply congrFun
  apply congrArg
  funext a
  show g (if i = j then f a else a) = g a
  split
  · exact same a
  · rfl

theorem Older.mono (older : Older devices member next) {next' : Nat} (le : next ≤ next') :
    Older devices member next' :=
  fun d info h there owns => Nat.lt_of_lt_of_le (older d info h there owns) le

theorem Older.modify (older : Older devices member next) (same : ∀ info, member (f info) = member info)
    (device : Nat) : Older (devices.modify device f) member next := by
  intro d info' h there owns
  obtain ⟨info, old, rfl⟩ := getElem?_modify_eq_some.mp there
  refine older d info h old ?_
  split at owns
  · exact (same info).symm.trans owns
  · exact owns

theorem Own.modify (own : Own devices member) (same : ∀ info, member (f info) = member info)
    (device : Nat) : Own (devices.modify device f) member := by
  have before (info : DeviceInfo) (d : Nat) :
      member (if device = d then f info else info) = member info := by
    split
    · exact same info
    · rfl
  intro d d' info₁ info₂ h there₁ there₂ owns₁ owns₂
  obtain ⟨info₁, old₁, rfl⟩ := getElem?_modify_eq_some.mp there₁
  obtain ⟨info₂, old₂, rfl⟩ := getElem?_modify_eq_some.mp there₂
  rw [before] at owns₁ owns₂
  exact own d d' info₁ info₂ h old₁ old₂ owns₁ owns₂

/-- A new handle is nobody else's. -/
theorem Own.assign (own : Own devices member) (older : Older devices member next) {port : Nat}
    (assigned : ∀ info, member (f info) = some ⟨next, port⟩) (device : Nat) :
    Own (devices.modify device f) member := by
  -- Whoever has the new handle is the device it was assigned to.
  have holder (info : DeviceInfo) (d : Nat) (there : devices[d]? = some info)
      (owns : member (if device = d then f info else info) = some ⟨next, port⟩) : device = d := by
    by_contra different
    rw [if_neg different] at owns
    exact Nat.lt_irrefl _ (older d info _ there owns)
  intro d d' info₁ info₂ h there₁ there₂ owns₁ owns₂
  obtain ⟨info₁, old₁, rfl⟩ := getElem?_modify_eq_some.mp there₁
  obtain ⟨info₂, old₂, rfl⟩ := getElem?_modify_eq_some.mp there₂
  by_cases same : h = ⟨next, port⟩
  · subst same
    exact (holder info₁ d old₁ owns₁).symm.trans (holder info₂ d' old₂ owns₂)
  · have kept (info : DeviceInfo) (d : Nat)
        (owns : member (if device = d then f info else info) = some h) : member info = some h := by
      split at owns
      · rw [assigned] at owns
        exact absurd (Option.some.inj owns).symm same
      · exact owns
    exact own d d' info₁ info₂ h old₁ old₂ (kept info₁ d owns₁) (kept info₂ d' owns₂)

theorem Older.assign (older : Older devices member next) {port : Nat}
    (assigned : ∀ info, member (f info) = some ⟨next, port⟩) (device : Nat) :
    Older (devices.modify device f) member (next + 1) := by
  intro d info' h there owns
  obtain ⟨info, old, rfl⟩ := getElem?_modify_eq_some.mp there
  split at owns
  · rw [assigned] at owns
    exact Option.some.inj owns ▸ Nat.lt_succ_self _
  · exact Nat.lt_succ_of_lt (older d info h old owns)

/-- Null handles are nobody's. -/
theorem older_of_null (null : ∀ (d : Nat) (info : DeviceInfo), devices[d]? = some info →
    member info = none) : Older devices member next := by
  intro d info h there owns
  rw [null d info there] at owns
  cases owns

theorem own_of_null (null : ∀ (d : Nat) (info : DeviceInfo), devices[d]? = some info →
    member info = none) : Own devices member := by
  intro d d' info info' h there _ owns _
  rw [null d info there] at owns
  cases owns

/-- The rows of the table before anything has been set up. -/
theorem exists_foundDevice {β : Type} {bus : β} {found : List (Nat × UInt16)} {d : Nat}
    {info : DeviceInfo} (there : (Driver.start bus found).omni.devices[d]? = some info) :
    ∃ port node, info = foundDevice port node := by
  obtain ⟨place, -, rfl⟩ := List.mem_map.mp (List.mem_of_getElem? there)
  exact ⟨place.1, place.2, rfl⟩

theorem recvHandle_start {β : Type} {bus : β} {found : List (Nat × UInt16)} (d : Nat)
    (info : DeviceInfo) (there : (Driver.start bus found).omni.devices[d]? = some info) :
    info.recvHandle = none := by
  obtain ⟨port, node, rfl⟩ := exists_foundDevice there
  rfl

theorem xmitHandle_start {β : Type} {bus : β} {found : List (Nat × UInt16)} (d : Nat)
    (info : DeviceInfo) (there : (Driver.start bus found).omni.devices[d]? = some info) :
    info.xmitHandle = none := by
  obtain ⟨port, node, rfl⟩ := exists_foundDevice there
  rfl

/-- The handlers find the device a handle belongs to. -/
theorem findRecv_of_own (own : Own devices DeviceInfo.recvHandle) {device : Nat} {info : DeviceInfo}
    {handle : Handle} (there : devices[device]? = some info)
    (owns : info.recvHandle = some handle) : findRecv devices handle = some device := by
  obtain ⟨inside, here⟩ := List.getElem?_eq_some_iff.mp there
  refine List.findIdx?_eq_some_iff_getElem.mpr ⟨inside, ?_, ?_⟩
  · rw [here]
    exact decide_eq_true owns
  · intro d earlier hit
    have before : d < devices.length := Nat.lt_trans earlier inside
    have same := own d device _ info handle (List.getElem?_eq_getElem before) there
      (of_decide_eq_true hit) owns
    exact Nat.lt_irrefl _ (same ▸ earlier)

/-- A packet is stored for the device. -/
theorem deliver_packet {β : Type} [Bus β] {machine : Machine} {s : Omni β} {device : Nat}
    {handle : Handle} {data : Nat → UInt8} {events : List RecvEvent}
    (found : findRecv s.devices handle = some device) :
    deliver machine device handle (.packet data :: events) s =
      deliver machine device handle events { s with
        devices := s.devices.modify device fun info =>
          { info with phantomData := bytesOf data DataRead.size }
        trace := s.trace ++ [.received device (bytesOf data DataRead.size)] } := by
  simp [deliver, record, recvHandler, found, modifyDevice]

/-- The device is set up again behind a bus reset, whether this goes well or not. -/
theorem deliver_busReset_eq_returned {β : Type} [Bus β] {machine : Machine} {s s' : Omni β}
    {device prefill : Nat} {handle : Handle} {events : List RecvEvent} {u : Unit}
    (found : findRecv s.devices handle = some device) (armed : s.resetHandlers handle = true) :
    deliver machine device handle (.busReset prefill :: events) s = .returned u s' ↔
      ∃ ok s₁, configureDevice machine device prefill s = .returned ok s₁ ∧
        deliver machine device handle events s₁ = .returned u s' := by
  have handled : deliver machine device handle (.busReset prefill :: events) s =
      (configureDevice machine device prefill >>= fun _ => deliver machine device handle events) s := by
    simp [deliver, busresetHandler, found, armed, initialiseDevice]
  rw [handled, Call.bind_eq_returned]

/-- The handler of the transmissions finds the forces of the device. -/
theorem xmitHandler_of_own {β : Type} {s : Omni β} (own : Own s.devices DeviceInfo.xmitHandle)
    {device : Nat} {info : DeviceInfo} {handle : Handle} (there : s.devices[device]? = some info)
    (owns : info.xmitHandle = some handle) :
    xmitHandler handle s = .returned (some info.forceData) s := by
  have first : (s.devices.find? fun info => info.xmitHandle = some handle) = some info := by
    rw [List.find?_eq_some_iff_getElem]
    obtain ⟨inside, here⟩ := List.getElem?_eq_some_iff.mp there
    refine ⟨decide_eq_true owns, device, inside, here, ?_⟩
    intro d earlier
    rw [Bool.not_eq_true', decide_eq_false_iff_not]
    intro hit
    have before : d < s.devices.length := Nat.lt_trans earlier inside
    have same := own d device _ info handle (List.getElem?_eq_getElem before) there hit owns
    exact Nat.lt_irrefl _ (same ▸ earlier)
  simp [xmitHandler, first]

end Handles

/-! ## The whole function -/

section Function

variable {β : Type} {machine : Machine} {device prefill : Nat} {config handle : Handle}
  {recv xmit channel : Nat} {s s' : Omni β} {u : Unit} {info : DeviceInfo} {I : Omni β → Prop}

/-- The contexts after an initialisation of the handle: a context that is there
stays. -/
def initContext (contexts : Handle → Option IsoContext) (handle : Handle) (receiving : Bool)
    (channel : Nat) : Handle → Option IsoContext :=
  Function.update contexts handle (some ((contexts handle).getD ⟨receiving, channel⟩))

theorem isoInit_apply (handle : Handle) (receiving : Bool) (channel : Nat) :
    isoInit handle receiving channel s =
      .returned () { s with contexts := initContext s.contexts handle receiving channel } := by
  unfold isoInit initContext
  rw [Call.modify_apply]
  cases there : s.contexts handle with
  | none => rfl
  | some context =>
      have same : Function.update s.contexts handle (some context) = s.contexts := by
        rw [← there, Function.update_eq_self]
      rw [Option.getD_some, same]

theorem exists_requestPackets (device : Nat) (handle : Handle) (requests : Nat) (s : Omni β) :
    ∃ trace, requestPackets device handle requests s = .returned () { s with trace } := by
  induction requests generalizing s with
  | zero => exact ⟨s.trace, rfl⟩
  | succ requests ih =>
      rw [requestPackets, Call.bind_apply, xmitHandler, Call.bind_apply, Call.get_apply,
        Outcome.andThen_returned, Call.pure_apply, Outcome.andThen_returned]
      cases Option.map DeviceInfo.forceData
          (s.devices.find? fun info => info.xmitHandle = some handle) with
      | none => exact ⟨s.trace, rfl⟩
      | some data => exact ih { s with trace := s.trace ++ [.transmitted device data] }

/-- The transfers are started on contexts that may be there already. -/
theorem startTransfers_eq_returned :
    startTransfers device recv xmit prefill s = .returned u s' →
      ∃ info recvHandle xmitHandle trace, s.devices[device]? = some info ∧
        info.recvHandle = some recvHandle ∧ info.xmitHandle = some xmitHandle ∧
        s' = { s with
          contexts := initContext (initContext s.contexts recvHandle true recv) xmitHandle false xmit
          trace } := by
  intro returned
  obtain ⟨info, _, looked, rest₁⟩ := Call.bind_eq_returned.mp returned
  obtain ⟨there, rfl⟩ := deviceInfo_eq_returned.mp looked
  obtain ⟨recvHandle, _, followed, rest₂⟩ := Call.bind_eq_returned.mp rest₁
  obtain ⟨receives, rfl⟩ := followHandle_eq_returned.mp followed
  rw [Call.bind_apply, isoInit_apply, Outcome.andThen_returned] at rest₂
  obtain ⟨xmitHandle, _, followed, rest₃⟩ := Call.bind_eq_returned.mp rest₂
  obtain ⟨transmits, rfl⟩ := followHandle_eq_returned.mp followed
  rw [Call.bind_apply, isoInit_apply, Outcome.andThen_returned] at rest₃
  obtain ⟨trace, requested⟩ := exists_requestPackets device xmitHandle prefill { s with
    contexts := initContext (initContext s.contexts recvHandle true recv) xmitHandle false xmit }
  rw [requested] at rest₃
  cases rest₃
  exact ⟨info, recvHandle, xmitHandle, trace, there, receives, transmits, rfl⟩

theorem keeps_deviceInfo : Call.Keeps I (deviceInfo device) := by
  refine Call.keeps_bind Call.keeps_get ?_
  intro s
  split
  · exact Call.keeps_undefined
  · exact Call.keeps_pure _

theorem keeps_followHandle (handle : Option Handle) : Call.Keeps I (followHandle handle) := by
  cases handle with
  | none => exact Call.keeps_undefined
  | some handle => exact Call.keeps_pure _

/-- The state after new handles have been opened for the device. -/
def withHandles (machine : Machine) (device port : Nat) (s : Omni β) : Omni β :=
  { s with
    nextHandle := s.nextHandle + 1 + 1 + 1
    resetHandlers := Function.update s.resetHandlers ⟨s.nextHandle, port⟩ true
    devices := s.devices.modify device fun info =>
      { info with
        recvHandle := some ⟨s.nextHandle, port⟩
        xmitHandle := some ⟨s.nextHandle + 1, port⟩
        configHandle := some ⟨s.nextHandle + 1 + 1, port⟩
        fdRecv := machine.fd ⟨s.nextHandle, port⟩
        fdXmit := machine.fd ⟨s.nextHandle + 1, port⟩ } }

/-- The row of the device then. -/
theorem withHandles_row (there : s.devices[device]? = some info) (port : Nat) :
    ∃ info', (withHandles machine device port s).devices[device]? = some info' ∧
      info'.port = info.port ∧ info'.node = info.node ∧
      info'.recvHandle = some ⟨s.nextHandle, port⟩ ∧
      info'.xmitHandle = some ⟨s.nextHandle + 1, port⟩ ∧
      info'.configHandle = some ⟨s.nextHandle + 1 + 1, port⟩ :=
  ⟨_, getElem?_modify_eq_some.mpr ⟨info, there, if_pos rfl⟩, rfl, rfl, rfl, rfl, rfl⟩

/-- The new handles, and whether their descriptors could be set up. -/
theorem openHandles_eq_returned {ok : Bool} :
    openHandles machine device s = .returned ok s' ↔
      ∃ info, s.devices[device]? = some info ∧ s' = withHandles machine device info.port s ∧
        ok = !(setFdBlocking machine (machine.fd ⟨s.nextHandle, info.port⟩) false ||
          setFdBlocking machine (machine.fd ⟨s.nextHandle + 1, info.port⟩) false) := by
  have opened {info : DeviceInfo} (there : s.devices[device]? = some info) :
      openHandles machine device s =
        .returned (!(setFdBlocking machine (machine.fd ⟨s.nextHandle, info.port⟩) false ||
          setFdBlocking machine (machine.fd ⟨s.nextHandle + 1, info.port⟩) false))
          (withHandles machine device info.port s) := by
    rw [openHandles, Call.bind_apply, deviceInfo_eq_returned.mpr ⟨there, rfl⟩]
    simp [newHandle, modifyDevice, withHandles, List.modify_modify_eq, Function.comp_def]
  constructor
  · intro returned
    obtain ⟨info, _, looked, -⟩ := Call.bind_eq_returned.mp returned
    obtain ⟨there, rfl⟩ := deviceInfo_eq_returned.mp looked
    rw [opened there] at returned
    cases returned
    exact ⟨info, there, rfl, rfl⟩
  · rintro ⟨info, there, rfl, rfl⟩
    exact opened there

variable [Bus β]

/-- The register of the free channels is read in the end, and holds
`channels`. -/
def Announces (machine : Machine) (config : Handle) (channels : UInt64) (b b' : β) : Prop :=
  ∃ block, Settles (Bus.read config (machine.irmId config.port) CHANNELS_AVAILABLE_ADDR 8) b
      (.ok block) b' ∧
    channels = LibPhantom.Library.channelsAvailable machine.endian (bytesOf block 8)

theorem Announces.unique {channels channels' : UInt64} {b b₁ b₂ : β}
    (first : Announces machine config channels b b₁)
    (second : Announces machine config channels' b b₂) : channels = channels' ∧ b₁ = b₂ := by
  obtain ⟨block, settles, rfl⟩ := first
  obtain ⟨block', settles', rfl⟩ := second
  obtain ⟨⟨⟩, same⟩ := settles.unique settles'
  exact ⟨rfl, same⟩

/-- The state after the search for two free channels. -/
def withChannels (device : Nat) (found : Option Nat × Option Nat) (bus : β) (s : Omni β) : Omni β :=
  { s with
    bus
    devices := s.devices.modify device fun info =>
      { info with recvChannel := found.1, xmitChannel := found.2 } }

/-- The two claims, whatever they end with. -/
def claimBoth (config : Handle) (recv xmit : Nat) (b : β) : β :=
  (Bus.channelModify config xmit .alloc (Bus.channelModify config recv .alloc b).2).2

omit [Bus β] in
theorem onBus_apply {α : Type} {accesses : Call Empty β α} {a : α} {b' : β}
    (returned : accesses s.bus = .returned a b') :
    onBus accesses s = .returned a { s with bus := b' } := by
  rw [onBus, Call.within_apply, returned, Outcome.mapState_returned]

omit [Bus β] in
theorem onBus_eq_returned {α : Type} {accesses : Call Empty β α} {a : α} :
    onBus accesses s = .returned a s' ↔
      ∃ b', accesses s.bus = .returned a b' ∧ s' = { s with bus := b' } := by
  constructor
  · intro returned
    rw [onBus, Call.within_apply] at returned
    cases ended : accesses s.bus with
    | returned a' b' =>
        rw [ended] at returned
        cases returned
        exact ⟨b', rfl, rfl⟩
    | thrown e b' => cases e
    | undefined =>
        rw [ended] at returned
        cases returned
  · rintro ⟨b', returned, rfl⟩
    exact onBus_apply returned

theorem readData_eq_returned (handle : Handle) (node : UInt16) (address : UInt64) (length : Nat)
    (b : β) : ∃ r b', Settles (Bus.read handle node address length) b r b' ∧
      readData handle node address length b =
        .returned (r.map fun block => bytesOf block length) b' := by
  obtain ⟨r, b₁, settles⟩ := exists_settles (patient_read handle node address length) b
  have settled := settle_of_settles (patient_read handle node address length) settles
  refine ⟨r, b₁, settles, ?_⟩
  rw [readData, Call.bind_apply, settled, Outcome.andThen_returned, Call.pure_apply]

/-- The search for two free channels, if their register can be read. -/
theorem findChannels_of_announces {channels : UInt64} {b' : β}
    (announces : Announces machine config channels s.bus b') :
    findChannels machine device config s =
      .returned (match freeChannels channels with
        | (some recv, some xmit) => some (recv, xmit)
        | _ => none) (withChannels device (freeChannels channels) b' s) := by
  obtain ⟨block, settles, rfl⟩ := announces
  obtain ⟨r, b₁, settles₁, read⟩ := readData_eq_returned config (machine.irmId config.port)
    CHANNELS_AVAILABLE_ADDR 8 s.bus
  obtain ⟨rfl, rfl⟩ := settles.unique settles₁
  rw [findChannels, Call.bind_apply, onBus_apply read, Outcome.andThen_returned]
  dsimp only [Except.map, modifyDevice]
  generalize freeChannels _ = found
  obtain ⟨recv, xmit⟩ := found
  cases recv <;> cases xmit <;> rfl

/-- The search for two free channels finds them in what the register holds. -/
theorem findChannels_eq_returned :
    findChannels machine device config s = .returned (some (recv, xmit)) s' ↔
      ∃ channels b', Announces machine config channels s.bus b' ∧
        freeChannels channels = (some recv, some xmit) ∧
        s' = withChannels device (some recv, some xmit) b' s := by
  constructor
  · intro returned
    obtain ⟨r, b₁, settles, read⟩ := readData_eq_returned config (machine.irmId config.port)
      CHANNELS_AVAILABLE_ADDR 8 s.bus
    cases r with
    | error e =>
        rw [findChannels, Call.bind_apply, onBus_apply read] at returned
        cases returned
    | ok block =>
        have announces : Announces machine config _ s.bus b₁ := ⟨block, settles, rfl⟩
        rw [findChannels_of_announces announces] at returned
        obtain ⟨found, rfl⟩ := Outcome.returned.inj returned
        split at found
        · next recv' xmit' both =>
            cases found
            exact ⟨_, b₁, announces, both, by rw [both]⟩
        · cases found
  · rintro ⟨channels, b', announces, both, rfl⟩
    rw [findChannels_of_announces announces, both]

/-- What is found are channels. -/
theorem freeChannels_lt {channels : UInt64} {recv xmit : Nat}
    (found : freeChannels channels = (some recv, some xmit)) : recv < 64 ∧ xmit < 64 := by
  obtain ⟨first, second⟩ := Prod.mk.inj found
  exact ⟨List.mem_range.mp (List.mem_of_find?_eq_some first),
    List.mem_range.mp (List.mem_of_mem_drop (List.mem_of_find?_eq_some second))⟩

/-- **How `initialise_device` returns 0**, behind the handles. -/
theorem configureDevice_eq_returned :
    configureDevice machine device prefill s = .returned true s' ↔
      ∃ info config channels recv xmit b₁ b₂, s.devices[device]? = some info ∧
        info.configHandle = some config ∧ Announces machine config channels s.bus b₁ ∧
        freeChannels channels = (some recv, some xmit) ∧
        RegistersAnswered config info.node (UInt8.ofNat recv) (UInt8.ofNat xmit)
          (claimBoth config recv xmit b₁) b₂ ∧
        startTransfers device recv xmit prefill
          (withChannels device (some recv, some xmit) b₂ s) = .returned () s' := by
  constructor
  · intro returned
    obtain ⟨info, _, looked, rest₁⟩ := Call.bind_eq_returned.mp returned
    obtain ⟨there, rfl⟩ := deviceInfo_eq_returned.mp looked
    obtain ⟨config, _, followed, rest₂⟩ := Call.bind_eq_returned.mp rest₁
    obtain ⟨owns, rfl⟩ := followHandle_eq_returned.mp followed
    obtain ⟨found, s₁, searched, rest₃⟩ := Call.bind_eq_returned.mp rest₂
    cases found with
    | none => cases rest₃
    | some found =>
        obtain ⟨recv, xmit⟩ := found
        obtain ⟨channels, b₁, announces, both, rfl⟩ := findChannels_eq_returned.mp searched
        obtain ⟨_, _, claimed, rest₄⟩ := Call.bind_eq_returned.mp rest₃
        cases claimed
        obtain ⟨_, _, claimed, rest₅⟩ := Call.bind_eq_returned.mp rest₄
        cases claimed
        obtain ⟨configured, _, registers, rest₆⟩ := Call.bind_eq_returned.mp rest₅
        obtain ⟨b₂, answered, rfl⟩ := onBus_eq_returned.mp registers
        cases configured with
        | false => cases rest₆
        | true =>
            obtain ⟨_, _, started, rest₇⟩ := Call.bind_eq_returned.mp rest₆
            cases rest₇
            exact ⟨info, config, channels, recv, xmit, b₁, b₂, there, owns, announces, both,
              configureRegisters_eq_returned.mp answered, started⟩
  · rintro ⟨info, config, channels, recv, xmit, b₁, b₂, there, owns, announces, both, answered,
      started⟩
    refine Call.bind_eq_returned.mpr ⟨info, s, deviceInfo_eq_returned.mpr ⟨there, rfl⟩, ?_⟩
    refine Call.bind_eq_returned.mpr ⟨config, s, followHandle_eq_returned.mpr ⟨owns, rfl⟩, ?_⟩
    refine Call.bind_eq_returned.mpr ⟨_, _, findChannels_eq_returned.mpr
      ⟨channels, b₁, announces, both, rfl⟩, ?_⟩
    refine Call.bind_eq_returned.mpr ⟨(), _, rfl, Call.bind_eq_returned.mpr ⟨(), _, rfl, ?_⟩⟩
    refine Call.bind_eq_returned.mpr ⟨true, _, onBus_eq_returned.mpr
      ⟨b₂, configureRegisters_eq_returned.mpr answered, rfl⟩, ?_⟩
    exact Call.bind_eq_returned.mpr ⟨(), s', started, rfl⟩

/-- **How `initialise_device` ends**, behind the handles: it finds no two
channels, or it claims the first two and goes on to the registers. -/
theorem configureDevice_cases {ok : Bool}
    (returned : configureDevice machine device prefill s = .returned ok s') :
    ∃ info config, s.devices[device]? = some info ∧ info.configHandle = some config ∧
      ((ok = false ∧
          (∃ r, Settles (Bus.read config (machine.irmId config.port) CHANNELS_AVAILABLE_ADDR 8) s.bus
            r s'.bus) ∧
          ∀ channels b, Announces machine config channels s.bus b →
            ∀ recv xmit, freeChannels channels ≠ (some recv, some xmit)) ∨
        ∃ channels recv xmit b₁ b₂, Announces machine config channels s.bus b₁ ∧
          freeChannels channels = (some recv, some xmit) ∧
          configureRegisters config info.node (UInt8.ofNat recv) (UInt8.ofNat xmit)
            (claimBoth config recv xmit b₁) = .returned ok b₂ ∧
          s'.bus = b₂ ∧ s'.devices = (withChannels device (some recv, some xmit) b₂ s).devices) := by
  obtain ⟨info, _, looked, rest₁⟩ := Call.bind_eq_returned.mp returned
  obtain ⟨there, rfl⟩ := deviceInfo_eq_returned.mp looked
  obtain ⟨config, _, followed, rest₂⟩ := Call.bind_eq_returned.mp rest₁
  obtain ⟨owns, rfl⟩ := followHandle_eq_returned.mp followed
  refine ⟨info, config, there, owns, ?_⟩
  obtain ⟨r, b₁, settles, read⟩ := readData_eq_returned config (machine.irmId config.port)
    CHANNELS_AVAILABLE_ADDR 8 s.bus
  cases r with
  | error e =>
      rw [Call.bind_apply, findChannels, Call.bind_apply, onBus_apply read] at rest₂
      cases rest₂
      refine .inl ⟨rfl, ⟨_, settles⟩, ?_⟩
      rintro channels b ⟨block, announces, -⟩
      cases (settles.unique announces).1
  | ok block =>
      have announces : Announces machine config _ s.bus b₁ := ⟨block, settles, rfl⟩
      rw [Call.bind_apply, findChannels_of_announces announces, Outcome.andThen_returned] at rest₂
      generalize LibPhantom.Library.channelsAvailable machine.endian (bytesOf block 8) = channels
        at announces rest₂
      split at rest₂
      · next missing =>
          cases rest₂
          refine .inl ⟨rfl, ⟨_, settles⟩, ?_⟩
          intro channels' b announces' recv xmit both
          obtain ⟨rfl, -⟩ := announces.unique announces'
          rw [both] at missing
          cases missing
      · next recv xmit found =>
          have both : freeChannels channels = (some recv, some xmit) := by
            split at found
            · next both =>
                cases found
                exact both
            · cases found
          rw [both] at rest₂
          obtain ⟨_, _, claimed, rest₄⟩ := Call.bind_eq_returned.mp rest₂
          cases claimed
          obtain ⟨_, _, claimed, rest₅⟩ := Call.bind_eq_returned.mp rest₄
          cases claimed
          obtain ⟨configured, _, registers, rest₆⟩ := Call.bind_eq_returned.mp rest₅
          obtain ⟨b₂, answered, rfl⟩ := onBus_eq_returned.mp registers
          refine .inr ⟨channels, recv, xmit, b₁, b₂, announces, both, ?_⟩
          cases configured with
          | false =>
              cases rest₆
              exact ⟨answered, rfl, rfl⟩
          | true =>
              obtain ⟨_, _, started, rest₇⟩ := Call.bind_eq_returned.mp rest₆
              cases rest₇
              obtain ⟨_, _, _, trace, -, -, -, rfl⟩ := startTransfers_eq_returned started
              exact ⟨answered, rfl, rfl⟩

/-- What does not depend on the bus, nor on the channels of the table, is kept if
starting the transfers keeps it. -/
theorem keeps_configureDevice (bus : ∀ s b, I s → I { s with bus := b })
    (channels : ∀ s found b, I s → I (withChannels device found b s))
    (transfers : ∀ recv xmit, Call.Keeps I (startTransfers device recv xmit prefill)) :
    Call.Keeps I (configureDevice machine device prefill) := by
  have keepsBus {α : Type} (accesses : Call Empty β α) : Call.Keeps I (onBus accesses) :=
    Call.keeps_within fun s b holds => bus s b holds
  have keepsModify (config : Handle) (channel : Nat) :
      Call.Keeps I (channelModify (β := β) config channel .alloc) :=
    Call.keeps_modify fun s holds => bus s _ holds
  refine Call.keeps_bind keeps_deviceInfo fun info => ?_
  refine Call.keeps_bind (keeps_followHandle _) fun config => ?_
  refine Call.keeps_bind ?_ fun found => ?_
  · -- the search
    refine Call.keeps_bind (keepsBus _) fun buffer => ?_
    cases buffer with
    | error e => exact Call.keeps_pure _
    | ok buffer =>
        refine Call.keeps_bind (Call.keeps_modify fun s holds => channels s _ s.bus holds) fun _ => ?_
        split
        · exact Call.keeps_pure _
        · exact Call.keeps_pure _
  · cases found with
    | none => exact Call.keeps_pure _
    | some found =>
        refine Call.keeps_bind (keepsModify _ _) fun _ => ?_
        refine Call.keeps_bind (keepsModify _ _) fun _ => ?_
        refine Call.keeps_bind (keepsBus _) fun configured => ?_
        refine Call.keeps_ite (Call.keeps_pure _) ?_
        exact Call.keeps_bind (transfers _ _) fun _ => Call.keeps_pure _

end Function

/-- A machine with one port and two nodes. -/
def oneDevice : Machine where
  endian := .little
  ports := 1
  nodeCount _ := 2
  irmId _ := 0xffc1
  fd handle := handle.id
  getFlags _ := some 0
  setFlags _ _ := true

/-- A bus on which all channels are free and the registers answer as
expected. -/
def answering : ManagedBus where
  memory _ _ address := if address = 0x1083 then 0xc0 else 0
  irm _ := 0xffc1
  allocation _ _ := none
  turns := []

end RevEng
