import PhantomDrivers.LibPhantom.FindPhantom
import PhantomDrivers.LibPhantom.IsoIterate
import PhantomDrivers.LibPhantom.RomReads

/-!
# Assertions about the bus

What a call of the library does to the bus is what its transactions do.  So an
assertion about the bus survives every call whose transactions it survives: a
search only reads, and a channel writes single bytes to three registers.  And a
search throws only if one of its reads fails.

* `SurvivesReads`, `SurvivesRegisters` — the transactions.
* `Reading` — what holds while reads are answered, and what holds when one fails.
* `Answered`, `FailsRead` — the strongest assertions of this kind.
* `preserves_startRegisters`, `preserves_stopRegisters` — the accesses of a
  channel to the registers of its node.
* `Stable` — the assertions that the calls without a transaction preserve.
* `Stable.findPhantom`, `aboutBus_findPhantom` — a search.
-/

namespace LibPhantom

open Semantics Raw1394

variable {β : Type} [Bus β] {P : β → Prop} {E : Exn → β → Prop}

/-! ## The transactions -/

/-- No read makes the assertion false. -/
def SurvivesReads (P : β → Prop) : Prop :=
  ∀ (handle : Handle) (node : UInt16) (address : UInt64) (length : Nat) (b : β),
    P b → P (Bus.read handle node address length b).2

/-- The assertion holds on while reads are answered or have to be repeated, and
the other one holds when the chunk of a read fails. -/
structure Reading (P : β → Prop) (E : Exn → β → Prop) : Prop where
  goesOn : ∀ (handle : Handle) (node : UInt16) (address : UInt64) (length : Nat) (b b' : β)
    (r : Except Errno (Nat → UInt8)), P b → Bus.read handle node address length b = (r, b') →
      (∀ e, r = .error e → e = EAGAIN) → P b'
  fails : ∀ (handle : Handle) (node : UInt16) (address : UInt64) (pos length : Nat) (b b' : β)
    (e : Errno), P b → Bus.read handle node (address + UInt64.ofNat pos) length b = (.error e, b') →
      e ≠ EAGAIN → E (.failedTransfer address node e) b'

/-- What survives reads survives them whether they fail or not. -/
theorem SurvivesReads.reading (reads : SurvivesReads P) : Reading P fun _ => P where
  goesOn handle node address length b b' r holds attempt _ := by
    have kept := reads handle node address length b holds
    rwa [attempt] at kept
  fails handle node address pos length b b' e holds attempt _ := by
    have kept := reads handle node (address + UInt64.ofNat pos) length b holds
    rwa [attempt] at kept

/-- No read changes the memories of the nodes. -/
theorem survivesReads_contents [ServesMemory β] (memory : Memory) :
    SurvivesReads fun b : β => ServesMemory.contents b = memory :=
  fun _ _ _ _ _ same => (ServesMemory.read_spec rfl).1.trans same

/-- Reads have led from one state of the bus to the other, and all of them were
answered or have been repeated. -/
inductive Answered (b : β) : β → Prop
  | refl : Answered b b
  | read {b₁ b₂ : β} (before : Answered b b₁) {handle : Handle} {node : UInt16} {address : UInt64}
      {length : Nat} {r : Except Errno (Nat → UInt8)}
      (attempt : Bus.read handle node address length b₁ = (r, b₂))
      (goesOn : ∀ e, r = .error e → e = EAGAIN) : Answered b b₂

/-- A read fails behind such reads, and this is what the exception says. -/
def FailsRead (b : β) (e : Exn) (b' : β) : Prop :=
  ∃ (b₁ : β) (handle : Handle) (node : UInt16) (address : UInt64) (pos length : Nat) (errno : Errno),
    Answered b b₁ ∧
      Bus.read handle node (address + UInt64.ofNat pos) length b₁ = (.error errno, b') ∧
      errno ≠ EAGAIN ∧ e = .failedTransfer address node errno

/-- All reads so far were answered, or the last one has failed. -/
theorem reading_answered (b : β) : Reading (Answered b) (FailsRead b) where
  goesOn _ _ _ _ _ _ _ before attempt goesOn := before.read attempt goesOn
  fails handle node address pos length b₁ _ errno before attempt final :=
    ⟨b₁, handle, node, address, pos, length, errno, before, attempt, final, rfl⟩

/-- What the library writes for a channel: its number, the value that tests the
device, and values of the control register with the enabling bit. -/
def IsChannelWrite (channel : Nat) (address : UInt64) (byte : UInt8) : Prop :=
  address = ADDR_XMIT_CHANNEL ∧ byte = UInt8.ofNat channel ∨
    address = ADDR_RECV_CHANNEL ∧ (byte = UInt8.ofNat channel ∨ byte = 0x40) ∨
    address = ADDR_CONTROL ∧ byte &&& ADDR_CONTROL_enable_iso ≠ 0

/-- No such byte that is written to this node makes it false. -/
def SurvivesRegisters (P : β → Prop) (com : CommunicationLibraw1394) (channel : Nat) : Prop :=
  ∀ (address : UInt64) (byte : UInt8) (b : β), IsChannelWrite channel address byte →
    P b → P (Bus.write com.handle com.node address [byte] b).2

namespace CommunicationLibraw1394

variable {handle : Handle} {node : UInt16} {address : UInt64} {com : CommunicationLibraw1394}

/-- The loop stops at the first read that fails. -/
theorem leaves_readLoop (reads : Reading P E) {length fuel pos : Nat} {buffer : List UInt8}
    {b : β} (holds : P b) :
    (readLoop handle node address length fuel pos buffer b).Leaves (fun _ => P)
      fun shortfall => E (.failedTransfer address node shortfall.errno) := by
  induction fuel generalizing pos buffer b with
  | zero => trivial
  | succ fuel ih =>
      rw [readLoop]
      split
      · split
        · next e b' attempt =>
            split
            · next final => exact reads.fails handle node address pos _ b b' e holds attempt final
            · next again =>
                refine ih (reads.goesOn handle node _ _ b b' _ holds attempt ?_)
                rintro _ ⟨⟩
                exact not_not.mp again
        · next block b' attempt =>
            split
            · refine ih (reads.goesOn handle node _ _ b b' _ holds attempt ?_)
              rintro _ ⟨⟩
            · trivial
      · exact holds

theorem ReadLoop.leaves (reads : Reading P E) {length pos : Nat} {buffer : List UInt8} {b : β}
    {outcome : Outcome Shortfall β (List UInt8)}
    (loop : ReadLoop handle node address length pos buffer b outcome) (holds : P b) :
    outcome.Leaves (fun _ => P) fun shortfall => E (.failedTransfer address node shortfall.errno) := by
  rw [← (readLoop_eq_iff (Nat.le_refl _)).mpr loop]
  exact leaves_readLoop reads holds

/-- The exception names the read that failed. -/
theorem upholds_readNode (reads : Reading P E) (length : UInt32) :
    Call.Upholds P E (readNode handle node address length) := by
  intro b holds
  obtain ⟨outcome, loop, equation⟩ := exists_readLoop handle node address length b
  have left := loop.leaves reads holds
  rw [equation]
  cases outcome with
  | returned bytes b' => exact left
  | thrown shortfall b' => exact left
  | undefined => trivial

theorem preserves_readChar (reads : SurvivesReads P) :
    Call.Preserves P (com.readChar address) :=
  Call.preserves_bind (upholds_readNode reads.reading 1) fun _ => Call.preserves_pure _

/-- A register is written once, or not at all. -/
theorem preserves_write {channel : Nat} {byte : UInt8} (writes : SurvivesRegisters P com channel)
    (lawful : IsChannelWrite channel address byte) :
    Call.Preserves P (com.write address [byte]) := by
  intro b holds
  have kept := writes address byte b lawful holds
  show (writeNode com.handle com.node address [byte] b).Leaves _ _
  obtain ⟨r, b', attempt⟩ :
      ∃ r b', Bus.write com.handle com.node address [byte] b = (r, b') := ⟨_, _, rfl⟩
  rw [attempt] at kept
  cases r with
  | ok =>
      rw [writeNode_of_ok attempt]
      exact kept
  | error e =>
      by_cases again : e = EAGAIN
      · subst again
        rw [writeNode_of_again attempt]
        exact kept
      · rw [writeNode_of_error attempt again]
        exact kept

end CommunicationLibraw1394

/-! ## Devices -/

namespace FirewireDevice

variable {endian : Endian}

theorem upholds_read (reads : Reading P E) (address : UInt64) (length : UInt32) :
    Call.Upholds (fun s : DeviceState β => P s.bus) (fun e s => E e s.bus) (read address length) := by
  refine Call.upholds_bind Call.upholds_get fun s => ?_
  exact Call.upholds_within_of (CommunicationLibraw1394.upholds_readNode reads length)
    (fun _ holds => holds) (fun _ _ _ kept => kept) fun _ _ _ _ failed => failed

theorem upholds_readQuadlet (reads : Reading P E) (address : UInt64) :
    Call.Upholds (fun s : DeviceState β => P s.bus) (fun e s => E e s.bus) (readQuadlet endian address) :=
  Call.upholds_bind (upholds_read reads address 4) fun _ => Call.upholds_pure _

/-- A parse only reads. -/
theorem upholds_getConfigRom (reads : Reading P E) :
    Call.Upholds (fun s : DeviceState β => P s.bus) (fun e s => E e s.bus) (getConfigRom endian) := by
  have readsRom : Call.Upholds (fun s : DeviceState β => P s.bus) (fun e s => E e s.bus) (readConfigRom endian) := by
    rw [← RomDialogue.onBus_readConfigRom]
    exact Dialogue.upholds_run RomDialogue.asking RomDialogue.noting
      (fun question => upholds_read reads question.address question.length)
      (fun _ => Call.upholds_modify fun _ holds => holds) _
  have answer : Call.Upholds (fun s : DeviceState β => P s.bus) (fun e s => E e s.bus)
      (do
        let device := (← get).device
        return if device.configRomValid then some device.configRom else none :
          Call Exn (DeviceState β) (Option ConfigRom)) :=
    Call.upholds_bind Call.upholds_get fun _ => Call.upholds_pure _
  refine Call.upholds_bind Call.upholds_get fun s => Call.upholds_ite ?_ answer
  refine Call.upholds_bind readsRom fun _ => ?_
  exact Call.upholds_bind (Call.upholds_modify fun _ holds => holds) fun _ => answer

theorem upholds_getVendorId (reads : Reading P E) :
    Call.Upholds (fun s : DeviceState β => P s.bus) (fun e s => E e s.bus) (getVendorId endian) := by
  refine Call.upholds_bind (upholds_getConfigRom reads) fun rom => ?_
  cases rom with
  | none => exact Call.upholds_pure _
  | some crom => exact Call.upholds_pure _

theorem upholds_getVendorName (reads : Reading P E) :
    Call.Upholds (fun s : DeviceState β => P s.bus) (fun e s => E e s.bus) (getVendorName endian) := by
  refine Call.upholds_bind (upholds_getConfigRom reads) fun rom => ?_
  cases rom with
  | none => exact Call.upholds_pure _
  | some crom => exact Call.upholds_pure _

/-- The check of the vendor and of the word of the device only reads. -/
theorem upholds_isSensableDevice (reads : Reading P E) :
    Call.Upholds (fun s : DeviceState β => P s.bus) (fun e s => E e s.bus) (isSensableDevice endian) := by
  refine Call.upholds_bind (upholds_getVendorId reads) fun id => ?_
  refine Call.upholds_ite (Call.upholds_pure _) ?_
  refine Call.upholds_bind (upholds_readQuadlet reads _) fun vendor => ?_
  exact Call.upholds_ite (Call.upholds_pure _) (Call.upholds_pure _)

end FirewireDevice

/-! ## Channels -/

namespace PhantomIsoChannel

variable {com : CommunicationLibraw1394} {line₀ line₁ channel : Nat} {receiving : Bool}

open CommunicationLibraw1394

/-- The bit is there once it has been set. -/
theorem enabled_or (c : UInt8) :
    (c ||| ADDR_CONTROL_enable_iso) &&& ADDR_CONTROL_enable_iso ≠ 0 := by
  intro cleared
  have bit := congrArg (fun byte : UInt8 => byte.toBitVec.getLsbD 3) cleared
  simp [ADDR_CONTROL_enable_iso] at bit

theorem preserves_checkStatus (reads : SurvivesReads P) :
    Call.Preserves P (checkStatus com line₀ line₁) := by
  refine Call.preserves_bind (preserves_readChar reads) fun c => ?_
  refine Call.preserves_ite (Call.preserves_throw _) ?_
  refine Call.preserves_bind (preserves_readChar reads) fun c => ?_
  exact Call.preserves_ite (Call.preserves_throw _) (Call.preserves_pure _)

/-- The test of the receive channel writes this register only. -/
theorem preserves_checkRecvChannel (reads : SurvivesReads P)
    (writes : SurvivesRegisters P com channel) :
    Call.Preserves P (checkRecvChannel com channel) := by
  refine Call.preserves_bind (preserves_readChar reads) fun c => ?_
  refine Call.preserves_ite (Call.preserves_throw _) ?_
  refine Call.preserves_bind (preserves_write writes (.inr (.inl ⟨rfl, .inr rfl⟩))) fun _ => ?_
  refine Call.preserves_bind (preserves_readChar reads) fun c => ?_
  refine Call.preserves_ite (Call.preserves_throw _) ?_
  exact preserves_write writes (.inr (.inl ⟨rfl, .inl rfl⟩))

/-- `start` reads and writes registers only. -/
theorem preserves_startRegisters (reads : SurvivesReads P)
    (writes : SurvivesRegisters P com channel) :
    Call.Preserves P (startRegisters com receiving channel) := by
  refine Call.preserves_bind (preserves_write writes ?_) fun _ => ?_
  · split
    · exact .inr (.inl ⟨rfl, .inl rfl⟩)
    · exact .inl ⟨rfl, rfl⟩
  refine Call.preserves_bind ?_ fun _ => ?_
  · exact Call.preserves_ite (preserves_checkRecvChannel reads writes) (Call.preserves_pure _)
  refine Call.preserves_bind (preserves_checkStatus reads) fun _ => ?_
  refine Call.preserves_bind (preserves_readChar reads) fun c => ?_
  refine Call.preserves_ite ?_ (Call.preserves_pure _)
  exact preserves_write writes (.inr (.inr ⟨rfl, enabled_or c⟩))

/-- The mask of `stop` keeps the bit it is meant to clear, so that the value that
is written has it, too. -/
theorem preserves_stopRegisters (reads : SurvivesReads P)
    (writes : SurvivesRegisters P com channel) : Call.Preserves P (stopRegisters com) := by
  refine Call.preserves_bind (preserves_checkStatus reads) fun _ => ?_
  refine Call.preserves_bind (preserves_readChar reads) fun c b holds => ?_
  refine Call.leaves_ite (fun set => ?_) fun _ => holds
  refine preserves_write writes (.inr (.inr ⟨rfl, ?_⟩)) b holds
  rw [UInt8.and_assoc, UInt8.and_self]
  exact set

end PhantomIsoChannel

/-! ## Calls without a transaction -/

namespace Library

variable {host : Host} {i p q : Ptr}

section Stable

omit [Bus β]

variable {I : Library β → Prop} {F : Exn → Library β → Prop}

/-- The assertion does not speak about handles, iterators and the table of open
devices, and holds on when devices are opened and deleted. -/
structure Stable (I : Library β → Prop) : Prop where
  handles : ∀ s nextHandle handleLog ports iterators openDevices, I s →
    I { s with nextHandle, handleLog, ports, iterators, openDevices }
  opened : ∀ s host port node table, I s → I (s.afterNewDevice host port node table)
  deleted : ∀ s p d table, I s → I (s.afterDeleteDevice p d table)

namespace Stable

theorem newHandle (stable : Stable I) (port : Nat) :
    (newHandle port : Call Exn (Library β) Handle).Upholds I F :=
  fun s holds => stable.handles s _ _ s.ports s.iterators s.openDevices holds

theorem useHandle (stable : Stable I) (handle : Handle) :
    (useHandle handle : Call Exn (Library β) Unit).Upholds I F :=
  fun s holds => stable.handles s s.nextHandle _ s.ports s.iterators s.openDevices holds

theorem destroyHandle (stable : Stable I) (handle : Handle) :
    (destroyHandle handle : Call Exn (Library β) Unit).Upholds I F :=
  fun s holds => stable.handles s s.nextHandle _ s.ports s.iterators s.openDevices holds

theorem newCommunication (stable : Stable I) (port : Nat) (node : UInt16) :
    (newCommunication port node : Call Exn (Library β) _).Upholds I F := by
  refine Call.upholds_bind (stable.newHandle port) fun handle => ?_
  exact Call.upholds_bind (stable.useHandle handle) fun _ => Call.upholds_pure _

/-- Following a pointer changes nothing. -/
theorem device : (device p : Call Exn (Library β) _).Upholds I F := by
  refine Call.upholds_bind Call.upholds_get fun s => ?_
  split
  · exact Call.upholds_undefined
  · exact Call.upholds_pure _

theorem iterator : (iterator i : Call Exn (Library β) _).Upholds I F := by
  refine Call.upholds_bind Call.upholds_get fun s => ?_
  split
  · exact Call.upholds_undefined
  · exact Call.upholds_pure _

theorem createCommunication (stable : Stable I) :
    (createCommunication p : Call Exn (Library β) _).Upholds I F :=
  Call.upholds_bind device fun d => stable.newCommunication d.port d.node

theorem newDevice (stable : Stable I) (port : Nat) (node : UInt16) :
    (newDevice host port node : Call Exn (Library β) Ptr).Upholds I F := by
  intro s holds
  cases registered : s.openDevices.register s.devices.next with
  | some table =>
      rw [newDevice_eq registered]
      exact stable.opened s host port node table holds
  | none =>
      have undefined : (Library.newDevice host port node : Call Exn (Library β) Ptr) s =
          .undefined := by
        simp [Library.newDevice, Library.newCommunication, Library.newHandle, Library.useHandle,
          registered]
      rw [undefined]
      trivial

theorem deleteDevice (stable : Stable I) :
    (deleteDevice p : Call Exn (Library β) Unit).Upholds I F := by
  intro s holds
  cases live : s.devices p with
  | none =>
      rw [Library.deleteDevice, Call.bind_apply, device_of_dead live]
      trivial
  | some d =>
      cases unregistered : s.openDevices.unregister p with
      | some table =>
          rw [deleteDevice_eq live unregistered]
          exact stable.deleted s p d table holds
      | none =>
          have undefined : (Library.deleteDevice p : Call Exn (Library β) Unit) s =
              .undefined := by
            simp [Library.deleteDevice, device_of_live live, unregistered]
          rw [undefined]
          trivial

theorem deviceIsOpen (port : Nat) (node : UInt16) :
    (deviceIsOpen port node : Call Exn (Library β) Bool).Upholds I F := by
  have searched (n j : Nat) :
      (searchOpen port node n j : Call Exn (Library β) Bool).Upholds I F := by
    induction n generalizing j with
    | zero => exact Call.upholds_pure _
    | succ n ih =>
        refine Call.upholds_bind Call.upholds_get fun s => ?_
        split
        · refine Call.upholds_bind device fun d => ?_
          exact Call.upholds_ite (Call.upholds_pure _) (ih (j + 1))
        · exact Call.upholds_undefined
  exact Call.upholds_bind Call.upholds_get fun s => searched _ _

theorem getPorts (stable : Stable I) :
    (getPorts host : Call Exn (Library β) Nat).Upholds I F := by
  refine Call.upholds_bind Call.upholds_get fun s => ?_
  split
  · exact Call.upholds_pure _
  · refine Call.upholds_bind (stable.newHandle 0) fun handle => ?_
    refine Call.upholds_bind (stable.useHandle handle) fun _ => ?_
    refine Call.upholds_bind (Call.upholds_modify fun s holds => ?_) fun _ => ?_
    · exact stable.handles s s.nextHandle s.handleLog _ s.iterators s.openDevices holds
    · exact Call.upholds_bind (stable.destroyHandle handle) fun _ => Call.upholds_pure _

theorem openPort (stable : Stable I) (port : Nat) :
    (openPort host port : Call Exn (Library β) _).Upholds I F := by
  refine Call.upholds_bind (stable.newHandle port) fun handle => ?_
  exact Call.upholds_bind (stable.useHandle handle) fun _ => Call.upholds_pure _

theorem modifyIterators (stable : Stable I)
    (f : Library β → Heap DeviceIteratorLibraw1394) :
    (modify fun s => { s with iterators := f s } : Call Exn (Library β) PUnit).Upholds I F :=
  Call.upholds_modify fun s holds =>
    stable.handles s s.nextHandle s.handleLog s.ports _ s.openDevices holds

theorem createInstance (stable : Stable I) :
    (createInstance host : Call Exn (Library β) Ptr).Upholds I F := by
  refine Call.upholds_bind Call.upholds_get fun s => ?_
  refine Call.upholds_bind stable.getPorts fun ports => Call.upholds_ite ?_ ?_
  · exact Call.upholds_bind (stable.modifyIterators _) fun _ => Call.upholds_pure _
  · refine Call.upholds_bind (stable.openPort 0) fun opened => ?_
    exact Call.upholds_bind (stable.modifyIterators _) fun _ => Call.upholds_pure _

theorem deleteIterator (stable : Stable I) :
    (deleteIterator i : Call Exn (Library β) Unit).Upholds I F :=
  Call.upholds_bind iterator fun _ => stable.modifyIterators _

theorem nextPort (stable : Stable I) (it : DeviceIteratorLibraw1394) :
    (nextPort host it : Call Exn (Library β) _).Upholds I F := by
  refine Call.upholds_ite ?_ (Call.upholds_pure _)
  refine Call.upholds_ite Call.upholds_undefined ?_
  refine Call.upholds_bind stable.getPorts fun ports => ?_
  refine Call.upholds_ite (Call.upholds_pure _) ?_
  refine Call.upholds_bind ?_ fun _ => ?_
  · cases it.handle with
    | none => exact Call.upholds_pure _
    | some handle => exact stable.destroyHandle handle
  · exact Call.upholds_bind (stable.openPort _) fun _ => Call.upholds_pure _

theorem lookAt (stable : Stable I) (it : DeviceIteratorLibraw1394) :
    (lookAt host it : Call Exn (Library β) _).Upholds I F := by
  refine Call.upholds_bind (deviceIsOpen _ _) fun isOpen => ?_
  refine Call.upholds_ite (Call.upholds_pure _) ?_
  exact Call.upholds_bind (stable.newDevice _ _) fun _ => Call.upholds_pure _

/-- An iterator looks at the nodes without a transaction. -/
theorem next (stable : Stable I) :
    (next host i : Call Exn (Library β) (Option Ptr)).Upholds I F := by
  have walked (rounds : Nat) (it : DeviceIteratorLibraw1394) :
      (nextFrom host rounds it : Call Exn (Library β) _).Upholds I F := by
    induction rounds generalizing it with
    | zero => exact Call.upholds_undefined
    | succ rounds ih =>
        refine Call.upholds_bind (stable.nextPort it) fun result => ?_
        obtain ⟨more, it₁⟩ := result
        cases more with
        | false => exact Call.upholds_pure _
        | true =>
            refine Call.upholds_bind (stable.lookAt it₁) fun result => ?_
            obtain ⟨device, it₂⟩ := result
            cases device with
            | some device => exact Call.upholds_pure _
            | none => exact ih it₂
  refine Call.upholds_bind iterator fun it => ?_
  refine Call.upholds_bind (walked _ it) fun result => ?_
  exact Call.upholds_bind (stable.modifyIterators _) fun _ => Call.upholds_pure _

end Stable

end Stable

/-! ## Searches -/

/-- The state with one more Phantom. -/
def withPhantom (device : Ptr) (s : Library β) : Library β :=
  { s with phantoms := s.phantoms.alloc ⟨device, false, none, none⟩ }

section Search

variable {I : Library β → Prop} {F : Exn → Library β → Prop} (stable : Stable I)
  (asks : ∀ p, (onDevice p (FirewireDevice.isSensableDevice host.endian)).Upholds I F)
  (reads : ∀ p, (readDeviceSerial host p).Upholds I F)
  (creates : ∀ s device, I s → I (s.withPhantom device))
include stable asks reads creates

/-- What is dropped or kept, nothing but the memory of the library changes. -/
theorem Stable.examine (serial : UInt32) (d : Ptr) : (examine host serial i d).Upholds I F := by
  have dropped : (do Library.deleteDevice d; return none : Call Exn (Library β) (Option Ptr)).Upholds I F :=
    Call.upholds_bind stable.deleteDevice fun _ => Call.upholds_pure _
  refine Call.upholds_bind (asks d) fun sensable => Call.upholds_ite ?_ dropped
  refine Call.upholds_bind (reads d) fun deviceSerial => Call.upholds_ite dropped ?_
  refine Call.upholds_bind stable.deleteIterator fun _ => ?_
  exact fun s holds => creates s d holds

/-- What a search upholds. -/
theorem Stable.findPhantom (serial : UInt32) : (findPhantom host serial).Upholds I F := by
  have looped (i : Ptr) (rounds : Nat) : (findPhantomFrom host serial i rounds).Upholds I F := by
    induction rounds with
    | zero => exact Call.upholds_undefined
    | succ rounds ih =>
        refine Call.upholds_bind stable.next fun device => ?_
        cases device with
        | none => exact Call.upholds_bind stable.deleteIterator fun _ => Call.upholds_pure _
        | some device =>
            refine Call.upholds_bind (stable.examine asks reads creates serial device) ?_
            intro phantom
            cases phantom with
            | some phantom => exact Call.upholds_pure _
            | none => exact ih
  refine Call.upholds_bind stable.createInstance fun i => ?_
  exact Call.upholds_bind Stable.iterator fun it => looped i _

end Search

/-- The assertion about the bus, as one about the state of the library. -/
def AboutBus (P : β → Prop) (s : Library β) : Prop := P s.bus

omit [Bus β] in
/-- The objects of the library do not matter for what is said about the bus. -/
theorem stable_aboutBus (P : β → Prop) : Stable (AboutBus P) where
  handles _ _ _ _ _ _ holds := holds
  opened _ _ _ _ _ holds := holds
  deleted _ _ _ _ holds := holds

omit [Bus β] in
/-- A method of a device changes the bus as it does for itself. -/
theorem aboutBus_onDevice {α : Type} {method : Call Exn (DeviceState β) α}
    (kept : method.Upholds (fun s => P s.bus) fun e s => E e s.bus) :
    (onDevice p method).Upholds (AboutBus P) fun e s => E e s.bus := by
  refine Call.upholds_bind Stable.device fun d => ?_
  refine Call.upholds_bind ((stable_aboutBus P).useHandle _) fun _ => ?_
  exact Call.upholds_within_of kept (fun _ holds => holds) (fun _ _ _ holds => holds)
    fun _ _ _ _ failed => failed

/-- **A search reads, and nothing else.**  What holds while reads are answered holds
after it, and if it throws, a read has failed. -/
theorem aboutBus_findPhantom (reads : Reading P E) (serial : UInt32) :
    (findPhantom host serial).Upholds (AboutBus P) fun e s => E e s.bus := by
  refine (stable_aboutBus P).findPhantom (fun p => ?_) (fun p => ?_) ?_ serial
  · exact aboutBus_onDevice (FirewireDevice.upholds_isSensableDevice reads)
  · exact aboutBus_onDevice (FirewireDevice.upholds_readQuadlet reads _)
  · exact fun s device holds => holds

end Library

end LibPhantom
