import PhantomDrivers.LibPhantom.StartSpecification
import PhantomDrivers.RevEng.ChannelClaims

/-!
# Both drivers start a device alike

On a quiet bus, `initialise_device` returns 0 exactly if the device can be
started in the sense of `Starts`, and then it has started it.  `startPhantom`
does the same, so the two agree on everything that is left on the bus and on
the channels.

* `freeChannels_iff` — one scan of one snapshot finds what two searches behind
  two reads find.
* `RegistersAnswered.quiet` — the registers, in the order of this driver.
* `configureDevice_starts`, `configureDevice_of_starts` — `initialise_device`
  behind the handles.
* `startPhantom_refines_initialiseDevice` — the two drivers.
-/

namespace RevEng

open Semantics Raw1394
open LibPhantom (ADDR_XMIT_CHANNEL ADDR_RECV_CHANNEL ADDR_CONTROL ADDR_CONTROL_enable_iso
  CHANNELS_AVAILABLE_ADDR IsoContext Library FirstFree Starts startedRegisters)
open LibPhantom.Library (CHANNEL_IS_FREE firstFree firstFree_iff)

/-! ## The channels -/

section Channels

variable {machine : Machine} {config : Handle} {channels : UInt64} {recv xmit : Nat}
  {b b' : ManagedBus} {allocation : Allocation} {port : Nat}

/-- The second scan goes on behind the first channel, so it finds the first one
that is left when that channel is taken. -/
theorem freeChannels_iff
    (register : ∀ c < 64, CHANNEL_IS_FREE channels c = true ↔ allocation port c = none) :
    freeChannels channels = (some recv, some xmit) ↔ FirstFree (allocation port) recv ∧
      FirstFree (allocation.assign port recv (some .library) port) xmit := by
  have other {c : Nat} (different : c ≠ recv) :
      allocation.assign port recv (some .library) port c = allocation port c :=
    Allocation.assign_of_ne fun same => different same.2
  have found : freeChannels channels = (some recv, some xmit) ↔
      FirstFree (allocation port) recv ∧ CHANNEL_IS_FREE channels xmit = true ∧ recv < xmit ∧
        xmit < 64 ∧ ∀ c, recv < c → c < xmit → CHANNEL_IS_FREE channels c = false := by
    rw [← firstFree_iff register]
    unfold freeChannels
    rw [Prod.mk.injEq, ← firstFree]
    refine and_congr_right fun first => ?_
    rw [first, Option.getD_some, List.range_eq_range', List.drop_range', List.find?_range'_eq_some]
    simp only [List.mem_range'_1, Bool.not_eq_true']
    constructor
    · rintro ⟨free, ⟨behind, inside⟩, between⟩
      exact ⟨free, by omega, by omega, fun c after before => between c (by omega) before⟩
    · rintro ⟨free, behind, inside, between⟩
      exact ⟨free, ⟨by omega, by omega⟩, fun c after before => between c (by omega) before⟩
  rw [found]
  refine and_congr_right fun recvFree => ?_
  constructor
  · rintro ⟨free, behind, inside, between⟩
    refine ⟨inside, ?_, fun c before => ?_⟩
    · rw [other behind.ne']
      exact (register xmit inside).mp free
    · rcases Nat.lt_trichotomy c recv with earlier | rfl | after
      · rw [other earlier.ne]
        exact recvFree.first c earlier
      · rw [Allocation.assign_self]
        exact Option.some_ne_none _
      · rw [other after.ne', Ne, ← register c (Nat.lt_trans before inside),
          between c after before]
        exact Bool.false_ne_true
  · intro xmitFree
    have free := xmitFree.free
    have different : xmit ≠ recv := by
      rintro rfl
      rw [Allocation.assign_self] at free
      cases free
    rw [other different] at free
    have behind : recv < xmit := by
      rcases Nat.lt_or_gt_of_ne different with earlier | after
      · exact absurd free (recvFree.first xmit earlier)
      · exact after
    refine ⟨(register xmit xmitFree.inside).mpr free, behind, xmitFree.inside,
      fun c after before => ?_⟩
    have busy := xmitFree.first c before
    rw [other after.ne', Ne, ← register c (Nat.lt_trans before xmitFree.inside),
      Bool.not_eq_true] at busy
    exact busy

theorem Announces.quiet (announces : Announces machine config channels b b')
    (quiet : b.Quiet) : b' = b := by
  obtain ⟨block, settles, -⟩ := announces
  exact (quiet.settles_read settles).2

theorem announces_of_quiet (machine : Machine) (config : Handle) (quiet : b.Quiet) :
    ∃ channels, Announces machine config channels b b :=
  ⟨_, _, .ended quiet.read (by simp), rfl⟩

/-- Two channels that are free can be claimed one after the other. -/
theorem claimBoth_of_free (quiet : b.Quiet) (recvFree : FirstFree (b.allocation config.port) recv)
    (xmitFree :
      FirstFree (b.allocation.assign config.port recv (some .library) config.port) xmit) :
    claimBoth config recv xmit b =
      { b with
        allocation := (b.allocation.assign config.port recv (some .library)).assign config.port
          xmit (some .library) } := by
  have second : ManagedBus.Quiet
      { b with allocation := b.allocation.assign config.port recv (some .library) } := quiet
  rw [claimBoth, quiet.alloc_of_free recvFree.inside recvFree.free,
    second.alloc_of_free xmitFree.inside xmitFree.free]

end Channels

/-! ## The registers -/

section Registers

variable {config : Handle} {node : UInt16} {recv xmit : Nat} {b b' : ManagedBus}

/-- This driver writes the registers of a started device, too. -/
theorem configuredMemory_eq (memory : Memory) (port : Nat) (node : UInt16) (recv xmit : Nat) :
    configuredMemory memory port node (UInt8.ofNat recv) (UInt8.ofNat xmit) =
      startedRegisters memory port node recv xmit := by
  rw [configuredMemory, announcedMemory, Memory.store_store_singleton,
    Memory.store_store_singleton, startedRegisters]

theorem RegistersAnswered.quiet
    (answered : RegistersAnswered config node (UInt8.ofNat recv) (UInt8.ofNat xmit) b b')
    (quiet : b.Quiet) :
    b' = { b with memory := startedRegisters b.memory config.port node recv xmit } ∧
      LibPhantom.PhantomIsoChannel.Serves b.memory config.port node := by
  obtain ⟨elapses, status₀, status₁⟩ := answered.elapses
  -- The accesses leave the channels alone.
  have kept : b'.Quiet ∧ b'.allocation = b.allocation := by
    refine keeps_configureRegisters (I := fun b' => b'.Quiet ∧ b'.allocation = b.allocation)
      ?_ ?_ b true b' ⟨quiet, rfl⟩ (configureRegisters_eq_returned.mpr answered)
    · rintro handle node address byte b₁ r b₂ ⟨quiet₁, same⟩ settles
      obtain ⟨-, rfl⟩ := quiet₁.settles_write settles
      exact ⟨quiet₁, same⟩
    · rintro handle node address b₁ r b₂ ⟨quiet₁, same⟩ settles
      obtain ⟨-, rfl⟩ := quiet₁.settles_read settles
      exact ⟨quiet₁, same⟩
  refine ⟨?_, status₀, status₁⟩
  rw [← configuredMemory_eq]
  obtain ⟨memory, irm, allocation, turns⟩ := b'
  obtain rfl : memory = _ := elapses.memory
  obtain rfl : irm = b.irm := elapses.irm
  obtain ⟨rfl : turns = [], rfl : allocation = b.allocation⟩ := kept
  rw [show b.turns = [] from quiet]

end Registers

/-! ## `initialise_device` -/

section Function

variable {machine : Machine} {device prefill recv xmit : Nat} {o o' : Omni ManagedBus}
  {info : DeviceInfo} {config r x : Handle} {b' : ManagedBus}

/-- The table has these channels for the device. -/
def Listed {β : Type} (o : Omni β) (device recv xmit : Nat) : Prop :=
  ∃ info, o.devices[device]? = some info ∧ info.recvChannel = some recv ∧
    info.xmitChannel = some xmit

/-- The handles of the device receive and transmit on these channels. -/
def TransfersOn {β : Type} (o : Omni β) (device recv xmit : Nat) : Prop :=
  ∃ info r x, o.devices[device]? = some info ∧ info.recvHandle = some r ∧
    info.xmitHandle = some x ∧ o.contexts r = some ⟨true, recv⟩ ∧
    o.contexts x = some ⟨false, xmit⟩

/-- The transfers are started where there are handles for them. -/
theorem exists_startTransfers {β : Type} {s : Omni β} (there : s.devices[device]? = some info)
    (receives : info.recvHandle = some r) (transmits : info.xmitHandle = some x)
    (recv xmit prefill : Nat) :
    ∃ s', startTransfers device recv xmit prefill s = .returned () s' := by
  obtain ⟨trace, requested⟩ := exists_requestPackets device x prefill
    { s with contexts := initContext (initContext s.contexts r true recv) x false xmit }
  have looked : deviceInfo device s = .returned info s := deviceInfo_eq_returned.mpr ⟨there, rfl⟩
  rw [startTransfers, Call.bind_apply, looked, Outcome.andThen_returned, receives, transmits,
    Call.bind_apply, followHandle, Call.pure_apply, Outcome.andThen_returned, Call.bind_apply,
    isoInit_apply, Outcome.andThen_returned, Call.bind_apply, followHandle, Call.pure_apply,
    Outcome.andThen_returned, Call.bind_apply, isoInit_apply, Outcome.andThen_returned]
  exact ⟨_, requested⟩

/-- On a quiet bus, the part behind the handles starts the device if it returns
0. -/
theorem configureDevice_starts (quiet : o.bus.Quiet) (there : o.devices[device]? = some info)
    (owns : info.configHandle = some config)
    (managed : o.bus.irm config.port = machine.irmId config.port)
    (returned : configureDevice machine device prefill o = .returned true o') :
    ∃ recv xmit, Starts config.port info.node recv xmit o.bus o'.bus ∧
      Listed o' device recv xmit ∧
      ∃ info' r x, o'.devices[device]? = some info' ∧ info.recvHandle = some r ∧
        info.xmitHandle = some x ∧ info'.recvHandle = some r ∧ info'.xmitHandle = some x ∧
        o'.contexts = initContext (initContext o.contexts r true recv) x false xmit := by
  obtain ⟨info₁, config₁, channels, recv, xmit, b₁, b₂, there₁, owns₁, announces, found, answered,
    started⟩ := configureDevice_eq_returned.mp returned
  obtain rfl := Option.some.inj (there.symm.trans there₁)
  obtain rfl := Option.some.inj (owns.symm.trans owns₁)
  obtain rfl := announces.quiet quiet
  obtain ⟨recvFree, xmitFree⟩ :=
    (freeChannels_iff fun c inside => announces.free managed inside).mp found
  rw [claimBoth_of_free quiet recvFree xmitFree] at answered
  obtain ⟨after, serves⟩ := answered.quiet quiet
  have row : (withChannels device (some recv, some xmit) b₂ o).devices[device]? =
      some { info with recvChannel := some recv, xmitChannel := some xmit } :=
    getElem?_modify_eq_some.mpr ⟨info, there, if_pos rfl⟩
  obtain ⟨info', r, x, trace, row', receives, transmits, rfl⟩ := startTransfers_eq_returned started
  obtain rfl := Option.some.inj (row.symm.trans row')
  exact ⟨recv, xmit, ⟨serves, recvFree, xmitFree, after⟩, ⟨_, row, rfl, rfl⟩, _, r, x, row, receives,
    transmits, receives, transmits, rfl⟩

/-- On a quiet bus, the part behind the handles returns 0 if the device can be
started. -/
theorem configureDevice_of_starts (prefill : Nat) (quiet : o.bus.Quiet)
    (there : o.devices[device]? = some info) (owns : info.configHandle = some config)
    (receives : info.recvHandle = some r) (transmits : info.xmitHandle = some x)
    (managed : o.bus.irm config.port = machine.irmId config.port)
    (starts : Starts config.port info.node recv xmit o.bus b') :
    ∃ o', configureDevice machine device prefill o = .returned true o' := by
  obtain ⟨channels, announces⟩ := announces_of_quiet machine config quiet
  have found := (freeChannels_iff fun c inside => announces.free managed inside).mpr
    ⟨starts.recvFree, starts.xmitFree⟩
  have claimed := claimBoth_of_free quiet starts.recvFree starts.xmitFree
  have stillQuiet : (claimBoth config recv xmit o.bus).Quiet := by
    rw [claimed]
    exact quiet
  have serves : LibPhantom.PhantomIsoChannel.Serves (claimBoth config recv xmit o.bus).memory
      config.port info.node := by
    rw [claimed]
    exact starts.serves
  obtain ⟨b₂, answered⟩ := registersAnswered_of_reliable stillQuiet.reliable (UInt8.ofNat recv)
    (UInt8.ofNat xmit) serves.status₀ serves.status₁
  have row : (withChannels device (some recv, some xmit) b₂ o).devices[device]? =
      some { info with recvChannel := some recv, xmitChannel := some xmit } :=
    getElem?_modify_eq_some.mpr ⟨info, there, if_pos rfl⟩
  obtain ⟨o', started⟩ := exists_startTransfers row receives transmits recv xmit prefill
  exact ⟨o', configureDevice_eq_returned.mpr ⟨info, config, channels, recv, xmit, o.bus, b₂, there,
    owns, announces, found, answered, started⟩⟩

/-- What a call needs besides the bus: the descriptors of new handles can be set
up, and these have no contexts; or the device has its handles already. -/
structure Prepared (machine : Machine) (fullInit : Bool) (o : Omni ManagedBus)
    (info : DeviceInfo) : Prop where
  opens : fullInit = true → setFdBlocking machine (machine.fd ⟨o.nextHandle, info.port⟩) false = false ∧
    setFdBlocking machine (machine.fd ⟨o.nextHandle + 1, info.port⟩) false = false
  fresh : fullInit = true → ∀ h : Handle, o.nextHandle ≤ h.id → o.contexts h = none
  owns : fullInit = false → ∃ config r x, info.configHandle = some config ∧
    config.port = info.port ∧ info.recvHandle = some r ∧ info.xmitHandle = some x

variable {fullInit : Bool}

/-- A prepared call is one of the part behind the handles. -/
theorem Prepared.configures (prepared : Prepared machine fullInit o info)
    (there : o.devices[device]? = some info) (prefill : Nat) :
    ∃ o₁ info₁ config r x, o₁.devices[device]? = some info₁ ∧ info₁.node = info.node ∧
      info₁.configHandle = some config ∧ config.port = info.port ∧
      info₁.recvHandle = some r ∧ info₁.xmitHandle = some x ∧ o₁.bus = o.bus ∧
      initialiseDevice machine device fullInit prefill o =
        configureDevice machine device prefill o₁ ∧
      (fullInit = true → r ≠ x ∧ o₁.contexts r = none ∧ o₁.contexts x = none) := by
  cases fullInit with
  | false =>
      obtain ⟨config, r, x, owns, port, receives, transmits⟩ := prepared.owns rfl
      exact ⟨o, info, config, r, x, there, rfl, owns, port, receives, transmits, rfl, rfl, nofun⟩
  | true =>
      obtain ⟨recvFd, xmitFd⟩ := prepared.opens rfl
      obtain ⟨info₁, row, -, node, receives, transmits, owns⟩ :=
        withHandles_row there info.port
      have opened : openHandles machine device o =
          .returned true (withHandles machine device info.port o) :=
        openHandles_eq_returned.mpr ⟨info, there, rfl, by rw [recvFd, xmitFd]; rfl⟩
      refine ⟨_, info₁, _, _, _, row, node, owns, rfl, receives, transmits, rfl, ?_, fun _ =>
        ⟨?_, prepared.fresh rfl _ (Nat.le_refl _), prepared.fresh rfl _ (Nat.le_succ _)⟩⟩
      · rw [initialiseDevice, if_pos rfl, Call.bind_apply, opened, Outcome.andThen_returned]
        rfl
      · intro same
        exact Nat.succ_ne_self _ (congrArg Handle.id same).symm

/-- Contexts that are new are on the channels they were started on. -/
theorem initContext_of_none {contexts : Handle → Option IsoContext} (recv xmit : Nat)
    (different : r ≠ x) (recvNew : contexts r = none) (xmitNew : contexts x = none) :
    initContext (initContext contexts r true recv) x false xmit r = some ⟨true, recv⟩ ∧
      initContext (initContext contexts r true recv) x false xmit x = some ⟨false, xmit⟩ := by
  have kept : initContext contexts r true recv x = none :=
    (Function.update_of_ne different.symm ..).trans xmitNew
  constructor
  · rw [initContext, Function.update_of_ne different, initContext, Function.update_self, recvNew,
      Option.getD_none]
  · rw [initContext, Function.update_self, kept, Option.getD_none]

/-- On a quiet bus, `initialise_device` starts the device if it returns 0. -/
theorem initialiseDevice_starts (quiet : o.bus.Quiet) (there : o.devices[device]? = some info)
    (managed : o.bus.irm info.port = machine.irmId info.port)
    (prepared : Prepared machine fullInit o info)
    (returned : initialiseDevice machine device fullInit prefill o = .returned true o') :
    ∃ recv xmit, Starts info.port info.node recv xmit o.bus o'.bus ∧ Listed o' device recv xmit ∧
      (fullInit = true → TransfersOn o' device recv xmit) := by
  obtain ⟨o₁, info₁, config, r, x, row, node, owns, port, receives, transmits, bus, same, new⟩ :=
    prepared.configures there prefill
  rw [← bus] at quiet managed
  rw [← port] at managed
  rw [same] at returned
  obtain ⟨recv, xmit, starts, listed, info', r', x', row', receives', transmits', ownsRecv, ownsXmit,
    contexts⟩ := configureDevice_starts quiet row owns managed returned
  obtain rfl := Option.some.inj (receives.symm.trans receives')
  obtain rfl := Option.some.inj (transmits.symm.trans transmits')
  rw [bus, port, node] at starts
  refine ⟨recv, xmit, starts, listed, fun full => ?_⟩
  obtain ⟨different, recvNew, xmitNew⟩ := new full
  obtain ⟨recvOn, xmitOn⟩ := initContext_of_none recv xmit different recvNew xmitNew
  rw [← contexts] at recvOn xmitOn
  exact ⟨info', r, x, row', ownsRecv, ownsXmit, recvOn, xmitOn⟩

/-- On a quiet bus, `initialise_device` returns 0 if the device can be
started. -/
theorem initialiseDevice_of_starts (quiet : o.bus.Quiet) (there : o.devices[device]? = some info)
    (managed : o.bus.irm info.port = machine.irmId info.port)
    (prepared : Prepared machine fullInit o info) (prefill : Nat)
    (starts : Starts info.port info.node recv xmit o.bus b') :
    ∃ o', initialiseDevice machine device fullInit prefill o = .returned true o' := by
  obtain ⟨o₁, info₁, config, r, x, row, node, owns, port, receives, transmits, bus, same, -⟩ :=
    prepared.configures there prefill
  rw [← bus] at quiet managed starts
  rw [← port] at managed starts
  rw [← node] at starts
  rw [same]
  exact configureDevice_of_starts prefill quiet row owns receives transmits managed starts

end Function

/-! ## The two drivers -/

section Refinement

variable {machine : Machine} {fullInit : Bool} {s s' : Library ManagedBus} {p : Semantics.Ptr}
  {d : LibPhantom.FirewireDeviceLibraw1394} {o o' : Omni ManagedBus} {device : Nat}

/-- Both drivers are about to start the same device, on the same quiet bus. -/
structure SameStart (machine : Machine) (fullInit : Bool) (s : Library ManagedBus)
    (p : Semantics.Ptr) (d : LibPhantom.FirewireDeviceLibraw1394) (o : Omni ManagedBus)
    (device : Nat) : Prop where
  quiet : s.bus.Quiet
  bus : o.bus = s.bus
  managed : s.bus.irm d.port = machine.irmId d.port
  phantom : ∃ ph, s.phantoms p = some ph ∧ ph.started = false ∧
    s.devices ph.firewireDevice = some d
  placed : Library.Placed d s.bus
  row : ∃ info, o.devices[device]? = some info ∧ info.port = d.port ∧ info.node = d.node ∧
    Prepared machine fullInit o info

/-- **Starting a device, twice.**  From the same state of a quiet bus,
`startPhantom` returns exactly if `initialise_device` returns 0, which is exactly
if two channels are free and the status registers are as expected; and then both
leave the same bus behind, with all registers and all channels, and use the same
two channels. -/
theorem startPhantom_refines_initialiseDevice (same : SameStart machine fullInit s p d o device)
    (prefill : Nat) :
    ((∃ s', LibPhantom.Library.startPhantom machine.toHost p s = .returned () s') ↔
        ∃ o', initialiseDevice machine device fullInit prefill o = .returned true o') ∧
      ((∃ o', initialiseDevice machine device fullInit prefill o = .returned true o') ↔
        (∃ c < 64, ∃ c' < 64, c ≠ c' ∧ s.bus.allocation d.port c = none ∧
            s.bus.allocation d.port c' = none) ∧
          s.bus.memory d.port d.node 0x1083 = 0xc0 ∧ s.bus.memory d.port d.node 0x1082 = 0) ∧
      ∀ s' o', LibPhantom.Library.startPhantom machine.toHost p s = .returned () s' →
        initialiseDevice machine device fullInit prefill o = .returned true o' →
        s'.bus = o'.bus ∧ ∃ recv xmit, Starts d.port d.node recv xmit s.bus s'.bus ∧
          LibPhantom.Library.TransfersOn s' p recv xmit ∧ Listed o' device recv xmit ∧
          (fullInit = true → TransfersOn o' device recv xmit) := by
  obtain ⟨ph, live, idle, liveDevice⟩ := same.phantom
  obtain ⟨info, there, port, node, prepared⟩ := same.row
  have quiet : o.bus.Quiet := same.bus ▸ same.quiet
  have managed : o.bus.irm info.port = machine.irmId info.port := by
    rw [port, same.bus, same.managed]
  have library : (∃ s', LibPhantom.Library.startPhantom machine.toHost p s = .returned () s') ↔
      ∃ recv xmit b', Starts d.port d.node recv xmit s.bus b' := by
    constructor
    · rintro ⟨s', returned⟩
      obtain ⟨recv, xmit, starts, -⟩ := LibPhantom.Library.startPhantom_starts same.quiet
        same.placed live idle liveDevice returned
      exact ⟨recv, xmit, s'.bus, starts⟩
    · rintro ⟨recv, xmit, b', starts⟩
      exact LibPhantom.Library.startPhantom_of_starts _ same.quiet same.placed live idle liveDevice
        starts
  have reference : (∃ o', initialiseDevice machine device fullInit prefill o =
        .returned true o') ↔
      ∃ recv xmit b', Starts d.port d.node recv xmit s.bus b' := by
    rw [← port, ← node, ← same.bus]
    constructor
    · rintro ⟨o', returned⟩
      obtain ⟨recv, xmit, starts, -⟩ := initialiseDevice_starts quiet there managed prepared returned
      exact ⟨recv, xmit, o'.bus, starts⟩
    · rintro ⟨recv, xmit, b', starts⟩
      exact initialiseDevice_of_starts quiet there managed prepared prefill starts
  refine ⟨library.trans reference.symm, reference.trans LibPhantom.exists_starts_iff, ?_⟩
  intro s' o' started initialised
  obtain ⟨recv, xmit, starts, transfers⟩ := LibPhantom.Library.startPhantom_starts same.quiet
    same.placed live idle liveDevice started
  obtain ⟨recv', xmit', starts', listed, full⟩ :=
    initialiseDevice_starts quiet there managed prepared initialised
  rw [port, node, same.bus] at starts'
  obtain ⟨rfl, rfl, bus⟩ := starts.unique starts'
  exact ⟨bus, recv, xmit, starts, transfers, listed, full⟩

/-- One device, about to be started. -/
theorem sameStart_answering : SameStart oneDevice true (LibPhantom.Library.idleOmni answering) 0
    LibPhantom.Library.omni (Driver.start answering [(0, 0xffc0)]).omni 0 where
  quiet := rfl
  bus := rfl
  managed := rfl
  phantom := ⟨⟨0, false, none, none⟩, rfl, rfl, rfl⟩
  placed := ⟨rfl, rfl, rfl⟩
  row := ⟨foundDevice 0 0xffc0, rfl, rfl, rfl, fun _ => ⟨by decide, by decide⟩, fun _ _ _ => rfl,
    nofun⟩

theorem startPhantom_refines_initialiseDevice_once : ∃ s' o',
    LibPhantom.Library.startPhantom oneDevice.toHost 0 (LibPhantom.Library.idleOmni answering) =
        .returned () s' ∧
      initialiseDevice oneDevice 0 true 0 (Driver.start answering [(0, 0xffc0)]).omni =
        .returned true o' ∧
      s'.bus = o'.bus := by
  obtain ⟨both, whenFree, agree⟩ := startPhantom_refines_initialiseDevice sameStart_answering 0
  obtain ⟨o', initialised⟩ := whenFree.mpr
    ⟨⟨0, by decide, 1, by decide, by decide, rfl, rfl⟩, rfl, rfl⟩
  obtain ⟨s', started⟩ := both.mpr ⟨o', initialised⟩
  exact ⟨s', o', started, initialised, (agree s' o' started initialised).1⟩

end Refinement

end RevEng
