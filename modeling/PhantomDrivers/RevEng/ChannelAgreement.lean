import PhantomDrivers.RevEng.InitialiseDevice

/-!
# Agreement on the channels

The table of the driver, the registers of the device and the contexts of the
host each hold a pair of channels.  After the first `initialise_device` they
agree.  After a bus reset the driver searches for free channels again and tells
the device what it has found, but the contexts are there already, and stay on
the channels they were made for.

* `Agrees` — the three parties agree.
* `Wired` — what holds of the handles in every state.
* `Setup`, `setups` — runs of `initialise_device(device, 1)` and of bus resets;
  a reset leaves any bus behind.
* `Unmoved` — the search finds the channels on which the contexts run.
* `agrees_iff_unmoved` — where `initialise_device` returns 0, the parties agree
  exactly then.
-/

namespace RevEng

open Semantics Raw1394
open LibPhantom (ADDR_XMIT_CHANNEL ADDR_RECV_CHANNEL IsoContext)

/-! ## The handles -/

/-- The handles of the table. -/
structure Wired {β : Type} (s : Omni β) : Prop where
  recvOlder : Older s.devices DeviceInfo.recvHandle s.nextHandle
  xmitOlder : Older s.devices DeviceInfo.xmitHandle s.nextHandle
  recvOwn : Own s.devices DeviceInfo.recvHandle
  /-- A device configures itself on its own port, and does not send through the
  handle through which it receives. -/
  place : ∀ (d : Nat) (info : DeviceInfo), s.devices[d]? = some info →
    (∀ h, info.configHandle = some h → h.port = info.port) ∧
      ∀ h, info.recvHandle = some h → info.xmitHandle ≠ some h
  /-- A new handle has no context. -/
  fresh : ∀ h : Handle, s.nextHandle ≤ h.id → s.contexts h = none

section Handles

variable {β : Type} {s s' : Omni β} {machine : Machine} {device port recv xmit prefill : Nat}

theorem Wired.withHandles (wired : Wired s) (machine : Machine) {info : DeviceInfo}
    (there : s.devices[device]? = some info) :
    Wired (withHandles machine device info.port s) where
  recvOlder := (wired.recvOlder.assign (fun _ => by rfl) device).mono (Nat.le_add_right _ 2)
  xmitOlder := ((wired.xmitOlder.mono (Nat.le_succ _)).assign (fun _ => by rfl) device).mono
    (Nat.le_succ _)
  recvOwn := wired.recvOwn.assign wired.recvOlder (fun _ => by rfl) device
  place d info' now := by
    obtain ⟨info₁, old, rfl⟩ := getElem?_modify_eq_some.mp now
    split
    · next same =>
        subst same
        obtain rfl := Option.some.inj (there.symm.trans old)
        refine ⟨?_, ?_⟩
        · rintro h ⟨⟩
          rfl
        · rintro h ⟨⟩ same
          exact Nat.succ_ne_self _ (Handle.mk.inj (Option.some.inj same)).1
    · exact wired.place d info₁ old
  fresh h new := wired.fresh h (Nat.le_trans (Nat.le_add_right _ 3) new)

theorem Wired.withChannels (wired : Wired s) (device : Nat) (found : Option Nat × Option Nat)
    (b : β) : Wired (withChannels device found b s) where
  recvOlder := wired.recvOlder.modify (fun _ => by rfl) device
  xmitOlder := wired.xmitOlder.modify (fun _ => by rfl) device
  recvOwn := wired.recvOwn.modify (fun _ => by rfl) device
  place d info' now := by
    obtain ⟨info, old, rfl⟩ := getElem?_modify_eq_some.mp now
    split
    · exact wired.place d info old
    · exact wired.place d info old
  fresh := wired.fresh

theorem wired_startTransfers (recv xmit prefill : Nat) :
    Call.Keeps Wired (startTransfers (β := β) device recv xmit prefill) := by
  intro s u s' wired returned
  obtain ⟨info, recvHandle, xmitHandle, trace, there, receives, transmits, rfl⟩ :=
    startTransfers_eq_returned returned
  refine { wired with fresh := ?_ }
  intro h new
  -- A new handle is none of the two that get contexts.
  have notRecv : h ≠ recvHandle := by
    rintro rfl
    exact Nat.not_lt_of_le new (wired.recvOlder device info h there receives)
  have notXmit : h ≠ xmitHandle := by
    rintro rfl
    exact Nat.not_lt_of_le new (wired.xmitOlder device info h there transmits)
  show initContext (initContext s.contexts recvHandle true recv) xmitHandle false xmit h = none
  rw [initContext, Function.update_of_ne notXmit, initContext, Function.update_of_ne notRecv]
  exact wired.fresh h new

variable [Bus β]

theorem wired_configureDevice (prefill : Nat) :
    Call.Keeps Wired (configureDevice (β := β) machine device prefill) := by
  refine keeps_configureDevice ?_ ?_ fun recv xmit => wired_startTransfers recv xmit prefill
  · intro s b wired
    exact { wired with }
  · intro s found b wired
    exact wired.withChannels device found b

theorem wired_initialiseDevice (fullInit : Bool) (prefill : Nat) :
    Call.Keeps Wired (initialiseDevice (β := β) machine device fullInit prefill) := by
  refine Call.keeps_ite (Call.keeps_bind ?_ fun ok => ?_) (wired_configureDevice prefill)
  · intro s ok s' wired returned
    obtain ⟨info, there, rfl, -⟩ := openHandles_eq_returned.mp returned
    exact wired.withHandles machine there
  · exact Call.keeps_ite (Call.keeps_pure _) (wired_configureDevice prefill)

end Handles

/-! ## Agreement -/

/-- The three parties agree on the channels of the device. -/
def Agrees (s : Omni ManagedBus) (device : Nat) : Prop :=
  ∃ info recvHandle xmitHandle recv xmit, s.devices[device]? = some info ∧
    info.recvHandle = some recvHandle ∧ info.xmitHandle = some xmitHandle ∧
    info.recvChannel = some recv ∧ info.xmitChannel = some xmit ∧
    s.contexts recvHandle = some ⟨true, recv⟩ ∧ s.contexts xmitHandle = some ⟨false, xmit⟩ ∧
    (s.bus.memory info.port info.node ADDR_RECV_CHANNEL).toNat = recv ∧
    (s.bus.memory info.port info.node ADDR_XMIT_CHANNEL).toNat = xmit

/-- If the register of the free channels is read, its first two free channels
are those on which the contexts of the device run, if it has contexts. -/
def Unmoved (machine : Machine) (s : Omni ManagedBus) (device : Nat) : Prop :=
  ∀ info config recvHandle xmitHandle channels recv xmit b, s.devices[device]? = some info →
    info.configHandle = some config → info.recvHandle = some recvHandle →
    info.xmitHandle = some xmitHandle → Announces machine config channels s.bus b →
    freeChannels channels = (some recv, some xmit) →
    (s.contexts recvHandle).getD ⟨true, recv⟩ = ⟨true, recv⟩ ∧
      (s.contexts xmitHandle).getD ⟨false, xmit⟩ = ⟨false, xmit⟩

variable {machine : Machine} {device prefill : Nat} {s s' : Omni ManagedBus}

/-- **Where `initialise_device` returns 0**, behind the handles, the three
parties agree exactly if the search has found the channels of the contexts. -/
theorem agrees_iff_unmoved (wired : Wired s)
    (returned : configureDevice machine device prefill s = .returned true s') :
    Agrees s' device ↔ Unmoved machine s device := by
  obtain ⟨info, config, channels, recv, xmit, b₁, b₂, there, configures, announces, both, answered,
    started⟩ := configureDevice_eq_returned.mp returned
  obtain ⟨info', recvHandle, xmitHandle, trace, now, receives, transmits, rfl⟩ :=
    startTransfers_eq_returned started
  obtain ⟨info₁, old, rfl⟩ := getElem?_modify_eq_some.mp now
  obtain rfl := Option.some.inj (there.symm.trans old)
  rw [if_pos rfl] at receives transmits
  have apart : xmitHandle ≠ recvHandle := by
    rintro rfl
    exact (wired.place device info there).2 xmitHandle receives transmits
  -- What the three parties hold afterwards.
  have recvContext : initContext (initContext s.contexts recvHandle true recv) xmitHandle false xmit
      recvHandle = some ((s.contexts recvHandle).getD ⟨true, recv⟩) := by
    rw [initContext, Function.update_of_ne apart.symm, initContext, Function.update_self]
  have xmitContext : initContext (initContext s.contexts recvHandle true recv) xmitHandle false xmit
      xmitHandle = some ((s.contexts xmitHandle).getD ⟨false, xmit⟩) := by
    rw [initContext, Function.update_self, initContext, Function.update_of_ne apart]
  obtain ⟨small, small'⟩ := freeChannels_lt both
  have registers : (b₂.memory info.port info.node ADDR_RECV_CHANNEL).toNat = recv ∧
      (b₂.memory info.port info.node ADDR_XMIT_CHANNEL).toNat = xmit := by
    have port := (wired.place device info there).1 config configures
    have memory := answered.elapses.1.memory
    rw [port] at memory
    dsimp only at memory
    rw [memory, configuredMemory_recv, configuredMemory_xmit, UInt8.toNat_ofNat', UInt8.toNat_ofNat']
    exact ⟨Nat.mod_eq_of_lt (Nat.lt_trans small (by decide)),
      Nat.mod_eq_of_lt (Nat.lt_trans small' (by decide))⟩
  constructor
  · rintro ⟨info₂, recvHandle₂, xmitHandle₂, recv₂, xmit₂, there₂, receives₂, transmits₂, recvs₂,
      xmits₂, recvContext₂, xmitContext₂, -, -⟩
    obtain rfl := Option.some.inj (now.symm.trans there₂)
    rw [if_pos rfl] at receives₂ transmits₂ recvs₂ xmits₂
    obtain rfl := Option.some.inj (receives.symm.trans receives₂)
    obtain rfl := Option.some.inj (transmits.symm.trans transmits₂)
    obtain rfl := Option.some.inj recvs₂
    obtain rfl := Option.some.inj xmits₂
    intro info₃ config₃ recvHandle₃ xmitHandle₃ channels₃ recv₃ xmit₃ b₃ there₃ configures₃ receives₃
      transmits₃ announces₃ both₃
    obtain rfl := Option.some.inj (there.symm.trans there₃)
    obtain rfl := Option.some.inj (configures.symm.trans configures₃)
    obtain rfl := Option.some.inj (receives.symm.trans receives₃)
    obtain rfl := Option.some.inj (transmits.symm.trans transmits₃)
    obtain ⟨rfl, -⟩ := announces.unique announces₃
    obtain ⟨⟨⟩, ⟨⟩⟩ := Prod.mk.inj (both.symm.trans both₃)
    exact ⟨Option.some.inj (recvContext.symm.trans recvContext₂),
      Option.some.inj (xmitContext.symm.trans xmitContext₂)⟩
  · intro unmoved
    obtain ⟨recvSame, xmitSame⟩ := unmoved info config recvHandle xmitHandle channels recv xmit b₁
      there configures receives transmits announces both
    rw [recvSame] at recvContext
    rw [xmitSame] at xmitContext
    rw [if_pos rfl] at now
    exact ⟨_, recvHandle, xmitHandle, recv, xmit, now, receives, transmits, rfl, rfl, recvContext,
      xmitContext, registers⟩

/-! ## Runs -/

/-- `busreset_handler`, which ignores what `initialise_device` returns; here the
device for which it returned 0. -/
def reinitialise {β : Type} [Bus β] (machine : Machine) (handle : Handle) (prefill : Nat) :
    Call Empty (Omni β) (Option Nat) := do
  match findRecv (← get).devices handle with
  | none => return none
  | some device =>
      if ← initialiseDevice machine device false prefill then return some device else return none

/-- The driver, and the device whose `initialise_device` has just returned 0. -/
structure Setup where
  omni : Omni ManagedBus
  succeeded : Option Nat

/-- What happens to the driver. -/
inductive SetupAction where
  /-- `initialise_device(device, 1)` -/
  | initialise (device prefill : Nat)
  /-- a bus reset after which the bus is `bus`, reported to the device -/
  | busReset (device : Nat) (bus : ManagedBus) (prefill : Nat)

/-- The calls of an action. -/
def setupCall (machine : Machine) : SetupAction → Call Empty (Omni ManagedBus) (Option Nat)
  | .initialise device prefill => do
      if ← initialiseDevice machine device true prefill then return some device else return none
  | .busReset device bus prefill => do
      modify fun s => { s with bus }
      let handle ← followHandle (← deviceInfo device).recvHandle
      if (← get).resetHandlers handle then reinitialise machine handle prefill else return none

/-- Runs of the driver. -/
def setups (machine : Machine) : System Setup SetupAction where
  step s a :=
    match setupCall machine a s.omni with
    | .returned succeeded omni => some ⟨omni, succeeded⟩
    | _ => none

/-- Whenever `initialise_device` has returned 0, the three parties agree. -/
def Agreed (s : Setup) : Prop := ∀ device, s.succeeded = some device → Agrees s.omni device

/-- After a reset, the search finds the channels on which the contexts run. -/
def UnmovedAt (machine : Machine) (s : Setup) : SetupAction → Prop
  | .initialise _ _ => True
  | .busReset device bus _ => Unmoved machine { s.omni with bus } device

theorem wired_start (bus : ManagedBus) (found : List (Nat × UInt16)) :
    Wired (Driver.start bus found).omni := by
  refine ⟨older_of_null recvHandle_start, older_of_null xmitHandle_start,
    own_of_null recvHandle_start, ?_, fun _ _ => rfl⟩
  intro d info there
  obtain ⟨port, node, rfl⟩ := exists_foundDevice there
  exact ⟨nofun, nofun⟩

/-- New handles have no contexts that could disagree. -/
theorem Wired.unmoved_withHandles (wired : Wired s) (machine : Machine) (device port : Nat) :
    Unmoved machine (RevEng.withHandles machine device port s) device := by
  intro info config recvHandle xmitHandle channels recv xmit b now _ receives transmits _ _
  obtain ⟨info₁, -, rfl⟩ := getElem?_modify_eq_some.mp now
  rw [if_pos rfl] at receives transmits
  obtain rfl := Option.some.inj receives
  obtain rfl := Option.some.inj transmits
  have recvFree := wired.fresh ⟨s.nextHandle, port⟩ (Nat.le_refl _)
  have xmitFree := wired.fresh ⟨s.nextHandle + 1, port⟩ (Nat.le_succ _)
  show (s.contexts _).getD _ = _ ∧ (s.contexts _).getD _ = _
  rw [recvFree, xmitFree]
  exact ⟨rfl, rfl⟩

/-- One step of a run. -/
theorem Wired.setupCall (wired : Wired s) {a : SetupAction} {succeeded before : Option Nat}
    (unmoved : UnmovedAt machine ⟨s, before⟩ a)
    (returned : setupCall machine a s = .returned succeeded s') :
    Wired s' ∧ Agreed ⟨s', succeeded⟩ := by
  cases a with
  | initialise device prefill =>
      obtain ⟨ok, s₁, initialised, rest⟩ := Call.bind_eq_returned.mp returned
      have wired₁ := wired_initialiseDevice true prefill s ok s₁ wired initialised
      cases ok with
      | false =>
          cases rest
          exact ⟨wired₁, nofun⟩
      | true =>
          cases rest
          refine ⟨wired₁, ?_⟩
          rintro _ ⟨⟩
          obtain ⟨opened, s₂, opens, configured⟩ := Call.bind_eq_returned.mp initialised
          obtain ⟨info, there, rfl, -⟩ := openHandles_eq_returned.mp opens
          cases opened with
          | false => cases configured
          | true =>
              exact (agrees_iff_unmoved (wired.withHandles machine there) configured).mpr
                (wired.unmoved_withHandles machine device info.port)
  | busReset device bus prefill =>
      have wiredBus : Wired { s with bus } := { wired with }
      obtain ⟨_, _, reset, rest₁⟩ := Call.bind_eq_returned.mp returned
      cases reset
      obtain ⟨info, _, looked, rest₂⟩ := Call.bind_eq_returned.mp rest₁
      obtain ⟨there, rfl⟩ := deviceInfo_eq_returned.mp looked
      obtain ⟨handle, _, followed, rest₃⟩ := Call.bind_eq_returned.mp rest₂
      obtain ⟨owns, rfl⟩ := followHandle_eq_returned.mp followed
      obtain ⟨_, _, looked, rest₄⟩ := Call.bind_eq_returned.mp rest₃
      cases looked
      split at rest₄
      · rw [reinitialise, Call.bind_apply, Call.get_apply, Outcome.andThen_returned,
          findRecv_of_own wiredBus.recvOwn there owns] at rest₄
        obtain ⟨ok, s₁, initialised, rest₅⟩ := Call.bind_eq_returned.mp rest₄
        have wired₁ := wired_initialiseDevice false prefill _ ok s₁ wiredBus initialised
        cases ok with
        | false =>
            cases rest₅
            exact ⟨wired₁, nofun⟩
        | true =>
            cases rest₅
            refine ⟨wired₁, ?_⟩
            rintro _ ⟨⟩
            exact (agrees_iff_unmoved wiredBus initialised).mpr unmoved
      · cases rest₄
        exact ⟨wiredBus, nofun⟩

/-- **Agreement.**  As long as the search after every bus reset finds the
channels on which the contexts already run, the contexts, the table and the
registers of a device agree whenever its `initialise_device` has returned 0. -/
theorem always_agreed_of_unmoved (machine : Machine) (bus : ManagedBus)
    (found : List (Nat × UInt16)) (actions : List SetupAction)
    (unmoved : (setups machine).StepsMeet (UnmovedAt machine)
      ⟨(Driver.start bus found).omni, none⟩ actions) :
    (setups machine).Always Agreed ⟨(Driver.start bus found).omni, none⟩ actions := by
  refine System.always_of_stepsMeet (I := fun s => Wired s.omni ∧ Agreed s)
    ⟨wired_start bus found, nofun⟩ (fun s invariant => invariant.2) ?_ unmoved
  rintro ⟨s, before⟩ a s' ⟨wired, -⟩ met stepped
  cases called : setupCall machine a s with
  | returned succeeded omni =>
      simp only [setups, called, Option.some.injEq] at stepped
      subst stepped
      exact wired.setupCall met called
  | thrown e omni => cases e
  | undefined => simp [setups, called] at stepped

/-- On a bus on which all channels are free, the first two are found. -/
theorem freeChannels_of_answering {channels : UInt64} {b : ManagedBus}
    (announces : Announces oneDevice ⟨2, 0⟩ channels answering b) :
    freeChannels channels = (some 0, some 1) := by
  obtain ⟨block, settles, rfl⟩ := announces
  have read : Bus.read (⟨2, 0⟩ : Handle) 0xffc1 LibPhantom.CHANNELS_AVAILABLE_ADDR 8 answering =
      (.ok fun i => answering.byte 0 0xffc1
        (LibPhantom.CHANNELS_AVAILABLE_ADDR + UInt64.ofNat i), answering) := rfl
  obtain ⟨same, -⟩ := settles.unique (.ended read (by simp))
  obtain rfl := Except.ok.inj same
  decide +kernel

/-- After the reset all channels are free again. -/
theorem always_agreed_of_unmoved_once :
    (setups oneDevice).Always Agreed ⟨(Driver.start answering [(0, 0xffc0)]).omni, none⟩
      [.initialise 0 0, .busReset 0 answering 0] := by
  refine always_agreed_of_unmoved oneDevice answering [(0, 0xffc0)] _ ⟨trivial, ?_⟩
  intro s stepped
  refine ⟨?_, fun _ _ => trivial⟩
  have facts : ((setups oneDevice).step ⟨(Driver.start answering [(0, 0xffc0)]).omni, none⟩
      (.initialise 0 0)).map (fun s => ([s.omni.contexts ⟨0, 0⟩, s.omni.contexts ⟨1, 0⟩],
        s.omni.devices.map fun info => [info.recvHandle, info.xmitHandle, info.configHandle])) =
      some ([some ⟨true, 0⟩, some ⟨false, 1⟩], [[some ⟨0, 0⟩, some ⟨1, 0⟩, some ⟨2, 0⟩]]) := by
    decide +kernel
  rw [stepped] at facts
  obtain ⟨contexts, table⟩ := Prod.mk.inj (Option.some.inj facts)
  intro info config recvHandle xmitHandle channels recv xmit b there configures receives transmits
    announces both
  have row : [info.recvHandle, info.xmitHandle, info.configHandle] =
      [some ⟨0, 0⟩, some ⟨1, 0⟩, some ⟨2, 0⟩] := by
    have here := congrArg (·[0]?) table
    rw [List.getElem?_map] at here
    exact Option.some.inj ((congrArg _ there).symm.trans here)
  rw [receives, transmits, configures] at row
  cases row
  rw [freeChannels_of_answering announces] at both
  cases both
  obtain ⟨recvContext, xmitContext⟩ := List.cons.inj contexts
  show (s.omni.contexts ⟨0, 0⟩).getD _ = _ ∧ (s.omni.contexts ⟨1, 0⟩).getD _ = _
  rw [recvContext, (List.cons.inj xmitContext).1]
  exact ⟨rfl, rfl⟩

/-- After the reset another node has taken the channel 0. -/
def moved : ManagedBus :=
  { answering with allocation := fun _ channel => if channel = 0 then some .other else none }

theorem disagree_after_reset :
    ¬∀ (machine : Machine) (bus : ManagedBus) (found : List (Nat × UInt16))
      (actions : List SetupAction),
        (setups machine).Always Agreed ⟨(Driver.start bus found).omni, none⟩ actions := by
  intro claim
  have always := claim oneDevice answering [(0, 0xffc0)] [.initialise 0 0, .busReset 0 moved 0]
  have runs : ((setups oneDevice).run ⟨(Driver.start answering [(0, 0xffc0)]).omni, none⟩
      [.initialise 0 0, .busReset 0 moved 0]).map (fun s => (s.succeeded, s.omni.contexts ⟨0, 0⟩,
        s.omni.devices.map fun info => (info.recvHandle, info.recvChannel))) =
      some (some 0, some ⟨true, 0⟩, [(some ⟨0, 0⟩, some 1)]) := by
    decide +kernel
  obtain ⟨s, reached, same⟩ := Option.map_eq_some_iff.mp runs
  obtain ⟨succeeded, rest⟩ := Prod.mk.inj same
  obtain ⟨context, table⟩ := Prod.mk.inj rest
  have agreed := System.always_iff_prefix.mp always _ List.prefix_rfl s reached
  obtain ⟨info, recvHandle, xmitHandle, recv, xmit, there, receives, -, recvs, -, recvContext, -⟩ :=
    agreed 0 succeeded
  have row : (info.recvHandle, info.recvChannel) = (some ⟨0, 0⟩, some 1) := by
    have here := congrArg (·[0]?) table
    rw [List.getElem?_map] at here
    exact Option.some.inj ((congrArg _ there).symm.trans here)
  rw [receives, recvs] at row
  cases row
  rw [context] at recvContext
  cases recvContext

end RevEng
