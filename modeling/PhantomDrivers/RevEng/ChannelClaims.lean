import PhantomDrivers.LibPhantom.ChannelsAvailable
import PhantomDrivers.RevEng.InitialiseDevice

/-!
# The channels `initialise_device` claims

The check whether a channel is free and its claim are separate transactions, and
other nodes may take the channel in between.  `initialise_device` does not look
at what the claims return, and does not give the channels back where it fails
later.

* `Announces.free` — what the register says about the allocation.
* `held_claimBoth` — what the host holds after the two claims.
* `ClaimsBalance` — what a call should do: hold both channels where it returns
  0, and nothing new where it does not.
* `ClaimsFit` — the registers answer exactly where the claims succeed.
* `claimsBalance_iff` — the two are the same.
-/

namespace RevEng

open Semantics Raw1394
open LibPhantom (CHANNELS_AVAILABLE_ADDR)
open LibPhantom.Library (CHANNEL_IS_FREE)

variable {b b' b₁ : ManagedBus} {config : Handle} {machine : Machine} {node : UInt16}
  {channel recv xmit p c : Nat} {channels : UInt64}

/-! ## What the host holds -/

/-- The register says which channels nobody holds. -/
theorem Announces.free (announces : Announces machine config channels b b')
    (managed : b.irm config.port = machine.irmId config.port) (small : c < 64) :
    CHANNEL_IS_FREE channels c = true ↔ b'.allocation config.port c = none := by
  obtain ⟨block, settles, rfl⟩ := announces
  have sameNode : machine.irmId config.port = b'.irm config.port := by
    rw [(ManagedBus.elapses_of_settles settles).irm, managed]
  refine LibPhantom.Library.channelIsFree_iff machine.endian b' config.port ?_ small
  intro i inside
  rw [ManagedBus.block_of_settles settles, sameNode]
  exact LibPhantom.Library.byte_available b' config.port inside

/-- The channels that are found were free. -/
theorem free_of_found (found : freeChannels channels = (some recv, some xmit)) :
    CHANNEL_IS_FREE channels recv = true ∧ CHANNEL_IS_FREE channels xmit = true ∧ recv < xmit := by
  obtain ⟨first, second⟩ := Prod.mk.inj found
  rw [first, Option.getD_some] at second
  refine ⟨List.find?_some first, List.find?_some second, ?_⟩
  obtain ⟨i, inside, rfl⟩ := List.mem_iff_getElem.mp (List.mem_of_find?_eq_some second)
  rw [List.getElem_drop, List.getElem_range]
  omega

/-- A claim adds the channel, if it succeeds. -/
theorem held_claim (config : Handle) (channel : Nat) (b : ManagedBus) (p c : Nat) :
    (Bus.channelModify config channel .alloc b).2.allocation p c = some .library ↔
      b.allocation p c = some .library ∨
        (Bus.channelModify config channel .alloc b).1 = true ∧ p = config.port ∧ c = channel := by
  cases claimed : Bus.channelModify config channel .alloc b with
  | mk taken b' =>
      cases taken with
      | false => simp [(ManagedBus.elapses_of_refused claimed).held]
      | true =>
          obtain ⟨-, -, elapses⟩ := ManagedBus.elapses_of_alloc claimed
          dsimp only
          rw [elapses.held]
          by_cases same : p = config.port ∧ c = channel
          · obtain ⟨rfl, rfl⟩ := same
            simp
          · have kept : b.allocation.assign config.port channel (some .library) p c =
                b.allocation p c := Allocation.assign_of_ne same
            simp [kept, same]

/-- Whether the first claim succeeds. -/
def TakesRecv (config : Handle) (recv : Nat) (b : ManagedBus) : Prop :=
  (Bus.channelModify config recv .alloc b).1 = true

/-- Whether the second claim succeeds. -/
def TakesXmit (config : Handle) (recv xmit : Nat) (b : ManagedBus) : Prop :=
  (Bus.channelModify config xmit .alloc (Bus.channelModify config recv .alloc b).2).1 = true

theorem held_claimBoth (config : Handle) (recv xmit : Nat) (b : ManagedBus) (p c : Nat) :
    (claimBoth config recv xmit b).allocation p c = some .library ↔
      b.allocation p c = some .library ∨
        p = config.port ∧ (TakesRecv config recv b ∧ c = recv ∨
          TakesXmit config recv xmit b ∧ c = xmit) := by
  rw [claimBoth, held_claim, held_claim]
  unfold TakesRecv TakesXmit
  tauto

/-- The accesses to the registers do not change what the host holds. -/
theorem held_configureRegisters {ok : Bool} {recv xmit : UInt8}
    (returned : configureRegisters config node recv xmit b = .returned ok b') :
    b'.allocation p c = some .library ↔ b.allocation p c = some .library := by
  have kept : Call.Keeps (fun b₁ : ManagedBus => b₁.allocation p c = some .library ↔
      b.allocation p c = some .library) (configureRegisters config node recv xmit) := by
    refine keeps_configureRegisters ?_ ?_
    · intro handle node address byte b₁ r b₂ holds settles
      obtain ⟨stored, failed⟩ := ManagedBus.elapses_of_write settles
      cases r with
      | error e => exact ((failed e rfl).held p c).trans holds
      | ok => exact ((stored rfl).held p c).trans holds
    · intro handle node address b₁ r b₂ holds settles
      exact ((ManagedBus.elapses_of_settles settles).held p c).trans holds
  exact kept b ok b' Iff.rfl returned

/-! ## What a call should do -/

/-- Where `initialise_device` returns 0 the host holds both channels of the
table; where it does not, it holds no channel that it did not hold before. -/
structure ClaimsBalance (device : Nat) (s s' : Omni ManagedBus) (ok : Bool) : Prop where
  allocated : ok = true → ∃ info config recv xmit, s'.devices[device]? = some info ∧
    info.configHandle = some config ∧ info.recvChannel = some recv ∧
    info.xmitChannel = some xmit ∧ s'.bus.allocation config.port recv = some .library ∧
    s'.bus.allocation config.port xmit = some .library
  nothingNew : ok = false → ∀ port channel, s'.bus.allocation port channel = some .library →
    s.bus.allocation port channel = some .library

/-- If two channels are found, then both claims succeed where the accesses to
the registers behind them all end as expected, and none of them where they do
not. -/
def ClaimsFit (machine : Machine) (config : Handle) (node : UInt16) (b : ManagedBus) : Prop :=
  ∀ channels recv xmit b₁, Announces machine config channels b b₁ →
    freeChannels channels = (some recv, some xmit) →
    ((∃ b₂, RegistersAnswered config node (UInt8.ofNat recv) (UInt8.ofNat xmit)
        (claimBoth config recv xmit b₁) b₂) →
      TakesRecv config recv b₁ ∧ TakesXmit config recv xmit b₁) ∧
    ((¬∃ b₂, RegistersAnswered config node (UInt8.ofNat recv) (UInt8.ofNat xmit)
        (claimBoth config recv xmit b₁) b₂) →
      ¬TakesRecv config recv b₁ ∧ ¬TakesXmit config recv xmit b₁)

variable {device prefill : Nat} {s s' : Omni ManagedBus} {ok : Bool}

/-- Whether the claims fit the answers, once the register has been read. -/
theorem claimsFit_iff (announces : Announces machine config channels b b₁)
    (both : freeChannels channels = (some recv, some xmit))
    (registers : configureRegisters config node (UInt8.ofNat recv) (UInt8.ofNat xmit)
      (claimBoth config recv xmit b₁) = .returned ok b') :
    ClaimsFit machine config node b ↔
      if ok then TakesRecv config recv b₁ ∧ TakesXmit config recv xmit b₁
      else ¬TakesRecv config recv b₁ ∧ ¬TakesXmit config recv xmit b₁ := by
  have answers : (∃ b₂, RegistersAnswered config node (UInt8.ofNat recv) (UInt8.ofNat xmit)
      (claimBoth config recv xmit b₁) b₂) ↔ ok = true := by
    constructor
    · rintro ⟨b₂, answered⟩
      rw [configureRegisters_eq_returned.mpr answered] at registers
      exact (Outcome.returned.inj registers).1.symm
    · rintro rfl
      exact ⟨b', configureRegisters_eq_returned.mp registers⟩
  constructor
  · intro fit
    have here := fit channels recv xmit b₁ announces both
    rw [answers] at here
    split
    · next yes => exact here.1 yes
    · next no => exact here.2 no
  · intro fit channels' recv' xmit' b' announces' both'
    obtain ⟨rfl, rfl⟩ := announces.unique announces'
    obtain ⟨⟨⟩, ⟨⟩⟩ := Prod.mk.inj (both.symm.trans both')
    rw [answers]
    constructor
    · intro yes
      rwa [if_pos yes] at fit
    · intro no
      rwa [if_neg no] at fit

/-- Whether the channels balance, if the host holds what it held and the channels
it takes of two new ones. -/
theorem claimsBalance_iff_takes {info : DeviceInfo} {takesRecv takesXmit : Prop}
    (row : s'.devices[device]? =
      some { info with recvChannel := some recv, xmitChannel := some xmit })
    (owns : info.configHandle = some config)
    (recvNew : s.bus.allocation config.port recv ≠ some .library)
    (xmitNew : s.bus.allocation config.port xmit ≠ some .library) (different : recv ≠ xmit)
    (held : ∀ p c, s'.bus.allocation p c = some .library ↔
      s.bus.allocation p c = some .library ∨
        p = config.port ∧ (takesRecv ∧ c = recv ∨ takesXmit ∧ c = xmit)) :
    ClaimsBalance device s s' ok ↔
      if ok then takesRecv ∧ takesXmit else ¬takesRecv ∧ ¬takesXmit := by
  have recvHeld : s'.bus.allocation config.port recv = some .library ↔ takesRecv := by
    rw [held]
    simp [recvNew, different]
  have xmitHeld : s'.bus.allocation config.port xmit = some .library ↔ takesXmit := by
    rw [held]
    simp [xmitNew, different.symm]
  cases ok with
  | true =>
      rw [if_pos rfl]
      constructor
      · intro balance
        obtain ⟨info', config', recv', xmit', row', owns', recv'Is, xmit'Is, held₁, held₂⟩ :=
          balance.allocated rfl
        obtain rfl := Option.some.inj (row.symm.trans row')
        obtain rfl := Option.some.inj (owns.symm.trans owns')
        obtain rfl := Option.some.inj recv'Is
        obtain rfl := Option.some.inj xmit'Is
        exact ⟨recvHeld.mp held₁, xmitHeld.mp held₂⟩
      · rintro ⟨takes, takes'⟩
        exact ⟨fun _ => ⟨_, config, recv, xmit, row, owns, rfl, rfl, recvHeld.mpr takes,
          xmitHeld.mpr takes'⟩, nofun⟩
  | false =>
      rw [if_neg Bool.false_ne_true]
      constructor
      · intro balance
        refine ⟨fun takes => ?_, fun takes => ?_⟩
        · exact recvNew (balance.nothingNew rfl _ _ (recvHeld.mpr takes))
        · exact xmitNew (balance.nothingNew rfl _ _ (xmitHeld.mpr takes))
      · rintro ⟨noRecv, noXmit⟩
        refine ⟨nofun, fun _ port channel heldNow => ?_⟩
        rcases (held port channel).mp heldNow with old | ⟨-, ⟨takes, -⟩ | ⟨takes, -⟩⟩
        · exact old
        · exact absurd takes noRecv
        · exact absurd takes noXmit

/-- The part of `initialise_device` behind the handles. -/
theorem configureDevice_claims {info : DeviceInfo} (there : s.devices[device]? = some info)
    (owns : info.configHandle = some config)
    (managed : s.bus.irm config.port = machine.irmId config.port)
    (returned : configureDevice machine device prefill s = .returned ok s') :
    ClaimsBalance device s s' ok ↔ ClaimsFit machine config info.node s.bus := by
  obtain ⟨info₁, config₁, there₁, owns₁, cases⟩ := configureDevice_cases returned
  obtain rfl := Option.some.inj (there.symm.trans there₁)
  obtain rfl := Option.some.inj (owns.symm.trans owns₁)
  rcases cases with ⟨rfl, ⟨r, settles⟩, missing⟩ |
    ⟨channels, recv, xmit, b₁, b₂, announces, both, registers, bus, devices⟩
  · -- Nothing is claimed, and nothing is held.
    refine ⟨fun _ => ?_, fun _ => ⟨nofun, fun _ port channel held => ?_⟩⟩
    · intro channels recv xmit b₁ announces both
      exact absurd both (missing channels b₁ announces recv xmit)
    · exact ((ManagedBus.elapses_of_settles settles).held port channel).mp held
  · subst bus
    obtain ⟨recvFree, xmitFree, different⟩ := free_of_found both
    obtain ⟨recvSmall, xmitSmall⟩ := freeChannels_lt both
    have before (p c : Nat) : b₁.allocation p c = some .library ↔
        s.bus.allocation p c = some .library := by
      obtain ⟨block, settles, -⟩ := announces
      exact (ManagedBus.elapses_of_settles settles).held p c
    have row : s'.devices[device]? =
        some { info with recvChannel := some recv, xmitChannel := some xmit } := by
      rw [devices]
      exact getElem?_modify_eq_some.mpr ⟨info, there, if_pos rfl⟩
    -- What is found was held by nobody when the register was read.
    have recvNew : s.bus.allocation config.port recv ≠ some .library := by
      rw [Ne, ← before, (announces.free managed recvSmall).mp recvFree]
      nofun
    have xmitNew : s.bus.allocation config.port xmit ≠ some .library := by
      rw [Ne, ← before, (announces.free managed xmitSmall).mp xmitFree]
      nofun
    rw [claimsFit_iff announces both registers]
    refine claimsBalance_iff_takes row owns recvNew xmitNew different.ne fun p c => ?_
    rw [held_configureRegisters registers, held_claimBoth, before]

/-- The handle through which a call configures the device: the old one, or a new
one if the descriptors of the new handles can be set up. -/
def ConfiguresThrough (machine : Machine) (fullInit : Bool) (s : Omni ManagedBus)
    (info : DeviceInfo) (config : Handle) : Prop :=
  if fullInit then
    config = ⟨s.nextHandle + 1 + 1, info.port⟩ ∧
      setFdBlocking machine (machine.fd ⟨s.nextHandle, info.port⟩) false = false ∧
      setFdBlocking machine (machine.fd ⟨s.nextHandle + 1, info.port⟩) false = false
  else info.configHandle = some config

/-- **What `initialise_device` holds.**  Whatever other nodes do between its
transactions and whatever fails, a call holds both channels where it returns 0
and nothing new where it does not, exactly if its claims succeed exactly where
the accesses to the registers behind them all end as expected. -/
theorem claimsBalance_iff {fullInit : Bool}
    (managed : ∀ port, s.bus.irm port = machine.irmId port)
    (returned : initialiseDevice machine device fullInit prefill s = .returned ok s') :
    ClaimsBalance device s s' ok ↔ ∀ info config, s.devices[device]? = some info →
      ConfiguresThrough machine fullInit s info config →
        ClaimsFit machine config info.node s.bus := by
  cases fullInit with
  | false =>
      obtain ⟨info, config, there, owns, -⟩ := configureDevice_cases returned
      rw [configureDevice_claims there owns (managed config.port) returned]
      constructor
      · intro fit info' config' there' owns'
        obtain rfl := Option.some.inj (there.symm.trans there')
        obtain rfl := Option.some.inj (owns.symm.trans owns')
        exact fit
      · intro fit
        exact fit info config there owns
  | true =>
      obtain ⟨opened, s₁, opens, rest⟩ := Call.bind_eq_returned.mp returned
      obtain ⟨info, there, rfl, isOpen⟩ := openHandles_eq_returned.mp opens
      cases opened with
      | false =>
          cases rest
          -- The descriptors cannot be set up.
          refine ⟨fun _ => ?_, fun _ => ⟨nofun, fun _ _ _ held => held⟩⟩
          rintro info' config' there' ⟨-, recvFd, xmitFd⟩
          obtain rfl := Option.some.inj (there.symm.trans there')
          rw [recvFd, xmitFd] at isOpen
          cases isOpen
      | true =>
          obtain ⟨info', row, -, node, -, -, owns⟩ := withHandles_row there info.port
          have balance := configureDevice_claims row owns (managed info.port) rest
          have sameBus : ClaimsBalance device s s' ok ↔
              ClaimsBalance device (withHandles machine device info.port s) s' ok :=
            ⟨fun holds => ⟨holds.allocated, holds.nothingNew⟩,
              fun holds => ⟨holds.allocated, holds.nothingNew⟩⟩
          rw [sameBus, balance, node]
          constructor
          · rintro fit info₁ config₁ there₁ ⟨rfl, -, -⟩
            obtain rfl := Option.some.inj (there.symm.trans there₁)
            exact fit
          · intro fit
            rw [Eq.comm, Bool.not_eq_true', Bool.or_eq_false_iff] at isOpen
            exact fit info _ there ⟨rfl, isOpen.1, isOpen.2⟩

/-- The claims and all accesses succeed, and both channels are held. -/
theorem claimsBalance_iff_once : ∃ s',
    initialiseDevice oneDevice 0 true 0 (Driver.start answering [(0, 0xffc0)]).omni =
      .returned true s' ∧
    ClaimsBalance 0 (Driver.start answering [(0, 0xffc0)]).omni s' true := by
  have fit : ClaimsFit oneDevice ⟨2, 0⟩ 0xffc0 answering := by
    obtain ⟨b', registers⟩ := Outcome.value?_eq_some.mp (show
      (configureRegisters ⟨2, 0⟩ 0xffc0 (UInt8.ofNat 0) (UInt8.ofNat 1)
        (claimBoth ⟨2, 0⟩ 0 1 answering)).value? = some true by decide +kernel)
    have announces : Announces oneDevice ⟨2, 0⟩ _ answering answering :=
      ⟨_, .ended rfl (by simp), rfl⟩
    refine (claimsFit_iff announces (by decide +kernel) registers).mpr ?_
    exact ⟨rfl, rfl⟩
  obtain ⟨s', returned⟩ := Outcome.value?_eq_some.mp (show (initialiseDevice oneDevice 0 true 0
    (Driver.start answering [(0, 0xffc0)]).omni).value? = some true by decide +kernel)
  refine ⟨s', returned, (claimsBalance_iff (fun _ => rfl) returned).mpr ?_⟩
  rintro info config ⟨⟩ ⟨rfl, -, -⟩
  exact fit

/-- Another node takes the channel 0 behind the read of the register. -/
def raced : ManagedBus :=
  { answering with turns := [⟨[], none, none⟩, ⟨[.takes 0 0], none, none⟩] }

theorem claims_without_channel :
    ¬∀ (machine : Machine) (device prefill : Nat) (fullInit ok : Bool) (s s' : Omni ManagedBus),
      (∀ port, s.bus.irm port = machine.irmId port) →
      initialiseDevice machine device fullInit prefill s = .returned ok s' →
        ClaimsBalance device s s' ok := by
  intro claim
  have call : (initialiseDevice oneDevice 0 true 0 (Driver.start raced [(0, 0xffc0)]).omni).value? =
      some true := by decide +kernel
  obtain ⟨s', returned⟩ := Outcome.value?_eq_some.mp call
  have facts : (initialiseDevice oneDevice 0 true 0
      (Driver.start raced [(0, 0xffc0)]).omni).state?.map (fun s =>
        (s.devices.map fun info => (info.configHandle, info.recvChannel), s.bus.allocation 0 0)) =
      some ([(some ⟨2, 0⟩, some 0)], some .other) := by decide +kernel
  rw [returned, Outcome.state?_returned] at facts
  obtain ⟨table, holder⟩ := Prod.mk.inj (Option.some.inj facts)
  have balance := claim oneDevice 0 0 true true _ s' (fun _ => rfl) returned
  obtain ⟨info, config, recv, xmit, row, owns, recvs, -, held, -⟩ := balance.allocated rfl
  have entry : (info.configHandle, info.recvChannel) = (some ⟨2, 0⟩, some 0) := by
    have here := congrArg (·[0]?) table
    rw [List.getElem?_map] at here
    exact Option.some.inj ((congrArg _ row).symm.trans here)
  rw [owns, recvs] at entry
  cases entry
  rw [holder] at held
  cases held

end RevEng
