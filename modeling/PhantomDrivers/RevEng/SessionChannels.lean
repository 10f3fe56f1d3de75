import PhantomDrivers.Raw1394.BusRecord
import PhantomDrivers.RevEng.SessionHandles

/-!
# The channels of a session

Every time a device is set up, the register of the free channels is read through
its handle, and if it shows two free channels, they are asked for; when the device
is closed, those of the table are given back.

* `searches` — what the searches through a handle came to, from the record of the
  bus.
* `through` — what was asked for and given back through a handle.
* `configureDevice_effect` — what setting a device up does to the channels.
* `History` — the channels of one device, from the first search on.
* `Granted` — the invariant: the history of every device.
* `setUps`, `searches_driverCall` — there is one search each time a device is set
  up.
-/

namespace RevEng

open Semantics Raw1394
open LibPhantom (CHANNELS_AVAILABLE_ADDR)

/-! ## Channels -/

/-- What a search for two free channels came to: the channels it has found, or the
error of the read. -/
abbrev Search : Type := Except Errno (Option Nat × Option Nat)

/-- The search that a read ends, if it is one of the register of the free channels
through this handle, and is not sent again. -/
def searchOf (machine : Machine) (config : Handle) (read : SentRead) : Option Search :=
  if read.handle = config ∧ read.address = CHANNELS_AVAILABLE_ADDR then
    match read.answer with
    | .ok buffer =>
        some (.ok (freeChannels (LibPhantom.Library.channelsAvailable machine.endian buffer)))
    | .error e => if e = EAGAIN then none else some (.error e)
  else none

/-- The searches through this handle. -/
def searches (machine : Machine) (config : Handle) (reads : List SentRead) : List Search :=
  reads.filterMap (searchOf machine config)

/-- What was asked for and given back through this handle. -/
def through (config : Handle) (requests : List ChannelRequest) : List (Nat × Modify) :=
  (requests.filter fun request => request.handle = config).map fun request =>
    (request.channel, request.mode)

/-- Two channels are asked for or given back, if both are there. -/
def both (mode : Modify) : Option Nat → Option Nat → List (Nat × Modify)
  | some recv, some xmit => [(recv, mode), (xmit, mode)]
  | _, _ => []

/-- What is asked for behind a search. -/
def asked : Search → List (Nat × Modify)
  | .error _ => []
  | .ok (recv, xmit) => both .alloc recv xmit

/-- The same through a handle. -/
def sentThrough (config : Handle) (changes : List (Nat × Modify)) : List ChannelRequest :=
  changes.map fun change => ⟨config, change.1, change.2⟩

/-- Two channels are asked for or given back through a handle. -/
def change (config : Handle) (mode : Modify) (recv xmit : Option Nat) : List ChannelRequest :=
  sentThrough config (both mode recv xmit)

/-- The row of a device behind a search: if the register could not be read, it
stays what it was. -/
def DeviceInfo.withSearch (search : Search) (info : DeviceInfo) : DeviceInfo :=
  match search with
  | .error _ => info
  | .ok (recv, xmit) => { info with recvChannel := recv, xmitChannel := xmit }

@[simp] theorem DeviceInfo.configHandle_withSearch (search : Search) (info : DeviceInfo) :
    (info.withSearch search).configHandle = info.configHandle := by
  cases search with
  | error e => rfl
  | ok channels => rfl

section Records

variable {machine : Machine} {config config' : Handle} {requests requests' : List ChannelRequest}
  {changes : List (Nat × Modify)}

theorem searches_append (reads reads' : List SentRead) :
    searches machine config (reads ++ reads') =
      searches machine config reads ++ searches machine config reads' :=
  List.filterMap_append

theorem through_append : through config (requests ++ requests') =
    through config requests ++ through config requests' := by
  rw [through, List.filter_append, List.map_append]
  rfl

theorem handle_of_mem_sentThrough {request : ChannelRequest}
    (member : request ∈ sentThrough config changes) : request.handle = config := by
  obtain ⟨_, -, rfl⟩ := List.mem_map.mp member
  rfl

theorem through_sentThrough_self : through config (sentThrough config changes) = changes := by
  rw [through, List.filter_eq_self.mpr fun request member => decide_eq_true
    (handle_of_mem_sentThrough member), sentThrough, List.map_map]
  exact List.map_id _

theorem through_sentThrough_of_ne (other : config' ≠ config) :
    through config (sentThrough config' changes) = [] := by
  rw [through, List.map_eq_nil_iff, List.filter_eq_nil_iff]
  intro request member same
  exact other ((handle_of_mem_sentThrough member).symm.trans (of_decide_eq_true same))

theorem searchOf_of_ne {read : SentRead} (other : read.address ≠ CHANNELS_AVAILABLE_ADDR) :
    searchOf machine config read = none :=
  if_neg fun same => other same.2

theorem searchOf_again {read : SentRead} (again : read.answer = .error EAGAIN) :
    searchOf machine config read = none := by
  rw [searchOf, again]
  split
  · rfl
  · rfl

variable {β : Type} [Bus β] {handle : Handle} {node : UInt16} {address : UInt64} {length : Nat}
  {b b' : BusRecord β}

/-- A read of another register is no search. -/
theorem searches_read_of_ne (other : address ≠ CHANNELS_AVAILABLE_ADDR) :
    searches machine config (Bus.read handle node address length b).2.reads =
      searches machine config b.reads := by
  have skipped : searches machine config [⟨handle, node, address,
      (Bus.read handle node address length b).1.map fun block => bytesOf block length⟩] = [] := by
    refine List.filterMap_eq_nil_iff.mpr fun read member => ?_
    rw [List.mem_singleton.mp member]
    exact searchOf_of_ne other
  rw [BusRecord.reads_read, searches_append, skipped, List.append_nil]

theorem searches_of_settles_of_ne {r : Except Errno (Nat → UInt8)}
    (other : address ≠ CHANNELS_AVAILABLE_ADDR)
    (settles : Settles (Bus.read handle node address length) b r b') :
    searches machine config b'.reads = searches machine config b.reads :=
  settles.keeps (P := fun b' => searches machine config b'.reads = searches machine config b.reads)
    (fun _ same => (searches_read_of_ne other).trans same) rfl

/-- A read of the register of the free channels is a search, when it has come to
its end. -/
theorem searches_of_settles {r : Except Errno (Nat → UInt8)}
    (settles : Settles (Bus.read config node CHANNELS_AVAILABLE_ADDR 8) b r b') :
    searches machine config' b'.reads = searches machine config' b.reads ++
      if config = config' then
        [r.map fun block => freeChannels (LibPhantom.Library.channelsAvailable machine.endian
          (bytesOf block 8))]
      else [] := by
  obtain ⟨repeated, again, sent⟩ := BusRecord.reads_of_settles settles
  have skipped : searches machine config' repeated = [] :=
    List.filterMap_eq_nil_iff.mpr fun read member => searchOf_again (again read member)
  rw [sent, searches_append, searches_append, skipped, List.append_nil]
  apply congrArg
  by_cases same : config = config'
  · rw [if_pos same, searches, List.filterMap_cons, searchOf, if_pos ⟨same, rfl⟩]
    cases r with
    | error e =>
        have final : e ≠ EAGAIN := fun again => settles.final (congrArg _ again)
        simp [Except.map, final]
    | ok block => rfl
  · rw [if_neg same]
    refine List.filterMap_eq_nil_iff.mpr fun read member => ?_
    rw [List.mem_singleton.mp member]
    exact if_neg fun owns => same owns.1

end Records

section Granted

variable {β : Type} [Bus β] {s s' : Omni (BusRecord β)} {machine : Machine} {ok : Bool}
  {device prefill ready ready' closed : Nat} {config : Handle} {info : DeviceInfo}
  {found : List (Nat × UInt16)}

/-- The accesses to the registers of a device ask for no channel and are no
search. -/
theorem record_of_configureRegisters (machine : Machine) {node : UInt16} {recv xmit : UInt8}
    {b b' : BusRecord β}
    (returned : configureRegisters config node recv xmit b = .returned ok b') :
    b'.requests = b.requests ∧
      ∀ config', searches machine config' b'.reads = searches machine config' b.reads := by
  have writes {address : UInt64} {byte : UInt8} (b₁ : BusRecord β) (r : Except Errno Unit)
      (b₂ : BusRecord β) (same : b₁.requests = b.requests ∧
        ∀ config', searches machine config' b₁.reads = searches machine config' b.reads)
      (settles : Settles (Bus.write config node address [byte]) b₁ r b₂) :
      b₂.requests = b.requests ∧
        ∀ config', searches machine config' b₂.reads = searches machine config' b.reads :=
    settles.keeps (P := fun b₁ => b₁.requests = b.requests ∧
      ∀ config', searches machine config' b₁.reads = searches machine config' b.reads)
      (fun _ same => same) same
  refine keeps_configureRegisters_of ?_ writes writes writes (fun _ => writes) b ok b'
    ⟨rfl, fun _ => rfl⟩ returned
  rintro address register b₁ r b₂ ⟨requests, reads⟩ settles
  refine ⟨settles.keeps (P := fun b₁ => b₁.requests = b.requests) (fun _ same => same) requests, ?_⟩
  intro config'
  rw [searches_of_settles_of_ne register settles, reads]

theorem findChannels_cases {result : Option (Nat × Nat)}
    (returned : findChannels machine device config s = .returned result s') :
    ∃ (search : Search) (b : BusRecord β),
      s' = { s with bus := b, devices := s.devices.modify device (.withSearch search) } ∧
        b.requests = s.bus.requests ∧
        (∀ config', searches machine config' b.reads = searches machine config' s.bus.reads ++
          if config = config' then [search] else []) ∧
        ((result = none ∧ asked search = []) ∨
          ∃ r x, result = some (r, x) ∧ search = .ok (some r, some x)) := by
  obtain ⟨r, b₁, settles, read⟩ := readData_eq_returned config (machine.irmId config.port)
    CHANNELS_AVAILABLE_ADDR 8 s.bus
  have silent : b₁.requests = s.bus.requests :=
    settles.keeps (P := fun b => b.requests = s.bus.requests) (fun _ same => same) rfl
  cases r with
  | error e =>
      rw [findChannels, Call.bind_apply, onBus_apply read] at returned
      cases returned
      refine ⟨.error e, b₁, ?_, silent, fun config' => searches_of_settles settles, .inl ⟨rfl, rfl⟩⟩
      exact congrArg (fun devices => { s with bus := b₁, devices })
        (List.modify_id device s.devices).symm
  | ok block =>
      rw [findChannels_of_announces ⟨block, settles, rfl⟩] at returned
      obtain ⟨answer, rfl⟩ := Outcome.returned.inj returned
      refine ⟨_, b₁, rfl, silent, fun config' => searches_of_settles settles, ?_⟩
      dsimp only [Except.map]
      generalize freeChannels _ = channels at answer ⊢
      obtain ⟨recv, xmit⟩ := channels
      cases recv with
      | none => exact .inl ⟨answer.symm, rfl⟩
      | some r =>
          cases xmit with
          | none => exact .inl ⟨answer.symm, rfl⟩
          | some x => exact .inr ⟨r, x, answer.symm, rfl⟩

/-- What `initialise_device` does to the channels of the table and of the manager:
it makes a search, and asks for what it has found. -/
theorem configureDevice_effect
    (returned : configureDevice machine device prefill s = .returned ok s') :
    ∃ info config search, s.devices[device]? = some info ∧ info.configHandle = some config ∧
      s'.devices = s.devices.modify device (.withSearch search) ∧ s'.nextHandle = s.nextHandle ∧
      s'.bus.requests = s.bus.requests ++ sentThrough config (asked search) ∧
      (∀ config', searches machine config' s'.bus.reads =
        searches machine config' s.bus.reads ++ if config = config' then [search] else []) ∧
      (ok = true → ∃ r x, search = .ok (some r, some x)) := by
  obtain ⟨info, _, looked, rest₁⟩ := Call.bind_eq_returned.mp returned
  obtain ⟨there, rfl⟩ := deviceInfo_eq_returned.mp looked
  obtain ⟨config, _, followed, rest₂⟩ := Call.bind_eq_returned.mp rest₁
  obtain ⟨owns, rfl⟩ := followHandle_eq_returned.mp followed
  obtain ⟨result, s₁, searched, rest₃⟩ := Call.bind_eq_returned.mp rest₂
  obtain ⟨search, b, rfl, silent, reads, ⟨rfl, nothing⟩ | ⟨r, x, rfl, rfl⟩⟩ :=
    findChannels_cases searched
  · cases rest₃
    refine ⟨info, config, search, there, owns, rfl, rfl, ?_, reads, nofun⟩
    rw [nothing]
    exact silent.trans (List.append_nil _).symm
  · refine ⟨info, config, .ok (some r, some x), there, owns, ?_⟩
    obtain ⟨_, _, claimed, rest₄⟩ := Call.bind_eq_returned.mp rest₃
    cases claimed
    obtain ⟨_, _, claimed, rest₅⟩ := Call.bind_eq_returned.mp rest₄
    cases claimed
    obtain ⟨configured, _, registers, rest₆⟩ := Call.bind_eq_returned.mp rest₅
    obtain ⟨b₂, answered, rfl⟩ := onBus_eq_returned.mp registers
    obtain ⟨requests₂, reads₂⟩ := record_of_configureRegisters machine answered
    have requests : b₂.requests =
        s.bus.requests ++ sentThrough config (asked (.ok (some r, some x))) := by
      rw [requests₂, ← silent]
      exact List.append_assoc _ _ _
    have reads' (config' : Handle) : searches machine config' b₂.reads =
        searches machine config' s.bus.reads ++
          if config = config' then [.ok (some r, some x)] else [] :=
      (reads₂ config').trans (reads config')
    cases configured with
    | false =>
        cases rest₆
        exact ⟨rfl, rfl, requests, reads', nofun⟩
    | true =>
        obtain ⟨_, _, started, rest₇⟩ := Call.bind_eq_returned.mp rest₆
        cases rest₇
        obtain ⟨_, _, _, _, -, -, -, rfl⟩ := startTransfers_eq_returned started
        exact ⟨rfl, rfl, requests, reads', fun _ => ⟨r, x, rfl⟩⟩

/-! ## The invariant -/

/-- What has happened to the channels of a device, by the searches for it, the
channels in its row and whether it has been closed: what a search has found was
asked for, and in the end the pair in the row was given back.  The row holds what
the last search has found that has not failed. -/
structure History (searches : List Search) (recv xmit : Option Nat) (released : Bool)
    (history : List (Nat × Modify)) : Prop where
  first : ∃ r x, searches.head? = some (.ok (some r, some x))
  balance : history =
    searches.flatMap asked ++ if released then both .free recv xmit else []
  newest : (searches.filterMap Except.toOption).getLast? = some (recv, xmit)

/-- The first search. -/
theorem history_singleton {r x : Nat} :
    History [.ok (some r, some x)] (some r) (some x) false (asked (.ok (some r, some x))) :=
  ⟨⟨r, x, rfl⟩, rfl, rfl⟩

theorem History.search {made : List Search} {history : List (Nat × Modify)}
    (before : History made info.recvChannel info.xmitChannel false history) (search : Search) :
    History (made ++ [search]) (info.withSearch search).recvChannel
      (info.withSearch search).xmitChannel false (history ++ asked search) := by
  obtain ⟨⟨r, x, first⟩, rfl, newest⟩ := before
  refine ⟨⟨r, x, ?_⟩, ?_, ?_⟩
  · rw [List.head?_append, first, Option.some_or]
  · rw [if_neg Bool.false_ne_true, if_neg Bool.false_ne_true, List.append_nil, List.append_nil,
      List.flatMap_append, List.flatMap_singleton]
  · rw [List.filterMap_append]
    cases search with
    | error e =>
        rw [show List.filterMap Except.toOption [(.error e : Search)] = [] from rfl,
          List.append_nil]
        exact newest
    | ok channels =>
        rw [show List.filterMap Except.toOption [(.ok channels : Search)] = [channels] from rfl,
          List.getLast?_concat]
        rfl

theorem History.release {made : List Search} {recv xmit : Option Nat}
    {history : List (Nat × Modify)} (before : History made recv xmit false history) :
    History made recv xmit true (history ++ both .free recv xmit) := by
  obtain ⟨first, rfl, newest⟩ := before
  exact ⟨first, congrArg (· ++ _) (List.append_nil _), newest⟩

/-- The channels behind the first `ready` devices, of which the first `closed`
have been closed. -/
structure Granted (machine : Machine) (ready closed : Nat) (s : Omni (BusRecord β)) : Prop where
  own : ∀ request ∈ s.bus.requests, ∃ d info, d < ready ∧ s.devices[d]? = some info ∧
    info.configHandle = some request.handle
  unsearched : ∀ config : Handle, s.nextHandle ≤ config.id →
    searches machine config s.bus.reads = []
  history : ∀ d info config, s.devices[d]? = some info → info.configHandle = some config →
    d < ready → History (searches machine config s.bus.reads) info.recvChannel info.xmitChannel
      (decide (d < closed)) (through config s.bus.requests)

omit [Bus β] in
theorem inert_granted (machine : Machine) (ready closed : Nat) :
    Inert (Granted machine ready closed : Omni (BusRecord β) → Prop) where
  trace _ _ granted := ⟨granted.own, granted.unsearched, granted.history⟩
  flags _ _ _ granted := ⟨granted.own, granted.unsearched, granted.history⟩
  data s device f data granted := by
    have same (info : DeviceInfo) (d : Nat) : ∃ phantomData forceData,
        (if device = d then f info else info) = { info with phantomData, forceData } := by
      split
      · exact data info
      · exact ⟨info.phantomData, info.forceData, rfl⟩
    refine ⟨?_, granted.unsearched, ?_⟩
    · intro request member
      obtain ⟨d, info, early, there, owns⟩ := granted.own request member
      refine ⟨d, _, early, getElem?_modify_eq_some.mpr ⟨info, there, rfl⟩, ?_⟩
      obtain ⟨_, _, equation⟩ := same info d
      rw [equation]
      exact owns
    · intro d info' config there owns early
      obtain ⟨info, old, rfl⟩ := getElem?_modify_eq_some.mp there
      obtain ⟨_, _, equation⟩ := same info d
      rw [equation] at owns ⊢
      exact granted.history d info config old owns early

omit [Bus β] in
/-- The handle of a device tells its place. -/
theorem Holding.configHandle_eq (holding : Holding found ready closed s) {d : Nat}
    (there : s.devices[d]? = some info) (owns : info.configHandle = some config) (early : d < ready) :
    config = configHandleOf d info.port :=
  Option.some.inj (owns.symm.trans (holding.handles d info there early).config)

omit [Bus β] in
/-- No channel has been asked for through a handle that is not that of a device. -/
theorem Granted.through_eq_nil (granted : Granted machine ready closed s)
    (foreign : ∀ d info, d < ready → s.devices[d]? = some info →
      info.configHandle ≠ some config) : through config s.bus.requests = [] := by
  rw [through, List.map_eq_nil_iff, List.filter_eq_nil_iff]
  intro request member same
  obtain ⟨d, info, early, there, owns⟩ := granted.own request member
  exact foreign d info early there (of_decide_eq_true same ▸ owns)

omit [Bus β] in
/-- A device that is ready is set up again, or the next one is set up at last. -/
theorem Granted.search (granted : Granted machine ready 0 s) (holding : Holding found ready' 0 s)
    {search : Search} (there : s.devices[device]? = some info)
    (owns : info.configHandle = some config)
    (table : s'.devices = s.devices.modify device (.withSearch search))
    (next : s'.nextHandle = s.nextHandle)
    (requests : s'.bus.requests = s.bus.requests ++ sentThrough config (asked search))
    (reads : ∀ config', searches machine config' s'.bus.reads =
      searches machine config' s.bus.reads ++ if config = config' then [search] else [])
    (which : device < ready ∧ ready' = ready ∨ device = ready ∧ ready' = ready + 1 ∧
      searches machine config s.bus.reads = [] ∧ ∃ r x, search = .ok (some r, some x)) :
    Granted machine ready' 0 s' := by
  have sized : ready ≤ ready' ∧ device < ready' := by omega
  have place : config = configHandleOf device info.port :=
    holding.configHandle_eq there owns sized.2
  refine ⟨?_, ?_, ?_⟩
  · intro request member
    rw [requests, List.mem_append] at member
    obtain ⟨d, info₁, early, old, owns₁⟩ : ∃ d info, d < ready' ∧ s.devices[d]? = some info ∧
        info.configHandle = some request.handle := by
      rcases member with old | new
      · obtain ⟨d, info₁, early, there₁, owns₁⟩ := granted.own request old
        exact ⟨d, info₁, Nat.lt_of_lt_of_le early sized.1, there₁, owns₁⟩
      · rw [handle_of_mem_sentThrough new]
        exact ⟨device, info, sized.2, there, owns⟩
    refine ⟨d, _, early, table ▸ getElem?_modify_eq_some.mpr ⟨info₁, old, rfl⟩, ?_⟩
    split
    · rw [DeviceInfo.configHandle_withSearch, owns₁]
    · exact owns₁
  · intro config' new
    have other : config ≠ config' := by
      rintro rfl
      rw [next, holding.next, place, configHandleOf] at new
      dsimp only at new
      omega
    rw [reads, if_neg other, List.append_nil]
    exact granted.unsearched config' (next ▸ new)
  · intro d info' config' there' owns' early
    rw [table] at there'
    obtain ⟨info₁, old, rfl⟩ := getElem?_modify_eq_some.mp there'
    rw [requests, reads, through_append]
    by_cases same : device = d
    · subst same
      obtain rfl := Option.some.inj (there.symm.trans old)
      rw [if_pos rfl, DeviceInfo.configHandle_withSearch] at owns'
      obtain rfl := Option.some.inj (owns.symm.trans owns')
      rw [if_pos rfl, if_pos rfl, through_sentThrough_self]
      rcases which with ⟨again, -⟩ | ⟨rfl, -, first, r, x, rfl⟩
      · exact (granted.history device info config there owns again).search search
      · have foreign (d : Nat) (info₁ : DeviceInfo) (early : d < device)
            (there₁ : s.devices[d]? = some info₁) : info₁.configHandle ≠ some config := by
          intro owns₁
          have same := holding.configHandle_eq there₁ owns₁ (Nat.lt_trans early sized.2)
          exact Nat.ne_of_gt early (device_eq_of_configHandleOf (place.symm.trans same))
        rw [first, granted.through_eq_nil foreign]
        exact history_singleton
    · rw [if_neg same] at owns'
      have other : config ≠ config' := by
        rw [place, holding.configHandle_eq old owns' early]
        exact mt device_eq_of_configHandleOf same
      rw [if_neg same, if_neg other, through_sentThrough_of_ne other, List.append_nil,
        List.append_nil]
      exact granted.history d info₁ config' old owns' (by omega)

omit [Bus β] in
/-- The channels of the table are given back. -/
theorem Granted.close (granted : Granted machine ready closed s)
    (holding : Holding found ready closed s) (inside : closed < ready)
    (there : s.devices[closed]? = some info) (owns : info.configHandle = some config)
    (table : s'.devices = s.devices) (next : s'.nextHandle = s.nextHandle)
    (requests : s'.bus.requests =
      s.bus.requests ++ change config .free info.recvChannel info.xmitChannel)
    (reads : ∀ config', searches machine config' s'.bus.reads =
      searches machine config' s.bus.reads) :
    Granted machine ready (closed + 1) s' := by
  refine ⟨?_, ?_, ?_⟩
  · intro request member
    rw [requests, List.mem_append] at member
    rw [table]
    rcases member with old | new
    · exact granted.own request old
    · rw [handle_of_mem_sentThrough new]
      exact ⟨closed, info, inside, there, owns⟩
  · intro config' new
    rw [reads]
    exact granted.unsearched config' (next ▸ new)
  · intro d info' config' there' owns' early
    rw [table] at there'
    have history := granted.history d info' config' there' owns' early
    rw [requests, reads, through_append]
    by_cases same : d = closed
    · subst same
      obtain rfl := Option.some.inj (there.symm.trans there')
      obtain rfl := Option.some.inj (owns.symm.trans owns')
      rw [decide_eq_false (Nat.lt_irrefl _)] at history
      rw [decide_eq_true (Nat.lt_succ_self _), change, through_sentThrough_self]
      exact history.release
    · have sides : decide (d < closed + 1) = decide (d < closed) := by
        apply decide_eq_decide.mpr
        omega
      have other : config ≠ config' := by
        rw [holding.configHandle_eq there owns inside, holding.configHandle_eq there' owns' early]
        exact mt device_eq_of_configHandleOf (Ne.symm same)
      rw [change, through_sentThrough_of_ne other, List.append_nil, sides]
      exact history

/-- The bus reset handler sets a device up again. -/
theorem keeps_configureDevice_granted (all : found.length ≤ ready) (prefill : Nat) :
    Call.Keeps (fun s : Omni (BusRecord β) => Holding found ready 0 s ∧ Granted machine ready 0 s)
      (configureDevice machine device prefill) := by
  rintro s ok s' ⟨holding, granted⟩ returned
  refine ⟨keeps_configureDevice_holding prefill s ok s' holding returned, ?_⟩
  obtain ⟨info, config, search, there, owns, table, next, requests, reads, -⟩ :=
    configureDevice_effect returned
  have early : device < ready := Nat.lt_of_lt_of_le (holding.lt_of_row there) all
  exact granted.search holding there owns table next requests reads (.inl ⟨early, rfl⟩)

omit [Bus β] in
/-- The handles of the next device. -/
theorem Granted.withHandles (granted : Granted machine ready 0 s) (port : Nat) :
    Granted machine ready 0 (withHandles machine ready port s) := by
  refine ⟨?_, ?_, ?_⟩
  · intro request member
    obtain ⟨d, info, early, there, owns⟩ := granted.own request member
    refine ⟨d, _, early, getElem?_modify_eq_some.mpr ⟨info, there, rfl⟩, ?_⟩
    rw [if_neg (Nat.ne_of_gt early)]
    exact owns
  · exact fun config new => granted.unsearched config (Nat.le_trans (Nat.le_add_right _ 3) new)
  · intro d info' config there owns early
    obtain ⟨info, old, rfl⟩ := getElem?_modify_eq_some.mp there
    rw [if_neg (Nat.ne_of_gt early)] at owns ⊢
    exact granted.history d info config old owns early

/-- The next device is set up. -/
theorem Granted.initialise (granted : Granted machine ready 0 s) (holding : Holding found ready 0 s)
    (returned : initialiseDevice machine ready true prefill s = .returned true s') :
    ready < found.length ∧ Holding found (ready + 1) 0 s' ∧ Granted machine (ready + 1) 0 s' := by
  obtain ⟨opened, s₁, opens, configured⟩ := Call.bind_eq_returned.mp returned
  obtain ⟨info, there, rfl, -⟩ := openHandles_eq_returned.mp opens
  cases opened with
  | false => cases configured
  | true =>
      have holding₁ : Holding found (ready + 1) 0 (RevEng.withHandles machine ready info.port s) :=
        holding.withHandles there
      refine ⟨holding.lt_of_row there,
        keeps_configureDevice_holding prefill _ true s' holding₁ configured, ?_⟩
      obtain ⟨info', config, search, there', owns, table, next, requests, reads, found⟩ :=
        configureDevice_effect configured
      have place := holding₁.configHandle_eq there' owns (Nat.lt_succ_self _)
      have fresh : searches machine config s.bus.reads = [] := by
        apply granted.unsearched
        rw [holding.next, place]
        exact Nat.le_add_right _ 2
      exact (granted.withHandles info.port).search holding₁ there' owns table next requests reads
        (.inr ⟨rfl, rfl, fresh, found rfl⟩)

/-! ## How often a device is set up -/

/-- A bus reset is reported. -/
def RecvEvent.isBusReset : RecvEvent → Bool
  | .packet _ => false
  | .busReset _ => true

/-- How often a step of `main` sets the device up: once in front of the main loop,
and again for every bus reset that is reported through its handle. -/
def setUps (device : Nat) : Stage → Choice → Nat
  | .running (.initialising d), .initialise _ => if d = device then 1 else 0
  | .running (.visiting d _), .receive events _ =>
      if d = device then events.countP RecvEvent.isBusReset else 0
  | _, _ => 0

variable {port : Nat} {node : UInt16}

/-- There is a search when the next device is set up. -/
theorem searches_initialise (place : found[ready]? = some (port, node))
    (holding : Holding found ready 0 s)
    (returned : initialiseDevice machine ready true prefill s = .returned true s') (config : Handle) :
    (searches machine config s'.bus.reads).length = (searches machine config s.bus.reads).length +
      if configHandleOf ready port = config then 1 else 0 := by
  obtain ⟨opened, s₁, opens, configured⟩ := Call.bind_eq_returned.mp returned
  obtain ⟨info, there, rfl, -⟩ := openHandles_eq_returned.mp opens
  cases opened with
  | false => cases configured
  | true =>
      have holding₁ := @Holding.withHandles _ _ _ _ _ _ machine holding there
      obtain ⟨info', config', search, there', owns, -, -, -, reads, -⟩ :=
        configureDevice_effect configured
      have same := holding₁.configHandle_eq there' owns (Nat.lt_succ_self _)
      obtain rfl : info'.port = port :=
        (Prod.mk.inj (Option.some.inj ((holding₁.place there').symm.trans place))).1
      rw [reads, List.length_append, ← same]
      split
      · rfl
      · rfl

/-- There is a search for every bus reset that libraw1394 reports. -/
theorem searches_deliver (place : found[device]? = some (port, node)) (early : device < ready)
    {events : List RecvEvent} {u : Unit} (holding : Holding found ready 0 s)
    (returned : deliver machine device ⟨3 * device, port⟩ events s = .returned u s')
    (config : Handle) :
    (searches machine config s'.bus.reads).length = (searches machine config s.bus.reads).length +
      if configHandleOf device port = config then events.countP RecvEvent.isBusReset else 0 := by
  induction events generalizing s with
  | nil =>
      cases returned
      rw [List.countP_nil, ite_self, Nat.add_zero]
  | cons event events ih =>
      have owner := holding.findRecv place early
      cases event with
      | packet data =>
          rw [deliver_packet owner] at returned
          have inert := @inert_holding (BusRecord β) found ready 0
          have kept := inert.trace _ (s.trace ++ [.received device (bytesOf data DataRead.size)])
            (inert.data s device (fun info => { info with
              phantomData := bytesOf data DataRead.size }) (fun info => ⟨_, _, rfl⟩) holding)
          rw [ih kept returned, List.countP_cons_of_neg (by simp [RecvEvent.isBusReset])]
      | busReset prefill =>
          obtain ⟨ok, s₁, configured, rest⟩ := (deliver_busReset_eq_returned owner
            (holding.armed device _ place early)).mp returned
          obtain ⟨info, config', search, there, owns, -, -, -, reads, -⟩ :=
            configureDevice_effect configured
          have same := holding.configHandle_eq there owns early
          obtain rfl : info.port = port :=
            (Prod.mk.inj (Option.some.inj ((holding.place there).symm.trans place))).1
          rw [ih (keeps_configureDevice_holding prefill s ok s₁ holding configured) rest, reads,
            List.countP_cons_of_pos (by rfl), List.length_append, ← same]
          split
          · rw [List.length_singleton]
            omega
          · rfl

end Granted

end RevEng
