import PhantomDrivers.RevEng.Session

/-!
# The handles of a session

The reference driver opens three handles for each device, in the order of its
table, and nothing else opens any.  So a handle tells by its number whose it is.

* `configHandleOf` — the third handle of a device, for transactions.
* `Opened` — the handles of a device.
* `Holding` — the invariant: whose the handles and the contexts are.
-/

namespace RevEng

open Semantics Raw1394
open LibPhantom (IsoContext)

/-! ## Handles and contexts -/

section Holding

variable {β : Type} {s s' : Omni β} {found : List (Nat × UInt16)} {opened closed device : Nat}
  {info : DeviceInfo} {machine : Machine}

/-- The `config_handle` of a device, by its place in the table: the third handle
that is opened for it. -/
def configHandleOf (device port : Nat) : Handle := ⟨3 * device + 2, port⟩

theorem device_eq_of_configHandleOf {device device' port port' : Nat}
    (same : configHandleOf device port = configHandleOf device' port') : device = device' := by
  have number : 3 * device + 2 = 3 * device' + 2 := congrArg Handle.id same
  omega

/-- The handles of a device, by its place in the table. -/
structure Opened (device : Nat) (info : DeviceInfo) : Prop where
  recv : info.recvHandle = some ⟨3 * device, info.port⟩
  xmit : info.xmitHandle = some ⟨3 * device + 1, info.port⟩
  config : info.configHandle = some (configHandleOf device info.port)

/-- The devices of the table are those that were found.  The first `opened` of
them have their handles, and only those that have not been closed have
contexts. -/
structure Holding (found : List (Nat × UInt16)) (opened closed : Nat) (s : Omni β) : Prop where
  places : s.devices.map (fun info => (info.port, info.node)) = found
  next : s.nextHandle = 3 * opened
  handles : ∀ d info, s.devices[d]? = some info → d < opened → Opened d info
  unopened : ∀ d info, s.devices[d]? = some info → opened ≤ d →
    info.recvHandle = none ∧ info.xmitHandle = none
  /-- the bus reset handler is set for the handle that receives -/
  armed : ∀ d place, found[d]? = some place → d < opened →
    s.resetHandlers ⟨3 * d, place.1⟩ = true
  contexts : ∀ handle context, s.contexts handle = some context →
    ∃ d info, closed ≤ d ∧ s.devices[d]? = some info ∧
      (info.recvHandle = some handle ∨ info.xmitHandle = some handle)

/-- The number of devices is that of the nodes found. -/
theorem Holding.length (holding : Holding found opened closed s) :
    s.devices.length = found.length := by
  rw [← holding.places, List.length_map]

theorem Holding.lt_of_row (holding : Holding found opened closed s)
    (there : s.devices[device]? = some info) : device < found.length := by
  rw [← holding.length]
  exact (List.getElem?_eq_some_iff.mp there).1

theorem Holding.place (holding : Holding found opened closed s)
    (there : s.devices[device]? = some info) : found[device]? = some (info.port, info.node) := by
  rw [← holding.places, List.getElem?_map, there, Option.map_some]

/-- A change of a row that leaves its node and its handles as they are. -/
theorem Holding.modify (holding : Holding found opened closed s) (f : DeviceInfo → DeviceInfo)
    (same : ∀ info, (f info).port = info.port ∧ (f info).node = info.node ∧
      (f info).recvHandle = info.recvHandle ∧ (f info).xmitHandle = info.xmitHandle ∧
      (f info).configHandle = info.configHandle) :
    Holding found opened closed { s with devices := s.devices.modify device f } where
  places := by
    rw [← holding.places]
    apply map_modify_of_same
    intro info
    obtain ⟨port, node, -⟩ := same info
    rw [port, node]
  next := holding.next
  handles d info' there early := by
    obtain ⟨info, old, rfl⟩ := getElem?_modify_eq_some.mp there
    obtain ⟨recv, xmit, config⟩ := holding.handles d info old early
    obtain ⟨port, -, recv', xmit', config'⟩ := same info
    split
    · exact ⟨by rw [recv', port, recv], by rw [xmit', port, xmit], by rw [config', port, config]⟩
    · exact ⟨recv, xmit, config⟩
  unopened d info' there late := by
    obtain ⟨info, old, rfl⟩ := getElem?_modify_eq_some.mp there
    obtain ⟨recv, xmit⟩ := holding.unopened d info old late
    obtain ⟨-, -, recv', xmit', -⟩ := same info
    split
    · exact ⟨recv'.trans recv, xmit'.trans xmit⟩
    · exact ⟨recv, xmit⟩
  armed := holding.armed
  contexts handle context live := by
    obtain ⟨d, info, late, there, owns⟩ := holding.contexts handle context live
    refine ⟨d, _, late, getElem?_modify_eq_some.mpr ⟨info, there, rfl⟩, ?_⟩
    obtain ⟨-, -, recv', xmit', -⟩ := same info
    split
    · rw [recv', xmit']
      exact owns
    · exact owns

theorem inert_holding (found : List (Nat × UInt16)) (opened closed : Nat) :
    Inert (Holding found opened closed : Omni β → Prop) where
  trace _ _ holding := { holding with }
  flags _ _ _ holding := { holding with }
  data s device f data holding := by
    refine holding.modify f ?_
    intro info
    obtain ⟨phantomData, forceData, same⟩ := data info
    rw [same]
    exact ⟨rfl, rfl, rfl, rfl, rfl⟩

theorem initContext_eq_some {contexts : Handle → Option IsoContext} {handle handle' : Handle}
    {receiving : Bool} {channel : Nat} {context : IsoContext}
    (live : initContext contexts handle receiving channel handle' = some context) :
    handle' = handle ∨ contexts handle' = some context := by
  by_cases same : handle' = handle
  · exact .inl same
  · rw [initContext, Function.update_of_ne same] at live
    exact .inr live

/-- A device that is started gets contexts for its own handles. -/
theorem keeps_startTransfers_holding (recv xmit prefill : Nat) :
    Call.Keeps (Holding found opened 0 : Omni β → Prop)
      (startTransfers device recv xmit prefill) := by
  intro s u s' holding returned
  obtain ⟨info, recvHandle, xmitHandle, trace, there, receives, transmits, rfl⟩ :=
    startTransfers_eq_returned returned
  refine ⟨holding.places, holding.next, holding.handles, holding.unopened, holding.armed, ?_⟩
  intro handle context live
  rcases initContext_eq_some live with rfl | live
  · exact ⟨device, info, Nat.zero_le _, there, .inr transmits⟩
  rcases initContext_eq_some live with rfl | live
  · exact ⟨device, info, Nat.zero_le _, there, .inl receives⟩
  · exact holding.contexts handle context live

/-- The channels of the table do not matter. -/
theorem Holding.withChannels (holding : Holding found opened closed s) (device : Nat)
    (channels : Option Nat × Option Nat) (b : β) :
    Holding found opened closed (withChannels device channels b s) := by
  have modified := @Holding.modify β s found opened closed device holding
    (fun info => { info with recvChannel := channels.1, xmitChannel := channels.2 })
    (fun _ => ⟨rfl, rfl, rfl, rfl, rfl⟩)
  exact { modified with }

theorem keeps_configureDevice_holding [Bus β] (prefill : Nat) :
    Call.Keeps (Holding found opened 0 : Omni β → Prop)
      (configureDevice machine device prefill) := by
  refine keeps_configureDevice ?_ ?_ fun recv xmit => keeps_startTransfers_holding recv xmit prefill
  · exact fun s b holding => { holding with }
  · exact fun s channels b holding => holding.withChannels device channels b

/-- The handles of the next device. -/
theorem Holding.withHandles (holding : Holding found opened closed s)
    (there : s.devices[opened]? = some info) :
    Holding found (opened + 1) closed (withHandles machine opened info.port s) where
  places := by
    rw [← holding.places]
    exact map_modify_of_same (fun _ => by rfl) s.devices opened
  next := by
    show s.nextHandle + 1 + 1 + 1 = _
    rw [holding.next]
    rfl
  handles d info' now early := by
    obtain ⟨info₁, old, rfl⟩ := getElem?_modify_eq_some.mp now
    split
    · next same =>
        subst same
        obtain rfl := Option.some.inj (there.symm.trans old)
        rw [holding.next]
        exact ⟨rfl, rfl, rfl⟩
    · next different =>
        exact holding.handles d info₁ old (Nat.lt_of_le_of_ne (Nat.le_of_lt_succ early)
          (Ne.symm different))
  unopened d info' now late := by
    obtain ⟨info₁, old, rfl⟩ := getElem?_modify_eq_some.mp now
    rw [if_neg (Nat.ne_of_lt late)]
    exact holding.unopened d info₁ old (Nat.le_of_succ_le late)
  armed d place here early := by
    show Function.update s.resetHandlers ⟨s.nextHandle, info.port⟩ true ⟨3 * d, place.1⟩ = true
    rw [holding.next]
    rcases Nat.lt_succ_iff_lt_or_eq.mp early with before | rfl
    · have other : (⟨3 * d, place.1⟩ : Handle) ≠ ⟨3 * opened, info.port⟩ := by
        intro same
        have same := congrArg Handle.id same
        dsimp only at same
        omega
      rw [Function.update_of_ne other]
      exact holding.armed d place here before
    · obtain rfl := Option.some.inj ((holding.place there).symm.trans here)
      exact Function.update_self ..
  contexts handle context live := by
    obtain ⟨d, info₁, late, old, owns⟩ := holding.contexts handle context live
    refine ⟨d, _, late, getElem?_modify_eq_some.mpr ⟨info₁, old, rfl⟩, ?_⟩
    split
    · next same =>
        -- the device had no handles
        subst same
        obtain ⟨recv, xmit⟩ := holding.unopened _ info₁ old (Nat.le_refl _)
        rw [recv, xmit] at owns
        rcases owns with ⟨⟨⟩⟩ | ⟨⟨⟩⟩
    · exact owns

theorem holding_start (bus : β) (found : List (Nat × UInt16)) :
    Holding found 0 0 (Driver.start bus found).omni := by
  refine ⟨?_, rfl, nofun, ?_, nofun, nofun⟩
  · show List.map _ (List.map _ _) = _
    rw [List.map_map]
    exact List.map_id _
  · intro d info there _
    exact ⟨recvHandle_start d info there, xmitHandle_start d info there⟩

/-- Each device has a handle of its own. -/
theorem own_of_number {devices : List DeviceInfo} {member : DeviceInfo → Option Handle} {offset : Nat}
    (number : ∀ (d : Nat) info h, devices[d]? = some info → member info = some h →
      h.id = 3 * d + offset) : Own devices member := by
  intro d d' info info' h there there' owns owns'
  have first := number d info h there owns
  have second := number d' info' h there' owns'
  omega

theorem Holding.recvOwn (holding : Holding found opened closed s) :
    Own s.devices DeviceInfo.recvHandle := by
  apply @own_of_number _ _ 0
  intro d info h there owns
  rcases Nat.lt_or_ge d opened with early | late
  · rw [(holding.handles d info there early).recv] at owns
    exact congrArg Handle.id (Option.some.inj owns).symm
  · rw [(holding.unopened d info there late).1] at owns
    cases owns

theorem Holding.xmitOwn (holding : Holding found opened closed s) :
    Own s.devices DeviceInfo.xmitHandle := by
  apply @own_of_number _ _ 1
  intro d info h there owns
  rcases Nat.lt_or_ge d opened with early | late
  · rw [(holding.handles d info there early).xmit] at owns
    exact congrArg Handle.id (Option.some.inj owns).symm
  · rw [(holding.unopened d info there late).2] at owns
    cases owns

/-- The row of a device that was found. -/
theorem Holding.exists_row (holding : Holding found opened closed s) {port : Nat} {node : UInt16}
    (place : found[device]? = some (port, node)) :
    ∃ info, s.devices[device]? = some info ∧ info.port = port ∧ info.node = node := by
  rw [← holding.places, List.getElem?_map, Option.map_eq_some_iff] at place
  obtain ⟨info, there, same⟩ := place
  exact ⟨info, there, Prod.mk.inj same⟩

/-- The handlers find the device. -/
theorem Holding.findRecv (holding : Holding found opened closed s) {port : Nat} {node : UInt16}
    (place : found[device]? = some (port, node)) (early : device < opened) :
    findRecv s.devices ⟨3 * device, port⟩ = some device := by
  obtain ⟨info, there, rfl, rfl⟩ := holding.exists_row place
  exact findRecv_of_own holding.recvOwn there (holding.handles device info there early).recv

/-- How many devices are ready. -/
def readyAt (found : List (Nat × UInt16)) : Point → Nat
  | .initialising device => device
  | _ => found.length

theorem readyAt_of_running {point : Point} (running : ∀ device, point ≠ .initialising device) :
    readyAt found point = found.length := by
  cases point with
  | initialising device => exact absurd rfl (running device)
  | _ => rfl

/-- The contexts of a device are shut down. -/
theorem Holding.close (holding : Holding found opened closed s)
    (there : s.devices[closed]? = some info) (own : Opened closed info) (bus : β) :
    Holding found opened (closed + 1)
      { s with
        bus
        contexts := Function.update (Function.update s.contexts ⟨3 * closed + 1, info.port⟩ none)
          ⟨3 * closed, info.port⟩ none } := by
  refine ⟨holding.places, holding.next, holding.handles, holding.unopened, holding.armed, ?_⟩
  intro handle context live
  dsimp only at live
  have notRecv : handle ≠ ⟨3 * closed, info.port⟩ := by
    rintro rfl
    rw [Function.update_self] at live
    cases live
  rw [Function.update_of_ne notRecv] at live
  have notXmit : handle ≠ ⟨3 * closed + 1, info.port⟩ := by
    rintro rfl
    rw [Function.update_self] at live
    cases live
  rw [Function.update_of_ne notXmit] at live
  obtain ⟨d, info', late, there', owns⟩ := holding.contexts handle context live
  refine ⟨d, info', Nat.lt_of_le_of_ne late ?_, there', owns⟩
  rintro rfl
  obtain rfl := Option.some.inj (there.symm.trans there')
  rw [own.recv, own.xmit] at owns
  rcases owns with same | same
  · exact notRecv (Option.some.inj same).symm
  · exact notXmit (Option.some.inj same).symm

end Holding

end RevEng
