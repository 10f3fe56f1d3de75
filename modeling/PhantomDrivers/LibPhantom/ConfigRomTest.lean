import PhantomDrivers.LibPhantom.PhantomFind
import PhantomDrivers.LibPhantom.RomGetters

/-!
# The test of the configuration ROMs

`tests/config_rom.cpp` walks over the bus three times.  The first walk deletes
every device behind its use and the second one keeps them, so that the third
one must not find any.  A walk prints the vendor of every device.

* `Console` — the library, and what the program has printed.
* `describe`, `walk`, `config_rom` — the program.
* `Legible` — the nodes whose vendor can be printed.
* `upholds_walkThrice` — the program only reads, and if it throws, a read has
  failed.
* `config_rom_reports` — what it prints, and when it has no defined behaviour.
-/

namespace LibPhantom

open Semantics Raw1394

/-- `"Device -> vendor: 0x%6.6x %s\n"`; without a name, `"(null)"` is printed. -/
structure VendorLine where
  vendorId : UInt32
  name : Option (List UInt8)
deriving DecidableEq, Repr

/-- What the test prints last. -/
inductive WalkReport where
  | noDevice
  | numberChanged
  | openedTwice
  | raised (exception : Exn)
  | succeeded
deriving DecidableEq

/-- The status the test returns. -/
def WalkReport.status : WalkReport → UInt8
  | .noDevice => 1
  | .numberChanged => 1
  | .openedTwice => 1
  | .raised _ => 1
  | .succeeded => 0

/-- A program with its output. -/
structure Console (β : Type) where
  library : Library β
  output : List VendorLine

namespace Console

variable {β : Type}

/-- A call of the library. -/
def inLibrary {α : Type} (call : Call Exn (Library β) α) : Call Exn (Console β) α :=
  Call.within library (fun library c => { c with library }) call

/-- A line is printed.  `%s` prints a name up to its end; a name without an end
is read behind its buffer. -/
def printVendor (id : UInt32) : Option (List UInt8) → Call Exn (Console β) Unit
  | none => modify fun c => { c with output := c.output ++ [⟨id, none⟩] }
  | some name =>
      if 0 ∈ name then
        modify fun c => { c with output := c.output ++ [⟨id, some (name.takeWhile (· ≠ 0))⟩] }
      else Call.undefined

variable [Bus β]

/-- The vendor of a device.  Which of the two getters the compiler calls first
makes no difference: both parse the ROM if it has not been parsed. -/
def describe (host : Host) (d : Ptr) : Call Exn (Console β) Unit := do
  let id ← inLibrary (Library.onDevice d (FirewireDevice.getVendorId host.endian))
  let name ← inLibrary (Library.onDevice d (FirewireDevice.getVendorName host.endian))
  printVendor id name

/-- `for (d = i->next(); d; d = i->next()) …`, with the number of devices so
far. -/
def forEach (host : Host) (body : Ptr → Call Exn (Console β) Unit) (i : Ptr) :
    Nat → Nat → Call Exn (Console β) Nat
  | 0, _ => Call.undefined
  | rounds + 1, count => do
      match ← inLibrary (Library.next host i) with
      | none => return count
      | some d =>
          body d
          forEach host body i rounds (count + 1)

/-- A walk with a new iterator. -/
def walk (host : Host) (body : Ptr → Call Exn (Console β) Unit) : Call Exn (Console β) Nat := do
  let i ← inLibrary (Library.createInstance host)
  let it ← inLibrary (Library.iterator i)
  forEach host body i ((it.remaining host).length + 1) 0

/-- The body of the first loop. -/
def describeAndDelete (host : Host) (d : Ptr) : Call Exn (Console β) Unit := do
  describe host d
  inLibrary (Library.deleteDevice d)

/-- The body of the `try` block. -/
def walkThrice (host : Host) : Call Exn (Console β) WalkReport := do
  let test1NumDevices ← walk host (describeAndDelete host)
  if test1NumDevices = 0 then return .noDevice
  else
    let test2NumDevices ← walk host (describe host)
    if test1NumDevices ≠ test2NumDevices then return .numberChanged
    else
      let i ← inLibrary (Library.createInstance host)
      match ← inLibrary (Library.next host i) with
      | some _ => return .openedTwice
      | none =>
          inLibrary (Library.deleteIterator i)
          return .succeeded

/-- `main` of `config_rom.cpp` -/
def config_rom (host : Host) : Call Exn (Console β) WalkReport := do
  try
    walkThrice host
  catch e =>
    pure (.raised e)

end Console

/-! ## What it should print -/

/-- The ROM of the node at a place. -/
def romAt (host : Host) (memory : Memory) (place : Nat × Nat) : Option ConfigRom :=
  RomImage.parseOn (memory.block place.1 (nodeId place.2) CONFIG_ROM_ADDR) host.endian

/-- The line for the node at a place. -/
def lineAt (host : Host) (memory : Memory) (place : Nat × Nat) : VendorLine where
  vendorId := ((romAt host memory place).map ConfigRom.vendorId).getD 0
  name := ((romAt host memory place).bind ConfigRom.vendor).map fun name =>
    name.takeWhile (· ≠ 0)

/-- The vendor of the node at a place can be printed: a textual leaf is not too
short, and its text has an end. -/
structure Legible (host : Host) (memory : Memory) (place : Nat × Nat) : Prop where
  fits : LeafFitsAt host memory place
  ends : ∀ name, (romAt host memory place).bind ConfigRom.vendor = some name → 0 ∈ name

/-- The vendors of all nodes can be printed. -/
def LegibleBus (host : Host) (memory : Memory) : Prop :=
  ∀ place ∈ wholeBus host, Legible host memory place

/-- What the two walks print that find devices. -/
def expectedOutput (host : Host) (memory : Memory) : List VendorLine :=
  (wholeBus host ++ wholeBus host).map (lineAt host memory)

/-! ## One device -/

namespace FirewireDevice

variable {β : Type} [Bus β] [ServesMemory β]

/-- How `getVendorId` ends on a new object, whatever faults there are. -/
theorem getVendorId_cases (host : Endian) (com : CommunicationLibraw1394) (b : β) :
    (∃ e t, getVendorId host (⟨b, .new com⟩ : DeviceState β) = .thrown e t) ∨
      ((romImage (ServesMemory.contents b) com).LeafFitsOn host ∧ ∃ t,
        getVendorId host (⟨b, .new com⟩ : DeviceState β) = .returned
            ((((romImage (ServesMemory.contents b) com).parseOn host).map
              ConfigRom.vendorId).getD 0) t ∧
          ServesMemory.contents t.bus = ServesMemory.contents b ∧
          t.device.configRomRead = true ∧
          t.device.exposed = (romImage (ServesMemory.contents b) com).parseOn host) ∨
      (¬(romImage (ServesMemory.contents b) com).LeafFitsOn host ∧
        getVendorId host (⟨b, .new com⟩ : DeviceState β) = .undefined) := by
  rcases simulatesOrThrows_getVendorId host (⟨b, .new com⟩ : DeviceState β) with thrown | same
  · exact .inl thrown
  refine .inr ?_
  have calm : calmed (⟨b, .new com⟩ : DeviceState β) =
      onMemory (ServesMemory.contents b) (.new com) := rfl
  rw [calm, getVendorId, Call.bind_apply] at same
  by_cases fits : (romImage (ServesMemory.contents b) com).LeafFitsOn host
  · have answered : getConfigRom host (onMemory (ServesMemory.contents b) (.new com)) =
        .returned ((romImage (ServesMemory.contents b) com).parseOn host)
          (onMemory (ServesMemory.contents b)
            { (new com).afterReading ((romImage (ServesMemory.contents b) com).parseOn host) with
              configRomRead := true }) :=
      getConfigRom_on rfl rfl fits
    rw [answered, Outcome.andThen_returned] at same
    refine .inl ⟨fits, ?_⟩
    generalize (romImage (ServesMemory.contents b) com).parseOn host = parsed at same ⊢
    cases parsed with
    | none =>
        obtain ⟨t, returned, contents, device⟩ := returned_of_calmed same
        refine ⟨t, returned, contents, ?_, ?_⟩
        · rw [device]
        · rw [device]
          rfl
    | some rom =>
        obtain ⟨t, returned, contents, device⟩ := returned_of_calmed same
        refine ⟨t, returned, contents, ?_, ?_⟩
        · rw [device]
        · rw [device]
          rfl
  · refine .inr ⟨fits, ?_⟩
    have undefined : getConfigRom host (onMemory (ServesMemory.contents b) (.new com)) =
        .undefined := by
      rw [getConfigRom, Call.bind_apply, Call.get_apply, Outcome.andThen_returned]
      have stuck : readConfigRom host (onMemory (ServesMemory.contents b) (.new com)) =
          .undefined := readConfigRom_undefined fits
      show (Call.run (readConfigRom host >>= _) _) = _
      rw [Call.bind_apply, stuck]
      rfl
    rw [undefined, Outcome.andThen_undefined] at same
    cases outcome : getVendorId host (⟨b, .new com⟩ : DeviceState β) with
    | returned a t =>
        rw [outcome] at same
        cases same
    | thrown e t =>
        rw [outcome] at same
        cases same
    | undefined => rfl

omit [ServesMemory β] in
/-- The ROM is not read again. -/
theorem getVendorName_of_read {host : Endian} {s : DeviceState β}
    (read : s.device.configRomRead = true) :
    getVendorName host s = .returned (s.device.exposed.bind ConfigRom.vendor) s := by
  have rom : getConfigRom host s = .returned s.device.exposed s := by
    simp [getConfigRom, Call.bind_apply, read, exposed]
  rw [getVendorName, Call.bind_apply, rom, Outcome.andThen_returned]
  cases s.device.exposed with
  | none => rfl
  | some crom => rfl

end FirewireDevice

/-! ## What is open -/

/-- In a program that has just started and opened devices for these places, no
others. -/
structure Occupied {β : Type} [Bus β] [ServesMemory β] (host : Host) (bus : β)
    (taken : List (Nat × Nat)) (entries : List Ptr) (s : Library β) : Prop where
  lists : s.openDevices.Lists entries
  exactly : ∀ p, p ∈ entries ↔ ∃ d, s.devices p = some d
  places : ∀ q : Nat × Nat, q.2 < 64 → (Library.OpenAt s q.1 (nodeId q.2) ↔ q ∈ taken)
  known : Library.PortsKnown host s
  contents : ServesMemory.contents s.bus = ServesMemory.contents bus

section Occupied

variable {β : Type} [Bus β] [ServesMemory β] {host : Host} {bus : β} {taken : List (Nat × Nat)}
  {entries : List Ptr} {s s' : Library β} {p : Ptr} {place : Nat × Nat}

theorem occupied_initial (host : Host) (bus : β) :
    Occupied host bus [] [] (Library.initial bus) where
  lists := OpenDevices.lists_initial
  exactly _ := ⟨fun member => absurd member List.not_mem_nil,
    fun ⟨d, live⟩ => absurd live (Option.some_ne_none d).symm⟩
  places _ _ := ⟨fun ⟨_, d, live, _⟩ => absurd live (Option.some_ne_none d).symm,
    fun member => absurd member List.not_mem_nil⟩
  known n known := absurd known (Option.some_ne_none n).symm
  contents := rfl

namespace Occupied

theorem tabled (occupied : Occupied host bus taken entries s) : Library.Tabled host entries s s :=
  ⟨occupied.lists, fun _ => rfl, Nat.le_refl _, occupied.known⟩

/-- What `deviceIsOpen` answers. -/
theorem isOpen? (occupied : Occupied host bus taken entries s) {q : Nat × Nat}
    (small : q.2 < 64) : ∃ found, s.isOpen? q = some found ∧ (found = true ↔ q ∈ taken) := by
  obtain ⟨found, answered, spec⟩ := isOpen?_of_exactly occupied.lists occupied.exactly q
  exact ⟨found, answered, spec.trans (occupied.places q small)⟩

theorem answered (occupied : Occupied host bus taken entries s) (q : Nat × Nat) :
    s.isOpen? q ≠ none := by
  obtain ⟨found, answered, -⟩ := isOpen?_of_exactly occupied.lists occupied.exactly q
  rw [answered]
  exact Option.some_ne_none found

/-- Iterators, handles and known ports do not matter. -/
theorem of_tabled (occupied : Occupied host bus taken entries s)
    (tabled : Library.Tabled host entries s s')
    (contents : ServesMemory.contents s'.bus = ServesMemory.contents bus) :
    Occupied host bus taken entries s' where
  lists := tabled.lists
  exactly p := by rw [tabled.devices p, occupied.exactly p]
  places q small := by
    rw [← occupied.places q small]
    simp only [Library.OpenAt, tabled.devices]
  known := tabled.ports
  contents := contents

/-- A device more. -/
theorem of_opened (occupied : Occupied host bus taken entries s)
    (opened : Library.Opened host entries s p place s') (small : place.2 < 64)
    (contents : ServesMemory.contents s'.bus = ServesMemory.contents bus) :
    Occupied host bus (taken ++ [place]) (entries ++ [p]) s' := by
  obtain ⟨d, live, port, node⟩ := opened.device
  refine ⟨opened.lists, fun q => ?_, fun q smallQ => ?_, opened.ports, contents⟩
  · rw [List.mem_append, List.mem_singleton]
    rcases eq_or_ne q p with rfl | different
    · exact iff_of_true (.inr rfl) ⟨d, live⟩
    · rw [opened.others q different, ← occupied.exactly q, or_iff_left different]
  · rw [List.mem_append, List.mem_singleton, ← occupied.places q smallQ]
    constructor
    · rintro ⟨r, d', live', port', node'⟩
      rcases eq_or_ne r p with rfl | different
      · obtain rfl := Option.some.inj (live'.symm.trans live)
        exact .inr (Prod.ext (port'.symm.trans port)
          (nodeId_inj smallQ small (node'.symm.trans node)))
      · exact .inl ⟨r, d', (opened.others r different).symm.trans live', port', node'⟩
    · rintro (⟨r, d', live', same⟩ | rfl)
      · have different : r ≠ p := by
          rintro rfl
          exact Nat.not_lt_of_le opened.fresh (Heap.lt_next live')
        exact ⟨r, d', (opened.others r different).trans live', same⟩
      · exact ⟨p, d, live, port, node⟩

/-- A new iterator has the whole bus before it. -/
theorem createInstance (occupied : Occupied host bus taken entries s) :
    ∃ i it s', Library.createInstance host s = .returned i s' ∧
      Occupied host bus taken entries s' ∧ s'.iterators i = some it ∧
      it.remaining host = wholeBus host ∧ it.port ≠ INT_MAX := by
  obtain ⟨t, ⟨port, node, nodes, handle⟩, created, ⟨⟨n, log, ports, rfl⟩, known⟩, rfl, rfl, rfl⟩ :=
    Library.createInstance_spec occupied.known
  refine ⟨_, _, _, created, ?_, Heap.alloc_next .., rfl,
    (by decide : 0 ≠ INT_MAX)⟩
  exact ⟨occupied.lists, occupied.exactly, occupied.places, known, occupied.contents⟩

/-- Where everything is open, a new iterator finds nothing. -/
theorem next_of_all (populated : Library.Populated host)
    (occupied : Occupied host bus (wholeBus host) entries s) {i : Ptr}
    {it : DeviceIteratorLibraw1394} (live : s.iterators i = some it)
    (whole : it.remaining host = wholeBus host) (inside : it.port ≠ INT_MAX) :
    ∃ it' s', Library.next host i s = .returned none s' ∧ s'.iterators i = some it' := by
  have opens := Library.next_opens occupied.lists occupied.answered populated.few
    ⟨occupied.tabled, live, inside, rfl⟩
  generalize Library.next host i s = outcome at opens ⊢
  cases opens with
  | @ended it' s' all tabled live' => exact ⟨it', s', rfl, live'⟩
  | @offered p skipped place it' s' split all free inside' offered =>
      have member : place ∈ wholeBus host := by
        rw [← whole, split]
        exact List.mem_append_right _ List.mem_cons_self
      have onBus := (mem_wholeBus populated).mp member
      obtain ⟨found, answered, spec⟩ := occupied.isOpen?
        (Nat.lt_of_lt_of_le onBus.2 (Nat.le_succ_of_le (populated.bounded place.1)))
      rw [free, Option.some.injEq] at answered
      exact absurd (answered.trans (spec.mpr member)) Bool.false_ne_true

end Occupied

end Occupied

/-! ## The walks -/

namespace Console

variable {β : Type} [Bus β] [ServesMemory β] {host : Host} {bus : β} {c : Console β}
  {entries : List Ptr} {s₀ : Library β} {i p : Ptr} {it : DeviceIteratorLibraw1394}
  {place : Nat × Nat} {visited : List (Nat × Nat)}

/-- How the vendor of a device is printed that `next` has just opened. -/
inductive Describes (host : Host) (memory : Memory) (entries : List Ptr) (s₀ : Library β) (i : Ptr)
    (it : DeviceIteratorLibraw1394) (p : Ptr) (place : Nat × Nat) (c : Console β) :
    Outcome Exn (Console β) Unit → Prop
  | thrown {e : Exn} {c' : Console β} (output : c'.output = c.output) :
      Describes host memory entries s₀ i it p place c (.thrown e c')
  | illegible (unreadable : ¬Legible host memory place) :
      Describes host memory entries s₀ i it p place c .undefined
  | printed {c' : Console β} (legible : Legible host memory place)
      (output : c'.output = c.output ++ [lineAt host memory place])
      (opened : Library.Opened host entries s₀ p place c'.library)
      (live : c'.library.iterators i = some it)
      (contents : ServesMemory.contents c'.library.bus = memory) :
      Describes host memory entries s₀ i it p place c (.returned () c')

theorem describe_spec (offered : Library.Offered host entries s₀ i it p place c.library) :
    Describes host (ServesMemory.contents s₀.bus) entries s₀ i it p place c
      (describe host p c) := by
  obtain ⟨opened, ⟨d, com, liveDevice, new, port, node⟩, live, contents⟩ := offered
  have image : romImage (ServesMemory.contents c.library.bus) com =
      (ServesMemory.contents s₀.bus).block place.1 (nodeId place.2) CONFIG_ROM_ADDR := by
    rw [romImage, contents, port, node]
  rw [describe, Call.bind_apply, inLibrary, Call.within_apply, Library.onDevice_eq liveDevice, new]
  rcases FirewireDevice.getVendorId_cases host.endian com c.library.bus with
    ⟨e, t, thrown⟩ | ⟨fits, t, returned, contents₁, read, exposed⟩ | ⟨unfit, undefined⟩
  · rw [thrown]
    exact .thrown rfl
  · rw [image] at fits returned exposed
    have liveDevice₁ : (c.library.afterMethod p d t).devices p =
        some { d with toFirewireDevice := t.device } := by
      show (c.library.devices.modify p _) p = _
      rw [Heap.modify_self, liveDevice]
      rfl
    have name : FirewireDevice.getVendorName host.endian
        (⟨(c.library.afterMethod p d t).bus, t.device⟩ : DeviceState β) =
          .returned (t.device.exposed.bind ConfigRom.vendor) ⟨t.bus, t.device⟩ :=
      FirewireDevice.getVendorName_of_read read
    have opened₁ := opened.method liveDevice t
    have opened₂ := opened₁.method liveDevice₁ ⟨t.bus, t.device⟩
    rw [returned, Outcome.mapState_returned, Outcome.mapState_returned, Outcome.andThen_returned,
      Call.bind_apply, inLibrary, Call.within_apply, Library.onDevice_eq liveDevice₁, name,
      Outcome.mapState_returned, Outcome.mapState_returned, Outcome.andThen_returned, exposed]
    -- what is printed is the line of the place
    cases vendor : (romAt host (ServesMemory.contents s₀.bus) place).bind ConfigRom.vendor with
    | none =>
        have legible : Legible host (ServesMemory.contents s₀.bus) place :=
          ⟨fits, fun name some => absurd (some.symm.trans vendor) (Option.some_ne_none name)⟩
        rw [show RomImage.parseOn _ _ = romAt host (ServesMemory.contents s₀.bus) place from rfl,
          vendor]
        refine .printed legible ?_ opened₂ live (contents₁.trans contents)
        rw [lineAt, vendor]
        rfl
    | some name =>
        rw [show RomImage.parseOn _ _ = romAt host (ServesMemory.contents s₀.bus) place from rfl,
          vendor, printVendor]
        rw [Call.ite_apply]
        split
        · next ends =>
            have legible : Legible host (ServesMemory.contents s₀.bus) place := by
              refine ⟨fits, fun name' some => ?_⟩
              obtain rfl := Option.some.inj (vendor.symm.trans some)
              exact ends
            refine .printed legible ?_ opened₂ live (contents₁.trans contents)
            rw [lineAt, vendor]
            rfl
        · next endless =>
            exact .illegible fun legible => endless (legible.ends name vendor)
  · rw [undefined]
    refine .illegible fun legible => unfit ?_
    rw [image]
    exact legible.fits

/-- How the body of a loop ends, if it leaves the devices for `after` open. -/
inductive Uses (host : Host) (bus : β) (after : List (Nat × Nat)) (i : Ptr)
    (it : DeviceIteratorLibraw1394) (place : Nat × Nat) (c : Console β) :
    Outcome Exn (Console β) Unit → Prop
  | thrown {e : Exn} {c' : Console β} (output : c'.output = c.output) :
      Uses host bus after i it place c (.thrown e c')
  | illegible (unreadable : ¬Legible host (ServesMemory.contents bus) place) :
      Uses host bus after i it place c .undefined
  | used {entries : List Ptr} {c' : Console β}
      (legible : Legible host (ServesMemory.contents bus) place)
      (output : c'.output = c.output ++ [lineAt host (ServesMemory.contents bus) place])
      (occupied : Occupied host bus after entries c'.library)
      (live : c'.library.iterators i = some it) :
      Uses host bus after i it place c (.returned () c')

/-- The body does so for every device.  Behind the places that have been visited
it has left devices open for those in `held`. -/
def UsesEach (host : Host) (bus : β) (held : List (Nat × Nat) → List (Nat × Nat))
    (body : Ptr → Call Exn (Console β) Unit) : Prop :=
  ∀ i visited entries s₀ it p place c, Occupied host bus (held visited) entries s₀ →
    place.2 < 64 → Library.Offered host entries s₀ i it p place c.library →
      Uses host bus (held (visited ++ [place])) i it place c (body p c)

/-- The second loop keeps the device. -/
theorem describe_uses (host : Host) (bus : β) : UsesEach host bus id (describe host) := by
  intro i visited entries s₀ it p place c occupied small offered
  have describes := describe_spec offered
  rw [occupied.contents] at describes
  generalize describe host p c = outcome at describes ⊢
  cases describes with
  | thrown output => exact .thrown output
  | illegible unreadable => exact .illegible unreadable
  | printed legible output opened live contents =>
      exact .used legible output (occupied.of_opened opened small contents) live

/-- The first one does not. -/
theorem describeAndDelete_uses (host : Host) (bus : β) :
    UsesEach host bus (fun _ => []) (describeAndDelete host) := by
  intro i visited entries s₀ it p place c occupied small offered
  have describes := describe_spec offered
  rw [occupied.contents] at describes
  rw [describeAndDelete, Call.bind_apply]
  generalize describe host p c = outcome at describes ⊢
  cases describes with
  | thrown output => exact .thrown output
  | illegible unreadable => exact .illegible unreadable
  | @printed c' legible output opened live contents =>
      obtain ⟨d, table, deleted, tabled⟩ := opened.deleteDevice
      rw [Outcome.andThen_returned, inLibrary, Call.within_apply, deleted]
      exact .used legible output (occupied.of_tabled tabled contents) live

/-- How a loop over the places before the iterator ends. -/
inductive Walks (host : Host) (bus : β) (after places : List (Nat × Nat)) (count : Nat)
    (printed : List VendorLine) : Outcome Exn (Console β) Nat → Prop
  | thrown {e : Exn} {c' : Console β} {front : List (Nat × Nat)} (early : front <+: places)
      (output : c'.output = printed ++ front.map (lineAt host (ServesMemory.contents bus))) :
      Walks host bus after places count printed (.thrown e c')
  | illegible {place : Nat × Nat} (member : place ∈ places)
      (unreadable : ¬Legible host (ServesMemory.contents bus) place) :
      Walks host bus after places count printed .undefined
  | returned {entries : List Ptr} {c' : Console β}
      (legible : ∀ place ∈ places, Legible host (ServesMemory.contents bus) place)
      (output : c'.output = printed ++ places.map (lineAt host (ServesMemory.contents bus)))
      (occupied : Occupied host bus after entries c'.library) :
      Walks host bus after places count printed (.returned (count + places.length) c')

section Loop

variable (populated : Library.Populated host) {body : Ptr → Call Exn (Console β) Unit}
  {held : List (Nat × Nat) → List (Nat × Nat)} (visits : ∀ visited, held visited ⊆ visited)
  (uses : UsesEach host bus held body)
include populated visits uses

/-- A loop that has come behind the first places of the bus. -/
theorem forEach_spec (split : wholeBus host = visited ++ it.remaining host)
    (occupied : Occupied host bus (held visited) entries c.library)
    (live : c.library.iterators i = some it) (inside : it.port ≠ INT_MAX)
    {rounds : Nat} (enough : (it.remaining host).length < rounds) (count : Nat) :
    Walks host bus (held (wholeBus host)) (it.remaining host) count c.output
      (forEach host body i rounds count c) := by
  induction rounds generalizing visited entries it c count with
  | zero => exact absurd enough (Nat.not_lt_zero _)
  | succ rounds ih =>
      have sorted : (wholeBus host).Pairwise DeviceIteratorLibraw1394.Before :=
        DeviceIteratorLibraw1394.remaining_sorted host _
      have small (q : Nat × Nat) (member : q ∈ it.remaining host) : q.2 < 64 := by
        have onBus := (mem_wholeBus populated).mp (split ▸ List.mem_append_right visited member)
        exact Nat.lt_of_lt_of_le onBus.2 (Nat.le_succ_of_le (populated.bounded q.1))
      -- nothing that is still to come is open
      have free (q : Nat × Nat) (member : q ∈ it.remaining host) :
          c.library.isOpen? q ≠ some true := by
        intro isOpen
        obtain ⟨found, answered, spec⟩ := occupied.isOpen? (small q member)
        rw [isOpen] at answered
        have passed := visits visited (spec.mp (Option.some.inj answered).symm)
        rw [split] at sorted
        exact Cursor.not_before_self q ((List.pairwise_append.mp sorted).2.2 q passed q member)
      have opens := Library.next_opens occupied.lists occupied.answered populated.few
        ⟨occupied.tabled, live, inside, rfl⟩
      have contents : (Library.next host i c.library).Leaves
          (fun _ s => ServesMemory.contents s.bus = ServesMemory.contents bus) fun _ _ => True :=
        (Library.stable_aboutBus fun b => ServesMemory.contents b = ServesMemory.contents bus).next
          _ occupied.contents
      rw [forEach, Call.bind_apply, inLibrary, Call.within_apply]
      generalize Library.next host i c.library = outcome at opens contents ⊢
      cases opens with
      | @ended it' s' taken tabled live' =>
          have done : it.remaining host = [] :=
            List.eq_nil_iff_forall_not_mem.mpr fun q member => free q member (taken q member)
          rw [done, List.append_nil] at split
          rw [done, split]
          exact .returned (fun q member => absurd member List.not_mem_nil)
            (List.append_nil _).symm (occupied.of_tabled tabled contents)
      | @offered p skipped place it' s' split' taken free' inside' offered =>
          have first : skipped = [] := by
            refine List.eq_nil_iff_forall_not_mem.mpr fun q member => free q ?_ (taken q member)
            rw [split']
            exact List.mem_append_left _ member
          rw [first, List.nil_append] at split'
          have used := uses i visited entries c.library it' p place { c with library := s' }
            occupied (small place (split' ▸ List.mem_cons_self)) offered
          rw [Outcome.mapState_returned, Outcome.andThen_returned, Call.bind_apply, split']
          generalize body p { c with library := s' } = outcome at used ⊢
          cases used with
          | thrown output =>
              exact .thrown List.nil_prefix (output.trans (List.append_nil _).symm)
          | illegible unreadable => exact .illegible List.mem_cons_self unreadable
          | @used entries' c' legible output occupied' live' =>
              have further : wholeBus host = visited ++ [place] ++ it'.remaining host := by
                rw [split, split', List.append_assoc, List.singleton_append]
              rw [split'] at enough
              have later := ih further occupied' live' inside' (Nat.lt_of_succ_lt_succ enough)
                (count + 1)
              rw [Outcome.andThen_returned]
              generalize forEach host body i rounds (count + 1) c' = outcome at later ⊢
              have printed (front : List (Nat × Nat)) :
                  c'.output ++ front.map (lineAt host (ServesMemory.contents bus)) =
                    c.output ++ (place :: front).map (lineAt host (ServesMemory.contents bus)) := by
                rw [output, List.map_cons, List.append_assoc, List.singleton_append]
              cases later with
              | @thrown e c'' front early output' =>
                  exact .thrown (List.cons_prefix_cons.mpr ⟨rfl, early⟩)
                    (output'.trans (printed front))
              | illegible member unreadable =>
                  exact .illegible (List.mem_cons_of_mem _ member) unreadable
              | @returned entries'' c'' legible' output' occupied'' =>
                  have total : count + 1 + (it'.remaining host).length =
                      count + (place :: it'.remaining host).length := by
                    rw [List.length_cons]
                    omega
                  rw [total]
                  exact .returned (List.forall_mem_cons.mpr ⟨legible, legible'⟩)
                    (output'.trans (printed _)) occupied''

/-- A walk with a new iterator goes over the whole bus. -/
theorem walk_spec (occupied : Occupied host bus (held []) entries c.library) :
    Walks host bus (held (wholeBus host)) (wholeBus host) 0 c.output (walk host body c) := by
  obtain ⟨i, it, s', created, occupied', live, whole, inside⟩ := occupied.createInstance
  rw [walk, Call.bind_apply, inLibrary, Call.within_apply, created, Outcome.mapState_returned,
    Outcome.andThen_returned, Call.bind_apply, inLibrary, Call.within_apply,
    Library.iterator_of_live live, Outcome.mapState_returned, Outcome.andThen_returned, ← whole]
  have split : wholeBus host = [] ++ it.remaining host := whole.symm
  have loop := forEach_spec populated visits uses (c := { c with library := s' }) split occupied'
    live inside (Nat.lt_succ_self _) 0
  rw [← whole] at loop
  exact loop

end Loop

/-- How the body of the `try` block ends. -/
inductive Tests (host : Host) (bus : β) : Outcome Exn (Console β) WalkReport → Prop
  | thrown {e : Exn} {c' : Console β}
      (early : c'.output <+: expectedOutput host (ServesMemory.contents bus)) :
      Tests host bus (.thrown e c')
  | illegible (unreadable : ¬LegibleBus host (ServesMemory.contents bus)) :
      Tests host bus .undefined
  | returned {c' : Console β} (legible : LegibleBus host (ServesMemory.contents bus))
      (output : c'.output = expectedOutput host (ServesMemory.contents bus)) :
      Tests host bus (.returned (if wholeBus host = [] then .noDevice else .succeeded) c')

theorem walkThrice_spec (populated : Library.Populated host) (bus : β) :
    Tests host bus (walkThrice host ⟨Library.initial bus, []⟩) := by
  have first := walk_spec (c := ⟨Library.initial bus, []⟩) populated
    (fun _ => List.nil_subset _) (describeAndDelete_uses host bus) (occupied_initial host bus)
  rw [walkThrice, Call.bind_apply]
  generalize walk host (describeAndDelete host) (⟨Library.initial bus, []⟩ : Console β) =
    outcome at first ⊢
  cases first with
  | @thrown e c₁ front early output =>
      refine .thrown ?_
      rw [output, List.nil_append]
      exact (early.trans (List.prefix_append _ _)).map _
  | illegible member unreadable => exact .illegible fun legible => unreadable (legible _ member)
  | @returned entries₁ c₁ legible output₁ occupied₁ =>
      rw [List.nil_append] at output₁
      rw [Outcome.andThen_returned, Call.ite_apply, Nat.zero_add]
      by_cases empty : wholeBus host = []
      · have ends : Tests host bus (.returned _ c₁) := .returned legible (by
          rw [output₁, expectedOutput, empty]
          rfl)
        rw [if_pos empty] at ends
        rw [if_pos (by rw [empty]; rfl)]
        exact ends
      rw [if_neg (fun zero => empty (List.length_eq_zero_iff.mp zero)), Call.bind_apply]
      have second := walk_spec populated (fun visited => List.Subset.refl visited)
        (describe_uses host bus) occupied₁
      rw [output₁] at second
      generalize walk host (describe host) c₁ = outcome at second ⊢
      cases second with
      | @thrown e c₂ front early output =>
          refine .thrown ?_
          rw [output, ← List.map_append]
          exact ((List.prefix_append_right_inj _).mpr early).map _
      | illegible member unreadable => exact .illegible fun legible => unreadable (legible _ member)
      | @returned entries₂ c₂ _ output₂ occupied₂ =>
          rw [Outcome.andThen_returned, Call.ite_apply, Nat.zero_add, if_neg (· rfl)]
          obtain ⟨i, it, s₃, created, occupied₃, live, whole, inside⟩ := occupied₂.createInstance
          obtain ⟨it', s₄, nothing, live'⟩ := occupied₃.next_of_all populated live whole inside
          rw [Call.bind_apply, inLibrary, Call.within_apply, created, Outcome.mapState_returned,
            Outcome.andThen_returned, Call.bind_apply, inLibrary, Call.within_apply, nothing,
            Outcome.mapState_returned, Outcome.andThen_returned, Call.bind_apply, inLibrary,
            Call.within_apply, Library.deleteIterator, Call.bind_apply,
            Library.iterator_of_live live']
          have ends : Tests host bus (.returned _
              { c₂ with library := { s₄ with iterators := s₄.iterators.free i } }) :=
            .returned legible (by rw [output₂, expectedOutput, List.map_append])
          rw [if_neg empty] at ends
          exact ends

/-! ## What an exception means -/

section Reads

omit [ServesMemory β]

variable {P : β → Prop} {E : Exn → β → Prop} {host : Host}

omit [Bus β] in
theorem upholds_inLibrary {α : Type} {call : Call Exn (Library β) α}
    (kept : call.Upholds (Library.AboutBus P) fun e s => E e s.bus) :
    (inLibrary call).Upholds (fun c => P c.library.bus) fun e c => E e c.library.bus :=
  Call.upholds_within_of kept (fun _ holds => holds) (fun _ _ _ holds => holds)
    fun _ _ _ _ failed => failed

omit [Bus β] in
theorem upholds_printVendor (id : UInt32) (name : Option (List UInt8)) :
    (printVendor id name).Upholds (fun c : Console β => P c.library.bus)
      fun e c => E e c.library.bus := by
  cases name with
  | none => exact Call.upholds_modify fun _ holds => holds
  | some name => exact Call.upholds_ite (Call.upholds_modify fun _ holds => holds) Call.upholds_undefined

omit [Bus β] in
theorem upholds_forEach {body : Ptr → Call Exn (Console β) Unit}
    (kept : ∀ d, (body d).Upholds (fun c => P c.library.bus) fun e c => E e c.library.bus)
    (i : Ptr) (rounds count : Nat) :
    (forEach host body i rounds count).Upholds (fun c => P c.library.bus)
      fun e c => E e c.library.bus := by
  induction rounds generalizing count with
  | zero => exact Call.upholds_undefined
  | succ rounds ih =>
      refine Call.upholds_bind (upholds_inLibrary (Library.stable_aboutBus P).next) fun device => ?_
      cases device with
      | none => exact Call.upholds_pure _
      | some d => exact Call.upholds_bind (kept d) fun _ => ih (count + 1)

omit [Bus β] in
theorem upholds_walk {body : Ptr → Call Exn (Console β) Unit}
    (kept : ∀ d, (body d).Upholds (fun c => P c.library.bus) fun e c => E e c.library.bus) :
    (walk host body).Upholds (fun c => P c.library.bus) fun e c => E e c.library.bus := by
  refine Call.upholds_bind (upholds_inLibrary (Library.stable_aboutBus P).createInstance) fun i => ?_
  refine Call.upholds_bind (upholds_inLibrary Library.Stable.iterator) fun it => ?_
  exact upholds_forEach kept i _ 0

variable (reads : Reading P E)
include reads

theorem upholds_describe (d : Ptr) :
    (describe host d).Upholds (fun c => P c.library.bus) fun e c => E e c.library.bus := by
  refine Call.upholds_bind (upholds_inLibrary ?_) fun id => ?_
  · exact Library.aboutBus_onDevice (FirewireDevice.upholds_getVendorId reads)
  refine Call.upholds_bind (upholds_inLibrary ?_) fun name => upholds_printVendor id name
  exact Library.aboutBus_onDevice (FirewireDevice.upholds_getVendorName reads)

/-- The test only reads, and throws only if a read fails. -/
theorem upholds_walkThrice :
    (walkThrice host).Upholds (fun c => P c.library.bus) fun e c => E e c.library.bus := by
  have deletes (d : Ptr) : (describeAndDelete host d).Upholds (fun c => P c.library.bus)
      fun e c => E e c.library.bus :=
    Call.upholds_bind (upholds_describe reads d) fun _ =>
      upholds_inLibrary (Library.stable_aboutBus P).deleteDevice
  refine Call.upholds_bind (upholds_walk deletes) fun first => ?_
  refine Call.upholds_ite (Call.upholds_pure _) ?_
  refine Call.upholds_bind (upholds_walk (upholds_describe reads)) fun second => ?_
  refine Call.upholds_ite (Call.upholds_pure _) ?_
  refine Call.upholds_bind (upholds_inLibrary (Library.stable_aboutBus P).createInstance) fun i => ?_
  refine Call.upholds_bind (upholds_inLibrary (Library.stable_aboutBus P).next) fun third => ?_
  cases third with
  | some d => exact Call.upholds_pure _
  | none =>
      refine Call.upholds_bind (upholds_inLibrary (Library.stable_aboutBus P).deleteIterator) ?_
      exact fun _ => Call.upholds_pure _

end Reads

end Console

/-- **What the test prints.**  On any bus whose nodes hold memories, with any
faults, one of three things happens.  A read fails, and the test reports just this
failure; until then all reads have been answered, and it has printed a beginning of
what it should print.  Or all reads are answered, and it succeeds, after it has
printed the vendors of all nodes twice in the order of an iterator; if there are no
nodes it says so.  Or it has no defined behaviour, because a textual leaf is too
short or its text has no end.  It never finds another number of devices in the
second walk, and it never opens a device twice. -/
theorem config_rom_reports {β : Type} [Bus β] [ServesMemory β] (host : Host)
    (populated : Library.Populated host) (bus : β) :
    (∃ e c', Console.config_rom host ⟨Library.initial bus, []⟩ = .returned (.raised e) c' ∧
        FailsRead bus e c'.library.bus ∧
        c'.output <+: expectedOutput host (ServesMemory.contents bus)) ∨
      (LegibleBus host (ServesMemory.contents bus) ∧ ∃ c',
        Console.config_rom host ⟨Library.initial bus, []⟩ =
            .returned (if wholeBus host = [] then .noDevice else .succeeded) c' ∧
          Answered bus c'.library.bus ∧
          c'.output = expectedOutput host (ServesMemory.contents bus)) ∨
      (¬LegibleBus host (ServesMemory.contents bus) ∧
        Console.config_rom host ⟨Library.initial bus, []⟩ = .undefined) := by
  have tests := Console.walkThrice_spec populated bus
  have left : (Console.walkThrice host ⟨Library.initial bus, []⟩).Leaves _ _ :=
    Console.upholds_walkThrice (reading_answered bus) ⟨Library.initial bus, []⟩ .refl
  rw [Console.config_rom, Call.tryCatch_apply]
  generalize Console.walkThrice host (⟨Library.initial bus, []⟩ : Console β) = outcome
    at tests left ⊢
  cases tests with
  | thrown early => exact .inl ⟨_, _, rfl, left, early⟩
  | illegible unreadable => exact .inr (.inr ⟨unreadable, rfl⟩)
  | returned legible output => exact .inr (.inl ⟨legible, _, rfl, left, output⟩)

/-- The bus with a Phantom on the second node. -/
theorem config_rom_reports_secondPhantom : ∃ c', Console.config_rom twoNodes
    (⟨Library.initial ⟨secondPhantom, []⟩, []⟩ : Console MemoryBus) = .returned .succeeded c' ∧
      Answered (⟨secondPhantom, []⟩ : MemoryBus) c'.library.bus ∧
      c'.output.map VendorLine.vendorId = [0, 0x000b99, 0, 0x000b99] := by
  have succeeds : (Console.config_rom twoNodes
      (⟨Library.initial ⟨secondPhantom, []⟩, []⟩ : Console MemoryBus)).value? =
        some .succeeded := by
    decide +kernel
  have vendors : (expectedOutput twoNodes secondPhantom).map VendorLine.vendorId =
      [0, 0x000b99, 0, 0x000b99] := by
    decide +kernel
  rcases config_rom_reports twoNodes populated_twoNodes (⟨secondPhantom, []⟩ : MemoryBus) with
    ⟨e, c', raised, -⟩ | ⟨-, c', reported, answered, output⟩ | ⟨-, undefined⟩
  · rw [raised] at succeeds
    cases succeeds
  · exact ⟨c', reported, answered, (congrArg (List.map VendorLine.vendorId) output).trans vendors⟩
  · rw [undefined] at succeeds
    cases succeeds

end LibPhantom
