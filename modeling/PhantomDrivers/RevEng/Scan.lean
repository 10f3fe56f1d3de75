import PhantomDrivers.LibPhantom.IteratorWalk
import PhantomDrivers.LibPhantom.SensableDevices
import PhantomDrivers.RevEng.Omni
import PhantomDrivers.RevEng.ProbeNode

/-!
# The scan of the reference driver

Before `main` of `rev-eng/omni.c` sets up its devices, it looks for them: it
probes every node of every port and enters each Phantom into a static table,
which has room for three devices.  No check keeps a fourth one out.

* `scan` and the functions it calls — the source.
* `IsPhantom`, `phantoms` — the nodes that are looked for, in their order.
* `Collected`, `Scans` — the table after some of them were found; what a part of
  the scan does to it.
* `scan_meets_iff` — the table lists the right nodes exactly if it has room for
  them.
-/

namespace RevEng

open Semantics Raw1394
open LibPhantom (CONFIG_ROM_ADDR nodeId seenAt OnBus)
open LibPhantom.DeviceIteratorLibraw1394 (Before)

/-- The length of `devices`. -/
def MAX_DEVICES : Nat := 3

/-- Static memory. -/
def DeviceInfo.zero : DeviceInfo where
  port := 0
  node := 0
  configHandle := none
  recvHandle := none
  xmitHandle := none
  fdRecv := 0
  fdXmit := 0
  recvChannel := some 0
  xmitChannel := some 0
  phantomData := .zero
  forceData := ⟨0, 0, 0, 0, 0, 0⟩

/-- What the scan works on: the bus, the local variable `crom`, and the table
with its counter.  The record of the indices that were written is kept for the
theorems only. -/
structure Scan (β : Type) extends Probe β where
  nextHandle : Nat
  devices : List DeviceInfo
  foundDevices : UInt32
  written : List Nat

/-- The start of `main`; `crom` is not initialised. -/
def Scan.start {β : Type} (bus : β) (crom : ConfigRomT) : Scan β where
  bus
  crom
  nextHandle := 0
  devices := List.replicate MAX_DEVICES .zero
  foundDevices := 0
  written := []

section

variable {β : Type}

/-- `devices[found_devices]` is filled in, and counted.  A write behind the
array has no defined behaviour. -/
def storeDevice (port : Nat) (node : UInt16) : Call Empty (Scan β) Unit where
  run s :=
    let index := s.foundDevices.toNat
    if index < MAX_DEVICES then
      .returned ()
        { s with
          devices := s.devices.modify index fun info =>
            { info with port, node, forceData := .fillDefaultData }
          foundDevices := s.foundDevices + 1
          written := s.written ++ [index] }
    else .undefined

/-- `raw1394_new_handle_on_port`, and `raw1394_destroy_handle` behind the loop:
the number of the next handle is all that is left of it. -/
def openPort (port : Nat) : Call Empty (Scan β) Handle where
  run s := .returned ⟨s.nextHandle, port⟩ { s with nextHandle := s.nextHandle + 1 }

variable [Bus β] (host : Host)

/-- The body of the loop over the nodes of a port. -/
def scanNode (port : Nat) (scanHandle : Handle) (i : Nat) : Call Empty (Scan β) Unit := do
  let node := nodeId i
  let status ← Call.within Scan.toProbe (fun probe s => { s with toProbe := probe })
    (probeNode host.endian scanHandle node.toUInt32)
  if status = 0 ∧ (← get).crom.vendorId = 0x000b99 then
    if ← Call.within (fun s => s.bus) (fun b s => { s with bus := b })
        (getExpectedQuadlet host.endian scanHandle node 0x1006000c 0x00990b00) then
      storeDevice port node

/-- `for(i = …; i < nodes; i++)`, with the given number of nodes left. -/
def scanNodes (port : Nat) (scanHandle : Handle) : Nat → Nat → Call Empty (Scan β) Unit
  | 0, _ => return ()
  | nodes + 1, i => do
      scanNode host port scanHandle i
      scanNodes port scanHandle nodes (i + 1)

/-- `for(port = …; port < ports; port++)`, with the given number of ports
left. -/
def scanPorts : Nat → Nat → Call Empty (Scan β) Unit
  | 0, _ => return ()
  | ports + 1, port => do
      let scanHandle ← openPort port
      scanNodes host port scanHandle (host.nodeCount port) 0
      scanPorts ports (port + 1)

/-- `main`, up to the end of the loop over the ports. -/
def scan : Call Empty (Scan β) Unit := do
  -- `h0`, which is there to ask for the number of ports
  modify fun s => { s with nextHandle := s.nextHandle + 1 }
  scanPorts host host.ports 0

end

/-! ## What is looked for -/

/-- The ROM of the node at a place gives the vendor, and so does its memory. -/
structure IsPhantom (host : Host) (memory : Memory) (place : Nat × Nat) : Prop where
  vendor : ∃ rom,
    LibPhantom.RomImage.parse (memory.block place.1 (nodeId place.2) CONFIG_ROM_ADDR) =
      some rom ∧ rom.vendorId = 0x000b99
  word : seenAt host.endian memory place.1 (nodeId place.2) 0x1006000c = 0x00990b00

theorem isPhantom_iff {host : Host} {memory : Memory} {place : Nat × Nat} :
    IsPhantom host memory place ↔
      ((LibPhantom.RomImage.parse (memory.block place.1 (nodeId place.2) CONFIG_ROM_ADDR)).any
          fun rom => rom.vendorId == 0x000b99) = true ∧
        seenAt host.endian memory place.1 (nodeId place.2) 0x1006000c = 0x00990b00 := by
  simp only [Option.any_eq_true, beq_iff_eq]
  exact ⟨fun ⟨vendor, word⟩ => ⟨vendor, word⟩, fun ⟨vendor, word⟩ => ⟨vendor, word⟩⟩

instance (host : Host) (memory : Memory) (place : Nat × Nat) :
    Decidable (IsPhantom host memory place) := decidable_of_iff _ isPhantom_iff.symm

/-- The nodes of a port. -/
def nodesOf (host : Host) (port : Nat) : List (Nat × Nat) :=
  (List.range (host.nodeCount port)).map fun i => (port, i)

/-- All nodes, in the order of the scan. -/
def places (host : Host) : List (Nat × Nat) := (List.range host.ports).flatMap (nodesOf host)

/-- The Phantoms, in the order of the scan. -/
def phantoms (host : Host) (memory : Memory) : List (Nat × Nat) :=
  (places host).filter fun place => IsPhantom host memory place

section Places

variable {host : Host} {memory : Memory} {place : Nat × Nat}

theorem mem_nodesOf {port : Nat} :
    place ∈ nodesOf host port ↔ place.1 = port ∧ place.2 < host.nodeCount port := by
  rw [nodesOf, List.mem_map]
  constructor
  · rintro ⟨i, inside, rfl⟩
    exact ⟨rfl, List.mem_range.mp inside⟩
  · rintro ⟨rfl, inside⟩
    exact ⟨place.2, List.mem_range.mpr inside, rfl⟩

theorem mem_places : place ∈ places host ↔ OnBus host place := by
  rw [places, List.mem_flatMap]
  constructor
  · rintro ⟨port, inside, member⟩
    obtain ⟨rfl, below⟩ := mem_nodesOf.mp member
    exact ⟨List.mem_range.mp inside, below⟩
  · rintro ⟨inside, below⟩
    exact ⟨place.1, List.mem_range.mpr inside, mem_nodesOf.mpr ⟨rfl, below⟩⟩

theorem places_sorted (host : Host) : (places host).Pairwise Before := by
  rw [places, List.pairwise_flatMap]
  constructor
  · intro port _
    rw [nodesOf, List.range_eq_range']
    exact LibPhantom.DeviceIteratorLibraw1394.sorted_of_port port _ _
  · refine List.pairwise_lt_range.imp ?_
    intro port port' less a inside b inside'
    rw [(mem_nodesOf.mp inside).1.symm, (mem_nodesOf.mp inside').1.symm] at less
    exact .inl less

theorem mem_phantoms :
    place ∈ phantoms host memory ↔ OnBus host place ∧ IsPhantom host memory place := by
  rw [phantoms, List.mem_filter, mem_places, decide_eq_true_iff]

theorem phantoms_sorted (host : Host) (memory : Memory) : (phantoms host memory).Pairwise Before :=
  (places_sorted host).filter _

end Places

/-! ## The table -/

/-- The first entry behind a prefix. -/
theorem modify_length_append {α : Type} (front : List α) (a : α) (rest : List α) (f : α → α) :
    (front ++ a :: rest).modify front.length f = front ++ f a :: rest := by
  induction front with
  | nil => rfl
  | cons b front ih => exact congrArg (b :: ·) ih

/-- The entry of a node that was found. -/
def deviceAt (place : Nat × Nat) : DeviceInfo := foundDevice place.1 (nodeId place.2)

/-- These nodes have been found. -/
structure Collected (memory : Memory) (found : List (Nat × Nat)) (s : Scan MemoryBus) : Prop where
  bus : s.bus = ⟨memory, []⟩
  room : found.length ≤ MAX_DEVICES
  count : s.foundDevices.toNat = found.length
  table : s.devices = found.map deviceAt ++ List.replicate (MAX_DEVICES - found.length) .zero
  written : s.written = List.range found.length

/-- A part of the scan ends with these nodes found, or with a write behind the
table because they are too many. -/
inductive Scans (memory : Memory) (found : List (Nat × Nat)) :
    Outcome Empty (Scan MemoryBus) Unit → Prop
  | returned {s : Scan MemoryBus} (collected : Collected memory found s) :
      Scans memory found (.returned () s)
  | outside (many : MAX_DEVICES < found.length) : Scans memory found .undefined

section Table

variable {host : Host} {memory : Memory} {found more : List (Nat × Nat)} {place : Nat × Nat}
  {s : Scan MemoryBus} {handle : Handle} {outcome : Outcome Empty (Scan MemoryBus) Unit}
  {next : Unit → Call Empty (Scan MemoryBus) Unit}

/-- Two parts after each other. -/
theorem Scans.andThen (first : Scans memory found outcome)
    (later : ∀ s, Collected memory found s → Scans memory (found ++ more) (next () s)) :
    Scans memory (found ++ more) (outcome.andThen next) := by
  cases first with
  | returned collected => exact later _ collected
  | outside many =>
      refine .outside ?_
      rw [List.length_append]
      omega

/-- The table is filled from its start on. -/
theorem storeDevice_scans (collected : Collected memory found s) (place : Nat × Nat) :
    Scans memory (found ++ [place]) (storeDevice place.1 (nodeId place.2) s) := by
  obtain ⟨bus, room, count, table, written⟩ := collected
  show Scans memory _ (if s.foundDevices.toNat < MAX_DEVICES then _ else _)
  rw [count]
  by_cases inside : found.length < MAX_DEVICES
  · rw [if_pos inside]
    refine .returned ⟨bus, ?_, ?_, ?_, ?_⟩
    · rw [List.length_append]
      exact inside
    · have small : found.length < 3 := inside
      show (s.foundDevices + 1).toNat = _
      rw [UInt32.toNat_add, count, List.length_append, List.length_singleton]
      show (found.length + 1) % _ = _
      omega
    · have left : MAX_DEVICES - found.length = MAX_DEVICES - (found ++ [place]).length + 1 := by
        rw [List.length_append, List.length_singleton]
        omega
      have filled (f : DeviceInfo → DeviceInfo) (rest : List DeviceInfo) :
          (found.map deviceAt ++ .zero :: rest).modify found.length f =
            found.map deviceAt ++ f .zero :: rest := by
        have := modify_length_append (found.map deviceAt) .zero rest f
        rwa [List.length_map] at this
      show s.devices.modify found.length _ = _
      rw [table, left, List.replicate_succ, filled, List.map_append, List.append_assoc]
      rfl
    · rw [written, List.length_append]
      exact List.range_succ.symm
  · rw [if_neg inside]
    refine .outside ?_
    rw [List.length_append, List.length_singleton]
    omega

theorem getExpectedQuadlet_eq (memory : Memory) (handle : Handle) (endian : Endian) (node : UInt16) (address : UInt64)
    (expected : UInt32) :
    getExpectedQuadlet endian handle node address expected (⟨memory, []⟩ : MemoryBus) =
      .returned (seenAt endian memory handle.port node address == expected) ⟨memory, []⟩ := rfl

/-- `(1023 << 6) | node` twice is the same as once. -/
theorem phyId_nodeId (i : Nat) : phyId (nodeId i).toUInt32 = nodeId i := by
  rw [phyId, UInt32.toUInt16_or, UInt16.toUInt16_toUInt32, nodeId, UInt16.or_comm,
    UInt16.or_assoc]
  rfl

/-- The first test: `probe_node` gives the vendor if the ROM does. -/
theorem probeNode_vendor (host : Host) (memory : Memory) (handle : Handle) (place : Nat × Nat)
    (crom : ConfigRomT) : ∃ status rom magic,
    probeNode host.endian handle (nodeId place.2).toUInt32 (⟨⟨memory, []⟩, crom⟩ : Probe _) =
        .returned status (probing memory rom magic) ∧
      (status = 0 ∧ rom.vendorId = 0x000b99 ↔ ∃ said,
        LibPhantom.RomImage.parse (memory.block handle.port (nodeId place.2) CONFIG_ROM_ADDR) =
          some said ∧ said.vendorId = 0x000b99) := by
  obtain ⟨status, rom, magic, probed, succeeds, same⟩ :=
    probeNode_eq memory host.endian handle (nodeId place.2).toUInt32 crom
  rw [probedImage, phyId_nodeId] at succeeds same
  refine ⟨status, rom, magic, probed, ?_⟩
  rw [succeeds, Option.isSome_iff_exists]
  constructor
  · rintro ⟨⟨said, parsed⟩, found⟩
    refine ⟨said, parsed, ?_⟩
    rw [← (same said parsed).1]
    exact found
  · rintro ⟨said, parsed, found⟩
    rw [← (same said parsed).1] at found
    exact ⟨⟨said, parsed⟩, found⟩

/-- A node is entered if it is a Phantom. -/
theorem scanNode_scans (collected : Collected memory found s) (port : handle.port = place.1) :
    Scans memory (found ++ [place].filter fun place => IsPhantom host memory place)
      (scanNode host place.1 handle place.2 s) := by
  obtain ⟨status, rom, magic, probed, vendor⟩ := probeNode_vendor host memory handle place s.crom
  rw [port] at vendor
  have view : s.toProbe = ⟨⟨memory, []⟩, s.crom⟩ := by
    rw [← collected.bus]
  have kept : Collected memory found { s with toProbe := probing memory rom magic } :=
    { collected with bus := rfl }
  have entered (phantom : IsPhantom host memory place) :
      [place].filter (fun place => IsPhantom host memory place) = [place] :=
    List.filter_cons_of_pos (by simpa using phantom)
  have skipped (nothing : ¬IsPhantom host memory place) :
      [place].filter (fun place => IsPhantom host memory place) = [] :=
    List.filter_cons_of_neg (by simpa using nothing)
  rw [scanNode, Call.bind_apply, Call.within_apply, view, probed, Outcome.mapState_returned,
    Outcome.andThen_returned, Call.bind_apply, Call.get_apply, Outcome.andThen_returned,
    Call.ite_apply]
  split
  · next sensable =>
      have answered := getExpectedQuadlet_eq memory handle host.endian (nodeId place.2) 0x1006000c
        0x00990b00
      rw [port] at answered
      rw [Call.bind_apply, Call.within_apply]
      dsimp only [probing]
      rw [answered, Outcome.mapState_returned, Outcome.andThen_returned, Call.ite_apply]
      split
      · next word =>
          rw [entered ⟨vendor.mp sensable, eq_of_beq word⟩]
          exact storeDevice_scans kept place
      · next other =>
          rw [skipped fun phantom => other (beq_iff_eq.mpr phantom.word), List.append_nil]
          exact .returned kept
  · next other =>
      rw [skipped fun phantom => other (vendor.mpr phantom.vendor), List.append_nil]
      exact .returned kept

/-- The loop over the nodes of a port. -/
theorem scanNodes_scans (host : Host) (handle : Handle) (collected : Collected memory found s) (nodes i : Nat) :
    Scans memory
      (found ++ ((List.range' i nodes).map fun i => (handle.port, i)).filter fun place =>
        IsPhantom host memory place)
      (scanNodes host handle.port handle nodes i s) := by
  induction nodes generalizing i found s with
  | zero =>
      rw [List.range'_zero, List.map_nil, List.filter_nil, List.append_nil]
      exact .returned collected
  | succ nodes ih =>
      have split : ((List.range' i (nodes + 1)).map fun i => (handle.port, i)) =
          [(handle.port, i)] ++ (List.range' (i + 1) nodes).map fun i => (handle.port, i) := by
        rw [List.range'_succ, List.map_cons, List.singleton_append]
      rw [split, List.filter_append, ← List.append_assoc, scanNodes, Call.bind_apply]
      exact (scanNode_scans collected rfl).andThen fun s' collected' => ih collected' (i + 1)

/-- The loop over the ports. -/
theorem scanPorts_scans (host : Host) (collected : Collected memory found s) (ports port : Nat) :
    Scans memory
      (found ++ ((List.range' port ports).flatMap (nodesOf host)).filter fun place =>
        IsPhantom host memory place)
      (scanPorts host ports port s) := by
  induction ports generalizing port found s with
  | zero =>
      rw [List.range'_zero, List.flatMap_nil, List.filter_nil, List.append_nil]
      exact .returned collected
  | succ ports ih =>
      have opened : Collected memory found { s with nextHandle := s.nextHandle + 1 } :=
        { collected with }
      have nodes := scanNodes_scans host ⟨s.nextHandle, port⟩ opened (host.nodeCount port) 0
      rw [← List.range_eq_range'] at nodes
      rw [List.range'_succ, List.flatMap_cons, List.filter_append, ← List.append_assoc, scanPorts,
        Call.bind_apply]
      show Scans _ _ ((scanNodes host port _ _ 0 >>= fun _ => scanPorts host ports (port + 1)) _)
      rw [Call.bind_apply]
      exact nodes.andThen fun s' collected' => ih collected' (port + 1)

/-- The whole scan. -/
theorem scan_scans (host : Host) (memory : Memory) (crom : ConfigRomT) :
    Scans memory (phantoms host memory) (scan host (.start ⟨memory, []⟩ crom)) := by
  have none : Collected memory [] { Scan.start (⟨memory, []⟩ : MemoryBus) crom with
      nextHandle := 1 } := ⟨rfl, by decide, rfl, rfl, rfl⟩
  have all := scanPorts_scans host none host.ports 0
  rw [← List.range_eq_range', List.nil_append] at all
  exact all

end Table

/-! ## The result -/

/-- `devices[0..found_devices)` -/
def Scan.listed {β : Type} (s : Scan β) : List DeviceInfo := s.devices.take s.foundDevices.toNat

/-- What the scan should do: it ends, the table lists exactly the Phantoms, in
their order and each of them once, and no index that was written is outside. -/
inductive ListsPhantoms {β : Type} (host : Host) (memory : Memory) :
    Outcome Empty (Scan β) Unit → Prop
  | returned {s : Scan β} {found : List (Nat × Nat)}
      (listed : s.listed = found.map deviceAt) (count : s.foundDevices.toNat = found.length)
      (sorted : found.Pairwise Before)
      (phantoms : ∀ place, place ∈ found ↔ OnBus host place ∧ IsPhantom host memory place)
      (once : (∀ port < host.ports, host.nodeCount port ≤ 64) →
        (s.listed.map fun info => (info.port, info.node)).Nodup)
      (inside : ∀ index ∈ s.written, index < MAX_DEVICES) :
      ListsPhantoms host memory (.returned () s)

section Result

variable {host : Host} {memory : Memory} {found : List (Nat × Nat)} {s : Scan MemoryBus}

theorem Collected.listed (collected : Collected memory found s) :
    s.listed = found.map deviceAt := by
  have front : (found.map deviceAt).length = s.foundDevices.toNat := by
    rw [List.length_map, collected.count]
  rw [Scan.listed, collected.table, ← front, List.take_left]

/-- A node is known by its port and its node id. -/
theorem nodup_deviceAt (host : Host) (memory : Memory)
    (small : ∀ port < host.ports, host.nodeCount port ≤ 64) :
    (((phantoms host memory).map deviceAt).map fun info => (info.port, info.node)).Nodup := by
  rw [List.map_map]
  refine List.Nodup.map_on ?_ ((phantoms_sorted host memory).imp ?_)
  · intro a inside b inside' same
    obtain ⟨port, node⟩ := Prod.mk.inj same
    have onBus := (mem_phantoms.mp inside).1
    have onBus' := (mem_phantoms.mp inside').1
    refine Prod.ext port (LibPhantom.nodeId_inj ?_ ?_ node)
    · exact Nat.lt_of_lt_of_le onBus.2 (small _ onBus.1)
    · exact Nat.lt_of_lt_of_le onBus'.2 (small _ onBus'.1)
  · rintro a b before rfl
    exact LibPhantom.Cursor.not_before_self a before

/-- There is room for all of them. -/
theorem scan_collects (few : (phantoms host memory).length ≤ MAX_DEVICES) (crom : ConfigRomT) :
    ∃ s, scan host (.start ⟨memory, []⟩ crom) = .returned () s ∧
      Collected memory (phantoms host memory) s := by
  have scans := scan_scans host memory crom
  generalize scan host (.start (⟨memory, []⟩ : MemoryBus) crom) = outcome at scans
  cases scans with
  | returned collected => exact ⟨_, rfl, collected⟩
  | outside many => exact absurd few (Nat.not_le_of_lt many)

/-- One of them is entered behind the table. -/
theorem scan_undefined (many : MAX_DEVICES < (phantoms host memory).length) (crom : ConfigRomT) :
    scan host (.start (⟨memory, []⟩ : MemoryBus) crom) = .undefined := by
  have scans := scan_scans host memory crom
  generalize scan host (.start (⟨memory, []⟩ : MemoryBus) crom) = outcome at scans
  cases scans with
  | returned collected => exact absurd collected.room (Nat.not_le_of_lt many)
  | outside _ => rfl

/-- The driver goes on with the table the scan leaves behind. -/
theorem scan_start (few : (phantoms host memory).length ≤ MAX_DEVICES) (crom : ConfigRomT) :
    ∃ s : Scan MemoryBus, scan host (.start ⟨memory, []⟩ crom) = .returned () s ∧
      s.listed = (Driver.start s.bus
        ((phantoms host memory).map fun place => (place.1, nodeId place.2))).omni.devices := by
  obtain ⟨s, scanned, collected⟩ := scan_collects few crom
  refine ⟨s, scanned, collected.listed.trans ?_⟩
  show _ = (List.map _ _).map _
  rw [List.map_map]
  rfl

end Result

/-- **The scan.**  On every bus on which no read fails, the table lists the
Phantoms as it should if and only if there are at most as many as the table has
room for. -/
theorem scan_lists_iff (host : Host) (memory : Memory) (crom : ConfigRomT) :
    ListsPhantoms host memory (scan host (.start (⟨memory, []⟩ : MemoryBus) crom)) ↔
      (phantoms host memory).length ≤ MAX_DEVICES := by
  constructor
  · intro lists
    by_contra many
    rw [scan_undefined (Nat.lt_of_not_le many) crom] at lists
    cases lists
  · intro few
    obtain ⟨s, scanned, collected⟩ := scan_collects few crom
    rw [scanned]
    refine .returned collected.listed collected.count (phantoms_sorted host memory)
      (fun place => mem_phantoms) (fun small => ?_) (fun index member => ?_)
    · rw [collected.listed]
      exact nodup_deviceAt host memory small
    · rw [collected.written] at member
      exact Nat.lt_of_lt_of_le (List.mem_range.mp member) few

/-- A port with four Phantoms, and the host itself. -/
def fiveNodes : Host := ⟨.little, 1, fun _ => 5, fun _ => 0xffc4⟩

/-- The memory of the four Phantoms. -/
def fourPhantoms : Memory := fun _ node address =>
  if node = nodeId 4 then 0
  else if address - CONFIG_ROM_ADDR < 4 then
    [0x01, 0x00, 0x0b, 0x99].getD (address - CONFIG_ROM_ADDR).toNat 0
  else [0x00, 0x0b, 0x99, 0x00].getD (address - 0x1006000c).toNat 0

/-- The fourth Phantom is entered behind the table. -/
theorem scan_overruns : ¬∀ (host : Host) (memory : Memory) (crom : ConfigRomT),
    (∀ port < host.ports, host.nodeCount port ≤ 63) →
      ListsPhantoms host memory (scan host (.start (⟨memory, []⟩ : MemoryBus) crom)) := by
  intro lists
  have four : (phantoms fiveNodes fourPhantoms).length = 4 := by decide +kernel
  have many : MAX_DEVICES < (phantoms fiveNodes fourPhantoms).length := by
    rw [four]
    decide
  have listed := lists fiveNodes fourPhantoms .zero (by decide)
  rw [scan_undefined many] at listed
  cases listed

end RevEng
