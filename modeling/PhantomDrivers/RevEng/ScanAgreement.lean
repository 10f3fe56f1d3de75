import PhantomDrivers.LibPhantom.Footprint
import PhantomDrivers.LibPhantom.PhantomFind
import PhantomDrivers.RevEng.Scan

/-!
# The Phantoms of both drivers

The reference driver lists the Phantoms in a table when it starts.  A program on
top of the library gets them one after the other, and each call of `findPhantom`
opens and deletes devices on its way.  On a little-endian host, whose byte order
the library was written for, the two come to the same nodes in the same order.

* `isPhantom_iff_isSensable` — the two tests.
* `scan_agrees` — the two lists.
-/

namespace RevEng

open Semantics Raw1394
open LibPhantom (nodeId Library Finding sensables)
open LibPhantom.Library (Populated Searches)

variable {host : Host} {memory : Memory} {place : Nat × Nat}

/-- The parsers of the two drivers differ in the byte order of the magic number
only. -/
theorem isPhantom_iff_isSensable (little : host.endian = .little) :
    IsPhantom host memory place ↔
      LibPhantom.IsSensable host.endian memory place.1 (nodeId place.2) := by
  constructor
  · rintro ⟨vendor, word⟩
    refine ⟨?_, word⟩
    rw [little, LibPhantom.RomImage.parseOn_little]
    exact vendor
  · rintro ⟨vendor, word⟩
    rw [little, LibPhantom.RomImage.parseOn_little] at vendor
    exact ⟨vendor, word⟩

/-- The two drivers look for the same nodes. -/
theorem sensables_eq (populated : Populated host) (little : host.endian = .little)
    (memory : Memory) : sensables host memory = phantoms host memory := by
  have segment : Segment LibPhantom.DeviceIteratorLibraw1394.Before
      (· ∈ sensables host memory) (sensables host memory) :=
    ⟨LibPhantom.sensables_sorted host memory, fun _ member => member,
      fun _ inside outside => absurd inside outside⟩
  refine segment.eq_of_complete LibPhantom.before_asymm (fun _ member => member)
    (phantoms_sorted host memory) fun q => ?_
  rw [mem_phantoms, LibPhantom.mem_sensables populated, isPhantom_iff_isSensable little]

/-- The nodes of the findings, as the objects of the library have them. -/
theorem nodes_of_claimed {β : Type} [Bus β] [ServesMemory β] {s₀ s : Library β}
    {entries : List Ptr} {findings : List Finding}
    (claimed : LibPhantom.Library.Claimed host s₀ entries findings s) :
    (findings.map Finding.phantom).flatMap s.nodeOf =
      (Library.places findings).map fun place => (place.1, nodeId place.2) := by
  have node (f : Finding) (member : f ∈ findings) :
      s.nodeOf f.phantom = [(f.place.1, nodeId f.place.2)] := by
    obtain ⟨d, live, port, node⟩ := claimed.devices f member
    rw [Library.nodeOf, claimed.phantoms f member, Option.bind_some, live, Option.map_some,
      port, node]
    rfl
  rw [Library.places, List.map_map, List.flatMap_map, List.flatMap_congr node, ← List.map_eq_flatMap]
  rfl

/-- **The two drivers find the same Phantoms.**  Let the reference driver scan a
bus on which no read fails and list what it finds; let a program call
`findPhantom` on a bus with the same memories, with any faults, until it gets
`NULL`.  Then the program has got the nodes of the table, in the same order. -/
theorem scan_agrees {β : Type} [Bus β] [ServesMemory β] (host : Host)
    (populated : Populated host) (little : host.endian = .little) (bus : β) (crom : ConfigRomT)
    {table : Scan MemoryBus} {found : List Ptr} {s' s'' : Library β}
    (scanned : scan host (.start ⟨ServesMemory.contents bus, []⟩ crom) = .returned () table)
    (searches : Searches host 0 (Library.initial bus) found s')
    (ended : Library.findPhantom host 0 s' = .returned none s'') :
    found.flatMap s'.nodeOf = table.listed.map fun info => (info.port, info.node) := by
  have settled := LibPhantom.Library.settled_initial host bus
  obtain ⟨findings, rfl, claimed, segment⟩ := searches.claimed populated settled
  have all : Library.places findings = phantoms host (ServesMemory.contents bus) := by
    rw [← sensables_eq populated little]
    refine segment.eq_of_complete LibPhantom.before_asymm
      (claimed.complete populated settled segment ended) (LibPhantom.sensables_sorted host _) ?_
    intro q
    rw [LibPhantom.Library.wanted_initial populated]
    exact ⟨fun member => ⟨member, .inl rfl⟩, And.left⟩
  have scans := scan_scans host (ServesMemory.contents bus) crom
  rw [scanned] at scans
  cases scans with
  | returned collected =>
      rw [nodes_of_claimed claimed, all, collected.listed, List.map_map]
      rfl

/-- The Phantom on the second node. -/
theorem scan_agrees_secondPhantom : ∃ (table : Scan MemoryBus) (s' : Library MemoryBus),
    scan LibPhantom.twoNodes (.start ⟨LibPhantom.secondPhantom, []⟩ .zero) = .returned () table ∧
      [0].flatMap s'.nodeOf = table.listed.map fun info => (info.port, info.node) := by
  have few : (phantoms LibPhantom.twoNodes LibPhantom.secondPhantom).length ≤ MAX_DEVICES := by
    decide +kernel
  obtain ⟨table, scanned, -⟩ := scan_collects few .zero
  have twice : ((do
      let first ← Library.findPhantom LibPhantom.twoNodes 0
      let second ← Library.findPhantom LibPhantom.twoNodes 0
      return (first, second) : Call LibPhantom.Exn (Library MemoryBus) (Option Ptr × Option Ptr))
        (Library.initial ⟨LibPhantom.secondPhantom, []⟩)).value? = some (some 0, none) := by
    decide +kernel
  obtain ⟨s, searched⟩ := Outcome.value?_eq_some.mp twice
  obtain ⟨first, s', finds, searched⟩ := Call.bind_eq_returned.mp searched
  obtain ⟨second, s'', ended, searched⟩ := Call.bind_eq_returned.mp searched
  obtain ⟨same, -⟩ := Outcome.returned.inj searched
  obtain ⟨rfl, rfl⟩ := Prod.mk.inj same
  exact ⟨table, s', scanned, scan_agrees LibPhantom.twoNodes LibPhantom.populated_twoNodes rfl
    (⟨LibPhantom.secondPhantom, []⟩ : MemoryBus) .zero scanned (.more .none finds) ended⟩

end RevEng
