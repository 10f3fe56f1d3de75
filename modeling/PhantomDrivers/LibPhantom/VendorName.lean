import PhantomDrivers.LibPhantom.RomGetters

/-!
# The name of the vendor

`getVendorName` hands out a `char *` that its callers print.  `readConfigRom`
allocates the text of the textual leaf and nothing for a zero byte behind it, so
the buffer is a C string only if the device sends the zero byte itself.

* `NamesEnd` — every name that is ever returned ends in its buffer.
* `namesEnd_iff` — it does exactly if the text of the leaf has a zero byte.
-/

namespace LibPhantom

open Semantics Raw1394

namespace RomImage

variable {image : RomImage} {host : Endian} {buffer : List UInt8}

theorem vendor_scanUnit (n i : Nat) (rom : ConfigRom) :
    (image.scanUnit n i rom).vendor = rom.vendor := by
  induction n generalizing i rom with
  | zero => rfl
  | succ n ih =>
      rw [scanUnit, ih]
      unfold ConfigRom.unitEntry
      split
      · rfl
      split
      · rfl
      split <;> rfl

theorem vendor_addUnit (rom : ConfigRom) (unitDir : Option Nat) :
    (image.addUnit rom unitDir).vendor = rom.vendor := by
  cases unitDir with
  | none => rfl
  | some i => exact vendor_scanUnit ..

/-- The only text of a ROM is the one of its textual leaf. -/
theorem vendor_fields : image.fields.vendor = image.root.textualLeaf.map image.text := by
  unfold fields
  cases image.root.textualLeaf with
  | none => exact vendor_addUnit ..
  | some i => rfl

/-- A name is found in valid ROMs of the general format only. -/
theorem vendor_parseOn : (image.parseOn host).bind ConfigRom.vendor = some buffer ↔
    image.IsGeneral ∧ image.Accepted host ∧
      ∃ i, image.root.textualLeaf = some i ∧ image.text i = buffer := by
  unfold parseOn
  by_cases general : image.IsGeneral
  · rw [if_pos general]
    by_cases accepted : image.Accepted host
    · rw [if_pos accepted, Option.bind_some, vendor_fields, Option.map_eq_some_iff]
      simp only [general, accepted, true_and]
    · simp only [accepted, if_false, Option.bind_none, false_and, and_false, reduceCtorEq]
  · simp only [general, if_false, Option.bind_some, false_and, ConfigRom.zero, reduceCtorEq]

/-- If the library reads the text of a leaf, it has a zero byte. -/
def TextHasZero (image : RomImage) (host : Endian) : Prop :=
  image.IsGeneral → image.Accepted host →
    ∀ i, image.root.textualLeaf = some i → 2 ≤ image.lengthAt i → 0 ∈ image.text i

end RomImage

/-- In every run of getters on a new object, whatever reads fail, each name that
`getVendorName` returns has a zero byte in its buffer. -/
def NamesEnd (host : Endian) (memory : Memory) (com : CommunicationLibraw1394) : Prop :=
  ∀ faults calls s, (getters host).run (.start (⟨memory, faults⟩ : MemoryBus) com) calls = some s →
    ∀ e ∈ s.log, ∀ buffer, e.answer = some (.name (some buffer)) → 0 ∈ buffer

section

variable {host : Endian} {memory : Memory} {com : CommunicationLibraw1394}

/-- What a completed parse exposes. -/
theorem exposed_of_parse {parsed : FirewireDevice}
    (parse : FirewireDevice.readConfigRom host (onMemory memory (.new com)) =
      .returned () (onMemory memory parsed)) :
    (romImage memory com).LeafFitsOn host ∧
      parsed.exposed = (romImage memory com).parseOn host := by
  by_cases fits : (romImage memory com).LeafFitsOn host
  · refine ⟨fits, ?_⟩
    have read : FirewireDevice.readConfigRom host (onMemory memory (.new com)) =
        .returned () (onMemory memory
          (FirewireDevice.afterReading (.new com) ((romImage memory com).parseOn host))) :=
      FirewireDevice.readConfigRom_on fits
    have device := congrArg DeviceState.device (Outcome.returned.inj (parse.symm.trans read)).2
    have parsed_eq : parsed = FirewireDevice.afterReading (.new com) _ := device
    rw [parsed_eq]
    cases (romImage memory com).parseOn host <;> rfl
  · have undefined : FirewireDevice.readConfigRom host (onMemory memory (.new com)) =
        .undefined := FirewireDevice.readConfigRom_undefined fits
    cases parse.symm.trans undefined

/-- A name that is returned is the text of a leaf. -/
theorem name_of_run {faults : List (Option Errno)} {calls : List Getter}
    {s : GetterRun MemoryBus} {e : GetterEntry MemoryBus} {buffer : List UInt8}
    (reached : (getters host).run (.start ⟨memory, faults⟩ com) calls = some s)
    (member : e ∈ s.log) (named : e.answer = some (.name (some buffer))) :
    (romImage memory com).IsGeneral ∧ (romImage memory com).Accepted host ∧
      ∃ i, (romImage memory com).root.textualLeaf = some i ∧
        2 ≤ (romImage memory com).lengthAt i ∧ (romImage memory com).text i = buffer := by
  cases consistent_of_run reached with
  | parsing threw =>
      cases (threw e member).answer.symm.trans named
  | @parsed after failed answered parsed threw contents parse same =>
      have answered : e ∈ answered := by
        refine (List.mem_append.mp member).resolve_left fun earlier => ?_
        cases (threw e earlier).answer.symm.trans named
      have calm := parse_calmed contents parse
      rw [show ServesMemory.contents (⟨memory, faults⟩ : MemoryBus) = memory from rfl] at calm
      obtain ⟨fits, exposed⟩ := exposed_of_parse calm
      have answer := Option.some.inj ((same e answered).1.symm.trans named)
      have vendor : ((romImage memory com).parseOn host).bind ConfigRom.vendor = some buffer := by
        rw [← exposed]
        cases call : e.call with
        | vendorName =>
            rw [call] at answer
            exact Answer.name.inj answer
        | vendorId =>
            rw [call] at answer
            cases answer
        | configRom =>
            rw [call] at answer
            cases answer
      obtain ⟨general, accepted, i, leaf, text⟩ := RomImage.vendor_parseOn.mp vendor
      exact ⟨general, accepted, i, leaf, fits general accepted i leaf, text⟩

/-- The text of a leaf is returned as a name. -/
theorem exists_name (general : (romImage memory com).IsGeneral)
    (accepted : (romImage memory com).Accepted host) {i : Nat}
    (leaf : (romImage memory com).root.textualLeaf = some i)
    (long : 2 ≤ (romImage memory com).lengthAt i) :
    ∃ s, (getters host).run (.start (⟨memory, []⟩ : MemoryBus) com) [.vendorName] = some s ∧
      ∃ e ∈ s.log, e.answer = some (.name (some ((romImage memory com).text i))) := by
  have fits : (romImage memory com).LeafFitsOn host := by
    intro _ _ j found
    obtain rfl := Option.some.inj (found.symm.trans leaf)
    exact long
  have vendor : ((romImage memory com).parseOn host).bind ConfigRom.vendor = some _ :=
    RomImage.vendor_parseOn.mpr ⟨general, accepted, i, leaf, rfl⟩
  have read : FirewireDevice.getConfigRom host (onMemory memory (.new com)) =
      .returned ((romImage memory com).parseOn host) _ :=
    FirewireDevice.getConfigRom_on rfl rfl fits
  obtain ⟨after, performed⟩ : ∃ after, Getter.vendorName.perform host (onMemory memory (.new com)) =
      .returned (.name (some ((romImage memory com).text i))) after := by
    have named : (Getter.vendorName.answer ((romImage memory com).parseOn host)) = _ :=
      congrArg Answer.name vendor
    have performed : Getter.vendorName.perform host (onMemory memory (.new com)) = _ :=
      Getter.perform_eq _
    rw [read, Outcome.andThen_returned, named] at performed
    exact ⟨_, performed⟩
  have stepped : (getters host).step (.start (⟨memory, []⟩ : MemoryBus) com) .vendorName =
      some ⟨after, [⟨.vendorName, some (.name (some ((romImage memory com).text i))), after⟩]⟩ := by
    have start : (GetterRun.start (⟨memory, []⟩ : MemoryBus) com).state =
        onMemory memory (.new com) := rfl
    rw [getters]
    simp only [start, performed]
    rfl
  exact ⟨_, System.run_cons_eq_some.mpr ⟨_, stepped, rfl⟩, _, List.mem_singleton_self _, rfl⟩

end

/-- **The name of the vendor.**  Every name that is returned ends in its buffer
if and only if the text of the leaf has a zero byte. -/
theorem namesEnd_iff (host : Endian) (memory : Memory) (com : CommunicationLibraw1394) :
    NamesEnd host memory com ↔ (romImage memory com).TextHasZero host := by
  constructor
  · intro ends general accepted i leaf long
    obtain ⟨s, reached, e, member, named⟩ := exists_name general accepted leaf long
    exact ends [] _ s reached e member _ named
  · intro zero faults calls s reached e member buffer named
    obtain ⟨general, accepted, i, leaf, long, rfl⟩ := name_of_run reached member named
    exact zero general accepted i leaf long

/-- A ROM whose textual leaf has a text of four letters, which fill its last
quadlet. -/
def fullQuadlet : Memory := fun _ _ address =>
  [4, 4, 0, 0, 0x31, 0x33, 0x39, 0x34, 0, 0, 0, 0, 0, 0, 0, 0, 0, 0, 0, 0, 0, 1, 0, 0,
    0x81, 0, 0, 1, 0, 3, 0, 0, 0, 0, 0, 0, 0, 0, 0, 0, 0x53, 0x41, 0x54, 0x41].getD
      (address - CONFIG_ROM_ADDR).toNat 0

/-- The four letters are returned without anything behind them. -/
theorem name_unterminated : ¬∀ host memory com, NamesEnd host memory com := by
  intro ends
  have leaf : (romImage fullQuadlet ⟨0xffc0, ⟨0, 0⟩, none, none⟩).root.textualLeaf = some 7 := by
    decide +kernel
  obtain ⟨s, reached, e, member, named⟩ := exists_name (show RomImage.IsGeneral _ by decide +kernel)
    (show RomImage.Accepted _ .little by decide +kernel) leaf (by decide +kernel)
  have zero := ends .little _ _ [] _ s reached e member _ named
  exact absurd zero (by decide +kernel)

end LibPhantom
