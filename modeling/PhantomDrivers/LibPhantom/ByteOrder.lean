import PhantomDrivers.LibPhantom.SensableDevices

/-!
# Byte orders

What a node is should not depend on the host that asks.  All quadlets of a ROM
are swapped before the library looks at them, except for one: the magic number
of the bus info block.  Another one is outside of the ROM, the vendor word that
`isSensableDevice` reads.

* `SameParse`, `SameAnswer` — the library finds out the same on hosts of either
  byte order.
* `identification_same_iff` — it does exactly for the nodes on which neither of
  the two comparisons can succeed.
-/

namespace LibPhantom

open Semantics Raw1394

/-- `readConfigRom` ends on both hosts, with the same flag and the same
fields. -/
def SameParse (memory : Memory) (com : CommunicationLibraw1394) : Prop :=
  ∃ s t, FirewireDevice.readConfigRom .little (onMemory memory (.new com)) = .returned () s ∧
    FirewireDevice.readConfigRom .big (onMemory memory (.new com)) = .returned () t ∧
    s.device.configRomValid = t.device.configRomValid ∧ s.device.configRom = t.device.configRom

/-- `isSensableDevice` answers the same on both hosts. -/
def SameAnswer (memory : Memory) (com : CommunicationLibraw1394) : Prop :=
  ∃ found s t,
    FirewireDevice.isSensableDevice .little (onMemory memory (.new com)) = .returned found s ∧
      FirewireDevice.isSensableDevice .big (onMemory memory (.new com)) = .returned found t

/-- A ROM of the general format has a magic number that neither host takes for
the right one; a node with another ROM that names the vendor has a vendor word
that neither host takes for the right one. -/
structure OrderFree (memory : Memory) (com : CommunicationLibraw1394) : Prop where
  magic : (romImage memory com).IsGeneral →
    (romImage memory com).quadlet 1 ≠ 0x31333934 ∧ (romImage memory com).quadlet 1 ≠ 0x34393331
  word : ¬(romImage memory com).IsGeneral →
    entryValue ((romImage memory com).quadlet 0) = 0x000b99 →
      memory.quadlet com.handle.port com.node 0x1006000c ≠ 0x000b9900 ∧
        memory.quadlet com.handle.port com.node 0x1006000c ≠ 0x00990b00

section

variable {memory : Memory} {com : CommunicationLibraw1394} {image : RomImage} {host : Endian}

/-- On a big-endian host the magic number has to be reversed. -/
theorem accepted_big : image.Accepted .big ↔ image.quadlet 1 = 0x34393331 := Iff.rfl

theorem seenAt_little : seenAt .little memory com.handle.port com.node 0x1006000c = 0x00990b00 ↔
    memory.quadlet com.handle.port com.node 0x1006000c = 0x000b9900 := by
  rw [show (0x00990b00 : UInt32) = Endian.little.ntohl 0x000b9900 by decide]
  exact Endian.little_quadlet_eq_iff

theorem seenAt_big : seenAt .big memory com.handle.port com.node 0x1006000c = 0x00990b00 ↔
    memory.quadlet com.handle.port com.node 0x1006000c = 0x00990b00 := Iff.rfl

/-- A host that takes the magic number for the right one does not end with an
invalid ROM. -/
theorem valid_of_accepted (general : (romImage memory com).IsGeneral)
    (accepted : (romImage memory com).Accepted host) {s : DeviceState MemoryBus}
    (parsed : FirewireDevice.readConfigRom host (onMemory memory (.new com)) = .returned () s) :
    s.device.configRomValid = true := by
  by_cases fits : (romImage memory (FirewireDevice.new com).com).LeafFitsOn host
  · have read := FirewireDevice.readConfigRom_on fits
    have fields : RomImage.parseOn (romImage memory (FirewireDevice.new com).com) host =
        some (romImage memory com).fields := by
      show RomImage.parseOn (romImage memory com) host = _
      rw [RomImage.parseOn, if_pos general, if_pos accepted]
    rw [fields] at read
    obtain ⟨-, rfl⟩ := Outcome.returned.inj (parsed.symm.trans read)
    rfl
  · cases parsed.symm.trans (FirewireDevice.readConfigRom_undefined fits)

theorem readConfigRom_wrong (general : (romImage memory com).IsGeneral)
    (wrong : ¬(romImage memory com).Accepted host) :
    FirewireDevice.readConfigRom host (onMemory memory (.new com)) =
      .returned () (onMemory memory (FirewireDevice.afterReading (.new com) none)) :=
  FirewireDevice.readConfigRom_of_wrong general wrong

/-- A host that does not, does. -/
theorem invalid_of_wrong (general : (romImage memory com).IsGeneral)
    (wrong : ¬(romImage memory com).Accepted host) {s : DeviceState MemoryBus}
    (parsed : FirewireDevice.readConfigRom host (onMemory memory (.new com)) = .returned () s) :
    s.device.configRomValid = false := by
  obtain ⟨-, rfl⟩ := Outcome.returned.inj
    (parsed.symm.trans (readConfigRom_wrong general wrong))
  rfl

/-- A device object that has read nothing decides whether its node is a Sensable
device. -/
theorem isSensableDevice_new (fits : (romImage memory com).LeafFitsOn host) :
    ∃ found device, FirewireDevice.isSensableDevice host (onMemory memory (.new com)) =
        .returned found (onMemory memory device) ∧
      (found = true ↔ IsSensable host memory com.handle.port com.node) := by
  obtain ⟨found, device, answered, -, sensable⟩ :
      ∃ found device, FirewireDevice.isSensableDevice host (onMemory memory (.new com)) =
          .returned found (onMemory memory device) ∧ device.com = com ∧
        (found = true ↔ IsSensable host memory com.handle.port com.node) :=
    FirewireDevice.isSensableDevice_eq rfl rfl fits
  exact ⟨found, device, answered, sensable⟩

/-- The two answers are the two truth values. -/
theorem sameAnswer_iff (little : (romImage memory com).LeafFitsOn .little)
    (big : (romImage memory com).LeafFitsOn .big) : SameAnswer memory com ↔
      (IsSensable .little memory com.handle.port com.node ↔
        IsSensable .big memory com.handle.port com.node) := by
  obtain ⟨found, d, answered, sensable⟩ := isSensableDevice_new little
  obtain ⟨found', d', answered', sensable'⟩ := isSensableDevice_new big
  rw [← sensable, ← sensable', ← Bool.eq_iff_iff]
  constructor
  · rintro ⟨both, s, t, first, second⟩
    have one := (Outcome.returned.inj (first.symm.trans answered)).1
    have two := (Outcome.returned.inj (second.symm.trans answered')).1
    exact one.symm.trans two
  · rintro rfl
    exact ⟨found, _, _, answered, answered'⟩

/-- Without the general format, the ROM is read the same on both hosts. -/
theorem sameParse_of_minimal (minimal : ¬(romImage memory com).IsGeneral) :
    SameParse memory com := by
  have parsed (host : Endian) : FirewireDevice.readConfigRom host (onMemory memory (.new com)) =
      .returned () (onMemory memory (FirewireDevice.afterReading (.new com)
        (some { ConfigRom.zero with
          vendorId := entryValue ((romImage memory com).quadlet 0) }))) :=
    FirewireDevice.readConfigRom_of_minimal minimal
  exact ⟨_, _, parsed .little, parsed .big, rfl, rfl⟩

/-- With the general format, it is if neither host accepts the magic number. -/
theorem sameParse_iff_of_general (general : (romImage memory com).IsGeneral) :
    SameParse memory com ↔
      ¬(romImage memory com).Accepted .little ∧ ¬(romImage memory com).Accepted .big := by
  constructor
  · rintro ⟨s, t, little, big, sameFlag, -⟩
    -- No magic number is right on both hosts.
    have exclusive (first : (romImage memory com).Accepted .little)
        (second : (romImage memory com).Accepted .big) : False := by
      rw [accepted_big, (RomImage.accepted_little _).mp first] at second
      exact absurd second (by decide)
    constructor
    · intro accepted
      have valid := valid_of_accepted general accepted little
      rw [sameFlag, invalid_of_wrong general (exclusive accepted) big] at valid
      exact Bool.false_ne_true valid
    · intro accepted
      have valid := valid_of_accepted general accepted big
      rw [← sameFlag, invalid_of_wrong general (fun first => exclusive first accepted) little]
        at valid
      exact Bool.false_ne_true valid
  · rintro ⟨little, big⟩
    exact ⟨_, _, readConfigRom_wrong general little, readConfigRom_wrong general big, rfl, rfl⟩

/-- A node with a ROM of another format. -/
theorem isSensable_of_minimal (minimal : ¬(romImage memory com).IsGeneral) :
    IsSensable host memory com.handle.port com.node ↔
      entryValue ((romImage memory com).quadlet 0) = 0x000b99 ∧
        seenAt host memory com.handle.port com.node 0x1006000c = 0x00990b00 := by
  have parsed : RomImage.parseOn (memory.block com.handle.port com.node CONFIG_ROM_ADDR) host =
      some { ConfigRom.zero with
        vendorId := entryValue ((romImage memory com).quadlet 0) } := if_neg minimal
  constructor
  · rintro ⟨⟨rom, named, vendor⟩, word⟩
    obtain rfl := Option.some.inj (named.symm.trans parsed)
    exact ⟨vendor, word⟩
  · rintro ⟨vendor, word⟩
    exact ⟨⟨_, parsed, vendor⟩, word⟩

end

/-- **The byte order of the host.**  For every node, the library finds out the
same on a little-endian and on a big-endian host if and only if the magic number
and the vendor word, which it compares without swapping them, are right on
neither. -/
theorem identification_same_iff (memory : Memory) (com : CommunicationLibraw1394) :
    SameParse memory com ∧ SameAnswer memory com ↔ OrderFree memory com := by
  by_cases general : (romImage memory com).IsGeneral
  · rw [sameParse_iff_of_general general, accepted_big, RomImage.accepted_little]
    constructor
    · rintro ⟨wrong, -⟩
      exact ⟨fun _ => wrong, fun minimal => absurd general minimal⟩
    · intro free
      have wrong := free.magic general
      refine ⟨wrong, ?_⟩
      have little : ¬(romImage memory com).Accepted .little :=
        fun accepted => wrong.1 ((RomImage.accepted_little _).mp accepted)
      have big : ¬(romImage memory com).Accepted .big := wrong.2
      have neither {host : Endian} (other : ¬(romImage memory com).Accepted host) :
          ¬IsSensable host memory com.handle.port com.node := by
        rintro ⟨⟨rom, named, -⟩, -⟩
        have parsed : RomImage.parseOn (memory.block com.handle.port com.node CONFIG_ROM_ADDR)
            host = none := by
          show RomImage.parseOn (romImage memory com) host = none
          rw [RomImage.parseOn, if_pos general, if_neg other]
        cases named.symm.trans parsed
      refine (sameAnswer_iff ?_ ?_).mpr (iff_of_false (neither little) (neither big))
      · exact fun _ accepted => absurd accepted little
      · exact fun _ accepted => absurd accepted big
  · have answers : SameAnswer memory com ↔ _ := sameAnswer_iff
      (fun isGeneral => absurd isGeneral general) fun isGeneral => absurd isGeneral general
    rw [isSensable_of_minimal general, isSensable_of_minimal general, seenAt_little,
      seenAt_big] at answers
    rw [and_iff_right (sameParse_of_minimal general), answers]
    constructor
    · intro same
      refine ⟨fun isGeneral => absurd isGeneral general, fun _ vendor => ⟨?_, ?_⟩⟩
      · intro word
        have reversed := (same.mp ⟨vendor, word⟩).2
        exact absurd (word.symm.trans reversed) (by decide)
      · intro word
        have reversed := (same.mpr ⟨vendor, word⟩).2
        exact absurd (reversed.symm.trans word) (by decide)
    · intro free
      have words := free.word general
      exact iff_of_false (fun both => (words both.1).1 both.2) fun both => (words both.1).2 both.2

/-- A bus info block with the magic number "1394", and nothing behind it. -/
def generalMemory : Memory := fun _ _ address =>
  [0x04, 0x04, 0x00, 0x00, 0x31, 0x33, 0x39, 0x34].getD (address - CONFIG_ROM_ADDR).toNat 0

/-- The ROM is valid on a little-endian host only. -/
theorem byteOrder_matters :
    ¬∀ memory com, SameParse memory com ∧ SameAnswer memory com := by
  intro same
  have general : (romImage generalMemory ⟨0xffc0, ⟨0, 0⟩, none, none⟩).IsGeneral := by
    decide +kernel
  apply ((sameParse_iff_of_general general).mp (same generalMemory _).1).1
  decide +kernel

end LibPhantom
