import PhantomDrivers.RevEng.ProbeNode
import PhantomDrivers.Raw1394.Traced

/-!
# Reads of `probe_node` that fail

`read_config_rom` returns 1 for a failed read, and every caller looks for a
negative status.  So a failed read is never noticed: the parser goes on with a
quadlet of zeros.  Only the magic number is compared with something else than 0.

* `Total` — a program ends, whatever fails.
* `Expects` — all reads a program should make succeed, or one of them fails.
* `probedReads` — the number of reads that a ROM asks for.
* `failuresNoticed_iff` — when a failed read makes `probe_node` fail.
-/

namespace RevEng

open Semantics Raw1394
open LibPhantom (CONFIG_ROM_ADDR RomImage)

variable {α γ : Type}

/-! ## Programs that read -/

/-- The program ends with such a result, whatever fails. -/
def Total (m : Call Empty (Probe TracedBus) α) (R : α → Prop) : Prop :=
  ∀ s, ∃ r s' made, m s = .returned r s' ∧ s.bus.Makes made s'.bus ∧ R r

/-- The attempts are `n` reads that succeeded. -/
structure Unharmed (made : List Attempt) (n : Nat) : Prop where
  count : made.length = n
  succeeded : ∀ t ∈ made, t.outcome = none

/-- One of the first `n` attempts failed. -/
def Harmed (made : List Attempt) (n : Nat) : Prop :=
  ∃ i < n, ∃ t, made[i]? = some t ∧ t.outcome ≠ none

/-- The program makes `n` reads and has such a result, if none of these reads
fails. -/
def Expects (m : Call Empty (Probe TracedBus) α) (s : Probe TracedBus) (n : Nat)
    (Q : α → Prop) : Prop :=
  ∃ r s' made, m s = .returned r s' ∧ s.bus.Makes made s'.bus ∧
    (Unharmed made n ∧ Q r ∨ Harmed made n)

section Rules

variable {m : Call Empty (Probe TracedBus) α} {next : α → Call Empty (Probe TracedBus) γ}
  {s : Probe TracedBus} {n k : Nat} {Q R : α → Prop} {Q' S : γ → Prop}
  {made made' : List Attempt}

theorem total_pure {a : α} (holds : R a) : Total (pure a) R :=
  fun s => ⟨a, s, [], rfl, .refl _, holds⟩

theorem total_modifyCrom (f : ConfigRomT → ConfigRomT) : Total (modifyCrom f) fun _ => True :=
  fun _ => ⟨(), _, [], rfl, .refl _, trivial⟩

/-- The rule for a sequence. -/
theorem Total.bind (first : Total m R) (later : ∀ a, R a → Total (next a) S) :
    Total (m >>= next) S := by
  intro s
  obtain ⟨a, s₁, made, ran, makes, holds⟩ := first s
  obtain ⟨r, s₂, made', ran', makes', holds'⟩ := later a holds s₁
  refine ⟨r, s₂, made ++ made', ?_, makes.trans makes', holds'⟩
  rw [Call.bind_apply, ran, Outcome.andThen_returned, ran']

theorem total_ite {p : Prop} [Decidable p] {m' : Call Empty (Probe TracedBus) α}
    (yes : p → Total m R) (no : ¬p → Total m' R) : Total (if p then m else m') R := by
  split
  · next holds => exact yes holds
  · next fails => exact no fails

/-- One harmed part harms the whole. -/
theorem Harmed.append (harmed : Harmed made n) : Harmed (made ++ made') (n + k) := by
  obtain ⟨i, early, t, member, failed⟩ := harmed
  refine ⟨i, by omega, t, ?_, failed⟩
  rw [List.getElem?_append_left (List.getElem?_eq_some_iff.mp member).1, member]

theorem Unharmed.append (unharmed : Unharmed made n) (unharmed' : Unharmed made' k) :
    Unharmed (made ++ made') (n + k) := by
  constructor
  · rw [List.length_append, unharmed.count, unharmed'.count]
  · exact List.forall_mem_append.mpr ⟨unharmed.succeeded, unharmed'.succeeded⟩

theorem Unharmed.append_harmed (unharmed : Unharmed made n) (harmed : Harmed made' k) :
    Harmed (made ++ made') (n + k) := by
  obtain ⟨i, early, t, member, failed⟩ := harmed
  refine ⟨n + i, by omega, t, ?_, failed⟩
  rw [← unharmed.count, List.getElem?_append_right (by omega), Nat.add_sub_cancel_left, member]

theorem expects_pure {a : α} (holds : Q a) : Expects (pure a) s 0 Q :=
  ⟨a, s, [], rfl, .refl _, .inl ⟨⟨rfl, nofun⟩, holds⟩⟩

theorem expects_modifyCrom_bind {f : ConfigRomT → ConfigRomT}
    {next : Unit → Call Empty (Probe TracedBus) γ}
    (later : Expects (next ()) { s with crom := f s.crom } n Q') :
    Expects (modifyCrom f >>= next) s n Q' :=
  later

/-- Behind a read that failed, the program only has to end. -/
theorem Expects.bind (first : Expects m s n Q) (always : Total m R)
    (later : ∀ a s', s'.bus.memory = s.bus.memory → Q a → Expects (next a) s' k Q')
    (ends : ∀ a, R a → Total (next a) S) : Expects (m >>= next) s (n + k) Q' := by
  obtain ⟨a, s₁, made, ran, makes, unharmed | harmed⟩ := first
  · obtain ⟨r, s₂, made', ran', makes', rest⟩ := later a s₁ makes.memory unharmed.2
    refine ⟨r, s₂, made ++ made', ?_, makes.trans makes', ?_⟩
    · rw [Call.bind_apply, ran, Outcome.andThen_returned, ran']
    · rcases rest with ⟨unharmed', holds⟩ | harmed
      · exact .inl ⟨unharmed.1.append unharmed', holds⟩
      · exact .inr (unharmed.1.append_harmed harmed)
  · obtain ⟨a', s₁', made₁, same, -, holds⟩ := always s
    obtain ⟨rfl, rfl⟩ := Outcome.returned.inj (ran.symm.trans same)
    obtain ⟨r, s₂, made', ran', makes', -⟩ := ends a holds s₁
    refine ⟨r, s₂, made ++ made', ?_, makes.trans makes', .inr harmed.append⟩
    rw [Call.bind_apply, ran, Outcome.andThen_returned, ran']

/-- None of its attempts fails exactly if none of the next outcomes is a
failure. -/
theorem unharmed_iff {b b' : TracedBus} (makes : b.Makes made b')
    (either : Unharmed made n ∨ Harmed made n) :
    (∀ t ∈ made, t.outcome = none) ↔ ∀ j < n, b.outcomes.stream.get j = none := by
  have outcome {j : Nat} {t : Attempt} (member : made[j]? = some t) :
      b.outcomes.stream.get j = t.outcome := by
    have mapped : (made.map Attempt.outcome)[j]? = some t.outcome := by
      rw [List.getElem?_map, member, Option.map_some]
    obtain ⟨inside, same⟩ := List.getElem?_eq_some_iff.mp mapped
    rw [makes.outcomes, Stream'.get_append_left _ _ _ inside, same]
  rcases either with unharmed | ⟨i, early, t, member, failed⟩
  · refine iff_of_true unharmed.succeeded fun j early => ?_
    rw [← unharmed.count] at early
    rw [outcome (List.getElem?_eq_getElem early)]
    exact unharmed.succeeded _ (List.getElem_mem early)
  · constructor
    · intro succeeded
      exact absurd (succeeded t (List.mem_of_getElem? member)) failed
    · intro succeeded
      exact absurd ((outcome member).symm.trans (succeeded i early)) failed

end Rules

/-! ## One read -/

section Reads

variable (host : Endian) (handle : Handle) (node : UInt32) (s : Probe TracedBus)

/-- A block read is one attempt. -/
theorem readConfigRom_traced (offset : UInt32) (buffer : List UInt8) (length : UInt32)
    (b : TracedBus) : ∃ block b' t,
      readConfigRom handle node offset buffer length b = .returned block b' ∧
        b.Makes [t] b' ∧
        (t.outcome = none → block = (0, bytesOf (b.memory.block handle.port (phyId node)
          (CONFIG_ROM_ADDR + offset.toUInt64)) (length * 4).toNat)) ∧
        (t.outcome ≠ none → block = (1, buffer)) := by
  obtain ⟨r, b', attempt⟩ : ∃ r b', Bus.read handle (phyId node)
      (CONFIG_ROM_ADDR + offset.toUInt64) (length * 4).toNat b = (r, b') := ⟨_, _, rfl⟩
  obtain ⟨t, makes, -, failed, succeeded⟩ := TracedBus.makes_readBlock attempt
  cases r with
  | error e =>
      refine ⟨(1, buffer), b', t, ?_, makes, fun success => ?_, fun _ => rfl⟩
      · simp only [readConfigRom, attempt]
      · cases success.symm.trans (failed e rfl)
  | ok block =>
      obtain ⟨success, delivered⟩ := succeeded block rfl
      refine ⟨(0, bytesOf block (length * 4).toNat), b', t, ?_, makes, fun _ => ?_, fun failure => ?_⟩
      · simp only [readConfigRom, attempt]
      · rw [delivered]
      · exact absurd success failure

/-- **A failed read is not reported**: the status is 0, and so is the quadlet. -/
theorem readConfigRomQuadlet_traced (offset : UInt32) : ∃ quadlet s' t,
    readConfigRomQuadlet host handle node offset s = .returned (0, quadlet) s' ∧
      s.bus.Makes [t] s'.bus ∧
      (t.outcome = none → ∀ i < 2 ^ 30, offset = romOffset i →
        quadlet = (probedImage s.bus.memory handle node).quadlet i) ∧
      (t.outcome ≠ none → quadlet = 0) := by
  obtain ⟨block, b', t, ran, makes, success, failure⟩ :=
    readConfigRom_traced handle node offset [0, 0, 0, 0] 1 s.bus
  have status : ¬block.1 < 0 := by
    by_cases succeeded : t.outcome = none
    · rw [success succeeded]
      exact Int.lt_irrefl 0
    · rw [failure succeeded]
      exact Int.not_lt.mpr Int.one_nonneg
  refine ⟨host.ntohl (host.decode block.2), { s with bus := b' }, t, ?_, makes, ?_, ?_⟩
  · rw [readConfigRomQuadlet, Call.bind_apply, Call.within_apply, ran, Outcome.mapState_returned,
      Outcome.andThen_returned]
    simp only [status, if_false]
    rfl
  · rintro succeeded i small rfl
    rw [success succeeded, address_romOffset small,
      funext (block_romOffset s.bus.memory handle node (i := i))]
    show host.ntohl (host.decode (bytesOf _ 4)) = _
    rw [Endian.decode_bytesOf, Endian.ntohl_quadlet]
    rfl
  · intro failed
    rw [failure failed]
    cases host <;> rfl

theorem total_readConfigRomQuadlet (offset : UInt32) :
    Total (readConfigRomQuadlet host handle node offset) fun r => r.1 = 0 := by
  intro s
  obtain ⟨quadlet, s', t, ran, makes, -⟩ :=
    readConfigRomQuadlet_traced host handle node s offset
  exact ⟨(0, quadlet), s', [t], ran, makes, rfl⟩

/-- A quadlet takes one transaction. -/
theorem expects_readConfigRomQuadlet {i : Nat} (small : i < 2 ^ 30) :
    Expects (readConfigRomQuadlet host handle node (romOffset i)) s 1
      fun r => r = (0, (probedImage s.bus.memory handle node).quadlet i) := by
  obtain ⟨quadlet, s', t, ran, makes, success, -⟩ :=
    readConfigRomQuadlet_traced host handle node s (romOffset i)
  refine ⟨(0, quadlet), s', [t], ran, makes, ?_⟩
  by_cases succeeded : t.outcome = none
  · refine .inl ⟨⟨rfl, fun t' member => ?_⟩, by rw [success succeeded i small rfl]⟩
    rw [List.mem_singleton.mp member, succeeded]
  · exact .inr ⟨0, Nat.one_pos, t, rfl, succeeded⟩

theorem total_readBlock (offset : UInt32) (buffer : List UInt8) (length : UInt32) :
    Total (Call.within Probe.bus (fun b s => { s with bus := b })
      (readConfigRom handle node offset buffer length)) fun r => 0 ≤ r.1 := by
  intro s
  obtain ⟨block, b', t, ran, makes, success, failure⟩ :=
    readConfigRom_traced handle node offset buffer length s.bus
  refine ⟨block, { s with bus := b' }, [t], ?_, makes, ?_⟩
  · rw [Call.within_apply, ran, Outcome.mapState_returned]
  · by_cases succeeded : t.outcome = none
    · rw [success succeeded]
    · rw [failure succeeded]
      exact Int.one_nonneg

theorem expects_readBlock (offset : UInt32) (buffer : List UInt8) (length : UInt32) :
    Expects (Call.within Probe.bus (fun b s => { s with bus := b })
      (readConfigRom handle node offset buffer length)) s 1 fun r => r.1 = 0 := by
  obtain ⟨block, b', t, ran, makes, success, -⟩ :=
    readConfigRom_traced handle node offset buffer length s.bus
  refine ⟨block, { s with bus := b' }, [t], ?_, makes, ?_⟩
  · rw [Call.within_apply, ran, Outcome.mapState_returned]
  · by_cases succeeded : t.outcome = none
    · refine .inl ⟨⟨rfl, fun t' member => ?_⟩, by rw [success succeeded]⟩
      rw [List.mem_singleton.mp member, succeeded]
    · exact .inr ⟨0, Nat.one_pos, t, rfl, succeeded⟩

/-- A read, and what the program does with the quadlet. -/
theorem expects_read_bind {i n : Nat} {next : Int × UInt32 → Call Empty (Probe TracedBus) γ}
    {Q R : γ → Prop} (small : i < 2 ^ 30)
    (later : ∀ s', s'.bus.memory = s.bus.memory →
      Expects (next (0, (probedImage s.bus.memory handle node).quadlet i)) s' n Q)
    (ends : ∀ quadlet, Total (next (0, quadlet)) R) :
    Expects (readConfigRomQuadlet host handle node (romOffset i) >>= next) s (n + 1) Q := by
  have ends' (r : Int × UInt32) (success : r.1 = 0) : Total (next r) R := by
    obtain ⟨status, quadlet⟩ := r
    subst success
    exact ends quadlet
  rw [Nat.add_comm n 1]
  refine (expects_readConfigRomQuadlet host handle node s small).bind
    (total_readConfigRomQuadlet host handle node _) ?_ ends'
  rintro r s' same rfl
  exact later s' same

theorem total_read_bind {next : Int × UInt32 → Call Empty (Probe TracedBus) γ} {R : γ → Prop}
    (offset : UInt32) (ends : ∀ quadlet, Total (next (0, quadlet)) R) :
    Total (readConfigRomQuadlet host handle node offset >>= next) R := by
  refine (total_readConfigRomQuadlet host handle node offset).bind ?_
  rintro ⟨status, quadlet⟩ rfl
  exact ends quadlet

end Reads

/-! ## The parser ends -/

section Totality

variable (host : Endian) (handle : Handle) (node : UInt32)

/-- The errors of the bus information block are not noticed. -/
theorem total_probeBusInfo (offset : UInt32) :
    Total (probeBusInfo host handle node offset) fun r => ∃ offset', r = some offset' := by
  refine total_read_bind host handle node _ fun _ => (total_modifyCrom _).bind fun _ _ => ?_
  refine total_read_bind host handle node _ fun _ => (total_modifyCrom _).bind fun _ _ => ?_
  refine total_read_bind host handle node _ fun _ => (total_modifyCrom _).bind fun _ _ => ?_
  exact total_pure ⟨_, rfl⟩

/-- What is done with an entry of the root directory, and with those behind
it. -/
def probeRootEntry (entries : Nat) (offset unitDirOffset textualLeafOffset quadlet : UInt32) :
    Call Empty (Probe TracedBus) (Option (UInt32 × UInt32)) :=
  if quadlet >>> 24 = 0x0c then do
    modifyCrom fun crom => { crom with nodeCapabilities := quadlet &&& 0x00ffffff }
    probeRootEntries host handle node entries offset unitDirOffset textualLeafOffset
  else if quadlet >>> 24 = 0xd1 then
    probeRootEntries host handle node entries offset
      (offset + (quadlet &&& 0x00ffffff) * 4) textualLeafOffset
  else if quadlet >>> 24 = 0x81 then
    probeRootEntries host handle node entries offset unitDirOffset
      (offset + (quadlet &&& 0x00ffffff) * 4)
  else
    probeRootEntries host handle node entries offset unitDirOffset textualLeafOffset

theorem probeRootEntries_succ (entries : Nat) (offset unitDirOffset textualLeafOffset : UInt32) :
    probeRootEntries host handle node (entries + 1) offset unitDirOffset textualLeafOffset =
      readConfigRomQuadlet host handle node (offset + 4) >>= fun r =>
        if r.1 < 0 then pure none
        else probeRootEntry host handle node entries (offset + 4) unitDirOffset
          textualLeafOffset r.2 := rfl

theorem total_probeRootEntry {R : Option (UInt32 × UInt32) → Prop} {entries : Nat}
    {offset unitDirOffset textualLeafOffset : UInt32} (quadlet : UInt32)
    (rest : ∀ unitDirOffset textualLeafOffset,
      Total (probeRootEntries host handle node entries offset unitDirOffset textualLeafOffset) R) :
    Total (probeRootEntry host handle node entries offset unitDirOffset textualLeafOffset quadlet)
      R := by
  refine total_ite (fun _ => (total_modifyCrom _).bind fun _ _ => rest _ _) fun _ => ?_
  exact total_ite (fun _ => rest _ _) fun _ => total_ite (fun _ => rest _ _) fun _ => rest _ _

theorem total_probeRootEntries (entries : Nat) (offset unitDirOffset textualLeafOffset : UInt32) :
    Total (probeRootEntries host handle node entries offset unitDirOffset textualLeafOffset)
      fun r => ∃ offsets, r = some offsets := by
  induction entries generalizing offset unitDirOffset textualLeafOffset with
  | zero => exact total_pure ⟨_, rfl⟩
  | succ entries ih =>
      rw [probeRootEntries_succ]
      exact total_read_bind host handle node _ fun quadlet =>
        total_probeRootEntry host handle node quadlet fun _ _ => ih _ _ _

/-- Nor are those of the root directory. -/
theorem total_probeRootDirectory (offset : UInt32) :
    Total (probeRootDirectory host handle node offset) fun r => ∃ offsets, r = some offsets :=
  total_read_bind host handle node _ fun _ => total_probeRootEntries _ _ _ _ _ _ _

theorem total_probeUnitEntries (entries : Nat) (offset : UInt32) :
    Total (probeUnitEntries host handle node entries offset) fun r => r = true := by
  induction entries generalizing offset with
  | zero => exact total_pure rfl
  | succ entries ih =>
      refine total_read_bind host handle node _ fun quadlet => ?_
      exact (total_modifyCrom _).bind fun _ _ => ih _

/-- Nor are those of the unit directory. -/
theorem total_probeUnitDirectory (unitDirOffset : UInt32) :
    Total (probeUnitDirectory host handle node unitDirOffset) fun r => r = true := by
  refine total_ite (fun _ => ?_) fun _ => total_pure rfl
  exact total_read_bind host handle node _ fun _ => total_probeUnitEntries _ _ _ _ _

theorem total_probeTextualLeaf (textualLeafOffset : UInt32) :
    Total (probeTextualLeaf host handle node textualLeafOffset) fun r => r = true := by
  refine total_ite (fun _ => ?_) fun _ => total_pure rfl
  refine total_read_bind host handle node _ fun quadlet => ?_
  refine (total_modifyCrom _).bind fun _ _ => ?_
  refine (total_readBlock _ _ _ _ _).bind fun block status => ?_
  refine (total_modifyCrom _).bind fun _ _ => total_pure ?_
  simp [Int.not_lt.mpr status]

end Totality

/-! ## The reads that a ROM asks for -/

section Counts

variable (image : RomImage)

/-- The reads of the unit directory: its header and its entries. -/
def unitReads : Option Nat → Nat
  | none => 0
  | some i => 1 + image.lengthAt i

/-- The reads of the textual leaf: its header and its text. -/
def leafReads : Option Nat → Nat
  | none => 0
  | some _ => 2

/-- The number of reads that a ROM asks for. -/
def probedReads : Nat :=
  if image.IsGeneral then
    if image.HasMagic then
      -- the bus info block has five quadlets
      5 + (1 + min (image.lengthAt 5) 16) + unitReads image image.root.unitDir +
        leafReads image.root.textualLeaf
    else 2
  else 1

end Counts

section Directories

variable (host : Endian) (handle : Handle) (node : UInt32) {s : Probe TracedBus} {image : RomImage}

/-- An entry takes one transaction. -/
theorem expects_probeRootEntries {n i : Nat} (small : i + n < 2 ^ 30)
    (same : probedImage s.bus.memory handle node = image) (scan : LibPhantom.RootScan) :
    Expects (probeRootEntries host handle node n (romOffset i) (offsetTo scan.unitDir)
        (offsetTo scan.textualLeaf)) s n
      fun r => r = some (offsetTo (image.scanRoot n (i + 1) scan).unitDir,
        offsetTo (image.scanRoot n (i + 1) scan).textualLeaf) := by
  induction n generalizing i scan s with
  | zero => exact expects_pure rfl
  | succ n ih =>
      rw [probeRootEntries_succ, romOffset_succ]
      refine expects_read_bind host handle node s (by omega) (fun s' kept => ?_) fun quadlet =>
        total_probeRootEntry host handle node quadlet fun _ _ =>
          total_probeRootEntries host handle node _ _ _ _
      rw [same]
      have same' : probedImage s'.bus.memory handle node = image := by rw [kept, same]
      have near : i + 1 + n < 2 ^ 30 := by omega
      have step (s : Probe TracedBus) (same : probedImage s.bus.memory handle node = image) :=
        ih near same (scan.entry (i + 1) (image.quadlet (i + 1)))
      rw [if_neg (Int.lt_irrefl 0), RomImage.scanRoot]
      unfold LibPhantom.RootScan.entry LibPhantom.entryKey at step ⊢
      show Expects (probeRootEntry host handle node n (romOffset (i + 1)) (offsetTo scan.unitDir)
        (offsetTo scan.textualLeaf) (image.quadlet (i + 1))) s' n _
      unfold probeRootEntry
      split
      · next key =>
          rw [if_pos key] at step
          exact expects_modifyCrom_bind (step _ same')
      · next notCapabilities =>
          rw [if_neg notCapabilities] at step
          split
          · next key =>
              rw [if_pos key] at step
              rw [← LibPhantom.entryValue, romOffset_pointer]
              exact step s' same'
          · next notUnit =>
              rw [if_neg notUnit] at step
              split
              · next key =>
                  rw [if_pos key] at step
                  rw [← LibPhantom.entryValue, romOffset_pointer]
                  exact step s' same'
              · next notLeaf =>
                  rw [if_neg notLeaf] at step
                  exact step s' same'

theorem expects_probeRootDirectory (same : probedImage s.bus.memory handle node = image) :
    Expects (probeRootDirectory host handle node (romOffset 4)) s
      (min (image.lengthAt 5) 16 + 1)
      fun r => r = some (offsetTo image.root.unitDir, offsetTo image.root.textualLeaf) := by
  rw [probeRootDirectory, romOffset_succ]
  refine expects_read_bind host handle node s (by decide) (fun s' kept => ?_) fun quadlet =>
    total_probeRootEntries host handle node _ _ _ _
  have same' : probedImage s'.bus.memory handle node = image := by rw [kept, same]
  simp only [Int.lt_irrefl, if_false]
  rw [LibPhantom.FirewireDevice.toNat_rootLength, same]
  exact expects_probeRootEntries host handle node (by omega) same' .empty

theorem expects_probeUnitEntries {n i : Nat} (small : i + n < 2 ^ 30) :
    Expects (probeUnitEntries host handle node n (romOffset i)) s n fun r => r = true := by
  induction n generalizing i s with
  | zero => exact expects_pure rfl
  | succ n ih =>
      rw [probeUnitEntries, romOffset_succ]
      refine expects_read_bind host handle node s (by omega) (fun s' _ => ?_) fun quadlet =>
        (total_modifyCrom _).bind fun _ _ => total_probeUnitEntries host handle node _ _
      exact expects_modifyCrom_bind (ih (by omega))

theorem expects_probeUnitDirectory (same : probedImage s.bus.memory handle node = image)
    {dir : Option Nat} (small : ∀ i, dir = some i → 0 < i ∧ i < 2 ^ 25) :
    Expects (probeUnitDirectory host handle node (offsetTo dir)) s (unitReads image dir)
      fun r => r = true := by
  cases dir with
  | none => exact expects_pure rfl
  | some i =>
      obtain ⟨positive, near⟩ := small i rfl
      have short := image.lengthAt_lt i
      rw [probeUnitDirectory, offsetTo, if_pos (romOffset_pos positive (by omega)), unitReads,
        Nat.add_comm]
      refine expects_read_bind host handle node s (by omega) (fun s' kept => ?_) fun quadlet =>
        total_probeUnitEntries host handle node _ _
      simp only [Int.lt_irrefl, if_false, same]
      exact expects_probeUnitEntries host handle node (show i + image.lengthAt i < 2 ^ 30 by omega)

theorem expects_probeTextualLeaf {leaf : Option Nat}
    (small : ∀ i, leaf = some i → 0 < i ∧ i < 2 ^ 25) :
    Expects (probeTextualLeaf host handle node (offsetTo leaf)) s (leafReads leaf)
      fun r => r = true := by
  cases leaf with
  | none => exact expects_pure rfl
  | some i =>
      obtain ⟨positive, near⟩ := small i rfl
      have ends (block : Int × List UInt8) (status : 0 ≤ block.1) :
          Total (do
            modifyCrom fun crom => { crom with vendor := some block.2 }
            return !decide (block.1 < 0)) fun r => r = true := by
        refine (total_modifyCrom _).bind fun _ _ => total_pure ?_
        simp [Int.not_lt.mpr status]
      rw [probeTextualLeaf, offsetTo, if_pos (romOffset_pos positive (by omega)), leafReads]
      refine expects_read_bind host handle node s (by omega) (fun s' kept => ?_) fun quadlet =>
        (total_modifyCrom _).bind fun _ _ => (total_readBlock _ _ _ _ _).bind ends
      refine expects_modifyCrom_bind ?_
      refine (expects_readBlock handle node _ _ _ _).bind (k := 0)
        (total_readBlock handle node _ _ _) ?_ ends
      intro block s'' _ status
      refine expects_modifyCrom_bind (expects_pure ?_)
      rw [status]
      rfl

/-- The bus information block takes three. -/
theorem expects_probeBusInfo :
    Expects (probeBusInfo host handle node (romOffset 1)) s 3 fun r => r = some (romOffset 4) := by
  have near : ∀ i < 5, i < 2 ^ 30 := by omega
  rw [probeBusInfo, romOffset_succ]
  refine expects_read_bind (R := fun _ => True) host handle node s (near 2 (by decide))
    (fun s₁ _ => ?_) fun _ => (total_modifyCrom _).bind fun _ _ =>
      total_read_bind host handle node _ fun _ => (total_modifyCrom _).bind fun _ _ =>
        total_read_bind host handle node _ fun _ => (total_modifyCrom _).bind fun _ _ =>
          total_pure trivial
  simp only [Int.lt_irrefl, if_false, romOffset_succ]
  refine expects_modifyCrom_bind ?_
  refine expects_read_bind (R := fun _ => True) host handle node _ (near 3 (by decide))
    (fun s₂ _ => ?_) fun _ => (total_modifyCrom _).bind fun _ _ =>
      total_read_bind host handle node _ fun _ => (total_modifyCrom _).bind fun _ _ =>
        total_pure trivial
  simp only [Int.lt_irrefl, if_false]
  refine expects_modifyCrom_bind ?_
  refine expects_read_bind (R := fun _ => True) host handle node _ (near 4 (by decide))
    (fun s₃ _ => ?_) fun _ => (total_modifyCrom _).bind fun _ _ => total_pure trivial
  simp only [Int.lt_irrefl, if_false]
  exact expects_modifyCrom_bind (expects_pure rfl)

/-- What `probe_node` does behind the magic number. -/
def probeRest (offset : UInt32) : Call Empty (Probe TracedBus) Int := do
  match ← probeBusInfo host handle node offset with
  | none => return 1
  | some offset =>
    match ← probeRootDirectory host handle node offset with
    | none => return 1
    | some (unitDirOffset, textualLeafOffset) =>
      if !(← probeUnitDirectory host handle node unitDirOffset) then
        return 1
      else if !(← probeTextualLeaf host handle node textualLeafOffset) then
        return 1
      else
        return 0

theorem total_probeLeaf (textualLeafOffset : UInt32) : Total (do
    if !(← probeTextualLeaf host handle node textualLeafOffset) then return 1 else return 0 :
      Call Empty (Probe TracedBus) Int) fun r => r = 0 := by
  refine (total_probeTextualLeaf host handle node _).bind ?_
  rintro found rfl
  exact total_pure rfl

theorem total_probeDirectories (unitDirOffset textualLeafOffset : UInt32) : Total (do
    if !(← probeUnitDirectory host handle node unitDirOffset) then return 1
    else if !(← probeTextualLeaf host handle node textualLeafOffset) then return 1 else return 0 :
      Call Empty (Probe TracedBus) Int) fun r => r = 0 := by
  refine (total_probeUnitDirectory host handle node _).bind ?_
  rintro found rfl
  exact total_probeLeaf host handle node _

/-- **Behind the magic number nothing makes it fail.** -/
theorem total_probeRest (offset : UInt32) :
    Total (probeRest host handle node offset) fun r => r = 0 := by
  refine (total_probeBusInfo host handle node _).bind ?_
  rintro _ ⟨offset', rfl⟩
  refine (total_probeRootDirectory host handle node _).bind ?_
  rintro _ ⟨offsets, rfl⟩
  exact total_probeDirectories host handle node _ _

theorem expects_probeRest (same : probedImage s.bus.memory handle node = image) :
    Expects (probeRest host handle node (romOffset 1)) s
      (3 + ((min (image.lengthAt 5) 16 + 1) +
        (unitReads image image.root.unitDir + (leafReads image.root.textualLeaf + 0))))
      fun r => r = 0 := by
  have bounded := image.root_bounded
  refine (expects_probeBusInfo host handle node).bind (S := fun r => r = 0)
    (total_probeBusInfo host handle node _) ?_ ?_
  · rintro _ s₁ kept₁ rfl
    have same₁ : probedImage s₁.bus.memory handle node = image := by rw [kept₁, same]
    refine (expects_probeRootDirectory host handle node same₁).bind (S := fun r => r = 0)
      (total_probeRootDirectory host handle node _) ?_ ?_
    · rintro _ s₂ kept₂ rfl
      have same₂ : probedImage s₂.bus.memory handle node = image := by rw [kept₂, same₁]
      refine (expects_probeUnitDirectory host handle node same₂ bounded.1).bind
        (S := fun r => r = 0) (total_probeUnitDirectory host handle node _) ?_ ?_
      · rintro _ s₃ - rfl
        refine (expects_probeTextualLeaf host handle node bounded.2).bind
          (S := fun r => r = 0) (total_probeTextualLeaf host handle node _) ?_ ?_
        · rintro _ s₄ - rfl
          exact expects_pure rfl
        · rintro found rfl
          exact total_pure rfl
      · rintro found rfl
        exact total_probeLeaf host handle node _
    · rintro _ ⟨offsets, rfl⟩
      exact total_probeDirectories host handle node _ _
  · rintro _ ⟨offset', rfl⟩
    refine (total_probeRootDirectory host handle node _).bind ?_
    rintro _ ⟨offsets, rfl⟩
    exact total_probeDirectories host handle node _ _

end Directories

/-! ## The whole parser -/

/-- The outcome of a single attempt is the first one of the sequence. -/
theorem get_of_makes {b b' : TracedBus} {t : Attempt} (makes : b.Makes [t] b') :
    b.outcomes.stream.get 0 = t.outcome ∧
      ∀ j, b.outcomes.stream.get (j + 1) = b'.outcomes.stream.get j := by
  rw [makes.outcomes]
  exact ⟨rfl, fun _ => rfl⟩

/-- What `probe_node` does behind a header of the general format. -/
def probeGeneral (host : Endian) (handle : Handle) (node : UInt32) :
    Call Empty (Probe TracedBus) Int := do
  let (status, quadlet) ← readConfigRomQuadlet host handle node (0 + 4)
  if status < 0 then return 1 else
  modifyCrom fun crom => { crom with magicNum := quadlet }
  if quadlet ≠ 0x31333934 then return 1 else
  probeRest host handle node (0 + 4)

section Whole

variable (host : Endian) (handle : Handle) (node : UInt32) {image : RomImage}

/-- Behind the header, a failed read is noticed if it is the one of the magic
number. -/
theorem probeGeneral_traced (s : Probe TracedBus) (general : image.IsGeneral)
    (same : probedImage s.bus.memory handle node = image) : ∃ status s' made,
      probeGeneral host handle node s = .returned status s' ∧ s.bus.Makes made s'.bus ∧
        ((status ≠ 0 ∨ ∀ t ∈ made, t.outcome = none) ↔
          (s.bus.outcomes.stream.get 0 ≠ none ∨
            ∀ j, 1 ≤ j → j + 1 < probedReads image → s.bus.outcomes.stream.get j = none)) := by
  obtain ⟨magic, s₁, t, ran, makes₁, success, failure⟩ :=
    readConfigRomQuadlet_traced host handle node s (0 + 4)
  obtain ⟨s₂, makes, start⟩ : ∃ s₂ : Probe TracedBus, s.bus.Makes [t] s₂.bus ∧
      probeGeneral host handle node s =
        (if magic ≠ 0x31333934 then pure 1 else probeRest host handle node (0 + 4) :
          Call Empty (Probe TracedBus) Int) s₂ := by
    refine ⟨{ s₁ with crom := { s₁.crom with magicNum := magic } }, makes₁, ?_⟩
    rw [probeGeneral, Call.bind_apply, ran, Outcome.andThen_returned]
    simp only [Int.lt_irrefl, if_false]
    rfl
  obtain ⟨get, get_succ⟩ := get_of_makes makes
  by_cases succeeded : t.outcome = none
  · have read : magic = image.quadlet 1 := by
      rw [success succeeded 1 (by decide) rfl, same]
    by_cases right : image.HasMagic
    · have same₂ : probedImage s₂.bus.memory handle node = image := by rw [makes.memory, same]
      obtain ⟨status, s₃, made, ran₃, makes₃, either⟩ :=
        expects_probeRest host handle node same₂
      obtain ⟨status', s₃', -, ran', -, zero⟩ := total_probeRest host handle node (romOffset 1) s₂
      obtain ⟨rfl, rfl⟩ := Outcome.returned.inj (ran₃.symm.trans ran')
      refine ⟨status, s₃, [t] ++ made, ?_, makes.trans makes₃, ?_⟩
      · have magic_eq : magic = 0x31333934 := read.trans right
        rw [start, if_neg (not_not.mpr magic_eq)]
        exact ran₃
      · have counted := unharmed_iff makes₃ (either.imp_left And.left)
        have all : (∀ t' ∈ [t] ++ made, t'.outcome = none) ↔ ∀ t' ∈ made, t'.outcome = none := by
          simp [succeeded]
        rw [all, counted, get, succeeded, probedReads, if_pos general, if_pos right]
        simp only [zero, ne_eq, not_true_eq_false, false_or]
        constructor
        · intro none j late early
          obtain ⟨k, rfl⟩ := Nat.exists_eq_add_of_le' late
          rw [get_succ]
          exact none k (by omega)
        · intro none k early
          rw [← get_succ]
          exact none (k + 1) (by omega) (by omega)
    · refine ⟨1, s₂, [t], ?_, makes, ?_⟩
      · have wrong : magic ≠ 0x31333934 := fun same => right (read.symm.trans same)
        rw [start, if_pos wrong]
        rfl
      · refine iff_of_true (.inl one_ne_zero) (.inr fun j late early => ?_)
        rw [probedReads, if_pos general, if_neg right] at early
        omega
  · refine ⟨1, s₂, [t], ?_, makes, ?_⟩
    · rw [start, failure succeeded]
      rfl
    · rw [get]
      exact iff_of_true (.inl one_ne_zero) (.inl succeeded)

end Whole

/-- The outcomes that make a failed read be noticed: the first read succeeds,
and the second one fails or all others that the ROM asks for succeed. -/
def Noticed (image : RomImage) (stream : Stream' (Option Errno)) : Prop :=
  stream.get 0 = none ∧
    (stream.get 1 ≠ none ∨ ∀ j, 2 ≤ j → j < probedReads image → stream.get j = none)

/-- How `probe_node` ends: with a failure, or with attempts that all succeeded,
exactly if the outcomes are of this kind. -/
theorem probeNode_traced (host : Endian) (handle : Handle) (node : UInt32) (crom : ConfigRomT)
    (b : TracedBus) : ∃ status s made,
      probeNode host handle node ⟨b, crom⟩ = .returned status s ∧ b.Makes made s.bus ∧
        ((status ≠ 0 ∨ ∀ t ∈ made, t.outcome = none) ↔
          Noticed (probedImage b.memory handle node) b.outcomes.stream) := by
  obtain ⟨header, s₁, t, ran, makes₁, success, failure⟩ :=
    readConfigRomQuadlet_traced host handle node ⟨b, .zero⟩ 0
  have makes : b.Makes [t] s₁.bus := makes₁
  obtain ⟨get, get_succ⟩ := get_of_makes makes
  have cleared : modifyCrom (fun _ => .zero) (⟨b, crom⟩ : Probe TracedBus) =
      .returned () ⟨b, .zero⟩ := rfl
  have start : probeNode host handle node ⟨b, crom⟩ =
      (if header >>> 24 ≠ 4 then do
        modifyCrom fun crom => { crom with vendorId := header &&& 0x00ffffff }
        return 0
      else probeGeneral host handle node : Call Empty (Probe TracedBus) Int) s₁ := by
    rw [probeNode, Call.bind_apply, cleared, Outcome.andThen_returned, Call.bind_apply, ran,
      Outcome.andThen_returned]
    simp only [Int.lt_irrefl, if_false]
    rfl
  -- a ROM of another format ends the parser with its header
  have minimal (other : header >>> 24 ≠ 4) : ∃ s₂ : Probe TracedBus,
      probeNode host handle node ⟨b, crom⟩ = .returned 0 s₂ ∧ b.Makes [t] s₂.bus := by
    rw [start, if_pos other]
    exact ⟨_, rfl, makes⟩
  by_cases succeeded : t.outcome = none
  · have read : header = (probedImage b.memory handle node).quadlet 0 :=
      success succeeded 0 (by decide) rfl
    by_cases general : (probedImage b.memory handle node).IsGeneral
    · have same : probedImage s₁.bus.memory handle node = probedImage b.memory handle node := by
        rw [makes.memory]
      obtain ⟨status, s₂, made, ran₂, makes₂, noticed⟩ :=
        probeGeneral_traced host handle node s₁ general same
      refine ⟨status, s₂, [t] ++ made, ?_, makes.trans makes₂, ?_⟩
      · have four : header >>> 24 = 4 := by
          rw [read]
          exact general
        rw [start, if_neg (not_not.mpr four)]
        exact ran₂
      · have all : (∀ t' ∈ [t] ++ made, t'.outcome = none) ↔ ∀ t' ∈ made, t'.outcome = none := by
          simp [succeeded]
        rw [all, noticed, Noticed, get, and_iff_right succeeded, get_succ 0]
        refine or_congr Iff.rfl ?_
        constructor
        · intro none j late early
          obtain ⟨k, rfl⟩ := Nat.exists_eq_add_of_le' (Nat.le_of_succ_le late)
          rw [get_succ]
          exact none k (by omega) early
        · intro none k late early
          rw [← get_succ]
          exact none (k + 1) (by omega) early
    · have other : header >>> 24 ≠ 4 := by
        rw [read]
        exact general
      obtain ⟨s₂, ran₂, makes₂⟩ := minimal other
      refine ⟨0, s₂, [t], ran₂, makes₂, iff_of_true (.inr fun t' member => ?_) ?_⟩
      · rw [List.mem_singleton.mp member, succeeded]
      · refine ⟨get.trans succeeded, .inr fun j late early => ?_⟩
        rw [probedReads, if_neg general] at early
        omega
  · have other : header >>> 24 ≠ 4 := by
      rw [failure succeeded]
      decide
    obtain ⟨s₂, ran₂, makes₂⟩ := minimal other
    refine ⟨0, s₂, [t], ran₂, makes₂, iff_of_false ?_ fun noticed => ?_⟩
    · rintro (nonzero | all)
      · exact nonzero rfl
      · exact succeeded (all t (List.mem_singleton_self t))
    · exact succeeded (get.symm.trans noticed.1)

/-- In a call of `probe_node`, a read that fails makes the call fail. -/
def FailuresNoticed (host : Endian) (handle : Handle) (node : UInt32) (crom : ConfigRomT)
    (b : TracedBus) : Prop :=
  ∀ status s made, probeNode host handle node ⟨b, crom⟩ = .returned status s →
    s.bus.record = b.record ++ made → (∃ t ∈ made, t.outcome ≠ none) → status ≠ 0

/-- **Failures are noticed** exactly if the header can be read and, unless the
read of the magic number fails, all other reads that the ROM asks for succeed:
a failed read makes the call fail only if it is the one of the magic number. -/
theorem failuresNoticed_iff (host : Endian) (handle : Handle) (node : UInt32) (crom : ConfigRomT)
    (b : TracedBus) : FailuresNoticed host handle node crom b ↔
      Noticed (probedImage b.memory handle node) b.outcomes.stream := by
  obtain ⟨status, s, made, ran, makes, noticed⟩ := probeNode_traced host handle node crom b
  rw [← noticed]
  constructor
  · intro notices
    by_cases all : ∀ t ∈ made, t.outcome = none
    · exact .inr all
    · refine .inl (notices status s made ran makes.record ?_)
      simpa only [not_forall, exists_prop] using all
  · rintro either status' s' made' ran' record ⟨t, member, failed⟩
    obtain ⟨rfl, rfl⟩ := Outcome.returned.inj (ran.symm.trans ran')
    obtain rfl := List.append_cancel_left (makes.record.symm.trans record)
    exact either.resolve_right fun all => failed (all t member)

/-- A bus on which only the first transaction fails. -/
def brokenHeader : TracedBus where
  memory _ _ _ := 0
  outcomes :=
    { stream := fun i => if i = 0 then some 110 else none
      calm := 1
      ready := fun i late => by
        show (if i = 0 then some 110 else none) ≠ some EAGAIN
        rw [if_neg (by omega)]
        nofun }
  record := []

/-- The header of the ROM cannot be read, and `probe_node` returns 0. -/
theorem failure_unnoticed : ¬∀ host handle node crom b, FailuresNoticed host handle node crom b := by
  intro notices
  obtain ⟨status, s, made, ran, makes, noticed⟩ :=
    probeNode_traced .little ⟨1, 0⟩ 3 .zero brokenHeader
  have unnoticed : ¬Noticed (probedImage brokenHeader.memory ⟨1, 0⟩ 3)
      brokenHeader.outcomes.stream := by
    rintro ⟨header, -⟩
    exact absurd (show (some 110 : Option Errno) = none from header) nofun
  rw [← noticed, not_or] at unnoticed
  obtain ⟨zero, some_failed⟩ := unnoticed
  obtain ⟨t, failed⟩ := not_forall.mp some_failed
  refine zero (notices _ _ _ _ _ status s made ran makes.record ⟨t, ?_⟩)
  exact Classical.not_imp.mp failed

end RevEng
