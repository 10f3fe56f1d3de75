import PhantomDrivers.LibPhantom.Enumeration

/-!
# The test of `findPhantom`

`tests/phantom_find.cpp` claims all Phantoms, releases them again, and finds the
last one a second time.  What it reports is fixed by the memories of the nodes:
it is content if there is no Phantom, or if no other Phantom answers to the
serial number of the last one — and a Phantom whose number is 0 answers to every
search.

* `claimPhantoms`, `releasePhantoms`, `phantom_find` — the program.
* `Unstarted`, `upholds_findAndRelease` — the program only reads, and if it throws,
  a read has failed.
* `phantom_find_reports` — what it reports, and when it has no defined
  behaviour.
-/

namespace LibPhantom

open Semantics Raw1394

/-- `MAX_PHANTOMS` -/
def MAX_PHANTOMS : Nat := 16

/-- What the test prints last. -/
inductive Report where
  /-- nothing: no Phantom was found -/
  | nothing
  | notFoundAgain
  | openedTwice
  | raised (exception : Exn)
  | succeeded
deriving DecidableEq

/-- The status the test returns. -/
def Report.status : Report → UInt8
  | .nothing => 0
  | .notFoundAgain => 1
  | .openedTwice => 1
  | .raised _ => 1
  | .succeeded => 0

namespace Library

variable {β : Type} [Bus β]

/-- The first loop: the Phantoms in `list`, and the serial number of the last
one.  With no room left, the assignment to `list[devices_found]` is behind the
end of the array. -/
def claimPhantoms (host : Host) :
    Nat → List Ptr → UInt32 → Call Exn (Library β) (List Ptr × UInt32)
  | 0, list, serial => do
      match ← findPhantom host 0 with
      | none => return (list, serial)
      | some p =>
          let _ ← readPhantomSerial host p
          Call.undefined
  | room + 1, list, serial => do
      match ← findPhantom host 0 with
      | none => return (list, serial)
      | some p =>
          -- the number that is printed is read for itself
          let _ ← readPhantomSerial host p
          let serial ← readPhantomSerial host p
          claimPhantoms host room (list ++ [p]) serial

/-- The second loop, from the end of the list on. -/
def releasePhantoms : List Ptr → Call Exn (Library β) Unit
  | [] => return ()
  | p :: rest => do
      deletePhantom p
      releasePhantoms rest

/-- The two searches for the last Phantom. -/
def findAgain (host : Host) (serial : UInt32) : Call Exn (Library β) Report := do
  match ← findPhantom host serial with
  | none => return .notFoundAgain
  | some _ =>
      match ← findPhantom host serial with
      | some _ => return .openedTwice
      | none => return .succeeded

/-- The body of the `try` block. -/
def findAndRelease (host : Host) : Call Exn (Library β) Report := do
  let (list, serial) ← claimPhantoms host MAX_PHANTOMS [] 0
  if list.length = 0 then
    return .nothing
  else
    releasePhantoms list.reverse
    findAgain host serial

/-- `main` of `phantom_find.cpp` -/
def phantom_find (host : Host) : Call Exn (Library β) Report := do
  try
    findAndRelease host
  catch e =>
    pure (.raised e)

end Library

/-! ## What it should report -/

theorem isSensable_iff {endian : Endian} {memory : Memory} {port : Nat} {node : UInt16} :
    IsSensable endian memory port node ↔
      ((RomImage.parseOn (memory.block port node CONFIG_ROM_ADDR) endian).any
          fun rom => rom.vendorId == 0x000b99) = true ∧
        seenAt endian memory port node 0x1006000c = 0x00990b00 := by
  simp only [Option.any_eq_true, beq_iff_eq]
  exact ⟨fun ⟨vendor, word⟩ => ⟨vendor, word⟩, fun ⟨vendor, word⟩ => ⟨vendor, word⟩⟩

instance (endian : Endian) (memory : Memory) (port : Nat) (node : UInt16) :
    Decidable (IsSensable endian memory port node) := decidable_of_iff _ isSensable_iff.symm

/-- All nodes, in the order of an iterator. -/
def wholeBus (host : Host) : List (Nat × Nat) :=
  (DeviceIteratorLibraw1394.mk 0 0 (if host.ports = 0 then 0 else host.nodeCount 0) none).remaining
    host

/-- The Phantoms, in this order. -/
def sensables (host : Host) (memory : Memory) : List (Nat × Nat) :=
  (wholeBus host).filter fun q => IsSensable host.endian memory q.1 (nodeId q.2)

/-- A search for this serial number takes the Phantom at the place. -/
def Answers (host : Host) (memory : Memory) (serial : UInt32) (place : Nat × Nat) : Prop :=
  serial = 0 ∨ serialAt host memory place = serial

instance (host : Host) (memory : Memory) (serial : UInt32) (place : Nat × Nat) :
    Decidable (Answers host memory serial place) := inferInstanceAs (Decidable (_ ∨ _))

/-- No other Phantom than the one at the place answers. -/
def AnswersAlone (host : Host) (memory : Memory) (serial : UInt32) (place : Nat × Nat) : Prop :=
  ∀ q ∈ sensables host memory, Answers host memory serial q → q = place

instance (host : Host) (memory : Memory) (serial : UInt32) (place : Nat × Nat) :
    Decidable (AnswersAlone host memory serial place) :=
  inferInstanceAs (Decidable (∀ q ∈ _, _))

/-- The report, by the memories. -/
def expectedReport (host : Host) (memory : Memory) : Report :=
  match (sensables host memory).getLast? with
  | none => .nothing
  | some last =>
      if AnswersAlone host memory (serialAt host memory last) last then .succeeded
      else .openedTwice

/-- No node has a textual leaf that is too short, and the list has room for all
Phantoms. -/
structure Testable (host : Host) (memory : Memory) : Prop where
  fit : ∀ place, OnBus host place → LeafFitsAt host memory place
  room : (sensables host memory).length ≤ MAX_PHANTOMS

section Sensables

variable {host : Host} {memory : Memory} {q : Nat × Nat}

theorem mem_wholeBus (populated : Library.Populated host) : q ∈ wholeBus host ↔ OnBus host q :=
  Covers.mem_of_start (fun port _ inside => populated.nodes port inside) rfl rfl rfl

theorem mem_sensables (populated : Library.Populated host) : q ∈ sensables host memory ↔
    OnBus host q ∧ IsSensable host.endian memory q.1 (nodeId q.2) := by
  rw [sensables, List.mem_filter, mem_wholeBus populated, decide_eq_true_iff]

theorem sensables_sorted (host : Host) (memory : Memory) :
    (sensables host memory).Pairwise DeviceIteratorLibraw1394.Before :=
  (DeviceIteratorLibraw1394.remaining_sorted host _).filter _

theorem before_asymm (a b : Nat × Nat) (first : DeviceIteratorLibraw1394.Before a b) :
    ¬DeviceIteratorLibraw1394.Before b a :=
  fun second => Cursor.not_before_self a (Cursor.before_trans first second)

end Sensables

namespace Library

variable {β : Type} [Bus β] [ServesMemory β] {host : Host} {bus : β} {s s' : Library β}
  {findings : List Finding}

/-- In a program that has just started, a Phantom is wanted if it answers. -/
theorem wanted_initial (populated : Populated host) {serial : UInt32} {q : Nat × Nat} :
    Wanted host serial (Library.initial bus) q ↔ q ∈ sensables host (ServesMemory.contents bus) ∧
      Answers host (ServesMemory.contents bus) serial q := by
  rw [mem_sensables populated]
  constructor
  · rintro ⟨onBus, -, sensable, number⟩
    exact ⟨⟨onBus, sensable⟩, or_iff_not_imp_left.mpr number⟩
  · rintro ⟨⟨onBus, sensable⟩, answers⟩
    refine ⟨onBus, ?_, sensable, or_iff_not_imp_left.mp answers⟩
    rintro ⟨p, d, live, -⟩
    cases live

/-! ## The loops -/

/-- The serial number of the last finding; the variable starts with 0. -/
def lastSerial (host : Host) (memory : Memory) (findings : List Finding) : UInt32 :=
  (findings.getLast?.map fun f => serialAt host memory f.place).getD 0

/-- Phantoms that were claimed in the first loop. -/
structure Hoards (host : Host) (bus : β) (findings : List Finding) (s : Library β) : Prop where
  claimed : Claimed host (Library.initial bus) [] findings s
  segment : Segment DeviceIteratorLibraw1394.Before (Wanted host 0 (Library.initial bus))
    (places findings)
  fits : ∀ q ∈ places findings, LeafFitsAt host (ServesMemory.contents bus) q

/-- How the first loop ends. -/
inductive ClaimsAll (host : Host) (bus : β) :
    Outcome Exn (Library β) (List Ptr × UInt32) → Prop
  | thrown {e : Exn} {s' : Library β} : ClaimsAll host bus (.thrown e s')
  | short {place : Nat × Nat} (onBus : OnBus host place)
      (unfit : ¬LeafFitsAt host (ServesMemory.contents bus) place) : ClaimsAll host bus .undefined
  | full (many : MAX_PHANTOMS < (sensables host (ServesMemory.contents bus)).length) :
      ClaimsAll host bus .undefined
  | returned {findings : List Finding} {s' : Library β} (hoards : Hoards host bus findings s')
      (all : places findings = sensables host (ServesMemory.contents bus))
      (testable : Testable host (ServesMemory.contents bus)) :
      ClaimsAll host bus (.returned (findings.map Finding.phantom,
        lastSerial host (ServesMemory.contents bus) findings) s')

section Loops

variable (populated : Populated host)
include populated

theorem Hoards.length_le (hoards : Hoards host bus findings s) :
    findings.length ≤ (sensables host (ServesMemory.contents bus)).length := by
  have inside := hoards.segment.length_le before_asymm fun q =>
    (show q ∈ sensables host (ServesMemory.contents bus) ↔ _ from
      ⟨fun member => (wanted_initial populated).mpr ⟨member, .inl rfl⟩,
        fun wanted => ((wanted_initial populated).mp wanted).1⟩)
  rwa [places, List.length_map] at inside

/-- The search of the first loop, with one more Phantom or at its end. -/
theorem Hoards.seeks (hoards : Hoards host bus findings s) :
    Seeks host 0 (Library.initial bus) [] findings (findPhantom host 0 s) :=
  hoards.claimed.seeks (settled_initial host bus).live populated 0 hoards.segment

omit populated in
theorem Hoards.more {finding : Finding} (hoards : Hoards host bus findings s)
    (claimed : Claimed host (Library.initial bus) [] (findings ++ [finding]) s')
    (segment : Segment DeviceIteratorLibraw1394.Before (Wanted host 0 (Library.initial bus))
      (places (findings ++ [finding])))
    (fits : LeafFitsAt host (ServesMemory.contents bus) finding.place) :
    Hoards host bus (findings ++ [finding]) s' := by
  refine ⟨claimed, segment, ?_⟩
  rw [places, List.map_append, List.map_singleton]
  exact List.forall_mem_append.mpr ⟨hoards.fits, List.forall_mem_singleton.mpr fits⟩

/-- At the end of the loop everything has been found. -/
theorem Hoards.complete (hoards : Hoards host bus findings s)
    (complete : ∀ q, Wanted host 0 (Library.initial bus) q → q ∈ places findings)
    (room : findings.length ≤ MAX_PHANTOMS)
    (fit : ∀ q, OnBus host q → ¬OpenAt (Library.initial bus) q.1 (nodeId q.2) →
      q ∉ places findings → LeafFitsAt host (ServesMemory.contents bus) q) :
    places findings = sensables host (ServesMemory.contents bus) ∧
      Testable host (ServesMemory.contents bus) := by
  have all : places findings = sensables host (ServesMemory.contents bus) := by
    refine hoards.segment.eq_of_complete before_asymm complete (sensables_sorted host _) fun q => ?_
    exact ⟨fun member => (wanted_initial populated).mpr ⟨member, .inl rfl⟩,
      fun wanted => ((wanted_initial populated).mp wanted).1⟩
  refine ⟨all, fun q onBus => ?_, ?_⟩
  · by_cases member : q ∈ places findings
    · exact hoards.fits q member
    · exact fit q onBus (fun ⟨p, d, live, _⟩ => (nomatch live)) member
  · rw [← all, places, List.length_map]
    exact room

/-- The first loop, with some findings in the list. -/
theorem claimPhantoms_spec (hoards : Hoards host bus findings s) (room : Nat)
    (size : findings.length + room = MAX_PHANTOMS) :
    ClaimsAll host bus (claimPhantoms host room (findings.map Finding.phantom)
      (lastSerial host (ServesMemory.contents bus) findings) s) := by
  induction room generalizing findings s with
  | zero =>
      have seeks := hoards.seeks populated
      rw [claimPhantoms, Call.bind_apply]
      generalize findPhantom host 0 s = outcome at seeks ⊢
      cases seeks with
      | thrown => exact .thrown
      | stuck onBus free unfit => exact .short onBus unfit
      | null claimed complete fit =>
          have hoards' : Hoards host bus findings _ := ⟨claimed, hoards.segment, hoards.fits⟩
          obtain ⟨all, testable⟩ := hoards'.complete populated complete (Nat.le_of_eq size) fit
          exact .returned hoards' all testable
      | @found finding s' claimed segment fits =>
          have hoards' := hoards.more claimed segment fits
          rw [Outcome.andThen_returned, Call.bind_apply]
          rcases claimed.readSerial (List.mem_append_right _ (List.mem_singleton_self finding)) with
            ⟨e, s'', thrown⟩ | ⟨s'', read, -⟩
          · rw [thrown]
            exact .thrown
          · rw [read]
            refine .full (Nat.lt_of_lt_of_le ?_ (hoards'.length_le populated))
            rw [List.length_append, List.length_singleton]
            omega
  | succ room ih =>
      have seeks := hoards.seeks populated
      rw [claimPhantoms, Call.bind_apply]
      generalize findPhantom host 0 s = outcome at seeks ⊢
      cases seeks with
      | thrown => exact .thrown
      | stuck onBus free unfit => exact .short onBus unfit
      | null claimed complete fit =>
          have hoards' : Hoards host bus findings _ := ⟨claimed, hoards.segment, hoards.fits⟩
          obtain ⟨all, testable⟩ := hoards'.complete populated complete (by omega) fit
          exact .returned hoards' all testable
      | @found finding s' claimed segment fits =>
          have hoards' := hoards.more claimed segment fits
          have last : finding ∈ findings ++ [finding] :=
            List.mem_append_right _ (List.mem_singleton_self finding)
          rw [Outcome.andThen_returned, Call.bind_apply]
          rcases claimed.readSerial last with ⟨e, s₁, thrown⟩ | ⟨s₁, read, claimed₁⟩
          · rw [thrown]
            exact .thrown
          rw [read, Outcome.andThen_returned, Call.bind_apply]
          rcases claimed₁.readSerial last with ⟨e, s₂, thrown⟩ | ⟨s₂, read, claimed₂⟩
          · rw [thrown]
            exact .thrown
          have hoards₂ : Hoards host bus (findings ++ [finding]) s₂ :=
            ⟨claimed₂, hoards'.segment, hoards'.fits⟩
          have later := ih hoards₂ (by
            rw [List.length_append, List.length_singleton]
            omega)
          rw [List.map_append, List.map_singleton, lastSerial, List.getLast?_append_of_ne_nil _
            (List.cons_ne_nil _ _), List.getLast?_singleton] at later
          rw [read, Outcome.andThen_returned]
          exact later

omit populated in
/-- The second loop releases everything. -/
theorem releasePhantoms_spec {s₀ : Library β} {entries : List Ptr}
    (claimed : Claimed host s₀ entries findings s) :
    ∃ s', releasePhantoms (findings.map Finding.phantom).reverse s = .returned () s' ∧
      Claimed host s₀ entries [] s' := by
  induction findings using List.reverseRecOn generalizing s with
  | nil => exact ⟨s, rfl, claimed⟩
  | append_singleton findings finding ih =>
      obtain ⟨s₁, deleted, claimed₁⟩ := claimed.delete
      obtain ⟨s', released, claimed'⟩ := ih claimed₁
      refine ⟨s', ?_, claimed'⟩
      rw [List.map_append, List.map_singleton, List.reverse_append, List.reverse_singleton,
        List.singleton_append, releasePhantoms, Call.bind_apply, deleted]
      exact released

end Loops

/-! ## The searches for the last Phantom -/

/-- How they end, if some Phantom answers to the serial number. -/
theorem findAgain_spec (populated : Populated host) (serial : UInt32)
    (claimed : Claimed host (Library.initial bus) [] [] s)
    (fit : ∀ place, OnBus host place → LeafFitsAt host (ServesMemory.contents bus) place)
    {last : Nat × Nat} (member : last ∈ sensables host (ServesMemory.contents bus))
    (answers : Answers host (ServesMemory.contents bus) serial last) :
    (∃ e s', findAgain host serial s = .thrown e s') ∨
      ∃ s', findAgain host serial s = .returned
        (if AnswersAlone host (ServesMemory.contents bus) serial last then .succeeded
          else .openedTwice) s' := by
  have live₀ := (settled_initial host bus).live
  have wantedLast : Wanted host serial (Library.initial bus) last :=
    (wanted_initial populated).mpr ⟨member, answers⟩
  have first := claimed.seeks live₀ populated serial Segment.nil
  rw [findAgain, Call.bind_apply]
  generalize findPhantom host serial s = outcome at first ⊢
  cases first with
  | thrown => exact .inl ⟨_, _, rfl⟩
  | stuck onBus free unfit => exact absurd (fit _ onBus) unfit
  | null claimed' complete fit' => exact absurd (complete last wantedLast) List.not_mem_nil
  | @found finding s₁ claimed₁ segment₁ fits₁ =>
      have second := claimed₁.seeks live₀ populated serial segment₁
      rw [Outcome.andThen_returned, Call.bind_apply]
      generalize findPhantom host serial s₁ = outcome at second ⊢
      cases second with
      | thrown => exact .inl ⟨_, _, rfl⟩
      | stuck onBus free unfit => exact absurd (fit _ onBus) unfit
      | @null s₂ claimed₂ complete fit' =>
          have only (q : Nat × Nat) (wanted : Wanted host serial (Library.initial bus) q) :
              q = finding.place := List.mem_singleton.mp (complete q wanted)
          have alone : AnswersAlone host (ServesMemory.contents bus) serial last := by
            intro q inside answersQ
            rw [only q ((wanted_initial populated).mpr ⟨inside, answersQ⟩), only last wantedLast]
          refine .inr ⟨s₂, ?_⟩
          rw [if_pos alone]
          rfl
      | @found finding' s₂ claimed₂ segment₂ fits₂ =>
          have shared : ¬AnswersAlone host (ServesMemory.contents bus) serial last := by
            intro alone
            -- the two findings are two Phantoms that answer
            have same (f : Finding) (inside : f.place ∈ places ([] ++ [finding] ++ [finding'])) :
                f.place = last := by
              obtain ⟨sensable, answersF⟩ :=
                (wanted_initial populated).mp (segment₂.hits f.place inside)
              exact alone f.place sensable answersF
            have ordered : DeviceIteratorLibraw1394.Before finding.place finding'.place :=
              (List.pairwise_cons.mp segment₂.sorted).1 _ (List.mem_singleton_self _)
            rw [same finding List.mem_cons_self,
              same finding' (List.mem_cons_of_mem _ (List.mem_singleton_self _))] at ordered
            exact Cursor.not_before_self last ordered
          refine .inr ⟨s₂, ?_⟩
          rw [if_neg shared]
          rfl

end Library

/-! ## What an exception means -/

namespace Library

section Unstarted

variable {β : Type} [Bus β] {P : β → Prop} {E : Exn → β → Prop} {host : Host}

/-- The assertion about the bus, while no Phantom has been started. -/
def Unstarted (P : β → Prop) (s : Library β) : Prop :=
  P s.bus ∧ ∀ p ph, s.phantoms p = some ph → ph.started = false

omit [Bus β] in
theorem stable_unstarted (P : β → Prop) : Stable (Unstarted P) where
  handles _ _ _ _ _ _ holds := holds
  opened _ _ _ _ _ holds := holds
  deleted _ _ _ _ holds := holds

omit [Bus β] in
theorem unstarted_onDevice {α : Type} {p : Ptr} {method : Call Exn (DeviceState β) α}
    (kept : method.Upholds (fun s => P s.bus) fun e s => E e s.bus) :
    (onDevice p method).Upholds (Unstarted P) fun e s => E e s.bus := by
  refine Call.upholds_bind Stable.device fun d => ?_
  refine Call.upholds_bind ((stable_unstarted P).useHandle _) fun _ => ?_
  exact Call.upholds_within_of kept (fun _ holds => holds.1)
    (fun _ _ holds here => ⟨here, holds.2⟩) fun _ _ _ _ failed => failed

omit [Bus β] in
theorem upholds_phantom {I : Library β → Prop} {F : Exn → Library β → Prop} (p : Ptr) :
    (phantom p : Call Exn (Library β) _).Upholds I F := by
  refine Call.upholds_bind Call.upholds_get fun s => ?_
  split
  · exact Call.upholds_undefined
  · exact Call.upholds_pure _

/-- Without channels there is nothing to stop when a Phantom is deleted. -/
theorem unstarted_deletePhantom (p : Ptr) :
    (deletePhantom p).Upholds (Unstarted P) fun e s => E e s.bus := by
  have deleted : (deleteBaseDevice p).Upholds (Unstarted P) fun e s => E e s.bus := by
    refine Call.upholds_bind (upholds_phantom p) fun ph => ?_
    refine Call.upholds_bind (stable_unstarted P).deleteDevice fun _ => ?_
    refine Call.upholds_modify fun s holds => ⟨holds.1, fun q ph live => ?_⟩
    exact holds.2 q ph (Heap.free_eq_some.mp live).2
  refine Call.upholds_bind (fun s holds => ?_) fun _ => deleted
  cases live : s.phantoms p with
  | none =>
      have dead : (stopPhantom p : Call Exn (Library β) Unit) s = .undefined := by
        simp [stopPhantom, phantom, live]
      rw [Call.tryCatch_apply, dead]
      trivial
  | some ph =>
      rw [Call.tryCatch_apply, stopPhantom_of_idle live (holds.2 p ph live)]
      exact holds

variable (reads : Reading P E)
include reads

theorem unstarted_findPhantom (serial : UInt32) :
    (findPhantom host serial).Upholds (Unstarted P) fun e s => E e s.bus := by
  refine (stable_unstarted P).findPhantom (fun p => ?_) (fun p => ?_) ?_ serial
  · exact unstarted_onDevice (FirewireDevice.upholds_isSensableDevice reads)
  · exact unstarted_onDevice (FirewireDevice.upholds_readQuadlet reads _)
  · rintro s device ⟨here, idle⟩
    refine ⟨here, fun q ph live => ?_⟩
    rcases Heap.alloc_eq_some.mp live with ⟨-, rfl⟩ | old
    · rfl
    · exact idle q ph old

theorem unstarted_readPhantomSerial (p : Ptr) :
    (readPhantomSerial host p).Upholds (Unstarted P) fun e s => E e s.bus :=
  Call.upholds_bind (upholds_phantom p) fun _ =>
    unstarted_onDevice (FirewireDevice.upholds_readQuadlet reads _)

theorem unstarted_claimPhantoms (room : Nat) (list : List Ptr) (serial : UInt32) :
    (claimPhantoms host room list serial).Upholds (Unstarted P) fun e s => E e s.bus := by
  induction room generalizing list serial with
  | zero =>
      refine Call.upholds_bind (unstarted_findPhantom reads 0) fun found => ?_
      cases found with
      | none => exact Call.upholds_pure _
      | some p =>
          exact Call.upholds_bind (unstarted_readPhantomSerial reads p) fun _ =>
            Call.upholds_undefined
  | succ room ih =>
      refine Call.upholds_bind (unstarted_findPhantom reads 0) fun found => ?_
      cases found with
      | none => exact Call.upholds_pure _
      | some p =>
          refine Call.upholds_bind (unstarted_readPhantomSerial reads p) fun _ => ?_
          exact Call.upholds_bind (unstarted_readPhantomSerial reads p) fun serial => ih _ serial

omit reads in
theorem unstarted_releasePhantoms (list : List Ptr) :
    (releasePhantoms list).Upholds (Unstarted P) fun e s => E e s.bus := by
  induction list with
  | nil => exact Call.upholds_pure _
  | cons p rest ih => exact Call.upholds_bind (unstarted_deletePhantom p) fun _ => ih

theorem unstarted_findAgain (serial : UInt32) :
    (findAgain host serial).Upholds (Unstarted P) fun e s => E e s.bus := by
  refine Call.upholds_bind (unstarted_findPhantom reads serial) fun first => ?_
  cases first with
  | none => exact Call.upholds_pure _
  | some p =>
      refine Call.upholds_bind (unstarted_findPhantom reads serial) fun second => ?_
      cases second with
      | none => exact Call.upholds_pure _
      | some q => exact Call.upholds_pure _

/-- The test only reads, and throws only if a read fails. -/
theorem upholds_findAndRelease :
    (findAndRelease host).Upholds (Unstarted P) fun e s => E e s.bus := by
  refine Call.upholds_bind (unstarted_claimPhantoms reads _ _ _) fun result => ?_
  obtain ⟨list, serial⟩ := result
  refine Call.upholds_ite (Call.upholds_pure _) ?_
  exact Call.upholds_bind (unstarted_releasePhantoms _) fun _ => unstarted_findAgain reads serial

end Unstarted

/-- How the body of the `try` block ends. -/
inductive FindEnds {β : Type} [Bus β] [ServesMemory β] (host : Host) (bus : β) :
    Outcome Exn (Library β) Report → Prop
  | thrown {e : Exn} {s' : Library β} : FindEnds host bus (.thrown e s')
  | untestable (untestable : ¬Testable host (ServesMemory.contents bus)) :
      FindEnds host bus .undefined
  | returned {s' : Library β} (testable : Testable host (ServesMemory.contents bus)) :
      FindEnds host bus (.returned (expectedReport host (ServesMemory.contents bus)) s')

theorem findAndRelease_spec {β : Type} [Bus β] [ServesMemory β] (host : Host)
    (populated : Populated host) (bus : β) :
    FindEnds host bus (findAndRelease host (Library.initial bus)) := by
  have start : Hoards host bus [] (Library.initial bus) :=
    ⟨(settled_initial host bus).claimed, Segment.nil, fun q member =>
      absurd member List.not_mem_nil⟩
  have claims := claimPhantoms_spec populated start MAX_PHANTOMS rfl
  rw [List.map_nil] at claims
  change ClaimsAll host bus (claimPhantoms host MAX_PHANTOMS [] 0 _) at claims
  rw [findAndRelease, Call.bind_apply]
  generalize claimPhantoms host MAX_PHANTOMS [] 0 (Library.initial bus) = outcome at claims ⊢
  cases claims with
  | thrown => exact .thrown
  | short onBus unfit => exact .untestable fun testable => unfit (testable.fit _ onBus)
  | full many => exact .untestable fun testable => Nat.not_le_of_lt many testable.room
  | @returned findings s' hoards all testable =>
      rw [Outcome.andThen_returned, Call.ite_apply, List.length_map]
      rcases List.eq_nil_or_concat findings with rfl | ⟨front, finding, rfl⟩
      · have ends : FindEnds host bus (.returned _ s') := .returned testable
        rw [expectedReport, ← all] at ends
        exact ends
      · rw [List.concat_eq_append] at hoards all ⊢
        have newest : (places (front ++ [finding])).getLast? = some finding.place := by
          rw [places, List.map_append, List.map_singleton, List.getLast?_concat]
        have last : lastSerial host (ServesMemory.contents bus) (front ++ [finding]) =
            serialAt host (ServesMemory.contents bus) finding.place := by
          rw [lastSerial, List.getLast?_concat]
          rfl
        have member : finding.place ∈ sensables host (ServesMemory.contents bus) := by
          rw [← all]
          exact List.mem_of_getLast? newest
        obtain ⟨s₁, released, claimed⟩ := releasePhantoms_spec hoards.claimed
        rw [if_neg (by simp), Call.bind_apply, released, Outcome.andThen_returned, last]
        rcases findAgain_spec populated _ claimed testable.fit member (.inr rfl) with
          ⟨e, s₂, thrown⟩ | ⟨s₂, reported⟩
        · rw [thrown]
          exact .thrown
        · have ends : FindEnds host bus (.returned _ s₂) := .returned testable
          rw [expectedReport, ← all, newest] at ends
          rw [reported]
          exact ends

end Library

/-- **What the test reports.**  On any bus whose nodes hold memories, with any
faults, one of three things happens.  A read fails, and the test reports just this
failure; until then all reads have been answered.  Or all reads are answered, and
the report is the one that the memories determine.  Or it has no defined
behaviour, because a textual leaf on the bus is too short or there are more
Phantoms than fit into the list.  It never reports that it could not find the last
Phantom again. -/
theorem phantom_find_reports {β : Type} [Bus β] [ServesMemory β] (host : Host)
    (populated : Library.Populated host) (bus : β) :
    (∃ e s', Library.phantom_find host (Library.initial bus) = .returned (.raised e) s' ∧
        FailsRead bus e s'.bus) ∨
      (Testable host (ServesMemory.contents bus) ∧ ∃ s',
        Library.phantom_find host (Library.initial bus) =
            .returned (expectedReport host (ServesMemory.contents bus)) s' ∧
          Answered bus s'.bus) ∨
      (¬Testable host (ServesMemory.contents bus) ∧
        Library.phantom_find host (Library.initial bus) = .undefined) := by
  have ends := Library.findAndRelease_spec host populated bus
  have left := @Library.upholds_findAndRelease _ _ _ _ host (reading_answered bus)
    (Library.initial bus) ⟨.refl, fun _ _ live => absurd live (Option.some_ne_none _).symm⟩
  rw [Library.phantom_find, Call.tryCatch_apply]
  generalize Library.findAndRelease host (Library.initial bus) = outcome at ends left ⊢
  cases ends with
  | thrown => exact .inl ⟨_, _, rfl, left⟩
  | untestable untestable => exact .inr (.inr ⟨untestable, rfl⟩)
  | returned testable => exact .inr (.inl ⟨testable, _, rfl, left.1⟩)

/-- The Phantom on the second node has the number 7, and nobody else answers. -/
theorem phantom_find_reports_secondPhantom : ∃ s', Library.phantom_find twoNodes
    (Library.initial (⟨secondPhantom, []⟩ : MemoryBus)) = .returned .succeeded s' ∧
      Answered (⟨secondPhantom, []⟩ : MemoryBus) s'.bus := by
  have succeeds : (Library.phantom_find twoNodes
      (Library.initial (⟨secondPhantom, []⟩ : MemoryBus))).value? = some .succeeded := by
    decide +kernel
  rcases phantom_find_reports twoNodes populated_twoNodes (⟨secondPhantom, []⟩ : MemoryBus) with
    ⟨e, s', raised, -⟩ | ⟨-, s', reported, answered⟩ | ⟨-, undefined⟩
  · rw [raised] at succeeds
    cases succeeds
  · rw [reported] at succeeds
    cases succeeds
    exact ⟨s', reported, answered⟩
  · rw [undefined] at succeeds
    cases succeeds

end LibPhantom
