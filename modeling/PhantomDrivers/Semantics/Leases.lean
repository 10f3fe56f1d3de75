import PhantomDrivers.Semantics.Heap

/-!
# Leases

Objects lease keys from a pool that others lease from as well: an object claims
its key when it is constructed and releases it when it is deleted.  The pool
says which keys are held, and a list of events says what it has acknowledged.

* `TakesTurns` — the claims and the releases of one key.
* `Leases` — the held keys are exactly those of the live objects, no two of
  which have the same, and every claim was released once or is still held.
* `Leases.claim`, `Leases.release`, `Leases.modify` — what keeps the leases.
-/

namespace Semantics

/-- Claims (`true`) and releases (`false`) take turns, a claim first.  The
second argument says whether the last claim is still held. -/
inductive TakesTurns : List Bool → Bool → Prop
  | none : TakesTurns [] false
  | claim {events : List Bool} (before : TakesTurns events false) :
      TakesTurns (events ++ [true]) true
  | release {events : List Bool} (before : TakesTurns events true) :
      TakesTurns (events ++ [false]) false

section Leases

variable {κ α : Type} [DecidableEq κ]

/-- The claims and the releases of a key. -/
def eventsOf (key : κ) (events : List (κ × Bool)) : List Bool :=
  (events.filter fun event => event.1 = key).map Prod.snd

theorem eventsOf_append_self (key : κ) (events : List (κ × Bool)) (claimed : Bool) :
    eventsOf key (events ++ [(key, claimed)]) = eventsOf key events ++ [claimed] := by
  rw [eventsOf, List.filter_append, List.map_append, List.filter_singleton,
    decide_eq_true (show (key, claimed).1 = key from rfl)]
  rfl

theorem eventsOf_append_of_ne {key key' : κ} (different : key' ≠ key) (events : List (κ × Bool))
    (claimed : Bool) : eventsOf key (events ++ [(key', claimed)]) = eventsOf key events := by
  rw [eventsOf, List.filter_append, List.map_append, List.filter_singleton,
    decide_eq_false different]
  exact List.append_nil _

/-- The leases of the live objects. -/
structure Leases (held : κ → Prop) (objects : Heap α) (key : α → κ)
    (events : List (κ × Bool)) : Prop where
  held_iff : ∀ k, held k ↔ ∃ p a, objects p = some a ∧ key a = k
  distinct : ∀ p p' a a', objects p = some a → objects p' = some a' → key a = key a' → p = p'
  turns : ∀ k, ∃ last, TakesTurns (eventsOf k events) last ∧ (last = true ↔ held k)

variable {held held' : κ → Prop} {objects : Heap α} {key : α → κ} {events : List (κ × Bool)}
  {p : Nat} {a : α} {f : α → α}

theorem leases_empty (nothing : ∀ k, ¬held k) : Leases held (Heap.empty : Heap α) key [] where
  held_iff k := by simp [nothing k]
  distinct _ _ _ _ live := by cases live
  turns k := ⟨false, .none, by simp [nothing k]⟩

namespace Leases

theorem congr (leases : Leases held objects key events) (same : ∀ k, held' k ↔ held k) :
    Leases held' objects key events where
  held_iff k := (same k).trans (leases.held_iff k)
  distinct := leases.distinct
  turns k := by
    obtain ⟨last, turns, holds⟩ := leases.turns k
    exact ⟨last, turns, holds.trans (same k).symm⟩

/-- An object is constructed with a key that was not held. -/
theorem claim (leases : Leases held objects key events) (free : ¬held (key a))
    (claimed : ∀ k, held' k ↔ k = key a ∨ held k) :
    Leases held' (objects.alloc a) key (events ++ [(key a, true)]) where
  held_iff k := by
    rw [claimed, leases.held_iff]
    constructor
    · rintro (rfl | ⟨p, b, live, rfl⟩)
      · exact ⟨_, a, Heap.alloc_next .., rfl⟩
      · exact ⟨p, b, Heap.alloc_of_live live, rfl⟩
    · rintro ⟨p, b, live, rfl⟩
      rcases Heap.alloc_eq_some.mp live with ⟨-, rfl⟩ | live
      · exact .inl rfl
      · exact .inr ⟨p, b, live, rfl⟩
  distinct := by
    refine Heap.distinct_alloc leases.distinct fun p b live same => ?_
    exact free (same ▸ (leases.held_iff _).mpr ⟨p, b, live, rfl⟩)
  turns k := by
    obtain ⟨last, turns, holds⟩ := leases.turns k
    rcases eq_or_ne (key a) k with rfl | different
    · have idle : last = false := by simpa [free] using holds
      refine ⟨true, ?_, by simp [claimed]⟩
      rw [eventsOf_append_self]
      exact .claim (idle ▸ turns)
    · refine ⟨last, ?_, ?_⟩
      · rwa [eventsOf_append_of_ne different]
      · rw [holds, claimed]
        simp [different.symm]

/-- An object is deleted, and its key released. -/
theorem release (leases : Leases held objects key events) (live : objects p = some a)
    (released : ∀ k, held' k ↔ k ≠ key a ∧ held k) :
    Leases held' (objects.free p) key (events ++ [(key a, false)]) where
  held_iff k := by
    rw [released, leases.held_iff]
    constructor
    · rintro ⟨different, q, b, there, rfl⟩
      refine ⟨q, b, Heap.free_eq_some.mpr ⟨?_, there⟩, rfl⟩
      rintro rfl
      rw [live] at there
      exact different (congrArg key (Option.some.inj there)).symm
    · rintro ⟨q, b, there, rfl⟩
      obtain ⟨different, there⟩ := Heap.free_eq_some.mp there
      exact ⟨fun same => different (leases.distinct q p b a there live same), q, b, there, rfl⟩
  distinct q q' b b' there there' same :=
    leases.distinct q q' b b' (Heap.free_eq_some.mp there).2 (Heap.free_eq_some.mp there').2 same
  turns k := by
    obtain ⟨last, turns, holds⟩ := leases.turns k
    rcases eq_or_ne (key a) k with rfl | different
    · have busy : last = true := holds.mpr ((leases.held_iff _).mpr ⟨p, a, live, rfl⟩)
      refine ⟨false, ?_, by simp [released]⟩
      rw [eventsOf_append_self]
      exact .release (busy ▸ turns)
    · refine ⟨last, ?_, ?_⟩
      · rwa [eventsOf_append_of_ne different]
      · rw [holds, released]
        simp [different.symm]

/-- An object is changed, but not its key. -/
theorem modify (leases : Leases held objects key events) (kept : ∀ a, key (f a) = key a) :
    Leases held (objects.modify p f) key events := by
  -- A live object was alive before, with the same key.
  have before (q : Nat) (b : α) (live : (objects.modify p f) q = some b) :
      ∃ a, objects q = some a ∧ key a = key b := by
    rcases eq_or_ne q p with rfl | different
    · rw [Heap.modify_self, Option.map_eq_some_iff] at live
      obtain ⟨a, there, rfl⟩ := live
      exact ⟨a, there, (kept a).symm⟩
    · rw [Heap.modify_of_ne f different] at live
      exact ⟨b, live, rfl⟩
  refine ⟨fun k => ?_, fun q q' b b' live live' same => ?_, leases.turns⟩
  · rw [leases.held_iff]
    constructor
    · rintro ⟨q, a, live, rfl⟩
      rcases eq_or_ne q p with rfl | different
      · refine ⟨q, f a, ?_, kept a⟩
        rw [Heap.modify_self, live]
        rfl
      · exact ⟨q, a, (Heap.modify_of_ne f different).trans live, rfl⟩
    · rintro ⟨q, b, live, rfl⟩
      obtain ⟨a, there, same⟩ := before q b live
      exact ⟨q, a, there, same⟩
  · obtain ⟨a, there, rfl'⟩ := before q b live
    obtain ⟨a', there', rfl''⟩ := before q' b' live'
    exact leases.distinct q q' a a' there there' (rfl'.trans (same.trans rfl''.symm))

end Leases

end Leases

end Semantics
