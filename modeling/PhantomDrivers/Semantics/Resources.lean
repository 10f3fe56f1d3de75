import Mathlib

/-!
# Resources and their owners

A program acquires resources, uses them and releases them, and a record is kept
of what it does.  It uses them properly if at any time every resource that is
held has an owner, and what is used or released is held.

* `ResourceEvent` — an entry of the record.
* `Owned` — the records of proper use, with the owners at the end.
* `Owned.held_iff` — the resources with an owner are those that were acquired
  and not released.
* `Owned.count_released`, `Owned.not_released_of_used` — nothing is released
  twice, or used after its release.
-/

namespace Semantics

variable {κ ω : Type}

/-- What happens to a resource. -/
inductive ResourceEvent (κ : Type) where
  | acquired (key : κ)
  | used (key : κ)
  | released (key : κ)
deriving DecidableEq, Repr

variable [DecidableEq κ]

/-- A record of proper use.  The second argument gives the owners of the
resources that are held after it. -/
inductive Owned : List (ResourceEvent κ) → (κ → Option ω) → Prop
  | start : Owned [] fun _ => none
  | acquire {events : List (ResourceEvent κ)} {owner : κ → Option ω} {key : κ} (o : ω)
      (before : Owned events owner) (new : .acquired key ∉ events) :
      Owned (events ++ [.acquired key]) (Function.update owner key (some o))
  | use {events : List (ResourceEvent κ)} {owner : κ → Option ω} {key : κ} {o : ω}
      (before : Owned events owner) (held : owner key = some o) :
      Owned (events ++ [.used key]) owner
  | release {events : List (ResourceEvent κ)} {owner : κ → Option ω} {key : κ} {o : ω}
      (before : Owned events owner) (held : owner key = some o) :
      Owned (events ++ [.released key]) (Function.update owner key none)

namespace Owned

variable {events front back : List (ResourceEvent κ)} {owner : κ → Option ω} {key : κ} {o : ω}

theorem acquired_of_held (owned : Owned events owner) (held : owner key = some o) :
    .acquired key ∈ events := by
  induction owned with
  | start => cases held
  | @acquire events owner key' o' before new ih =>
      rw [List.mem_append, List.mem_singleton]
      rcases eq_or_ne key key' with rfl | different
      · exact .inr rfl
      · rw [Function.update_of_ne different] at held
        exact .inl (ih held)
  | use before there ih => exact List.mem_append_left _ (ih held)
  | @release events owner key' o' before there ih =>
      rcases eq_or_ne key key' with rfl | different
      · rw [Function.update_self] at held
        cases held
      · rw [Function.update_of_ne different] at held
        exact List.mem_append_left _ (ih held)

theorem acquired_of_released (owned : Owned events owner) (released : .released key ∈ events) :
    .acquired key ∈ events := by
  induction owned with
  | start => cases released
  | acquire o before new ih => exact List.mem_append_left _ (ih (by simpa using released))
  | use before held ih => exact List.mem_append_left _ (ih (by simpa using released))
  | @release events owner key' o before held ih =>
      rw [List.mem_append, List.mem_singleton] at released
      refine List.mem_append_left _ ?_
      rcases released with earlier | last
      · exact ih earlier
      · obtain rfl := ResourceEvent.released.inj last
        exact before.acquired_of_held held

/-- What has an owner was acquired and not released. -/
theorem held_iff (owned : Owned events owner) :
    (∃ o, owner key = some o) ↔ .acquired key ∈ events ∧ .released key ∉ events := by
  induction owned with
  | start => simp
  | @acquire events owner key' o before new ih =>
      rcases eq_or_ne key key' with rfl | different
      · have unreleased : .released key ∉ events := fun released =>
          new (before.acquired_of_released released)
        simp [unreleased]
      · rw [Function.update_of_ne different, ih]
        simp [different]
  | use before held ih =>
      rw [ih]
      simp
  | @release events owner key' o before held ih =>
      rcases eq_or_ne key key' with rfl | different
      · simp
      · rw [Function.update_of_ne different, ih]
        simp [different]

theorem not_held (owned : Owned events owner) (new : .acquired key ∉ events) :
    owner key = none := by
  cases held : owner key with
  | none => rfl
  | some o => exact absurd (owned.acquired_of_held held) new

/-- The record before the last event is one of proper use. -/
theorem of_concat {event : ResourceEvent κ} (owned : Owned (events ++ [event]) owner) :
    ∃ owner' : κ → Option ω, Owned events owner' := by
  generalize shape : events ++ [event] = whole at owned
  cases owned with
  | start => simp at shape
  | acquire o before new => exact ⟨_, (List.append_inj' shape rfl).1 ▸ before⟩
  | use before held => exact ⟨_, (List.append_inj' shape rfl).1 ▸ before⟩
  | release before held => exact ⟨_, (List.append_inj' shape rfl).1 ▸ before⟩

/-- The record up to any moment is one of proper use. -/
theorem of_prefix (owned : Owned (front ++ back) owner) :
    ∃ owner' : κ → Option ω, Owned front owner' := by
  induction back using List.reverseRecOn generalizing owner with
  | nil => exact ⟨owner, List.append_nil front ▸ owned⟩
  | append_singleton back event ih =>
      rw [← List.append_assoc] at owned
      obtain ⟨owner', before⟩ := owned.of_concat
      exact ih before

/-- Nothing is released twice. -/
theorem count_released (owned : Owned events owner) (key : κ) :
    events.count (.released key) ≤ 1 := by
  induction owned with
  | start => exact Nat.zero_le 1
  | acquire o before new ih => simpa using ih
  | use before held ih => simpa using ih
  | @release events owner key' o before held ih =>
      rw [List.count_append, List.count_singleton]
      split
      · next same =>
          obtain rfl : key' = key := by simpa using same
          have first := (before.held_iff.mp ⟨o, held⟩).2
          rw [List.count_eq_zero_of_not_mem first]
      · exact ih

/-- Nothing is used after its release. -/
theorem not_released_of_used (owned : Owned (front ++ .used key :: back) owner) :
    .released key ∉ front := by
  have whole : front ++ .used key :: back = (front ++ [.used key]) ++ back := by simp
  rw [whole] at owned
  obtain ⟨owner', upTo⟩ := owned.of_prefix
  generalize shape : front ++ [.used key] = events at upTo
  cases upTo with
  | start => simp at shape
  | acquire o before new => simp at shape
  | @use events owner key' o before held =>
      obtain ⟨rfl, same⟩ := List.append_inj' shape rfl
      obtain rfl : key = key' := by simpa using same
      exact (before.held_iff.mp ⟨o, held⟩).2
  | release before held => simp at shape

end Owned

end Semantics
