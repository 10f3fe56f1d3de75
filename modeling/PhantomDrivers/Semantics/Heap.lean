import Mathlib

/-!
# Heaps of objects

One heap holds the live objects of one class.  A pointer stands for the
*identity* of an object, not for its address: pointers are handed out in the
order of construction and a deleted object's pointer is never handed out
again.  Following a pointer whose object is gone finds nothing, which is what a
caller turns into undefined behaviour.
-/

namespace Semantics

/-- The identity of an object. -/
abbrev Ptr : Type := Nat

/-- The live objects of a class.  `next` is the identity the next object gets;
nothing is stored at or above it. -/
structure Heap (α : Type) where
  next : Nat
  cells : Nat → Option α
  fresh : ∀ p, next ≤ p → cells p = none

namespace Heap

variable {α : Type}

instance : CoeFun (Heap α) fun _ => Nat → Option α := ⟨Heap.cells⟩

/-- No object has been constructed yet. -/
def empty : Heap α where
  next := 0
  cells := fun _ => none
  fresh := fun _ _ => rfl

/-- Construct an object, at `heap.next`. -/
def alloc (heap : Heap α) (object : α) : Heap α where
  next := heap.next + 1
  cells := Function.update heap.cells heap.next (some object)
  fresh := by
    intro p above
    rw [Function.update_of_ne (by omega)]
    exact heap.fresh p (by omega)

/-- Delete the object at `p`. -/
def free (heap : Heap α) (p : Ptr) : Heap α where
  next := heap.next
  cells := Function.update heap.cells p none
  fresh := by
    intro q above
    rcases eq_or_ne q p with rfl | different
    · exact Function.update_self ..
    · rw [Function.update_of_ne different]
      exact heap.fresh q above

/-- Update the object at `p` in place. -/
def modify (heap : Heap α) (p : Ptr) (f : α → α) : Heap α where
  next := heap.next
  cells := Function.update heap.cells p ((heap.cells p).map f)
  fresh := by
    intro q above
    rcases eq_or_ne q p with rfl | different
    · rw [Function.update_self, heap.fresh q above]
      rfl
    · rw [Function.update_of_ne different]
      exact heap.fresh q above

/-- Take the objects out of reach that are not kept. -/
def filter (heap : Heap α) (keep : Ptr → Bool) : Heap α where
  next := heap.next
  cells := fun p => if keep p then heap.cells p else none
  fresh := by
    intro p above
    rw [heap.fresh p above, ite_self]

variable (heap : Heap α) (p : Nat) (object : α) (f : α → α)

@[simp] theorem empty_apply : (empty : Heap α) p = none := rfl

@[simp] theorem next_alloc : (heap.alloc object).next = heap.next + 1 := rfl

@[simp] theorem next_free : (heap.free p).next = heap.next := rfl

@[simp] theorem next_modify : (heap.modify p f).next = heap.next := rfl

@[simp] theorem next_filter (keep : Ptr → Bool) : (heap.filter keep).next = heap.next := rfl

@[simp] theorem alloc_next : (heap.alloc object) heap.next = some object :=
  Function.update_self ..

@[simp] theorem free_self : (heap.free p) p = none := Function.update_self ..

@[simp] theorem modify_self : (heap.modify p f) p = (heap p).map f := Function.update_self ..

variable {heap p object}

theorem alloc_of_ne {q : Nat} (different : q ≠ heap.next) : (heap.alloc object) q = heap q :=
  Function.update_of_ne different ..

theorem free_of_ne {q : Nat} (different : q ≠ p) : (heap.free p) q = heap q :=
  Function.update_of_ne different ..

theorem modify_of_ne {q : Nat} (different : q ≠ p) : (heap.modify p f) q = heap q :=
  Function.update_of_ne different ..

/-- A live object was constructed before the next one. -/
theorem lt_next (live : heap p = some object) : p < heap.next := by
  by_contra above
  rw [heap.fresh p (by omega)] at live
  cases live

theorem alloc_of_live {a : α} (live : heap p = some object) :
    (heap.alloc a) p = some object := by
  rw [alloc_of_ne (Nat.ne_of_lt (lt_next live)), live]

/-- The objects after an allocation. -/
theorem alloc_eq_some {q : Nat} {a : α} :
    (heap.alloc object) q = some a ↔ q = heap.next ∧ a = object ∨ heap q = some a := by
  rcases eq_or_ne q heap.next with rfl | different
  · rw [alloc_next, heap.fresh _ (Nat.le_refl _)]
    simp [eq_comm]
  · rw [alloc_of_ne different]
    simp [different]

/-- What holds of all objects is left to be shown of a new one. -/
theorem forall_alloc {P : α → Prop} (new : P object) (old : ∀ p a, heap p = some a → P a)
    (p : Ptr) (a : α) (live : (heap.alloc object) p = some a) : P a := by
  rcases alloc_eq_some.mp live with ⟨-, rfl⟩ | before
  · exact new
  · exact old p a before

/-- Objects that are told apart by a key stay so if the key of a new one is
fresh. -/
theorem distinct_alloc {κ : Type} {key : α → κ}
    (distinct : ∀ p q a b, heap p = some a → heap q = some b → key a = key b → p = q)
    (fresh : ∀ p a, heap p = some a → key a ≠ key object) (p q : Ptr) (a b : α)
    (live : (heap.alloc object) p = some a) (live' : (heap.alloc object) q = some b)
    (same : key a = key b) : p = q := by
  rcases alloc_eq_some.mp live with ⟨new, rfl⟩ | old
  · rcases alloc_eq_some.mp live' with ⟨new', -⟩ | old'
    · exact new.trans new'.symm
    · exact absurd same.symm (fresh q b old')
  · rcases alloc_eq_some.mp live' with ⟨-, rfl⟩ | old'
    · exact absurd same (fresh p a old)
    · exact distinct p q a b old old' same

/-- The objects after a deallocation. -/
theorem free_eq_some {q : Nat} {a : α} :
    (heap.free p) q = some a ↔ q ≠ p ∧ heap q = some a := by
  rcases eq_or_ne q p with rfl | different
  · simp
  · rw [free_of_ne different]
    simp [different]

theorem modify_eq_some {q : Nat} {a : α} : (heap.modify p f) q = some a ↔
    ∃ b, heap q = some b ∧ a = if q = p then f b else b := by
  rcases eq_or_ne q p with rfl | different
  · rw [modify_self, Option.map_eq_some_iff]
    simp [eq_comm]
  · rw [modify_of_ne f different]
    simp [different]

theorem filter_eq_some {keep : Ptr → Bool} {a : α} :
    (heap.filter keep) p = some a ↔ keep p = true ∧ heap p = some a := by
  show (if keep p then heap p else none) = some a ↔ _
  split
  · next kept => simp [kept]
  · next dropped => simp [dropped]

/-- A heap is its cells, and where the next object goes. -/
theorem ext_cells {heap heap' : Heap α} (next : heap.next = heap'.next)
    (cells : ∀ q, heap q = heap' q) : heap = heap' := by
  obtain ⟨n, c, _⟩ := heap
  obtain ⟨n', c', _⟩ := heap'
  obtain rfl : n = n' := next
  obtain rfl : c = c' := funext cells
  rfl

@[simp] theorem modify_modify (g : α → α) :
    (heap.modify p f).modify p g = heap.modify p (g ∘ f) := by
  refine ext_cells rfl fun q => ?_
  rcases eq_or_ne q p with rfl | different
  · rw [modify_self, modify_self, modify_self, Option.map_map]
  · rw [modify_of_ne _ different, modify_of_ne _ different, modify_of_ne _ different]

/-- What was done to an object does not matter once it is gone. -/
@[simp] theorem free_modify : (heap.modify p f).free p = heap.free p := by
  refine ext_cells rfl fun q => ?_
  rcases eq_or_ne q p with rfl | different
  · rw [free_self, free_self]
  · rw [free_of_ne different, free_of_ne different, modify_of_ne f different]

/-- Changing one object and deleting another commute. -/
theorem free_modify_of_ne {q : Nat} (different : p ≠ q) :
    (heap.modify p f).free q = (heap.free q).modify p f := by
  refine ext_cells rfl fun q' => ?_
  rcases eq_or_ne q' q with rfl | notFreed
  · rw [free_self, modify_of_ne f different.symm, free_self]
  · rw [free_of_ne notFreed]
    rcases eq_or_ne q' p with rfl | notModified
    · rw [modify_self, modify_self, free_of_ne notFreed]
    · rw [modify_of_ne f notModified, modify_of_ne f notModified, free_of_ne notFreed]

/-! ### The live objects -/

/-- The live objects, the oldest first. -/
def live (heap : Heap α) : List Nat :=
  (List.range heap.next).filter fun p => (heap p).isSome

theorem mem_live : p ∈ heap.live ↔ ∃ a, heap p = some a := by
  rw [live, List.mem_filter, List.mem_range, Option.isSome_iff_exists]
  constructor
  · exact fun member => member.2
  · rintro ⟨a, alive⟩
    exact ⟨lt_next alive, a, alive⟩

/-- The live objects come in the order of their allocation. -/
theorem live_pairwise (heap : Heap α) : heap.live.Pairwise (· < ·) :=
  List.Pairwise.filter _ List.pairwise_lt_range

theorem live_nodup (heap : Heap α) : heap.live.Nodup :=
  (List.nodup_range).filter _

@[simp] theorem live_empty : (empty : Heap α).live = [] := rfl

/-- A new object is the newest one. -/
theorem live_alloc : (heap.alloc object).live = heap.live ++ [heap.next] := by
  rw [live, next_alloc, List.range_succ, List.filter_append, List.filter_singleton, alloc_next]
  congr 1
  refine List.filter_congr fun q below => ?_
  rw [alloc_of_ne (Nat.ne_of_lt (List.mem_range.mp below))]

@[simp] theorem live_modify : (heap.modify p f).live = heap.live := by
  refine List.filter_congr fun q _ => ?_
  rcases eq_or_ne q p with rfl | different
  · rw [modify_self, Option.isSome_map]
  · rw [modify_of_ne f different]

theorem live_free : (heap.free p).live = heap.live.filter (· != p) := by
  rw [live, next_free, live, List.filter_filter]
  refine List.filter_congr fun q _ => ?_
  rcases eq_or_ne q p with rfl | different
  · rw [free_self]
    simp
  · rw [free_of_ne different]
    simp [different]

theorem length_live_free (alive : heap p = some object) :
    (heap.free p).live.length + 1 = heap.live.length := by
  have member : p ∈ heap.live := mem_live.mpr ⟨object, alive⟩
  rw [live_free, ← heap.live_nodup.erase_eq_filter, List.length_erase_of_mem member]
  have := List.length_pos_of_mem member
  omega

end Heap

end Semantics
