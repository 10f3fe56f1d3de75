import PhantomDrivers.Semantics.Heap

/-!
# The table of open devices

`FirewireDeviceLibraw1394` keeps its objects in an array of pointers with two
counters.  The constructor appends to it; the destructor searches its object
and moves what lies behind it one place to the front.  Both loops of the
destructor run after the counter was decremented.

* `OpenDevices` — the array and the counters.  An access outside the allocated
  memory, or a comparison with memory that was never written, gives `none`.
* `register`, `unregister` — what the constructor and the destructor do.
* `Lists` — the table holds these entries, in this order.
* `register_spec`, `unregister_spec` — the two operations on the entries.  Only
  the last entry is taken out properly: `unregister` keeps the first `n - 1`
  entries' worth of slots, and the last entry is never among those it moves.
-/

namespace LibPhantom

open Semantics

/-- `open_devices`, `number_of_open_devices` and `max_open_devices`. -/
structure OpenDevices where
  number : Nat
  max : Nat
  /-- the allocated memory; `none` where it was never written -/
  slots : List (Option Ptr)
deriving DecidableEq, Repr

namespace OpenDevices

/-- The table of a program that has just started. -/
def initial : OpenDevices := ⟨0, 2, [none, none]⟩

/-- `number_of_open_devices--`, on an `unsigned int`. -/
def decrement (number : Nat) : Nat := if number = 0 then 4294967295 else number - 1

/-- `realloc`, if the table is full. -/
def grow (table : OpenDevices) : OpenDevices :=
  if table.number = table.max then
    { table with max := table.max + 2, slots := table.slots ++ [none, none] }
  else table

/-- The part of the constructor that enters its object. -/
def register (table : OpenDevices) (object : Ptr) : Option OpenDevices :=
  let table := table.grow
  if table.number < table.slots.length then
    some { table with
      number := table.number + 1
      slots := table.slots.set table.number (some object) }
  else none

/-- The first loop of the destructor: the index it breaks at, with the given
number of iterations left at index `i`. -/
def search (slots : List (Option Ptr)) (object : Ptr) : Nat → Nat → Option Nat
  | 0, i => some i
  | n + 1, i =>
      match slots[i]? with
      | some (some entry) => if entry = object then some i else search slots object n (i + 1)
      | _ => none

/-- The second loop of the destructor, at index `i`. -/
def shift : Nat → Nat → List (Option Ptr) → Option (List (Option Ptr))
  | 0, _, slots => some slots
  | n + 1, i, slots =>
      match slots[i]? with
      | some entry => shift n (i + 1) (slots.set (i - 1) entry)
      | none => none

/-- The part of the destructor that takes its object out. -/
def unregister (table : OpenDevices) (object : Ptr) : Option OpenDevices := do
  let number := decrement table.number
  let i ← search table.slots object number 0
  let slots ← shift (number - (i + 1)) (i + 1) table.slots
  return { table with number, slots }

/-- The table holds exactly these entries, in this order, in memory that is
allocated. -/
structure Lists (table : OpenDevices) (entries : List Ptr) : Prop where
  number : table.number = entries.length
  fits : table.number ≤ table.max
  allocated : table.slots.length = table.max
  entry : ∀ i < entries.length, table.slots[i]? = some entries[i]?

variable {table : OpenDevices} {entries front : List Ptr} {object last : Ptr}
  {slots : List (Option Ptr)}

theorem lists_initial : initial.Lists [] :=
  ⟨rfl, by decide, rfl, fun _ inside => absurd inside (Nat.not_lt_zero _)⟩

theorem lists_grow (lists : table.Lists entries) :
    table.grow.Lists entries ∧ table.grow.number < table.grow.slots.length := by
  obtain ⟨number, fits, allocated, entry⟩ := lists
  unfold grow
  split
  · refine ⟨⟨number, by dsimp only; omega, ?_, ?_⟩, ?_⟩
    · rw [List.length_append, allocated]
      rfl
    · intro i inside
      rw [List.getElem?_append_left (by omega)]
      exact entry i inside
    · simp only [List.length_append, List.length_cons, List.length_nil]
      omega
  · exact ⟨⟨number, fits, allocated, entry⟩, by omega⟩

/-- The constructor appends its object. -/
theorem register_spec (lists : table.Lists entries) (object : Ptr) :
    ∃ table', table.register object = some table' ∧ table'.Lists (entries ++ [object]) := by
  obtain ⟨⟨number, fits, allocated, entry⟩, room⟩ := lists_grow lists
  refine ⟨_, if_pos room, ⟨?_, ?_, ?_, ?_⟩⟩
  · rw [List.length_append, number]
    rfl
  · show table.grow.number + 1 ≤ table.grow.max
    omega
  · rw [List.length_set, allocated]
  · intro i inside
    rw [List.length_append, List.length_singleton] at inside
    rw [List.getElem?_set]
    by_cases new : table.grow.number = i
    · subst new
      rw [if_pos rfl, if_pos room, number, List.getElem?_concat_length]
    · rw [if_neg new, entry i (by omega), List.getElem?_append_left (by omega)]

/-- The first loop stops at the object, or behind the last index it looks
at. -/
theorem search_spec (object : Ptr) {n i : Nat} (written : ∀ j < i + n, ∃ entry, slots[j]? = some (some entry)) :
    ∃ k, search slots object n i = some k ∧ i ≤ k ∧ k ≤ i + n ∧
      (k < i + n → slots[k]? = some (some object)) ∧
      ∀ j, i ≤ j → j < k → slots[j]? ≠ some (some object) := by
  induction n generalizing i with
  | zero => exact ⟨i, rfl, Nat.le_refl _, Nat.le_refl _, by omega, by omega⟩
  | succ n ih =>
      obtain ⟨entry, here⟩ := written i (by omega)
      simp only [search, here]
      by_cases found : entry = object
      · subst found
        rw [if_pos rfl]
        exact ⟨i, rfl, Nat.le_refl _, by omega, fun _ => here, by omega⟩
      · rw [if_neg found]
        have later : ∀ j < i + 1 + n, ∃ entry, slots[j]? = some (some entry) := by
          intro j inside
          exact written j (by omega)
        obtain ⟨k, searched, lower, upper, hit, misses⟩ := ih later
        refine ⟨k, searched, by omega, by omega, fun inside => hit (by omega), ?_⟩
        intro j above below
        rcases Nat.eq_or_lt_of_le above with rfl | later
        · rw [here]
          intro same
          exact found (Option.some.inj (Option.some.inj same))
        · exact misses j later below

/-- The second loop moves the entries it visits one place to the front. -/
theorem shift_spec {n i : Nat} (positive : 0 < i) (inside : i + n ≤ slots.length) :
    ∃ shifted, shift n i slots = some shifted ∧ shifted.length = slots.length ∧
      ∀ j, shifted[j]? = if i ≤ j + 1 ∧ j + 1 < i + n then slots[j + 1]? else slots[j]? := by
  induction n generalizing i slots with
  | zero =>
      refine ⟨slots, rfl, rfl, fun j => ?_⟩
      rw [if_neg (by omega)]
  | succ n ih =>
      have here : slots[i]? = some slots[i] := List.getElem?_eq_getElem (by omega)
      have room : i + 1 + n ≤ (slots.set (i - 1) slots[i]).length := by
        rw [List.length_set]
        omega
      obtain ⟨shifted, moved, length, spec⟩ := ih (Nat.succ_pos i) room
      refine ⟨shifted, ?_, ?_, ?_⟩
      · rw [shift, here]
        exact moved
      · rw [length, List.length_set]
      · intro j
        rw [spec j, List.getElem?_set, List.getElem?_set]
        by_cases later : i + 1 ≤ j + 1 ∧ j + 1 < i + 1 + n
        · rw [if_pos later, if_neg (by omega), if_pos (by omega)]
        · rw [if_neg later]
          by_cases first : i - 1 = j
          · rw [if_pos first, if_pos (by omega), if_pos (by omega), ← here]
            congr 1
            omega
          · rw [if_neg first, if_neg (by omega)]

/-- The destructor leaves one entry less.  What is left comes from the entries
in front of the last one, so that the last one is always dropped; it is all of
them if the object is not among them. -/
theorem unregister_spec (lists : table.Lists (front ++ [last])) (object : Ptr) :
    ∃ table' rest, table.unregister object = some table' ∧ table'.Lists rest ∧
      rest.length = front.length ∧ rest ⊆ front ∧ (object ∉ front → rest = front) := by
  obtain ⟨number, fits, allocated, entry⟩ := lists
  rw [List.length_append, List.length_singleton] at number
  have decremented : decrement table.number = front.length := by
    rw [decrement, if_neg (by omega), number, Nat.add_sub_cancel]
  have written (j : Nat) (inside : j < front.length) : table.slots[j]? = some (some front[j]) := by
    rw [entry j (by rw [List.length_append]; omega), List.getElem?_append_left inside,
      List.getElem?_eq_getElem inside]
  have searchable : ∀ j < 0 + front.length, ∃ entry, table.slots[j]? = some (some entry) := by
    intro j inside
    exact ⟨_, written j (by omega)⟩
  obtain ⟨k, searched, -, upper, hit, misses⟩ := search_spec object searchable
  have room : k + 1 + (front.length - (k + 1)) ≤ table.slots.length := by omega
  obtain ⟨shifted, moved, length, spec⟩ := shift_spec (Nat.succ_pos k) room
  let rest := List.ofFn fun j : Fin front.length =>
    if h : k ≤ j.val ∧ j.val + 1 < front.length then front[j.val + 1] else front[j.val]
  refine ⟨{ table with number := front.length, slots := shifted }, rest, ?_, ?_, ?_, ?_, ?_⟩
  · simp only [unregister, decremented, searched, moved, Option.bind_eq_bind, Option.bind_some]
    rfl
  · refine ⟨(List.length_ofFn).symm, by dsimp only; omega, length.trans allocated, ?_⟩
    intro j inside
    rw [List.length_ofFn] at inside
    dsimp only
    rw [spec j, List.getElem?_ofFn, dif_pos inside]
    by_cases later : k ≤ j ∧ j + 1 < front.length
    · rw [if_pos (by omega), dif_pos later, written (j + 1) later.2]
    · rw [if_neg (by omega), dif_neg later, written j inside]
  · exact List.length_ofFn
  · intro q member
    obtain ⟨j, rfl⟩ := List.mem_ofFn.mp member
    split <;> exact List.getElem_mem _
  · intro absent
    have last : ¬k < front.length := by
      intro inside
      have found := hit (by omega)
      rw [written k inside] at found
      exact absent (Option.some.inj (Option.some.inj found) ▸ List.getElem_mem inside)
    refine List.ext_getElem List.length_ofFn fun j inside inside' => ?_
    rw [List.getElem_ofFn, dif_neg (by dsimp only; omega)]

end OpenDevices

end LibPhantom
