import PhantomDrivers.LibPhantom.DeviceLifecycle

/-!
# The counters of the table of open devices

`OpenDevices` counts in natural numbers, and an access behind the array makes an
operation fail.  Here the counters are those of the code, of 32 bits, and every
access is recorded with the room the array had.  What the entries are worth does
not matter: `deviceIsOpen` may find anything behind a pointer.

* `DeviceArray` — the array, and what the constructor, the destructor and
  `deviceIsOpen` do with it.
* `objects` — the runs: objects are constructed and destroyed in any order.
* `CountersHold` — the counters say how many objects there are and how much room,
  and no access was outside.
* `countersHold_iff` — this holds as long as the counter of the allocated room does
  not overflow.
* `register_toTable`, `unregister_toTable` — until then, the array is the table
  that counts in natural numbers.
* `arrays_of_lifecycles` — and so in every run of the library: what holds of the
  tables there holds of the arrays.
-/

namespace LibPhantom

open Semantics

/-- An access to `open_devices`, and the number of pointers it had room for. -/
structure Access where
  index : UInt32
  capacity : Nat
deriving DecidableEq, Repr

/-- `open_devices` with its allocated memory, `number_of_open_devices` and
`max_open_devices`. -/
structure DeviceArray where
  number : UInt32
  max : UInt32
  /-- `none` where it was never written -/
  memory : List (Option Ptr)
deriving DecidableEq, Repr

namespace DeviceArray

/-- The array of a program that has just started. -/
def initial : DeviceArray := ⟨0, 2, [none, none]⟩

/-- The access `open_devices[i]`. -/
def access (array : DeviceArray) (i : UInt32) : Access := ⟨i, array.memory.length⟩

/-- The value of `open_devices[i]`; nothing is known about it outside. -/
def load (array : DeviceArray) (i : UInt32) : Option Ptr := array.memory[i.toNat]?.join

/-- `open_devices[i] = entry` -/
def store (array : DeviceArray) (i : UInt32) (entry : Option Ptr) : DeviceArray :=
  { array with memory := array.memory.set i.toNat entry }

/-- `realloc` to the given number of pointers. -/
def reallocate (memory : List (Option Ptr)) (room : Nat) : List (Option Ptr) :=
  memory.take room ++ List.replicate (room - memory.length) none

/-- `if (number_of_open_devices == max_open_devices) …` -/
def grow (array : DeviceArray) : DeviceArray :=
  if array.number = array.max then
    { array with
      max := array.max + 2
      memory := reallocate array.memory (array.max + 2).toNat }
  else array

/-- The constructor. -/
def construct (array : DeviceArray) (this : Ptr) : DeviceArray × List Access :=
  let array := array.grow
  ({ array.store array.number (some this) with number := array.number + 1 },
    [array.access array.number])

/-- The first loop of the destructor, with the given number of iterations left
at index `i`: the index it ends with. -/
def search (array : DeviceArray) (this : Ptr) : Nat → UInt32 → UInt32 × List Access
  | 0, i => (i, [])
  | n + 1, i =>
      if array.load i = some this then (i, [array.access i])
      else
        let (last, accesses) := search array this n (i + 1)
        (last, array.access i :: accesses)

/-- The second loop of the destructor, at index `i`. -/
def shift : Nat → UInt32 → DeviceArray → DeviceArray × List Access
  | 0, _, array => (array, [])
  | n + 1, i, array =>
      let (moved, accesses) := shift n (i + 1) (array.store (i - 1) (array.load i))
      (moved, array.access i :: array.access (i - 1) :: accesses)

/-- The destructor. -/
def destroy (array : DeviceArray) (this : Ptr) : DeviceArray × List Access :=
  let array := { array with number := array.number - 1 }
  let (i, searched) := array.search this array.number.toNat 0
  let i := i + 1
  let (array, moved) := shift (array.number.toNat - i.toNat) i array
  (array, searched ++ moved)

/-- The loop of `deviceIsOpen`, with the given number of iterations left at index
`i`.  The two comparisons follow a pointer, which may belong to an object that
was destroyed. -/
def findOpen (array : DeviceArray) (samePort sameNode : Option Ptr → Bool) :
    Nat → UInt32 → Bool × List Access
  | 0, _ => (false, [])
  | n + 1, i =>
      if samePort (array.load i) then
        if sameNode (array.load i) then (true, [array.access i, array.access i])
        else
          let (found, accesses) := findOpen array samePort sameNode n (i + 1)
          (found, array.access i :: array.access i :: accesses)
      else
        let (found, accesses) := findOpen array samePort sameNode n (i + 1)
        (found, array.access i :: accesses)

/-- `deviceIsOpen` -/
def deviceIsOpen (array : DeviceArray) (samePort sameNode : Option Ptr → Bool) :
    Bool × List Access :=
  array.findOpen samePort sameNode array.number.toNat 0

end DeviceArray

/-! ## Runs -/

/-- The objects that are alive, and all accesses so far. -/
structure Objects where
  array : DeviceArray
  live : Finset Ptr
  accesses : List Access

/-- A program that has just started. -/
def Objects.start : Objects := ⟨.initial, ∅, []⟩

/-- What a program does. -/
inductive ObjectAction where
  | construct (this : Ptr)
  | destroy (this : Ptr)
  | deviceIsOpen (samePort sameNode : Option Ptr → Bool)

/-- The steps: an object is constructed where none is alive, and destroyed while
it is alive. -/
def objectStep (s : Objects) : ObjectAction → Option Objects
  | .construct this =>
      if this ∈ s.live then none
      else
        let (array, accesses) := s.array.construct this
        some ⟨array, insert this s.live, s.accesses ++ accesses⟩
  | .destroy this =>
      if this ∈ s.live then
        let (array, accesses) := s.array.destroy this
        some ⟨array, s.live.erase this, s.accesses ++ accesses⟩
      else none
  | .deviceIsOpen samePort sameNode =>
      some { s with accesses := s.accesses ++ (s.array.deviceIsOpen samePort sameNode).2 }

/-- The runs. -/
def objects : System Objects ObjectAction := ⟨objectStep⟩

/-- All accesses are inside of the array. -/
def Inside (accesses : List Access) : Prop := ∀ a ∈ accesses, a.index.toNat < a.capacity

/-- The first counter says how many objects are alive, the second one how many
pointers there is room for, and no access was outside. -/
structure CountersHold (s : Objects) : Prop where
  number : s.array.number.toNat = s.live.card
  fits : s.array.number ≤ s.array.max
  capacity : s.array.memory.length = s.array.max.toNat
  inside : Inside s.accesses

theorem inside_nil : Inside [] := by
  intro a member
  cases member

theorem inside_cons {a : Access} {accesses : List Access} :
    Inside (a :: accesses) ↔ a.index.toNat < a.capacity ∧ Inside accesses :=
  List.forall_mem_cons

theorem inside_append {accesses accesses' : List Access} :
    Inside (accesses ++ accesses') ↔ Inside accesses ∧ Inside accesses' :=
  List.forall_mem_append

/-! ## What the operations access -/

namespace DeviceArray

variable {array : DeviceArray} {this : Ptr} {n : Nat} {i : UInt32} {entry : Option Ptr}

@[simp] theorem length_store : (array.store i entry).memory.length = array.memory.length :=
  List.length_set

theorem length_reallocate (memory : List (Option Ptr)) (room : Nat) :
    (reallocate memory room).length = room := by
  rw [reallocate, List.length_append, List.length_take, List.length_replicate]
  omega

theorem toNat_succ (small : i.toNat + 1 < 4294967296) : (i + 1).toNat = i.toNat + 1 := by
  rw [UInt32.toNat_add]
  exact Nat.mod_eq_of_lt small

theorem toNat_add_two (small : i.toNat < 4294967294) : (i + 2).toNat = i.toNat + 2 := by
  rw [UInt32.toNat_add]
  exact Nat.mod_eq_of_lt (by show _ + 2 < _; omega)

theorem toNat_pred (positive : 0 < i.toNat) : (i - 1).toNat = i.toNat - 1 :=
  UInt32.toNat_sub_of_le i 1 (UInt32.le_iff_toNat_le.mpr positive)

/-- The first loop stays inside, and so does the index it ends with. -/
theorem search_spec (this : Ptr) (inside : i.toNat + n ≤ array.memory.length)
    (small : i.toNat + n < 4294967296) :
    Inside (array.search this n i).2 ∧ i.toNat ≤ (array.search this n i).1.toNat ∧
      (array.search this n i).1.toNat ≤ i.toNat + n := by
  induction n generalizing i with
  | zero => exact ⟨inside_nil, Nat.le_refl _, Nat.le_refl _⟩
  | succ n ih =>
      have next : (i + 1).toNat = i.toNat + 1 := toNat_succ (by omega)
      have here : (array.access i).index.toNat < (array.access i).capacity := by
        show i.toNat < array.memory.length
        omega
      rw [search]
      split
      · exact ⟨inside_cons.mpr ⟨here, inside_nil⟩, Nat.le_refl _, Nat.le_add_right _ _⟩
      · obtain ⟨later, lower, upper⟩ := ih (i := i + 1) (by omega) (by omega)
        refine ⟨inside_cons.mpr ⟨here, later⟩, ?_, ?_⟩
        · show i.toNat ≤ (array.search this n (i + 1)).1.toNat
          omega
        · show (array.search this n (i + 1)).1.toNat ≤ _
          omega

/-- The second loop stays inside, and leaves everything but the entries alone. -/
theorem shift_spec (array : DeviceArray) (positive : 0 < i.toNat) (inside : i.toNat + n ≤ array.memory.length)
    (small : i.toNat + n < 4294967296) :
    Inside (shift n i array).2 ∧ (shift n i array).1.number = array.number ∧
      (shift n i array).1.max = array.max ∧
      (shift n i array).1.memory.length = array.memory.length := by
  induction n generalizing i array with
  | zero => exact ⟨inside_nil, rfl, rfl, rfl⟩
  | succ n ih =>
      have next : (i + 1).toNat = i.toNat + 1 := toNat_succ (by omega)
      have before := toNat_pred positive
      have room : (i + 1).toNat + n ≤ (array.store (i - 1) (array.load i)).memory.length := by
        rw [length_store]
        omega
      obtain ⟨later, number, max, length⟩ := ih _ (by omega) room (by omega)
      rw [length_store] at length
      refine ⟨inside_cons.mpr ⟨?_, inside_cons.mpr ⟨?_, later⟩⟩, number, max, length⟩
      · show i.toNat < array.memory.length
        omega
      · show (i - 1).toNat < array.memory.length
        omega

/-- The object after its counter was decremented. -/
def fewer (array : DeviceArray) : DeviceArray := { array with number := array.number - 1 }

/-- The index behind the one the first loop of the destructor ends with. -/
def behind (array : DeviceArray) (this : Ptr) : UInt32 :=
  (array.fewer.search this array.fewer.number.toNat 0).1 + 1

theorem destroy_eq (array : DeviceArray) (this : Ptr) : array.destroy this =
    ((shift (array.fewer.number.toNat - (array.behind this).toNat) (array.behind this)
        array.fewer).1,
      (array.fewer.search this array.fewer.number.toNat 0).2 ++
        (shift (array.fewer.number.toNat - (array.behind this).toNat) (array.behind this)
          array.fewer).2) := rfl

/-- Where there is an object, the decremented counter does not wrap, and the
second loop starts at a proper index. -/
theorem behind_spec (this : Ptr) (positive : 0 < array.number.toNat)
    (fits : array.number ≤ array.max) (capacity : array.memory.length = array.max.toNat) :
    array.fewer.number.toNat = array.number.toNat - 1 ∧
      Inside (array.fewer.search this array.fewer.number.toNat 0).2 ∧
      (array.behind this).toNat =
        (array.fewer.search this array.fewer.number.toNat 0).1.toNat + 1 ∧
      (array.behind this).toNat ≤ array.number.toNat := by
  have small := array.number.toNat_lt
  have bounded := UInt32.le_iff_toNat_le.mp fits
  have decremented : array.fewer.number.toNat = array.number.toNat - 1 := toNat_pred positive
  have inside : (0 : UInt32).toNat + array.fewer.number.toNat ≤ array.fewer.memory.length := by
    show 0 + array.fewer.number.toNat ≤ array.memory.length
    omega
  have inRange : (0 : UInt32).toNat + array.fewer.number.toNat < 4294967296 := by
    show 0 + array.fewer.number.toNat < _
    omega
  obtain ⟨searched, -, upper⟩ := search_spec this inside inRange
  rw [UInt32.toNat_zero, Nat.zero_add, decremented] at upper
  have next : (array.behind this).toNat =
      (array.fewer.search this array.fewer.number.toNat 0).1.toNat + 1 := by
    refine toNat_succ ?_
    rw [decremented]
    omega
  refine ⟨decremented, searched, next, ?_⟩
  rw [next, decremented]
  omega

/-- `deviceIsOpen` stays inside. -/
theorem findOpen_spec (samePort sameNode : Option Ptr → Bool)
    (inside : i.toNat + n ≤ array.memory.length) (small : i.toNat + n < 4294967296) :
    Inside (array.findOpen samePort sameNode n i).2 := by
  induction n generalizing i with
  | zero => exact inside_nil
  | succ n ih =>
      have next : (i + 1).toNat = i.toNat + 1 := toNat_succ (by omega)
      have here : (array.access i).index.toNat < (array.access i).capacity := by
        show i.toNat < array.memory.length
        omega
      have later := ih (i := i + 1) (by omega) (by omega)
      rw [findOpen]
      split
      · split
        · exact inside_cons.mpr ⟨here, inside_cons.mpr ⟨here, inside_nil⟩⟩
        · exact inside_cons.mpr ⟨here, inside_cons.mpr ⟨here, later⟩⟩
      · exact inside_cons.mpr ⟨here, later⟩

/-- A full array grows, as long as its counter does not overflow. -/
theorem grow_spec (fits : array.number ≤ array.max)
    (capacity : array.memory.length = array.max.toNat)
    (small : array.number.toNat < 4294967294) :
    array.grow.number = array.number ∧ array.number.toNat < array.grow.max.toNat ∧
      array.grow.memory.length = array.grow.max.toNat := by
  unfold grow
  split
  · next full =>
      refine ⟨rfl, ?_, length_reallocate _ _⟩
      show array.number.toNat < (array.max + 2).toNat
      rw [full] at small
      rw [toNat_add_two small, full]
      omega
  · next room =>
      rw [UInt32.le_iff_toNat_le] at fits
      have different : array.number.toNat ≠ array.max.toNat := fun same =>
        room (UInt32.toNat_inj.mp same)
      exact ⟨rfl, by omega, capacity⟩

/-- The allocated room stays an even number, even if its counter overflows. -/
theorem even_grow (even : array.max.toNat % 2 = 0) : array.grow.max.toNat % 2 = 0 := by
  unfold grow
  split
  · show (array.max + 2).toNat % 2 = 0
    rw [UInt32.toNat_add]
    show (array.max.toNat + 2) % 4294967296 % 2 = 0
    omega
  · exact even

theorem max_shift : (shift n i array).1.max = array.max := by
  induction n generalizing i array with
  | zero => rfl
  | succ n ih => exact ih

end DeviceArray

/-! ## The runs -/

section Runs

variable {s s' : Objects} {a : ObjectAction} {actions : List ObjectAction} {this : Ptr}

/-- What a step does. -/
theorem objects_step_cases (stepped : objects.step s a = some s') :
    (∃ this, a = .construct this ∧ this ∉ s.live ∧
        s' = ⟨(s.array.construct this).1, insert this s.live,
          s.accesses ++ (s.array.construct this).2⟩) ∨
      (∃ this, a = .destroy this ∧ this ∈ s.live ∧
        s' = ⟨(s.array.destroy this).1, s.live.erase this,
          s.accesses ++ (s.array.destroy this).2⟩) ∨
      ∃ samePort sameNode, a = .deviceIsOpen samePort sameNode ∧
        s' = { s with accesses := s.accesses ++ (s.array.deviceIsOpen samePort sameNode).2 } := by
  cases a with
  | construct this =>
      change objectStep s (.construct this) = some s' at stepped
      rw [objectStep] at stepped
      split at stepped
      · cases stepped
      · next new => exact .inl ⟨this, rfl, new, (Option.some.inj stepped).symm⟩
  | destroy this =>
      change objectStep s (.destroy this) = some s' at stepped
      rw [objectStep] at stepped
      split at stepped
      · next live => exact .inr (.inl ⟨this, rfl, live, (Option.some.inj stepped).symm⟩)
      · cases stepped
  | deviceIsOpen samePort sameNode =>
      exact .inr (.inr ⟨samePort, sameNode, rfl, (Option.some.inj stepped).symm⟩)

/-- There is room for an even number of pointers. -/
def EvenRoom (s : Objects) : Prop := s.array.max.toNat % 2 = 0

theorem evenRoom_step (even : EvenRoom s) (stepped : objects.step s a = some s') : EvenRoom s' := by
  rcases objects_step_cases stepped with
    ⟨this, rfl, -, rfl⟩ | ⟨this, rfl, -, rfl⟩ | ⟨samePort, sameNode, rfl, rfl⟩
  · exact DeviceArray.even_grow even
  · show (DeviceArray.shift _ _ _).1.max.toNat % 2 = 0
    rw [DeviceArray.max_shift]
    exact even
  · exact even

theorem evenRoom_run (reached : objects.run .start actions = some s) : EvenRoom s :=
  System.run_induction (show EvenRoom .start from rfl)
    (fun _ _ _ even stepped => evenRoom_step even stepped) reached

/-- The counters cannot count more objects than this. -/
theorem CountersHold.card_le (holds : CountersHold s) (even : EvenRoom s) :
    s.live.card ≤ 4294967294 := by
  have fits := UInt32.le_iff_toNat_le.mp holds.fits
  have small := s.array.max.toNat_lt
  rw [holds.number] at fits
  rw [EvenRoom] at even
  omega

theorem countersHold_construct (holds : CountersHold s) (new : this ∉ s.live)
    (small : (insert this s.live).card ≤ 4294967294) :
    CountersHold ⟨(s.array.construct this).1, insert this s.live,
      s.accesses ++ (s.array.construct this).2⟩ := by
  obtain ⟨number, fits, capacity, inside⟩ := holds
  rw [Finset.card_insert_of_notMem new] at small
  obtain ⟨same, room, length⟩ := DeviceArray.grow_spec fits capacity (by rw [number]; omega)
  have counted : (s.array.grow.number + 1).toNat = s.live.card + 1 := by
    rw [same, DeviceArray.toNat_succ (by rw [number]; omega), number]
  refine ⟨?_, ?_, ?_, inside_append.mpr ⟨inside, inside_cons.mpr ⟨?_, inside_nil⟩⟩⟩
  · show (s.array.grow.number + 1).toNat = _
    rw [counted, Finset.card_insert_of_notMem new]
  · rw [UInt32.le_iff_toNat_le]
    show (s.array.grow.number + 1).toNat ≤ s.array.grow.max.toNat
    omega
  · show (s.array.grow.store _ _).memory.length = _
    rw [DeviceArray.length_store]
    exact length
  · show s.array.grow.number.toNat < s.array.grow.memory.length
    rw [same, length]
    exact room

theorem countersHold_destroy (holds : CountersHold s) (live : this ∈ s.live) :
    CountersHold ⟨(s.array.destroy this).1, s.live.erase this,
      s.accesses ++ (s.array.destroy this).2⟩ := by
  obtain ⟨number, fits, capacity, inside⟩ := holds
  have positive : 0 < s.live.card := Finset.card_pos.mpr ⟨this, live⟩
  have small := s.array.number.toNat_lt
  have bounded := UInt32.le_iff_toNat_le.mp fits
  obtain ⟨decremented, searched, next, below⟩ :=
    DeviceArray.behind_spec this (by omega) fits capacity
  have within : (s.array.behind this).toNat +
      (s.array.fewer.number.toNat - (s.array.behind this).toNat) ≤ s.array.number.toNat := by
    omega
  obtain ⟨moved, sameNumber, sameMax, length⟩ := s.array.fewer.shift_spec (by omega)
    (within.trans (by show _ ≤ s.array.memory.length; omega)) (by omega)
  rw [DeviceArray.destroy_eq]
  refine ⟨?_, ?_, ?_, inside_append.mpr ⟨inside, inside_append.mpr ⟨searched, moved⟩⟩⟩
  · rw [sameNumber, decremented, number, Finset.card_erase_of_mem live]
  · rw [UInt32.le_iff_toNat_le, sameNumber, sameMax, decremented]
    show _ ≤ s.array.max.toNat
    omega
  · rw [length, sameMax]
    exact capacity

/-- `deviceIsOpen` changes nothing but the record. -/
theorem countersHold_deviceIsOpen (holds : CountersHold s) (samePort sameNode : Option Ptr → Bool) :
    CountersHold
      { s with accesses := s.accesses ++ (s.array.deviceIsOpen samePort sameNode).2 } := by
  have fits := UInt32.le_iff_toNat_le.mp holds.fits
  have inside : (0 : UInt32).toNat + s.array.number.toNat ≤ s.array.memory.length := by
    rw [holds.capacity, UInt32.toNat_zero, Nat.zero_add]
    exact fits
  have inRange : (0 : UInt32).toNat + s.array.number.toNat < 4294967296 := by
    rw [UInt32.toNat_zero, Nat.zero_add]
    exact s.array.number.toNat_lt
  have accesses := DeviceArray.findOpen_spec samePort sameNode inside inRange
  exact { holds with inside := inside_append.mpr ⟨holds.inside, accesses⟩ }

/-- A step keeps the counters right, if not too many objects are alive after
it. -/
theorem countersHold_step (holds : CountersHold s) (stepped : objects.step s a = some s')
    (small : s'.live.card ≤ 4294967294) : CountersHold s' := by
  rcases objects_step_cases stepped with
    ⟨this, rfl, new, rfl⟩ | ⟨this, rfl, live, rfl⟩ | ⟨samePort, sameNode, rfl, rfl⟩
  · exact countersHold_construct holds new small
  · exact countersHold_destroy holds live
  · exact countersHold_deviceIsOpen holds samePort sameNode

theorem countersHold_start : CountersHold .start where
  number := rfl
  fits := by decide
  capacity := rfl
  inside := inside_nil

/-- **The counters.**  Whatever is constructed, destroyed and asked for, the
counters are right and all accesses are inside all along the run if and only if
never more than 4294967294 objects are alive at the same time. -/
theorem countersHold_iff (actions : List ObjectAction) :
    objects.Always CountersHold .start actions ↔
      objects.Always (fun s => s.live.card ≤ 4294967294) .start actions := by
  constructor
  · intro always
    refine System.always_iff_prefix.mpr fun before isPrefix s reached => ?_
    have holds := System.always_iff_prefix.mp always before isPrefix s reached
    exact holds.card_le (evenRoom_run reached)
  · intro always
    refine System.always_of_stepsMeet countersHold_start (fun _ holds => holds) ?_
      (System.stepsMeet_of_always always)
    intro s a s' holds small stepped
    exact countersHold_step holds stepped (small s' stepped)

/-- So many objects in a row. -/
theorem run_construct (n : Nat) : ∃ s,
    objects.run .start ((List.range n).map .construct) = some s ∧ s.live = Finset.range n := by
  induction n with
  | zero => exact ⟨.start, rfl, rfl⟩
  | succ n ih =>
      obtain ⟨s, reached, live⟩ := ih
      have new : n ∉ s.live := by
        rw [live]
        exact Finset.notMem_range_self
      let s' : Objects := ⟨(s.array.construct n).1, insert n s.live,
        s.accesses ++ (s.array.construct n).2⟩
      have stepped : objects.step s (.construct n) = some s' := if_neg new
      refine ⟨s', ?_, ?_⟩
      · rw [List.range_succ, List.map_append, System.run_append, reached, Option.bind_some]
        exact System.run_cons_eq_some.mpr ⟨_, stepped, rfl⟩
      · show insert n s.live = _
        rw [live, Finset.range_add_one]

/-- With 4294967295 objects alive, the counter of the allocated room has
overflowed. -/
theorem counters_overflow : ¬∀ (actions : List ObjectAction) (s : Objects),
    objects.run .start actions = some s → CountersHold s := by
  intro hold
  obtain ⟨s, reached, live⟩ := run_construct 4294967295
  have small := (hold _ s reached).card_le (evenRoom_run reached)
  rw [live, Finset.card_range] at small
  exact absurd small (by decide)

end Runs

/-! ## The table that counts in natural numbers -/

namespace DeviceArray

variable {array : DeviceArray} {n : Nat} {i : UInt32}

/-- The array with its counters as natural numbers. -/
def toTable (array : DeviceArray) : OpenDevices :=
  ⟨array.number.toNat, array.max.toNat, array.memory⟩

theorem toTable_grow (capacity : array.memory.length = array.max.toNat)
    (small : array.number.toNat < 4294967294) : array.grow.toTable = array.toTable.grow := by
  have same : array.toTable.number = array.toTable.max ↔ array.number = array.max :=
    UInt32.toNat_inj
  unfold grow OpenDevices.grow
  by_cases full : array.number = array.max
  · have grown : (array.max + 2).toNat = array.max.toNat + 2 := toNat_add_two (full ▸ small)
    have kept : reallocate array.memory (array.max.toNat + 2) = array.memory ++ [none, none] := by
      rw [reallocate, List.take_of_length_le (by omega), capacity, Nat.add_sub_cancel_left]
      rfl
    rw [if_pos full, if_pos (same.mpr full)]
    show OpenDevices.mk _ (array.max + 2).toNat (reallocate array.memory (array.max + 2).toNat) = _
    rw [grown, kept]
    rfl
  · rw [if_neg full, if_neg (fun equal => full (same.mp equal))]

/-- The constructor enters its object as `register` does. -/
theorem register_toTable {entries : List Ptr} (lists : array.toTable.Lists entries)
    (small : array.number.toNat < 4294967294) (this : Ptr) :
    array.toTable.register this = some (array.construct this).1.toTable := by
  have fits : array.number ≤ array.max := UInt32.le_iff_toNat_le.mpr lists.fits
  obtain ⟨same, room, length⟩ := grow_spec fits lists.allocated small
  have inside : array.grow.toTable.number < array.grow.toTable.slots.length := by
    show array.grow.number.toNat < array.grow.memory.length
    rw [same, length]
    exact room
  have next : (array.grow.number + 1).toNat = array.grow.number.toNat + 1 :=
    toNat_succ (by rw [same]; omega)
  rw [OpenDevices.register, ← toTable_grow lists.allocated small]
  refine (if_pos inside).trans (congrArg some ?_)
  show OpenDevices.mk (array.grow.number.toNat + 1) _ _ = OpenDevices.mk _ _ _
  rw [← next]
  rfl

theorem search_toTable (array : DeviceArray) (this : Ptr) (small : i.toNat + n < 4294967296)
    (written : ∀ j < i.toNat + n, ∃ entry, array.memory[j]? = some (some entry)) :
    OpenDevices.search array.memory this n i.toNat = some (array.search this n i).1.toNat := by
  induction n generalizing i with
  | zero => rfl
  | succ n ih =>
      obtain ⟨entry, here⟩ := written i.toNat (by omega)
      have loaded : array.load i = some entry := by
        rw [load, here]
        rfl
      have next : (i + 1).toNat = i.toNat + 1 := toNat_succ (by omega)
      rw [OpenDevices.search, search, here, loaded]
      by_cases found : entry = this
      · rw [if_pos (congrArg some found)]
        exact if_pos found
      · rw [if_neg fun same => found (Option.some.inj same)]
        have later := ih (i := i + 1) (by omega) fun j inside => written j (by omega)
        rw [next] at later
        exact (if_neg found).trans later

theorem shift_toTable (array : DeviceArray) (positive : 0 < i.toNat) (small : i.toNat + n < 4294967296)
    (inside : i.toNat + n ≤ array.memory.length) :
    OpenDevices.shift n i.toNat array.memory = some (shift n i array).1.memory := by
  induction n generalizing i array with
  | zero => rfl
  | succ n ih =>
      have next : (i + 1).toNat = i.toNat + 1 := toNat_succ (by omega)
      have before := toNat_pred positive
      have there : array.memory[i.toNat]? = some (array.load i) := by
        rw [load, List.getElem?_eq_getElem (by omega)]
        rfl
      have room : (i + 1).toNat + n ≤ (array.store (i - 1) (array.load i)).memory.length := by
        rw [length_store]
        omega
      have later := ih (array.store (i - 1) (array.load i)) (by omega) (by omega) room
      rw [next] at later
      rw [OpenDevices.shift, there, ← before]
      exact later

/-- The destructor takes its object out as `unregister` does. -/
theorem unregister_toTable {entries : List Ptr} (lists : array.toTable.Lists entries)
    (positive : 0 < array.number.toNat) (this : Ptr) :
    array.toTable.unregister this = some (array.destroy this).1.toTable := by
  have capacity : array.memory.length = array.max.toNat := lists.allocated
  have bounded : array.number.toNat ≤ array.max.toNat := lists.fits
  have small := array.max.toNat_lt
  have written (j : Nat) (inside : j < array.number.toNat) :
      ∃ entry, array.memory[j]? = some (some entry) := by
    have below : j < entries.length := lists.number ▸ inside
    exact ⟨entries[j], (lists.entry j below).trans (by rw [List.getElem?_eq_getElem below])⟩
  obtain ⟨decremented, -, next, below⟩ :=
    behind_spec this positive (UInt32.le_iff_toNat_le.mpr bounded) capacity
  have same : OpenDevices.decrement array.number.toNat = array.fewer.number.toNat := by
    rw [OpenDevices.decrement, if_neg (by omega), decremented]
  have searched : OpenDevices.search array.memory this array.fewer.number.toNat 0 =
      some (array.fewer.search this array.fewer.number.toNat 0).1.toNat := by
    have inRange : (0 : UInt32).toNat + array.fewer.number.toNat < 4294967296 := by
      rw [UInt32.toNat_zero]
      omega
    refine search_toTable array.fewer this inRange fun j inside => written j ?_
    rw [UInt32.toNat_zero] at inside
    omega
  have within : (array.behind this).toNat +
      (array.fewer.number.toNat - (array.behind this).toNat) ≤ array.fewer.memory.length := by
    show _ ≤ array.memory.length
    omega
  have moved := shift_toTable array.fewer (by omega) (by omega) within
  obtain ⟨-, sameNumber, sameMax, -⟩ := array.fewer.shift_spec (by omega) within (by omega)
  rw [next] at moved
  have result : (array.destroy this).1.toTable =
      ⟨array.fewer.number.toNat, array.max.toNat, (array.destroy this).1.memory⟩ := by
    rw [toTable, destroy_eq, sameNumber, sameMax]
    rfl
  rw [result, destroy_eq, next]
  simp only [OpenDevices.unregister, toTable, same, searched, Option.bind_eq_bind,
    Option.bind_some]
  exact congrArg (Option.bind · _) moved

end DeviceArray

/-- The array lists some objects, as the table that counts in natural numbers
does. -/
theorem lists_step {s s' : Objects} {a : ObjectAction} (holds : CountersHold s)
    (lists : ∃ entries, s.array.toTable.Lists entries) (stepped : objects.step s a = some s')
    (small : s'.live.card ≤ 4294967294) : ∃ entries, s'.array.toTable.Lists entries := by
  obtain ⟨entries, lists⟩ := lists
  rcases objects_step_cases stepped with
    ⟨this, rfl, new, rfl⟩ | ⟨this, rfl, live, rfl⟩ | ⟨samePort, sameNode, rfl, rfl⟩
  · have few : s.array.number.toNat < 4294967294 := by
      rw [Finset.card_insert_of_notMem new] at small
      rw [holds.number]
      exact small
    obtain ⟨table, registered, lists'⟩ := OpenDevices.register_spec lists this
    rw [DeviceArray.register_toTable lists few] at registered
    cases registered
    exact ⟨_, lists'⟩
  · have positive : 0 < s.array.number.toNat := by
      rw [holds.number]
      exact Finset.card_pos.mpr ⟨this, live⟩
    have number : s.array.number.toNat = entries.length := lists.number
    rcases List.eq_nil_or_concat' entries with rfl | ⟨front, last, rfl⟩
    · exact absurd number (Nat.ne_of_gt positive)
    · obtain ⟨table, rest, unregistered, lists', -⟩ := OpenDevices.unregister_spec lists this
      rw [DeviceArray.unregister_toTable lists positive] at unregistered
      cases unregistered
      exact ⟨rest, lists'⟩
  · exact ⟨entries, lists⟩

/-- In a run without too many objects the array is one that `OpenDevices` knows,
with as many entries as there are objects. -/
theorem lists_of_run {actions : List ObjectAction} {s : Objects}
    (few : objects.Always (fun s => s.live.card ≤ 4294967294) .start actions)
    (reached : objects.run .start actions = some s) :
    ∃ entries, s.array.toTable.Lists entries ∧ entries.length = s.live.card := by
  have invariant : CountersHold s ∧ ∃ entries, s.array.toTable.Lists entries := by
    refine System.run_induction_of_steps (P := fun s =>
      CountersHold s ∧ ∃ entries, s.array.toTable.Lists entries)
      ⟨countersHold_start, [], OpenDevices.lists_initial⟩ ?_ (System.stepsMeet_of_always few) reached
    rintro s a s' ⟨holds, lists⟩ small stepped
    exact ⟨countersHold_step holds stepped (small s' stepped),
      lists_step holds lists stepped (small s' stepped)⟩
  obtain ⟨holds, entries, lists⟩ := invariant
  exact ⟨entries, lists, lists.number.symm.trans holds.number⟩

/-! ## The table of the library -/

/-- What an action on devices does to the array. -/
inductive Enters : DeviceAction → ObjectAction → Prop
  | construct (port : Nat) (node : UInt16) (this : Ptr) :
      Enters (.construct port node) (.construct this)
  | destroy (this : Ptr) : Enters (.destroy this) (.destroy this)

variable {β : Type} {host : Raw1394.Host} {s s' : Library β} {o : Objects} {a : DeviceAction}

/-- The array is the table of the library, and its objects are the devices. -/
structure Backs (s : Library β) (o : Objects) : Prop where
  table : o.array.toTable = s.openDevices
  live : o.live = s.devices.live.toFinset
  lists : ∃ entries, o.array.toTable.Lists entries
  counters : CountersHold o

theorem backs_initial (bus : β) : Backs (Library.initial bus) .start where
  table := rfl
  live := rfl
  lists := ⟨[], OpenDevices.lists_initial⟩
  counters := countersHold_start

/-- After a step of both that agrees, the array is still the table. -/
theorem Backs.after {o' : Objects} {b : ObjectAction} (backs : Backs s o)
    (stepped : objects.step o b = some o') (table : o'.array.toTable = s'.openDevices)
    (live : o'.live = s'.devices.live.toFinset)
    (few : s'.devices.live.length ≤ 4294967294) : Backs s' o' := by
  have small : o'.live.card ≤ 4294967294 := by
    rwa [live, List.toFinset_card_of_nodup s'.devices.live_nodup]
  exact ⟨table, live, lists_step backs.counters backs.lists stepped small,
    countersHold_step backs.counters stepped small⟩

/-- The objects of the array are the devices there are. -/
theorem Backs.mem_live (backs : Backs s o) {p : Ptr} : p ∈ o.live ↔ ∃ d, s.devices p = some d := by
  rw [backs.live, List.mem_toFinset, Heap.mem_live]

/-- The counter holds the number of devices. -/
theorem Backs.number (backs : Backs s o) : o.array.number.toNat = s.devices.live.length := by
  rw [backs.counters.number, backs.live, List.toFinset_card_of_nodup s.devices.live_nodup]

/-- The constructor of a device is one of an object, unless there are too many. -/
theorem Backs.construct {port : Nat} {node : UInt16} (backs : Backs s o)
    (stepped : (lifecycles host).step s (.construct port node) = some s')
    (few : s'.devices.live.length ≤ 4294967294) :
    ∃ this o', objects.step o (.construct this) = some o' ∧ Backs s' o' := by
  obtain ⟨entries, lists⟩ := backs.lists
  have next : (s.devices.alloc (s.constructed host port node)).live =
      s.devices.live ++ [s.devices.next] := Heap.live_alloc
  obtain ⟨table, registered, -⟩ := OpenDevices.register_spec lists s.devices.next
  rw [backs.table] at registered
  simp only [lifecycles, Library.newDevice_eq registered, Outcome.state?_returned,
    Option.some.injEq] at stepped
  obtain rfl := stepped
  have room : o.array.number.toNat < 4294967294 := by
    have counted : (s.devices.alloc (s.constructed host port node)).live.length ≤ 4294967294 :=
      few
    rw [next, List.length_append] at counted
    rw [backs.number]
    exact counted
  have entered := DeviceArray.register_toTable lists room s.devices.next
  rw [backs.table, registered] at entered
  have new : s.devices.next ∉ o.live := fun member => by
    obtain ⟨d, there⟩ := backs.mem_live.mp member
    exact Nat.lt_irrefl _ (Heap.lt_next there)
  have stepped : objects.step o (.construct s.devices.next) = some _ := if_neg new
  refine ⟨s.devices.next, _, stepped, backs.after stepped (Option.some.inj entered).symm ?_ few⟩
  show insert s.devices.next o.live =
    (s.devices.alloc (s.constructed host port node)).live.toFinset
  rw [next, backs.live, List.toFinset_append, Finset.union_comm]
  rfl

/-- The destructor of a device is one of an object. -/
theorem Backs.destroy {p : Ptr} (backs : Backs s o)
    (stepped : (lifecycles host).step s (.destroy p) = some s')
    (few : s'.devices.live.length ≤ 4294967294) :
    ∃ o', objects.step o (.destroy p) = some o' ∧ Backs s' o' := by
  obtain ⟨entries, lists⟩ := backs.lists
  simp only [lifecycles] at stepped
  split at stepped
  · next present =>
      obtain ⟨d, there⟩ := Option.isSome_iff_exists.mp present
      have member : p ∈ o.live := backs.mem_live.mpr ⟨d, there⟩
      have positive : 0 < o.array.number.toNat := by
        rw [backs.counters.number]
        exact Finset.card_pos.mpr ⟨p, member⟩
      have left := DeviceArray.unregister_toTable lists positive p
      rw [backs.table] at left
      rw [Library.deleteDevice_eq there left] at stepped
      obtain rfl := Option.some.inj stepped
      have stepped : objects.step o (.destroy p) = some _ := if_pos member
      refine ⟨_, stepped, backs.after stepped rfl ?_ few⟩
      show o.live.erase p = (s.devices.free p).live.toFinset
      ext q
      simp [Heap.live_free, backs.live, and_comm]
  · cases stepped

/-- A construction or a destruction in the library is one in the array, unless
there are too many devices. -/
theorem Backs.step (backs : Backs s o) (stepped : (lifecycles host).step s a = some s')
    (few : s'.devices.live.length ≤ 4294967294) :
    ∃ b o', Enters a b ∧ objects.step o b = some o' ∧ Backs s' o' := by
  cases a with
  | construct port node =>
      obtain ⟨this, o', entered, backs'⟩ := backs.construct stepped few
      exact ⟨_, o', .construct port node this, entered, backs'⟩
  | destroy p =>
      obtain ⟨o', left, backs'⟩ := backs.destroy stepped few
      exact ⟨_, o', .destroy p, left, backs'⟩

/-- **The counters along the runs of the library.**  As long as never more than
4294967294 devices are alive, the tables of a run are the arrays of a run that
counts in 32 bits. -/
theorem arrays_of_lifecycles {bus : β} {actions : List DeviceAction}
    (few : (lifecycles host).Always (fun s => s.devices.live.length ≤ 4294967294)
      (Library.initial bus) actions)
    (reached : (lifecycles host).run (Library.initial bus) actions = some s) :
    ∃ others o, List.Forall₂ Enters actions others ∧ objects.run .start others = some o ∧
      Backs s o := by
  refine System.run_matched (R := Backs) (backs_initial bus) ?_ (System.stepsMeet_of_always few)
    reached
  exact fun s o a s' backs small stepped => backs.step stepped (small s' stepped)

end LibPhantom
