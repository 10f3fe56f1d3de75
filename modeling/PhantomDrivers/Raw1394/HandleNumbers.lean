import PhantomDrivers.Semantics.Runs

/-!
# Handle numbers in the trace log

The patch for libraw1394 makes it write a log of its calls.  A handle is a
pointer, and `malloc` decides what it is; so that the logs of two runs can be
compared, `trace.c` keeps a table that turns handles into numbers, and the log
shows the numbers.

The texts of the log and its indentation are left out.

* `HandleTable` — the table, with `getHandleNumber` and `removeHandleNumber`.
* `TracedCall`, `tracing` — a program that creates, uses and destroys handles,
  and the numbers its log shows.  The addresses of its handles are a parameter.
* `numberOf` — the number of a handle, without an address.
* `Numbered` — the table of a program, whatever its addresses are.
* `logs_agree` — the logs of two runs show the same numbers.
-/

namespace Raw1394

open Semantics

/-! ## The table -/

/-- The value of a pointer; 0 is the null pointer. -/
abbrev Address : Type := Nat

/-- `struct handle_conversion` -/
structure HandleConversion where
  handle : Address
  active : Bool
deriving DecidableEq, Repr

/-- The length of `handles`. -/
def MAX_NUMBER_OF_HANDLES : Nat := 256

/-- `handles`, up to `next_handle_number`. -/
structure HandleTable where
  handles : List HandleConversion
  fits : handles.length ≤ MAX_NUMBER_OF_HANDLES

namespace HandleTable

/-- The table of a program that has just started. -/
def empty : HandleTable := ⟨[], Nat.zero_le _⟩

/-- `next_handle_number` -/
def nextHandleNumber (table : HandleTable) : Nat := table.handles.length

/-- The search for an active entry of a handle. -/
def find (table : HandleTable) (handle : Address) : Option Nat :=
  table.handles.findIdx? fun entry => entry.handle == handle && entry.active

/-- `get_handle_number` -/
def getHandleNumber (table : HandleTable) (handle : Address) : Int × HandleTable :=
  match table.find handle with
  | some i => (i, table)
  | none =>
      if full : table.handles.length = MAX_NUMBER_OF_HANDLES then (-1, table)
      else
        (table.handles.length,
          { handles := table.handles ++ [⟨handle, true⟩]
            fits := by
              rw [List.length_append]
              exact Nat.lt_of_le_of_ne table.fits full })

/-- `remove_handle_number`: the numbers it logs.  It complains about a handle it
does not find, by its number. -/
def removeHandleNumber (table : HandleTable) (handle : Address) : List Int × HandleTable :=
  match table.find handle with
  | some i =>
      ([], { handles := table.handles.modify i fun entry => { entry with active := false }
             fits := by
               rw [List.length_modify]
               exact table.fits })
  | none => ([(table.getHandleNumber handle).1], (table.getHandleNumber handle).2)

variable {table : HandleTable} {handle : Address} {i : Nat}

theorem getHandleNumber_of_found (found : table.find handle = some i) :
    table.getHandleNumber handle = (↑i, table) := by
  rw [getHandleNumber, found]

theorem getHandleNumber_of_full (absent : table.find handle = none)
    (full : table.handles.length = MAX_NUMBER_OF_HANDLES) :
    table.getHandleNumber handle = (-1, table) := by
  rw [getHandleNumber, absent]
  exact dif_pos full

/-- A handle that is not in the table gets the next number. -/
theorem getHandleNumber_of_room (absent : table.find handle = none)
    (room : table.handles.length < MAX_NUMBER_OF_HANDLES) :
    ∃ table', table.getHandleNumber handle = (↑table.handles.length, table') ∧
      table'.handles = table.handles ++ [⟨handle, true⟩] := by
  rw [getHandleNumber, absent]
  exact ⟨_, dif_neg (Nat.ne_of_lt room), rfl⟩

theorem removeHandleNumber_of_found (found : table.find handle = some i) :
    ∃ table', table.removeHandleNumber handle = ([], table') ∧
      table'.handles = table.handles.modify i fun entry => { entry with active := false } := by
  rw [removeHandleNumber, found]
  exact ⟨_, rfl, rfl⟩

theorem removeHandleNumber_of_full (absent : table.find handle = none)
    (full : table.handles.length = MAX_NUMBER_OF_HANDLES) :
    table.removeHandleNumber handle = ([-1], table) := by
  rw [removeHandleNumber, absent]
  simp only [getHandleNumber_of_full absent full]

end HandleTable

/-! ## Programs -/

/-- What a program does.  Handles are named by the order of their creation. -/
inductive TracedCall where
  /-- `raw1394_new_handle` or `raw1394_new_handle_on_port` -/
  | newHandle
  /-- a call that logs its handle -/
  | use (h : Nat)
  /-- `raw1394_destroy_handle` -/
  | destroyHandle (h : Nat)
deriving DecidableEq, Repr

/-- A program: the table, the handles, and the log of their numbers. -/
structure Traced where
  table : HandleTable
  created : Nat
  live : Finset Nat
  log : List (Nat × Int)

/-- A program that has just started. -/
def Traced.start : Traced := ⟨.empty, 0, ∅, []⟩

/-- The steps.  A new handle gets an address that no live handle has. -/
def tracedStep (address : Nat → Address) (s : Traced) : TracedCall → Option Traced
  | .newHandle =>
      if address s.created ≠ 0 ∧ ∀ h ∈ s.live, address h ≠ address s.created then
        let (number, table) := s.table.getHandleNumber (address s.created)
        some
          { table
            created := s.created + 1
            live := insert s.created s.live
            log := s.log ++ [(s.created, number)] }
      else none
  | .use h =>
      if h ∈ s.live then
        let (number, table) := s.table.getHandleNumber (address h)
        some { s with table, log := s.log ++ [(h, number)] }
      else none
  | .destroyHandle h =>
      if h ∈ s.live then
        let (number, table) := s.table.getHandleNumber (address h)
        let (complaint, table) := table.removeHandleNumber (address h)
        some
          { s with
            table
            live := s.live.erase h
            log := s.log ++ (number :: complaint).map fun number => (h, number) }
      else none

/-- The runs of programs whose handles have these addresses. -/
def tracing (address : Nat → Address) : System Traced TracedCall := ⟨tracedStep address⟩

/-! ## Numbers without addresses -/

/-- The number of the `h`-th handle. -/
def numberOf (h : Nat) : Int := if h < MAX_NUMBER_OF_HANDLES then h else -1

/-- What a call logs, after so many handles were created. -/
def logged (created : Nat) : TracedCall → List (Nat × Int)
  | .newHandle => [(created, numberOf created)]
  | .use h => [(h, numberOf h)]
  | .destroyHandle h =>
      if h < MAX_NUMBER_OF_HANDLES then [(h, numberOf h)] else [(h, numberOf h), (h, numberOf h)]

/-- What a call does to the number of created handles and to the log. -/
def appendLogged (view : Nat × List (Nat × Int)) (call : TracedCall) : Nat × List (Nat × Int) :=
  (if call = .newHandle then view.1 + 1 else view.1, view.2 ++ logged view.1 call)

/-- The log shows the numbers of handles that were created. -/
def LogsNumbers (created : Nat) (log : List (Nat × Int)) : Prop :=
  ∀ line ∈ log, line.1 < created ∧ line.2 = numberOf line.1

theorem LogsNumbers.append {created created' h : Nat} {log lines : List (Nat × Int)}
    (logs : LogsNumbers created log) (grows : created ≤ created') (inside : h < created')
    (only : ∀ line ∈ lines, line = (h, numberOf h)) : LogsNumbers created' (log ++ lines) := by
  refine List.forall_mem_append.mpr ⟨fun line old => ?_, fun line new => ?_⟩
  · exact ⟨Nat.lt_of_lt_of_le (logs line old).1 grows, (logs line old).2⟩
  · rw [only line new]
    exact ⟨inside, rfl⟩

/-- The table of a program: the first handles have entries, in the order of
their creation, and the live ones among them are active.  No two live handles
share an address. -/
structure Numbered (address : Nat → Address) (s : Traced) : Prop where
  length : s.table.handles.length = min s.created MAX_NUMBER_OF_HANDLES
  entry : ∀ h < s.table.handles.length, ∃ active, s.table.handles[h]? = some ⟨address h, active⟩ ∧
    (active = true ↔ h ∈ s.live)
  older : ∀ h ∈ s.live, h < s.created
  apart : ∀ h ∈ s.live, ∀ h' ∈ s.live, address h = address h' → h = h'
  logs : LogsNumbers s.created s.log

theorem numbered_start (address : Nat → Address) : Numbered address .start where
  length := rfl
  entry _ inside := absurd inside (Nat.not_lt_zero _)
  older _ member := absurd member (Finset.notMem_empty _)
  apart _ member := absurd member (Finset.notMem_empty _)
  logs _ member := absurd member List.not_mem_nil

namespace Numbered

variable {address : Nat → Address} {s s' : Traced} {h : Nat}

/-- An active entry belongs to a live handle with its address. -/
theorem live_of_active (numbered : Numbered address s) {i : Nat} {handle : Address}
    {entry : HandleConversion} (there : s.table.handles[i]? = some entry)
    (active : (entry.handle == handle && entry.active) = true) :
    i ∈ s.live ∧ address i = handle := by
  obtain ⟨same, isActive⟩ := Bool.and_eq_true_iff.mp active
  obtain ⟨inside, -⟩ := List.getElem?_eq_some_iff.mp there
  obtain ⟨flag, stored, spec⟩ := numbered.entry i inside
  obtain rfl := Option.some.inj (stored.symm.trans there)
  exact ⟨spec.mp isActive, eq_of_beq same⟩

theorem eq_of_active (numbered : Numbered address s) (live : h ∈ s.live) {i : Nat}
    {entry : HandleConversion} (there : s.table.handles[i]? = some entry)
    (active : (entry.handle == address h && entry.active) = true) : i = h := by
  obtain ⟨live', same⟩ := numbered.live_of_active there active
  exact numbered.apart i live' h live same

/-- A live handle is found at its number. -/
theorem find_live (numbered : Numbered address s) (live : h ∈ s.live)
    (small : h < MAX_NUMBER_OF_HANDLES) : s.table.find (address h) = some h := by
  have inside : h < s.table.handles.length := by
    have := numbered.older h live
    rw [numbered.length]
    omega
  obtain ⟨flag, stored, spec⟩ := numbered.entry h inside
  obtain ⟨_, same⟩ := List.getElem?_eq_some_iff.mp stored
  refine List.findIdx?_eq_some_iff_getElem.mpr ⟨inside, ?_, ?_⟩
  · rw [same, spec.mpr live]
    simp
  · intro i before active
    have there := List.getElem?_eq_getElem (Nat.lt_trans before inside)
    exact Nat.ne_of_lt before (numbered.eq_of_active live there active)

/-- A live handle behind the end of the table is not found. -/
theorem find_behind (numbered : Numbered address s) (live : h ∈ s.live)
    (behind : ¬h < MAX_NUMBER_OF_HANDLES) :
    s.table.find (address h) = none ∧ s.table.handles.length = MAX_NUMBER_OF_HANDLES := by
  have full : s.table.handles.length = MAX_NUMBER_OF_HANDLES := by
    have := numbered.older h live
    rw [numbered.length]
    omega
  refine ⟨List.findIdx?_eq_none_iff.mpr fun entry member => ?_, full⟩
  obtain ⟨i, there⟩ := List.mem_iff_getElem?.mp member
  by_contra active
  obtain rfl := numbered.eq_of_active live there (Bool.not_eq_false _ ▸ active)
  obtain ⟨inside, -⟩ := List.getElem?_eq_some_iff.mp there
  exact behind (full ▸ inside)

/-- A live handle keeps its number. -/
theorem getHandleNumber_live (numbered : Numbered address s) (live : h ∈ s.live) :
    s.table.getHandleNumber (address h) = (numberOf h, s.table) := by
  rw [numberOf]
  split
  · next small => exact HandleTable.getHandleNumber_of_found (numbered.find_live live small)
  · next behind =>
      obtain ⟨absent, full⟩ := numbered.find_behind live behind
      exact HandleTable.getHandleNumber_of_full absent full

/-- The address of a new handle may be in the table, but not in an active
entry. -/
theorem find_new (numbered : Numbered address s)
    (fresh : ∀ h ∈ s.live, address h ≠ address s.created) :
    s.table.find (address s.created) = none := by
  refine List.findIdx?_eq_none_iff.mpr fun entry member => ?_
  obtain ⟨i, there⟩ := List.mem_iff_getElem?.mp member
  by_contra active
  obtain ⟨live, same⟩ := numbered.live_of_active there (Bool.not_eq_false _ ▸ active)
  exact fresh i live same

/-- A new handle does not share its address with a live one. -/
theorem apart_insert (numbered : Numbered address s)
    (fresh : ∀ h ∈ s.live, address h ≠ address s.created) :
    ∀ h ∈ insert s.created s.live, ∀ h' ∈ insert s.created s.live,
      address h = address h' → h = h' := by
  intro h member h' member' same
  rcases Finset.mem_insert.mp member with rfl | live
  · rcases Finset.mem_insert.mp member' with rfl | live'
    · rfl
    · exact absurd same.symm (fresh h' live')
  · rcases Finset.mem_insert.mp member' with rfl | live'
    · exact absurd same (fresh h live)
    · exact numbered.apart h live h' live' same

theorem older_insert (numbered : Numbered address s) :
    ∀ h ∈ insert s.created s.live, h < s.created + 1 := by
  intro h member
  rcases Finset.mem_insert.mp member with rfl | live
  · exact Nat.lt_succ_self _
  · exact Nat.lt_succ_of_lt (numbered.older h live)

/-- The entries that are there belong to earlier handles. -/
theorem mem_insert_iff (numbered : Numbered address s) (inside : h < s.table.handles.length) :
    h ∈ insert s.created s.live ↔ h ∈ s.live := by
  have length := numbered.length
  rw [Finset.mem_insert]
  exact or_iff_right (by omega)

/-- The entry of a new handle. -/
theorem entry_insert (numbered : Numbered address s) {handles : List HandleConversion}
    (appended : handles = s.table.handles ++ [⟨address s.created, true⟩])
    (next : s.table.handles.length = s.created) (inside : h < handles.length) :
    ∃ active, handles[h]? = some ⟨address h, active⟩ ∧
      (active = true ↔ h ∈ insert s.created s.live) := by
  subst appended
  rw [List.length_append, List.length_singleton] at inside
  rcases Nat.lt_succ_iff_lt_or_eq.mp inside with old | new
  · rw [List.getElem?_append_left old, numbered.mem_insert_iff old]
    exact numbered.entry h old
  · obtain rfl : h = s.created := new.trans next
    refine ⟨true, ?_, iff_of_true rfl (Finset.mem_insert_self _ _)⟩
    rw [new, List.getElem?_concat_length]

/-- The entry of a handle that is destroyed stays where it is, and is not active
any more. -/
theorem entry_erase (numbered : Numbered address s) {handles : List HandleConversion}
    (modified : handles = s.table.handles.modify h fun entry => { entry with active := false })
    {i : Nat} (inside : i < handles.length) :
    ∃ active, handles[i]? = some ⟨address i, active⟩ ∧ (active = true ↔ i ∈ s.live.erase h) := by
  subst modified
  rw [List.length_modify] at inside
  obtain ⟨active, stored, spec⟩ := numbered.entry i inside
  rw [List.getElem?_modify, stored, Finset.mem_erase, ← spec]
  by_cases same : h = i
  · exact ⟨false, by simp [same], by simp [same]⟩
  · exact ⟨active, by simp [same], by simp [Ne.symm same]⟩

/-- A handle behind the end of the table has no entry. -/
theorem entry_erase_behind (numbered : Numbered address s) (behind : s.table.handles.length ≤ h)
    {i : Nat} (inside : i < s.table.handles.length) :
    ∃ active, s.table.handles[i]? = some ⟨address i, active⟩ ∧
      (active = true ↔ i ∈ s.live.erase h) := by
  obtain ⟨active, stored, spec⟩ := numbered.entry i inside
  refine ⟨active, stored, ?_⟩
  rw [Finset.mem_erase, spec]
  exact (and_iff_right (Nat.ne_of_lt (Nat.lt_of_lt_of_le inside behind))).symm

/-- A new handle gets the next number, or none if the table is full. -/
theorem newHandle (numbered : Numbered address s)
    (stepped : tracedStep address s .newHandle = some s') :
    Numbered address s' ∧ (s'.created, s'.log) = appendLogged (s.created, s.log) .newHandle := by
  rw [tracedStep] at stepped
  split at stepped
  · next allowed =>
      have absent := numbered.find_new allowed.2
      have length := numbered.length
      have older := numbered.older_insert
      have apart := numbered.apart_insert allowed.2
      have logs : LogsNumbers (s.created + 1) (s.log ++ [(s.created, numberOf s.created)]) :=
        numbered.logs.append (Nat.le_succ _) (Nat.lt_succ_self _) fun line => List.mem_singleton.mp
      by_cases room : s.created < MAX_NUMBER_OF_HANDLES
      · obtain ⟨table', number, handles⟩ :=
          HandleTable.getHandleNumber_of_room absent (by omega)
        have next : (s.table.handles.length : Int) = numberOf s.created := by
          rw [numberOf, if_pos room, length, Nat.min_eq_left (Nat.le_of_lt room)]
        rw [number, next] at stepped
        cases stepped
        have entry := fun h (inside : h < table'.handles.length) =>
          numbered.entry_insert handles (by omega) inside
        refine ⟨⟨?_, entry, older, apart, logs⟩, rfl⟩
        show table'.handles.length = min (s.created + 1) MAX_NUMBER_OF_HANDLES
        rw [handles, List.length_append, List.length_singleton]
        omega
      · have full : s.table.handles.length = MAX_NUMBER_OF_HANDLES := by omega
        have unnumbered : numberOf s.created = -1 := if_neg room
        rw [HandleTable.getHandleNumber_of_full absent full, ← unnumbered] at stepped
        cases stepped
        refine ⟨⟨?_, fun h inside => ?_, older, apart, logs⟩, rfl⟩
        · show s.table.handles.length = min (s.created + 1) MAX_NUMBER_OF_HANDLES
          omega
        · rw [numbered.mem_insert_iff inside]
          exact numbered.entry h inside
  · cases stepped

/-- A handle that is used shows its number. -/
theorem use (numbered : Numbered address s) (stepped : tracedStep address s (.use h) = some s') :
    Numbered address s' ∧ (s'.created, s'.log) = appendLogged (s.created, s.log) (.use h) := by
  rw [tracedStep] at stepped
  split at stepped
  · next live =>
      rw [numbered.getHandleNumber_live live] at stepped
      cases stepped
      have logs := numbered.logs.append (Nat.le_refl _) (numbered.older h live)
        fun line (member : line ∈ [(h, numberOf h)]) => List.mem_singleton.mp member
      exact ⟨{ numbered with logs }, rfl⟩
  · cases stepped

/-- A handle that is destroyed shows its number, or twice that it has none. -/
theorem destroyHandle (numbered : Numbered address s)
    (stepped : tracedStep address s (.destroyHandle h) = some s') :
    Numbered address s' ∧
      (s'.created, s'.log) = appendLogged (s.created, s.log) (.destroyHandle h) := by
  rw [tracedStep] at stepped
  split at stepped
  · next live =>
      have inside := numbered.older h live
      have older : ∀ i ∈ s.live.erase h, i < s.created :=
        fun i member => numbered.older i (Finset.mem_of_mem_erase member)
      have apart : ∀ i ∈ s.live.erase h, ∀ j ∈ s.live.erase h, address i = address j → i = j :=
        fun i member j member' =>
          numbered.apart i (Finset.mem_of_mem_erase member) j (Finset.mem_of_mem_erase member')
      rw [numbered.getHandleNumber_live live] at stepped
      by_cases small : h < MAX_NUMBER_OF_HANDLES
      · obtain ⟨table', removed, handles⟩ :=
          HandleTable.removeHandleNumber_of_found (numbered.find_live live small)
        simp only [removed] at stepped
        cases stepped
        have shown : logged s.created (.destroyHandle h) = [(h, numberOf h)] := if_pos small
        have logs := numbered.logs.append (Nat.le_refl _) inside
          fun line (member : line ∈ [(h, numberOf h)]) => List.mem_singleton.mp member
        refine ⟨⟨?_, fun i => numbered.entry_erase handles, older, apart, logs⟩, ?_⟩
        · rw [handles, List.length_modify]
          exact numbered.length
        · rw [appendLogged, shown]
          rfl
      · obtain ⟨absent, full⟩ := numbered.find_behind live small
        have unnumbered : numberOf h = -1 := if_neg small
        simp only [HandleTable.removeHandleNumber_of_full absent full, ← unnumbered] at stepped
        cases stepped
        have shown : logged s.created (.destroyHandle h) = [(h, numberOf h), (h, numberOf h)] :=
          if_neg small
        have twice : ∀ line ∈ [(h, numberOf h), (h, numberOf h)], line = (h, numberOf h) := by
          simp
        have logs := numbered.logs.append (Nat.le_refl _) inside twice
        have behind : s.table.handles.length ≤ h := full ▸ Nat.le_of_not_lt small
        refine ⟨⟨numbered.length, fun i => numbered.entry_erase_behind behind, older, apart, logs⟩,
          ?_⟩
        rw [appendLogged, shown]
        rfl
  · cases stepped

/-- One step, whatever the addresses are. -/
theorem step {call : TracedCall} (numbered : Numbered address s)
    (stepped : (tracing address).step s call = some s') :
    Numbered address s' ∧ (s'.created, s'.log) = appendLogged (s.created, s.log) call := by
  cases call with
  | newHandle => exact numbered.newHandle stepped
  | use h => exact numbered.use stepped
  | destroyHandle h => exact numbered.destroyHandle stepped

end Numbered

/-- The log of a run can be told without the addresses. -/
theorem run_numbered {address : Nat → Address} {calls : List TracedCall} {s : Traced}
    (ran : (tracing address).run .start calls = some s) :
    Numbered address s ∧ (s.created, s.log) = calls.foldl appendLogged (0, []) :=
  System.run_foldl (numbered_start address) (fun _ _ _ numbered stepped => numbered.step stepped)
    ran

/-- A log with room left in the table shows a number of its own for each
handle. -/
theorem Numbered.own_numbers {address : Nat → Address} {s : Traced} (numbered : Numbered address s)
    (room : s.table.nextHandleNumber < MAX_NUMBER_OF_HANDLES) {line line' : Nat × Int}
    (member : line ∈ s.log) (member' : line' ∈ s.log) : line.1 = line'.1 ↔ line.2 = line'.2 := by
  have length := numbered.length
  rw [HandleTable.nextHandleNumber] at room
  have number {line : Nat × Int} (member : line ∈ s.log) : line.2 = (line.1 : Int) := by
    obtain ⟨older, shown⟩ := numbered.logs line member
    rw [shown, numberOf, if_pos (by omega)]
  rw [number member, number member', Int.natCast_inj]

/-- **The logs of two runs can be compared.**  If a program makes the same calls
with other addresses of its handles, its log shows the same numbers; and as long
as the table is not full, a handle shows one number all its life, and no two
handles show the same one. -/
theorem logs_agree {address address' : Nat → Address} {calls : List TracedCall} {s s' : Traced}
    (ran : (tracing address).run .start calls = some s)
    (ran' : (tracing address').run .start calls = some s') :
    s.log = s'.log ∧
      (s.table.nextHandleNumber < MAX_NUMBER_OF_HANDLES →
        ∀ line ∈ s.log, ∀ line' ∈ s.log, line.1 = line'.1 ↔ line.2 = line'.2) := by
  obtain ⟨numbered, told⟩ := run_numbered ran
  obtain ⟨-, told'⟩ := run_numbered ran'
  refine ⟨(Prod.mk.inj (told.trans told'.symm)).2, ?_⟩
  intro room line member line' member'
  exact numbered.own_numbers room member member'

/-- A handle is destroyed before the next one is created. -/
def recreate : List TracedCall := [.newHandle, .use 0, .destroyHandle 0, .newHandle, .use 1]

/-- In one run the second handle gets the address of the first one, in the other
one it does not. -/
theorem logs_agree_recreate : ∃ s s',
    (tracing fun _ => 0x1000).run .start recreate = some s ∧
      (tracing fun h => 0x1000 + 64 * h).run .start recreate = some s' ∧
      s.log = s'.log ∧
      (s.table.nextHandleNumber < MAX_NUMBER_OF_HANDLES →
        ∀ line ∈ s.log, ∀ line' ∈ s.log, line.1 = line'.1 ↔ line.2 = line'.2) := by
  obtain ⟨s, ran⟩ : ∃ s, (tracing fun _ => 0x1000).run .start recreate = some s := ⟨_, rfl⟩
  obtain ⟨s', ran'⟩ : ∃ s', (tracing fun h => 0x1000 + 64 * h).run .start recreate = some s' :=
    ⟨_, rfl⟩
  exact ⟨s, s', ran, ran', logs_agree ran ran'⟩

end Raw1394
