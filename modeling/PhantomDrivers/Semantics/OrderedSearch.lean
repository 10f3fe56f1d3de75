import Mathlib

/-!
# Searches in order

A search goes through a list, examines one element after the other and ends at
the first one that is wanted.  An examination may fail, whether its element is
wanted or not; then the search is stuck.

* `SearchEnd`, `Scan` — how a search of a list ends.
* `Scan.first_of_found`, `Scan.nothing_of_exhausted` — if the list is sorted, a
  search that ends finds the first of the wanted elements.
* `Scan.not_stuck_iff` — it ends exactly if the examination succeeds wherever no
  wanted element comes before.
* `Segment` — what searches find that are repeated, where an element that was
  found is not wanted any more.
-/

namespace Semantics

variable {α : Type}

/-- The end of a search. -/
inductive SearchEnd (α : Type) where
  | found (a : α)
  | exhausted
  | stuck

/-- The search of a list ends so, where the examination of the `sound` elements
succeeds. -/
inductive Scan (sound wanted : α → Prop) : List α → SearchEnd α → Prop
  | exhausted : Scan sound wanted [] .exhausted
  | found {a : α} {rest : List α} (examined : sound a) (hit : wanted a) :
      Scan sound wanted (a :: rest) (.found a)
  | stuck {a : α} {rest : List α} (failed : ¬sound a) : Scan sound wanted (a :: rest) .stuck
  | pass {a : α} {rest : List α} {e : SearchEnd α} (examined : sound a) (miss : ¬wanted a)
      (later : Scan sound wanted rest e) : Scan sound wanted (a :: rest) e

namespace Scan

variable {sound wanted : α → Prop} {front list : List α} {e : SearchEnd α} {a : α}
  {before : α → α → Prop}

/-- Elements that are examined and not wanted are passed. -/
theorem pass_append (passed : ∀ b ∈ front, sound b ∧ ¬wanted b)
    (later : Scan sound wanted list e) : Scan sound wanted (front ++ list) e := by
  induction front with
  | nil => exact later
  | cons b front ih =>
      obtain ⟨examined, miss⟩ := passed b List.mem_cons_self
      exact .pass examined miss (ih fun c member => passed c (List.mem_cons_of_mem b member))

theorem nothing_of_exhausted (scan : Scan sound wanted list .exhausted) :
    ∀ a ∈ list, ¬wanted a := by
  generalize ends : SearchEnd.exhausted = e at scan
  induction scan with
  | exhausted => exact fun a member => absurd member List.not_mem_nil
  | found examined hit => cases ends
  | stuck failed => cases ends
  | pass examined miss later ih =>
      intro a member
      rcases List.mem_cons.mp member with rfl | inside
      · exact miss
      · exact ih ends a inside

section Sorted

variable (asymm : ∀ a b, before a b → ¬before b a)
include asymm

/-- What is found is wanted, and no wanted element comes before. -/
theorem first_of_found (scan : Scan sound wanted list (.found a))
    (sorted : list.Pairwise before) :
    a ∈ list ∧ wanted a ∧ ∀ b ∈ list, wanted b → ¬before b a := by
  generalize ends : SearchEnd.found a = e at scan
  induction scan with
  | exhausted => cases ends
  | @found a' rest examined hit =>
      obtain rfl := SearchEnd.found.inj ends
      refine ⟨List.mem_cons_self, hit, fun b member _ earlier => ?_⟩
      rcases List.mem_cons.mp member with rfl | later
      · exact asymm b b earlier earlier
      · exact asymm b a earlier ((List.pairwise_cons.mp sorted).1 b later)
  | stuck failed => cases ends
  | @pass a' rest e examined miss later ih =>
      obtain ⟨inside, hit, first⟩ := ih (List.pairwise_cons.mp sorted).2 ends
      refine ⟨List.mem_cons_of_mem a' inside, hit, fun b member wanted => ?_⟩
      rcases List.mem_cons.mp member with rfl | later
      · exact absurd wanted miss
      · exact first b later wanted

/-- A search gets stuck exactly if an examination fails before which nothing is
wanted. -/
theorem not_stuck_iff (scan : Scan sound wanted list e) (sorted : list.Pairwise before) :
    e ≠ .stuck ↔ ∀ a ∈ list, (∀ b ∈ list, wanted b → ¬before b a) → sound a := by
  induction scan with
  | exhausted => simp
  | @found a rest examined hit =>
      refine ⟨fun _ b member first => ?_, fun _ => nofun⟩
      rcases List.mem_cons.mp member with rfl | later
      · exact examined
      · have earlier := (List.pairwise_cons.mp sorted).1 b later
        exact absurd earlier (first a List.mem_cons_self hit)
  | @stuck a rest failed =>
      refine ⟨fun progress => absurd rfl progress, fun all => ?_⟩
      refine absurd (all a List.mem_cons_self fun b member _ earlier => ?_) failed
      rcases List.mem_cons.mp member with rfl | later
      · exact asymm b b earlier earlier
      · exact asymm b a earlier ((List.pairwise_cons.mp sorted).1 b later)
  | @pass a rest e examined miss later ih =>
      rw [ih (List.pairwise_cons.mp sorted).2]
      constructor
      · intro all b member first
        rcases List.mem_cons.mp member with rfl | inside
        · exact examined
        · exact all b inside fun c member' => first c (List.mem_cons_of_mem a member')
      · intro all b inside first
        refine all b (List.mem_cons_of_mem a inside) fun c member wanted => ?_
        rcases List.mem_cons.mp member with rfl | later'
        · exact absurd wanted miss
        · exact first c later' wanted

end Sorted

/-- The element that is found was examined. -/
theorem sound_of_found (scan : Scan sound wanted list (.found a)) : sound a := by
  generalize ends : SearchEnd.found a = e at scan
  induction scan with
  | exhausted => cases ends
  | found examined hit =>
      obtain rfl := SearchEnd.found.inj ends
      exact examined
  | stuck failed => cases ends
  | pass examined miss later ih => exact ih ends

/-- A search that ends without a hit has examined everything. -/
theorem sound_of_exhausted (scan : Scan sound wanted list .exhausted) : ∀ a ∈ list, sound a := by
  generalize ends : SearchEnd.exhausted = e at scan
  induction scan with
  | exhausted => exact fun a member => absurd member List.not_mem_nil
  | found examined hit => cases ends
  | stuck failed => cases ends
  | pass examined miss later ih => exact List.forall_mem_cons.mpr ⟨examined, ih ends⟩

/-- A search that gets stuck has met an element that cannot be examined. -/
theorem failed_of_stuck (scan : Scan sound wanted list .stuck) : ∃ a ∈ list, ¬sound a := by
  generalize ends : SearchEnd.stuck = e at scan
  induction scan with
  | exhausted => cases ends
  | found examined hit => cases ends
  | stuck failed => exact ⟨_, List.mem_cons_self, failed⟩
  | pass examined miss later ih =>
      obtain ⟨a, inside, failed⟩ := ih ends
      exact ⟨a, List.mem_cons_of_mem _ inside, failed⟩

end Scan

/-! ## Repeated searches -/

/-- The first wanted elements, in their order: what has been found so far, if
every search takes away what it finds. -/
structure Segment (before : α → α → Prop) (wanted : α → Prop) (found : List α) : Prop where
  sorted : found.Pairwise before
  hits : ∀ a ∈ found, wanted a
  initial : ∀ a, wanted a → a ∉ found → ∀ b ∈ found, before b a

namespace Segment

variable {before : α → α → Prop} {wanted : α → Prop} {found all : List α} {a : α}

theorem nil : Segment before wanted [] where
  sorted := List.Pairwise.nil
  hits _ member := absurd member List.not_mem_nil
  initial _ _ _ _ member := absurd member List.not_mem_nil

/-- The next search finds the first of the elements that are left. -/
theorem next (segment : Segment before wanted found)
    (total : ∀ a b, a ≠ b → before a b ∨ before b a) (hit : wanted a) (new : a ∉ found)
    (first : ∀ b, wanted b → b ∉ found → ¬before b a) :
    Segment before wanted (found ++ [a]) where
  sorted := by
    refine List.pairwise_append.mpr ⟨segment.sorted, List.pairwise_singleton _ _, ?_⟩
    intro b member a' same
    rw [List.mem_singleton.mp same]
    exact segment.initial a hit new b member
  hits b member := by
    rcases List.mem_append.mp member with old | new
    · exact segment.hits b old
    · rw [List.mem_singleton.mp new]
      exact hit
  initial b wantedB apart c member := by
    obtain ⟨notOld, notNew⟩ := not_or.mp fun inside => apart (List.mem_append.mpr inside)
    rcases List.mem_append.mp member with old | new
    · exact segment.initial b wantedB notOld c old
    · rw [List.mem_singleton.mp new]
      have different : b ≠ a := fun same => notNew (List.mem_singleton.mpr same)
      exact (total a b different.symm).resolve_right (first b wantedB notOld)

theorem nodup_of_pairwise (asymm : ∀ a b, before a b → ¬before b a)
    (sorted : all.Pairwise before) : all.Nodup := by
  refine sorted.imp ?_
  rintro a _ less rfl
  exact asymm a a less less

/-- Two lists with the same elements in the same order. -/
theorem eq_of_complete (segment : Segment before wanted found)
    (asymm : ∀ a b, before a b → ¬before b a) (complete : ∀ a, wanted a → a ∈ found)
    (sorted : all.Pairwise before) (exactly : ∀ a, a ∈ all ↔ wanted a) : found = all := by
  have perm : found.Perm all := by
    refine (List.perm_ext_iff_of_nodup (nodup_of_pairwise asymm segment.sorted)
      (nodup_of_pairwise asymm sorted)).mpr fun a => ?_
    exact ⟨fun member => (exactly a).mpr (segment.hits a member),
      fun member => complete a ((exactly a).mp member)⟩
  exact perm.eq_of_pairwise (fun a b _ _ less more => absurd more (asymm a b less)) segment.sorted
    sorted

/-- A segment is no longer than the whole. -/
theorem length_le (segment : Segment before wanted found) (asymm : ∀ a b, before a b → ¬before b a)
    (exactly : ∀ a, a ∈ all ↔ wanted a) : found.length ≤ all.length := by
  have nodup := nodup_of_pairwise asymm segment.sorted
  exact (nodup.subperm fun a member => (exactly a).mpr (segment.hits a member)).length_le

end Segment

end Semantics
