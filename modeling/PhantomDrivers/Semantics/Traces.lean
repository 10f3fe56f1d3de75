import Mathlib

/-!
# Traces of events

What happened during a run is a list of events, the newest at the end.

* `Justified` — every event of a trace is justified by the events before it: a
  safety property, which is kept as long as every new event is justified.
* `Latest` — the latest event of a kind.
-/

namespace Semantics

variable {α : Type}

/-- Every event of the trace is justified by the events before it. -/
def Justified (Q : List α → α → Prop) (trace : List α) : Prop :=
  ∀ before e after, trace = before ++ e :: after → Q before e

/-- The event is of the kind, and no later one is. -/
def Latest (kind : α → Prop) (trace : List α) (e : α) : Prop :=
  ∃ before after, trace = before ++ e :: after ∧ kind e ∧ ∀ e' ∈ after, ¬kind e'

variable {Q : List α → α → Prop} {kind : α → Prop} {trace : List α} {e e' : α}

theorem justified_nil : Justified Q [] := by
  intro before e after split
  cases before <;> cases split

theorem Justified.append (justified : Justified Q trace) (new : Q trace e) :
    Justified Q (trace ++ [e]) := by
  intro before e' after split
  rcases List.eq_nil_or_concat' after with rfl | ⟨after, last, rfl⟩
  · obtain ⟨rfl, same⟩ := List.append_inj' split rfl
    cases same
    exact new
  · rw [← List.cons_append, ← List.append_assoc] at split
    exact justified before e' after (List.append_inj' split rfl).1

theorem Latest.append (latest : Latest kind trace e) (other : ¬kind e') :
    Latest kind (trace ++ [e']) e := by
  obtain ⟨before, after, rfl, isKind, later⟩ := latest
  refine ⟨before, after ++ [e'], ?_, isKind, ?_⟩
  · rw [List.append_assoc, List.cons_append]
  · exact List.forall_mem_append.mpr ⟨later, List.forall_mem_singleton.mpr other⟩

/-- A new event of the kind is the latest. -/
theorem latest_append_self (isKind : kind e) : Latest kind (trace ++ [e]) e := by
  refine ⟨trace, [], rfl, isKind, ?_⟩
  intro x member
  cases member

theorem Latest.mem (latest : Latest kind trace e) : e ∈ trace := by
  obtain ⟨before, after, rfl, -, -⟩ := latest
  exact List.mem_append_right _ List.mem_cons_self

/-- There is one latest event. -/
theorem Latest.unique (first : Latest kind trace e) (second : Latest kind trace e') : e = e' := by
  obtain ⟨before, after, rfl, isKind, later⟩ := first
  obtain ⟨before', after', split, isKind', later'⟩ := second
  rcases List.append_eq_append_iff.mp split with ⟨mid, rfl, tail⟩ | ⟨mid, rfl, tail⟩
  · cases mid with
    | nil => exact (List.cons.inj tail).1
    | cons x mid =>
        obtain ⟨rfl, rfl⟩ := List.cons.inj tail
        exact absurd isKind' (later e' (List.mem_append_right _ List.mem_cons_self))
  · cases mid with
    | nil => exact (List.cons.inj tail).1.symm
    | cons x mid =>
        obtain ⟨rfl, rfl⟩ := List.cons.inj tail
        exact absurd isKind (later' e (List.mem_append_right _ List.mem_cons_self))

/-- Another event of the kind is an earlier one. -/
theorem Latest.mem_before (latest : Latest kind trace e) (member : e' ∈ trace)
    (isKind : kind e') (different : e' ≠ e) :
    ∃ before after, trace = before ++ e :: after ∧ e' ∈ before := by
  obtain ⟨before, after, rfl, -, later⟩ := latest
  refine ⟨before, after, rfl, ?_⟩
  rcases List.mem_append.mp member with inside | inside
  · exact inside
  · rcases List.mem_cons.mp inside with same | inside
    · exact absurd same different
    · exact absurd isKind (later e' inside)

end Semantics
