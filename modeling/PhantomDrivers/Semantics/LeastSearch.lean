import PhantomDrivers.Semantics.Call

/-!
# Searches for the least free number

A loop runs through the numbers below a bound and returns the first one that is
free; behind its end it throws.

* `FindsLeast` — what such a call ends with, without the loop.
* `find?_range_eq_some_iff` — the loop finds the least number.
* `findsLeast_of_found`, `findsLeast_of_none` — a call that ends as the loop
  does.
-/

namespace Semantics

variable {ε σ : Type} {free : Nat → Prop} {p : Nat → Bool} {n c : Nat}

/-- The call returns the least number below `n` that is free, and throws exactly
if there is none. -/
structure FindsLeast (outcome : Outcome ε σ Nat) (n : Nat) (free : Nat → Prop) : Prop where
  returns : ∀ c, (∃ s', outcome = .returned c s') ↔ IsLeast {c | c < n ∧ free c} c
  throws : (∃ e s', outcome = .thrown e s') ↔ ∀ c < n, ¬free c

/-- The loop finds the least number that passes its test. -/
theorem find?_range_eq_some_iff (test : ∀ c < n, p c = true ↔ free c) :
    (List.range n).find? p = some c ↔ IsLeast {c | c < n ∧ free c} c := by
  rw [List.find?_range_eq_some]
  simp only [Bool.not_eq_true', List.mem_range]
  constructor
  · rintro ⟨passes, inside, earlier⟩
    refine ⟨⟨inside, (test c inside).mp passes⟩, ?_⟩
    rintro c' ⟨inside', free'⟩
    by_contra before
    have fails := earlier c' (Nat.lt_of_not_le before)
    rw [(test c' inside').mpr free'] at fails
    cases fails
  · rintro ⟨⟨inside, here⟩, least⟩
    refine ⟨(test c inside).mpr here, inside, fun c' before => ?_⟩
    have inside' := Nat.lt_trans before inside
    rw [Bool.eq_false_iff, Ne, test c' inside']
    intro free'
    exact Nat.not_le_of_lt before (least ⟨inside', free'⟩)

theorem find?_range_eq_none_iff (test : ∀ c < n, p c = true ↔ free c) :
    (List.range n).find? p = none ↔ ∀ c < n, ¬free c := by
  rw [List.find?_eq_none]
  simp only [List.mem_range]
  exact forall₂_congr fun c inside => not_congr (test c inside)

variable {outcome : Outcome ε σ Nat} {s : σ} {e : ε}

/-- A call that returns what the loop has found. -/
theorem findsLeast_of_found (test : ∀ c < n, p c = true ↔ free c)
    (found : (List.range n).find? p = some c) (returned : outcome = .returned c s) :
    FindsLeast outcome n free := by
  subst returned
  have least := (find?_range_eq_some_iff test).mp found
  constructor
  · intro c'
    constructor
    · rintro ⟨s', same⟩
      exact (Outcome.returned.inj same).1 ▸ least
    · intro least'
      exact ⟨s, congrArg (Outcome.returned · s) (least.unique least')⟩
  · constructor
    · rintro ⟨e, s', thrown⟩
      cases thrown
    · intro nothing
      exact absurd least.1.2 (nothing c least.1.1)

/-- A call that throws because the loop has found nothing. -/
theorem findsLeast_of_none (test : ∀ c < n, p c = true ↔ free c)
    (none : (List.range n).find? p = none) (thrown : outcome = .thrown e s) :
    FindsLeast outcome n free := by
  subst thrown
  have nothing := (find?_range_eq_none_iff test).mp none
  constructor
  · intro c
    constructor
    · rintro ⟨s', returned⟩
      cases returned
    · rintro ⟨⟨inside, here⟩, -⟩
      exact absurd here (nothing c inside)
  · exact ⟨fun _ => nothing, fun _ => ⟨e, s, rfl⟩⟩

end Semantics
