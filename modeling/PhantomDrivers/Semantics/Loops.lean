import Mathlib

/-!
# Endless loops

The body of `for (;;)` either continues with the next pass or returns.

* `Pass`, `loop` — a pass, and the loop with a bound on its passes.
* `Returns` — how the loop ends, without a bound; `exists_loop_iff` says that
  enough passes compute it.
* `Returns.unique` — it ends in one way only.
* `exists_returns` — the rule of total correctness: a variant that every pass
  decreases, and a relation between both ends that the passes carry back.
-/

namespace Semantics

variable {σ ρ : Type}

/-- How a pass ends. -/
inductive Pass (σ ρ : Type) where
  | continues (state : σ)
  | returns (result : ρ) (state : σ)

/-- The loop, for at most so many passes. -/
def loop (body : σ → Pass σ ρ) : Nat → σ → Option (ρ × σ)
  | 0, _ => none
  | passes + 1, s =>
      match body s with
      | .continues s' => loop body passes s'
      | .returns r s' => some (r, s')

/-- The loop returns `r`, and leaves the state `s'` behind. -/
inductive Returns (body : σ → Pass σ ρ) : σ → ρ → σ → Prop
  | returns {s s' : σ} {r : ρ} (pass : body s = .returns r s') : Returns body s r s'
  | continues {s s₁ s' : σ} {r : ρ} (pass : body s = .continues s₁) (rest : Returns body s₁ r s') :
      Returns body s r s'

variable {body : σ → Pass σ ρ} {s s₁ s₂ s' : σ} {r r₁ r₂ : ρ}

/-- Enough passes compute the end of the loop, and more do not matter. -/
theorem exists_loop_iff : Returns body s r s' ↔
    ∃ passes, ∀ bound, passes ≤ bound → loop body bound s = some (r, s') := by
  constructor
  · intro returns
    induction returns with
    | @returns s s' r pass =>
        refine ⟨1, fun bound enough => ?_⟩
        obtain ⟨rest, rfl⟩ := Nat.exists_eq_add_of_le' enough
        rw [loop, pass]
    | @continues s s₁ s' r pass _ ih =>
        obtain ⟨passes, computes⟩ := ih
        refine ⟨passes + 1, fun bound enough => ?_⟩
        obtain ⟨rest, rfl⟩ := Nat.exists_eq_add_of_le' enough
        rw [← Nat.add_assoc, loop, pass]
        exact computes _ (by omega)
  · rintro ⟨passes, computes⟩
    have computed := computes passes (Nat.le_refl _)
    clear computes
    induction passes generalizing s with
    | zero => cases computed
    | succ passes ih =>
        rw [loop] at computed
        cases pass : body s with
        | continues s₁ =>
            rw [pass] at computed
            exact .continues pass (ih computed)
        | returns r₁ s₁ =>
            rw [pass] at computed
            cases computed
            exact .returns pass

/-- The loop ends in one way only. -/
theorem Returns.unique (left : Returns body s r₁ s₁) (right : Returns body s r₂ s₂) :
    r₁ = r₂ ∧ s₁ = s₂ := by
  induction left with
  | returns pass =>
      cases right with
      | returns pass₂ =>
          rw [pass] at pass₂
          cases pass₂
          exact ⟨rfl, rfl⟩
      | continues pass₂ rest₂ =>
          rw [pass] at pass₂
          cases pass₂
  | continues pass rest ih =>
      cases right with
      | returns pass₂ =>
          rw [pass] at pass₂
          cases pass₂
      | continues pass₂ rest₂ =>
          rw [pass] at pass₂
          cases pass₂
          exact ih rest₂

/-- **Total correctness.**  The loop returns if every pass that continues
decreases a variant.  A relation between both ends holds that the last pass
establishes and the others carry back. -/
theorem exists_returns (variant : σ → Nat) {Q : σ → ρ → σ → Prop}
    (continues : ∀ s s₁, body s = .continues s₁ →
      variant s₁ < variant s ∧ ∀ r s', Q s₁ r s' → Q s r s')
    (returns : ∀ s r s', body s = .returns r s' → Q s r s') (s : σ) :
    ∃ r s', Returns body s r s' ∧ Q s r s' := by
  induction bound : variant s using Nat.strongRecOn generalizing s with
  | ind _ ih =>
      subst bound
      cases pass : body s with
      | returns r s' => exact ⟨r, s', .returns pass, returns s r s' pass⟩
      | continues s₁ =>
          obtain ⟨decreases, back⟩ := continues s s₁ pass
          obtain ⟨r, s', rest, holds⟩ := ih _ decreases s₁ rfl
          exact ⟨r, s', .continues pass rest, back r s' holds⟩

end Semantics
