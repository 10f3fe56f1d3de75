import Mathlib

/-!
# Runs of a guarded system

A system takes guarded steps: `step s a` is the state after action `a`, or
`none` where the action is not enabled in `s`.  A run is a list of actions all
of which were enabled.

* `run_induction` — an assertion that every enabled step preserves holds after
  every run.
* `run_induction_of_steps` — the same where the step preserves the assertion
  only under a condition, for the runs whose steps all meet it.
* `run_foldl` — what can be seen of the state is folded along the run.
* `run_tally` — what is counted along the run.
* `run_matched` — where steps are matched by steps of another system, runs are.
* `always_of_stepsMeet` — what the assertion implies then holds all along the run.
* `always_iff_stepsMeet` — where a step keeps the assertion *exactly* if it
  meets the condition, the assertion holds in every state a run passes through
  if and only if every step of the run meets the condition.
-/

namespace Semantics

variable {σ α : Type}

/-- A guarded step function. -/
structure System (σ α : Type) where
  step : σ → α → Option σ

namespace System

variable (system : System σ α)

/-- The state after a run, if every action of it is enabled. -/
def run : σ → List α → Option σ
  | s, [] => some s
  | s, a :: actions => (system.step s a).bind fun s' => run s' actions

/-- What the steps a run takes count for together. -/
def tally (weight : σ → α → Nat) : σ → List α → Nat
  | _, [] => 0
  | s, a :: actions => weight s a + (system.step s a).elim 0 fun s' => tally weight s' actions

/-- Every step the run takes meets the condition, in the state it starts
from. -/
def StepsMeet (C : σ → α → Prop) : σ → List α → Prop
  | _, [] => True
  | s, a :: actions => C s a ∧ ∀ s', system.step s a = some s' → StepsMeet C s' actions

/-- The assertion holds in every state the run passes through. -/
def Always (P : σ → Prop) : σ → List α → Prop
  | s, [] => P s
  | s, a :: actions => P s ∧ ∀ s', system.step s a = some s' → Always P s' actions

variable {system} {P : σ → Prop} {C : σ → α → Prop} {s s' : σ} {a : α} {actions rest : List α}

@[simp] theorem run_nil : system.run s [] = some s := rfl

theorem run_cons : system.run s (a :: actions) =
    (system.step s a).bind fun s' => system.run s' actions := rfl

theorem run_cons_eq_some :
    system.run s (a :: actions) = some s' ↔
      ∃ s₁, system.step s a = some s₁ ∧ system.run s₁ actions = some s' := by
  rw [run_cons, Option.bind_eq_some_iff]

theorem run_append :
    system.run s (actions ++ rest) = (system.run s actions).bind fun s' => system.run s' rest := by
  induction actions generalizing s with
  | nil => rfl
  | cons a actions ih =>
      rw [List.cons_append, run_cons, run_cons, Option.bind_assoc]
      exact congrArg _ (funext fun _ => ih)

/-- An assertion preserved by every enabled step holds after every run. -/
theorem run_induction (start : P s) (preserved : ∀ s a s', P s → system.step s a = some s' → P s')
    (reached : system.run s actions = some s') : P s' := by
  induction actions generalizing s with
  | nil =>
      cases reached
      exact start
  | cons a actions ih =>
      obtain ⟨s₁, stepped, reached⟩ := run_cons_eq_some.mp reached
      exact ih (preserved s a s₁ start stepped) reached

/-- An assertion preserved by every step that meets the condition holds after
every run whose steps meet it. -/
theorem run_induction_of_steps (start : P s)
    (preserved : ∀ s a s', P s → C s a → system.step s a = some s' → P s')
    (meets : system.StepsMeet C s actions) (reached : system.run s actions = some s') : P s' := by
  induction actions generalizing s with
  | nil =>
      cases reached
      exact start
  | cons a actions ih =>
      obtain ⟨s₁, stepped, reached⟩ := run_cons_eq_some.mp reached
      exact ih (preserved s a s₁ start meets.1 stepped) (meets.2 s₁ stepped) reached

/-- Where a view of the state after a step depends on the view before it alone,
the view of a run is folded along its actions. -/
theorem run_foldl {τ : Type} {view : σ → τ} {effect : τ → α → τ} (start : P s)
    (preserved : ∀ s a s', P s → system.step s a = some s' →
      P s' ∧ view s' = effect (view s) a)
    (reached : system.run s actions = some s') : P s' ∧ view s' = actions.foldl effect (view s) := by
  induction actions generalizing s with
  | nil =>
      cases reached
      exact ⟨start, rfl⟩
  | cons a actions ih =>
      obtain ⟨s₁, stepped, reached⟩ := run_cons_eq_some.mp reached
      obtain ⟨start₁, seen⟩ := preserved s a s₁ start stepped
      rw [List.foldl_cons, ← seen]
      exact ih start₁ reached

/-- An assertion about a count that goes up by what each step counts for. -/
theorem run_tally {Q : σ → Nat → Prop} {weight : σ → α → Nat} {n : Nat} (start : Q s n)
    (counted : ∀ s n a s', Q s n → system.step s a = some s' → Q s' (n + weight s a))
    (reached : system.run s actions = some s') : Q s' (n + system.tally weight s actions) := by
  induction actions generalizing s n with
  | nil =>
      cases reached
      exact start
  | cons a actions ih =>
      obtain ⟨s₁, stepped, reached⟩ := run_cons_eq_some.mp reached
      have later := ih (counted s n a s₁ start stepped) reached
      rw [tally, stepped, Option.elim_some, ← Nat.add_assoc]
      exact later

/-- Where every step that meets the condition is matched by a step of another
system, so that the states stay related, every run whose steps meet it is matched
by a run. -/
theorem run_matched {τ γ : Type} {other : System τ γ} {R : σ → τ → Prop} {M : α → γ → Prop}
    {t : τ} (related : R s t)
    (matched : ∀ s t a s', R s t → C s a → system.step s a = some s' →
      ∃ b t', M a b ∧ other.step t b = some t' ∧ R s' t')
    (meets : system.StepsMeet C s actions) (reached : system.run s actions = some s') :
    ∃ others t', List.Forall₂ M actions others ∧ other.run t others = some t' ∧ R s' t' := by
  induction actions generalizing s t with
  | nil =>
      cases reached
      exact ⟨[], t, .nil, rfl, related⟩
  | cons a actions ih =>
      obtain ⟨s₁, stepped, reached⟩ := run_cons_eq_some.mp reached
      obtain ⟨b, t₁, same, stepped', related₁⟩ := matched s t a s₁ related meets.1 stepped
      obtain ⟨others, t', sames, reached', related'⟩ := ih related₁ (meets.2 s₁ stepped) reached
      exact ⟨b :: others, t', .cons same sames,
        run_cons_eq_some.mpr ⟨t₁, stepped', reached'⟩, related'⟩

/-- `Always` speaks about the states after the prefixes of the run. -/
theorem always_iff_prefix : system.Always P s actions ↔
    ∀ before, before <+: actions → ∀ s', system.run s before = some s' → P s' := by
  induction actions generalizing s with
  | nil =>
      constructor
      · rintro holds before ⟨after, equation⟩ s' reached
        obtain ⟨rfl, -⟩ := List.append_eq_nil_iff.mp equation
        cases reached
        exact holds
      · exact fun holds => holds [] List.prefix_rfl s rfl
  | cons a actions ih =>
      constructor
      · rintro ⟨here, later⟩ before isPrefix s' reached
        cases before with
        | nil =>
            cases reached
            exact here
        | cons b before =>
            obtain ⟨rfl, tailPrefix⟩ := List.cons_prefix_cons.mp isPrefix
            obtain ⟨s₁, stepped, reached⟩ := run_cons_eq_some.mp reached
            exact ih.mp (later s₁ stepped) before tailPrefix s' reached
      · intro holds
        refine ⟨holds [] (List.nil_prefix) s rfl, fun s₁ stepped => ih.mpr ?_⟩
        intro before isPrefix s' reached
        exact holds (a :: before) (List.cons_prefix_cons.mpr ⟨rfl, isPrefix⟩) s'
          (run_cons_eq_some.mpr ⟨s₁, stepped, reached⟩)

/-- What an invariant implies holds in every state a run passes through whose
steps meet the condition under which a step keeps the invariant. -/
theorem always_of_stepsMeet {I : σ → Prop} (start : I s) (sound : ∀ s, I s → P s)
    (kept : ∀ s a s', I s → C s a → system.step s a = some s' → I s')
    (meets : system.StepsMeet C s actions) : system.Always P s actions := by
  induction actions generalizing s with
  | nil => exact sound s start
  | cons a actions ih =>
      refine ⟨sound s start, ?_⟩
      intro s' stepped
      exact ih (kept s a s' start meets.1 stepped) (meets.2 s' stepped)

/-- What holds in every state holds of what every step leads to. -/
theorem stepsMeet_of_always (always : system.Always P s actions) :
    system.StepsMeet (fun s a => ∀ s', system.step s a = some s' → P s') s actions := by
  induction actions generalizing s with
  | nil => trivial
  | cons a actions ih =>
      refine ⟨fun s' stepped => ?_, fun s' stepped => ih (always.2 s' stepped)⟩
      cases actions with
      | nil => exact always.2 s' stepped
      | cons b actions => exact (always.2 s' stepped).1

/-- **Exact conditions.**  Suppose that in the states of an invariant `I` a
step re-establishes `I` where it meets `C`, and breaks `P` where it does not.
Then `P` holds all along a run if and only if every enabled step of the run
meets `C`. -/
theorem always_iff_stepsMeet {I : σ → Prop} (start : I s) (sound : ∀ s, I s → P s)
    (kept : ∀ s a s', I s → C s a → system.step s a = some s' → I s')
    (broken : ∀ s a s', I s → ¬C s a → system.step s a = some s' → ¬P s')
    (reached : system.run s actions = some s') :
    system.Always P s actions ↔ system.StepsMeet C s actions := by
  refine ⟨fun always => ?_, always_of_stepsMeet start sound kept⟩
  induction actions generalizing s with
  | nil => trivial
  | cons a actions ih =>
      obtain ⟨s₁, stepped, reached⟩ := run_cons_eq_some.mp reached
      have met : C s a := by
        by_contra unmet
        refine broken s a s₁ start unmet stepped ?_
        cases actions with
        | nil => exact always.2 s₁ stepped
        | cons b actions => exact (always.2 s₁ stepped).1
      refine ⟨met, ?_⟩
      intro s₂ stepped₂
      obtain rfl : s₂ = s₁ := Option.some.inj (stepped₂.symm.trans stepped)
      exact ih (kept s a s₂ start met stepped) reached (always.2 s₂ stepped)

end System

end Semantics
