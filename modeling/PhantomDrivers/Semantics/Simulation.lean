import PhantomDrivers.Semantics.Call

/-!
# Calls seen through a map of states

Seen through a map of states, a call may be a call of a simpler program: one
that does not keep a record, or one that works on a part of the state only.

* `Call.Simulates` — the notion, with a rule for each way of putting calls
  together.
* `Call.SimulatesOrThrows` — the same for calls that may be cut short by an
  exception the simpler program does not know.
-/

namespace Semantics.Call

variable {ε σ τ α γ : Type}

/-- Seen through `f`, the call `m` is the call `m'`. -/
def Simulates (f : σ → τ) (m : Call ε σ α) (m' : Call ε τ α) : Prop :=
  ∀ s, m' (f s) = (m s).mapState f

variable {f : σ → τ} {m : Call ε σ α} {m' : Call ε τ α} {next : α → Call ε σ γ}
  {next' : α → Call ε τ γ}

theorem simulates_pure (a : α) : Simulates f (pure a : Call ε σ α) (pure a) := fun _ => rfl

theorem simulates_throw (e : ε) : Simulates f (throw e : Call ε σ α) (throw e) := fun _ => rfl

theorem simulates_bind (first : Simulates f m m') (later : ∀ a, Simulates f (next a) (next' a)) :
    Simulates f (m >>= next) (m' >>= next') := by
  intro s
  rw [bind_apply, bind_apply, first s]
  cases m s with
  | returned a s₁ => exact later a s₁
  | thrown e s₁ => rfl
  | undefined => rfl

theorem simulates_ite {p : Prop} [Decidable p] {m₁ : Call ε σ α} {m₁' : Call ε τ α}
    (yes : Simulates f m m') (no : Simulates f m₁ m₁') :
    Simulates f (if p then m else m₁) (if p then m' else m₁') := by
  split
  · exact yes
  · exact no

/-- The state such a call leaves behind. -/
theorem Simulates.state? (simulates : Simulates f m m') {s s' : σ}
    (left : (m s).state? = some s') : (m' (f s)).state? = some (f s') := by
  rw [simulates s, Outcome.state?_mapState, left, Option.map_some]

theorem Simulates.returned (simulates : Simulates f m m') {s s' : σ} {a : α}
    (returned : m s = .returned a s') : m' (f s) = .returned a (f s') := by
  rw [simulates s, returned, Outcome.mapState_returned]

/-! ## Calls that may be cut short -/

/-- Seen through `f`, the call `m` is the call `m'`, unless it throws. -/
def SimulatesOrThrows (f : σ → τ) (m : Call ε σ α) (m' : Call ε τ α) : Prop :=
  ∀ s, (∃ e t, m s = .thrown e t) ∨ m' (f s) = (m s).mapState f

theorem Simulates.orThrows (simulates : Simulates f m m') : SimulatesOrThrows f m m' :=
  fun s => .inr (simulates s)

theorem simulatesOrThrows_pure (a : α) :
    SimulatesOrThrows f (pure a : Call ε σ α) (pure a) := (simulates_pure a).orThrows

theorem simulatesOrThrows_modify {g : σ → σ} {g' : τ → τ} (commute : ∀ s, g' (f s) = f (g s)) :
    SimulatesOrThrows f (modify g : Call ε σ PUnit) (modify g') := by
  intro s
  refine .inr ?_
  rw [modify_apply, modify_apply, commute s]
  rfl

/-- Sequencing: an exception of the first call is one of the whole. -/
theorem simulatesOrThrows_bind (first : SimulatesOrThrows f m m')
    (later : ∀ a, SimulatesOrThrows f (next a) (next' a)) :
    SimulatesOrThrows f (m >>= next) (m' >>= next') := by
  intro s
  rw [bind_apply, bind_apply]
  rcases first s with ⟨e, t, thrown⟩ | same
  · rw [thrown]
    exact .inl ⟨e, t, rfl⟩
  · rw [same]
    cases m s with
    | returned a t => exact later a t
    | thrown e t => exact .inl ⟨e, t, rfl⟩
    | undefined => exact .inr rfl

/-- A program that looks at its state. -/
theorem simulatesOrThrows_get_bind {next : σ → Call ε σ γ} {next' : τ → Call ε τ γ}
    (later : ∀ s, SimulatesOrThrows f (next s) (next' (f s))) :
    SimulatesOrThrows f (get >>= next) (get >>= next') := by
  intro s
  exact later s s

/-- A program that works on a part of the state. -/
theorem simulatesOrThrows_within {κ κ' : Type} {g : κ → κ'} {get : σ → κ} {put : κ → σ → σ}
    {get' : τ → κ'} {put' : κ' → τ → τ} {n : Call ε κ α} {n' : Call ε κ' α}
    (inner : SimulatesOrThrows g n n') (gets : ∀ s, get' (f s) = g (get s))
    (puts : ∀ t s, put' (g t) (f s) = f (put t s)) :
    SimulatesOrThrows f (within get put n) (within get' put' n') := by
  intro s
  rw [within_apply, within_apply, gets]
  rcases inner (get s) with ⟨e, t, thrown⟩ | same
  · rw [thrown]
    exact .inl ⟨e, _, rfl⟩
  · rw [same]
    refine .inr ?_
    cases n (get s) with
    | returned a t => exact congrArg (Outcome.returned a) (puts t s)
    | thrown e t => exact congrArg (Outcome.thrown e) (puts t s)
    | undefined => rfl

theorem simulatesOrThrows_ite {p : Prop} [Decidable p] {m₁ : Call ε σ α} {m₁' : Call ε τ α}
    (yes : SimulatesOrThrows f m m') (no : SimulatesOrThrows f m₁ m₁') :
    SimulatesOrThrows f (if p then m else m₁) (if p then m' else m₁') := by
  split
  · exact yes
  · exact no

end Semantics.Call
