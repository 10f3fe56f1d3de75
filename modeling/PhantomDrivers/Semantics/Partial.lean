import PhantomDrivers.Semantics.Call

/-!
# Partial correctness

`Outcome.Ends` demands that a call is defined.  Where undefined behaviour is the
subject of another theorem, `Leaves` says the rest: what a call that is defined
leaves behind.

* `Outcome.Leaves` — one assertion for a return, one for an exception, and
  nothing about a call that has no defined behaviour.
* `Call.Upholds` — an invariant that the call keeps if it returns, and what holds
  when it throws.
* `Call.Preserves` — an invariant that survives the call however it ends.  This
  is stronger than `Call.Keeps`, which says nothing about exceptions.
* `Call.Fixes` — a component of the state that the call does not change.
-/

namespace Semantics

variable {ε σ τ α γ κ κ' : Type}

namespace Outcome

/-- A return satisfies `Q` and an exception satisfies `E`. -/
def Leaves (Q : α → σ → Prop) (E : ε → σ → Prop) : Outcome ε σ α → Prop
  | returned a s => Q a s
  | thrown e s => E e s
  | undefined => True

variable {Q Q' : α → σ → Prop} {E E' : ε → σ → Prop} {I : σ → Prop} {o : Outcome ε σ α}

@[simp] theorem leaves_returned {a : α} {s : σ} :
    (returned a s : Outcome ε σ α).Leaves Q E ↔ Q a s := Iff.rfl

@[simp] theorem leaves_thrown {e : ε} {s : σ} :
    (thrown e s : Outcome ε σ α).Leaves Q E ↔ E e s := Iff.rfl

@[simp] theorem leaves_undefined : (undefined : Outcome ε σ α).Leaves Q E := trivial

/-- Consequence. -/
theorem Leaves.imp (leaves : o.Leaves Q E) (returns : ∀ a s, Q a s → Q' a s)
    (throws : ∀ e s, E e s → E' e s) : o.Leaves Q' E' := by
  cases o with
  | returned a s => exact returns a s leaves
  | thrown e s => exact throws e s leaves
  | undefined => trivial

/-- Conjunction. -/
theorem Leaves.and (first : o.Leaves Q E) (second : o.Leaves Q' E') :
    o.Leaves (fun a s => Q a s ∧ Q' a s) fun e s => E e s ∧ E' e s := by
  cases o with
  | returned a s => exact ⟨first, second⟩
  | thrown e s => exact ⟨first, second⟩
  | undefined => trivial

/-- The second part starts where the first one leaves off. -/
theorem leaves_andThen {next : α → Call ε σ γ} {R : γ → σ → Prop} :
    (o.andThen next).Leaves R E ↔ o.Leaves (fun a s => (next a s).Leaves R E) E := by
  cases o <;> rfl

/-- The handler starts where the exception leaves off. -/
theorem leaves_rescue {handler : ε → Call ε σ α} :
    (o.rescue handler).Leaves Q E ↔ o.Leaves Q fun e s => (handler e s).Leaves Q E := by
  cases o <;> rfl

theorem leaves_mapState {f : σ → τ} {R : α → τ → Prop} {F : ε → τ → Prop} :
    (o.mapState f).Leaves R F ↔ o.Leaves (fun a s => R a (f s)) fun e s => F e (f s) := by
  cases o <;> rfl

/-- The state a call leaves behind, however it ends. -/
theorem leaves_state? : o.Leaves (fun _ => I) (fun _ => I) ↔ ∀ s, o.state? = some s → I s := by
  cases o with
  | returned a s => simp
  | thrown e s => simp
  | undefined => simp

theorem Leaves.of_state? (leaves : o.Leaves (fun _ => I) fun _ => I) {s : σ}
    (left : o.state? = some s) : I s :=
  leaves_state?.mp leaves s left

end Outcome

namespace Call

variable {m m' : Call ε σ α} {next : α → Call ε σ γ} {handler : ε → Call ε σ α} {s : σ}
  {Q : α → σ → Prop} {R : γ → σ → Prop} {E E' : ε → σ → Prop} {I : σ → Prop} {f : σ → κ}

/-! ### The rules -/

/-- The rule for a sequence. -/
theorem leaves_bind (first : (m s).Leaves Q E)
    (second : ∀ a s', Q a s' → (next a s').Leaves R E) : ((m >>= next) s).Leaves R E := by
  rw [bind_apply, Outcome.leaves_andThen]
  exact first.imp second fun _ _ left => left

/-- The rule for `try` and `catch`. -/
theorem leaves_tryCatch (body : (m s).Leaves Q E')
    (handled : ∀ e s', E' e s' → (handler e s').Leaves Q E) :
    ((tryCatch m handler) s).Leaves Q E := by
  rw [tryCatch_apply, Outcome.leaves_rescue]
  exact body.imp (fun _ _ left => left) handled

/-- The rule for a branch. -/
theorem leaves_ite {p : Prop} [Decidable p] (yes : p → (m s).Leaves Q E)
    (no : ¬p → (m' s).Leaves Q E) : ((if p then m else m') s).Leaves Q E := by
  split
  · next holds => exact yes holds
  · next fails => exact no fails

/-! ### Invariants -/

/-- The invariant holds after a return, and the other assertion after an
exception. -/
def Upholds (I : σ → Prop) (E : ε → σ → Prop) (m : Call ε σ α) : Prop :=
  ∀ s, I s → (m s).Leaves (fun _ => I) E

/-- The invariant holds after the call, whether it returns or throws. -/
def Preserves (I : σ → Prop) (m : Call ε σ α) : Prop := Upholds I (fun _ => I) m

/-- The call does not change this component of the state. -/
def Fixes (f : σ → κ) (m : Call ε σ α) : Prop := ∀ c, Preserves (fun s => f s = c) m

section Upholds

theorem upholds_pure (a : α) : Upholds I E (pure a : Call ε σ α) := fun _ holds => holds

theorem upholds_undefined : Upholds I E (undefined : Call ε σ α) := fun _ _ => trivial

theorem upholds_get : Upholds I E (get : Call ε σ σ) := fun _ holds => holds

theorem upholds_modify {g : σ → σ} (kept : ∀ s, I s → I (g s)) :
    Upholds I E (modify g : Call ε σ PUnit) := fun s holds => kept s holds

/-- A sequence upholds what both parts uphold. -/
theorem upholds_bind (first : Upholds I E m) (later : ∀ a, Upholds I E (next a)) :
    Upholds I E (m >>= next) := fun s holds =>
  leaves_bind (first s holds) fun a s' => later a s'

theorem upholds_ite {p : Prop} [Decidable p] (yes : Upholds I E m) (no : Upholds I E m') :
    Upholds I E (if p then m else m') := fun s holds =>
  leaves_ite (fun _ => yes s holds) fun _ => no s holds

/-- A call on a component, by what it does to the component. -/
theorem upholds_within_of {J : τ → Prop} {F : ε → τ → Prop} {get : σ → τ} {put : τ → σ → σ}
    {m : Call ε τ α} (inner : Upholds J F m) (gets : ∀ s, I s → J (get s))
    (puts : ∀ s t, I s → J t → I (put t s)) (fails : ∀ e s t, I s → F e t → E e (put t s)) :
    Upholds I E (within get put m) := by
  intro s holds
  rw [within_apply, Outcome.leaves_mapState]
  exact (inner (get s) (gets s holds)).imp (fun _ t => puts s t holds) fun e t => fails e s t holds

end Upholds

section Preserves

theorem preserves_pure (a : α) : Preserves I (pure a : Call ε σ α) := upholds_pure a

theorem preserves_throw (e : ε) : Preserves I (throw e : Call ε σ α) := fun _ holds => holds

theorem preserves_undefined : Preserves I (undefined : Call ε σ α) := upholds_undefined

theorem preserves_get : Preserves I (get : Call ε σ σ) := upholds_get

theorem preserves_modify {g : σ → σ} (kept : ∀ s, I s → I (g s)) :
    Preserves I (modify g : Call ε σ PUnit) := upholds_modify kept

/-- Both of two invariants. -/
theorem Preserves.and {J : σ → Prop} (left : Preserves I m) (right : Preserves J m) :
    Preserves (fun s => I s ∧ J s) m := fun s holds =>
  (left s holds.1).and (right s holds.2)

theorem preserves_bind (first : Preserves I m) (later : ∀ a, Preserves I (next a)) :
    Preserves I (m >>= next) := upholds_bind first later

theorem preserves_ite {p : Prop} [Decidable p] (yes : Preserves I m) (no : Preserves I m') :
    Preserves I (if p then m else m') := upholds_ite yes no

/-- A handler must preserve what its body does. -/
theorem preserves_tryCatch (body : Preserves I m) (handled : ∀ e, Preserves I (handler e)) :
    Preserves I (tryCatch m handler) := fun s holds =>
  leaves_tryCatch (body s holds) fun e s' => handled e s'

/-- A call on a part of the state preserves what does not depend on this part. -/
theorem preserves_within {get : σ → τ} {put : τ → σ → σ} {m : Call ε τ α}
    (kept : ∀ s t, I s → I (put t s)) : Preserves I (within get put m) := by
  intro s holds
  rw [within_apply, Outcome.leaves_mapState]
  cases m (get s) with
  | returned a t => exact kept s t holds
  | thrown e t => exact kept s t holds
  | undefined => trivial

/-- What depends on a component only is an invariant of the calls that do not
change it. -/
theorem Fixes.preserves (fixes : Fixes f m) (depends : ∀ s s', f s' = f s → I s → I s') :
    Preserves I m := by
  intro s holds
  refine (fixes (f s) s rfl).imp ?_ ?_
  · intro a s' same
    exact depends s s' same holds
  · intro e s' same
    exact depends s s' same holds

/-- A part of what the call does not change. -/
theorem Fixes.comp (fixes : Fixes f m) (part : κ → κ') : Fixes (part ∘ f) m :=
  fun _ => fixes.preserves fun _ _ same holds => (congrArg part same).trans holds

end Preserves

end Call

end Semantics
