import Mathlib

/-!
# Calls of an imperative program

A call of a C or C++ function started in a state `s : σ` ends in one of three
ways: it *returns* a value, it is left by an *exception*, or it has no defined
behaviour (a dangling pointer is followed, an index leaves its array, a signed
counter overflows).  In the first two cases it leaves a state behind: an
exception does not undo what happened before it.

* `Outcome ε σ α` — the three ends of a call.
* `Call ε σ α` — a call, applied to the state it starts in; a monad with
  `throw` and `try … catch`.  A catch block sees exceptions only, never
  undefined behaviour.
* `Call.within` — a call on a component of the state, run inside the whole.
* `Outcome.Ends` — the postcondition of a call: one assertion for a return, one
  for an exception.  A call that satisfies *any* postcondition is defined.
* `Call.Keeps` — the call keeps an invariant, as far as it returns.
* `Call.Gives` — the values it returns are of a kind.
* `Outcome.andThen` and the inversion lemmas below it take a call apart
  exactly, where a postcondition is not enough.
-/

namespace Semantics

/-- How a call ends. -/
inductive Outcome (ε σ α : Type) where
  /-- The call returns a value. -/
  | returned (value : α) (state : σ)
  /-- The call is left by an exception. -/
  | thrown (exception : ε) (state : σ)
  /-- The call has no defined behaviour. -/
  | undefined

/-- A call: what it does from the state it starts in. -/
structure Call (ε σ α : Type) where
  run : σ → Outcome ε σ α

instance {ε σ α : Type} : CoeFun (Call ε σ α) fun _ => σ → Outcome ε σ α := ⟨Call.run⟩

variable {ε σ τ α γ δ : Type}

namespace Outcome

/-- Continue after a return; an exception passes through. -/
def andThen : Outcome ε σ α → (α → Call ε σ γ) → Outcome ε σ γ
  | returned a s, next => next a s
  | thrown e s, _ => thrown e s
  | undefined, _ => undefined

/-- Continue after an exception; a return passes through. -/
def rescue : Outcome ε σ α → (ε → Call ε σ α) → Outcome ε σ α
  | returned a s, _ => returned a s
  | thrown e s, handler => handler e s
  | undefined, _ => undefined

/-- Change the state a call leaves behind. -/
def mapState (f : σ → τ) : Outcome ε σ α → Outcome ε τ α
  | returned a s => returned a (f s)
  | thrown e s => thrown e (f s)
  | undefined => undefined

/-- The state a defined call leaves behind. -/
def state? : Outcome ε σ α → Option σ
  | returned _ s => some s
  | thrown _ s => some s
  | undefined => none

/-- The value of a call that returns. -/
def value? : Outcome ε σ α → Option α
  | returned a _ => some a
  | thrown _ _ => none
  | undefined => none

/-- A call has a value if it returns. -/
theorem value?_eq_some {o : Outcome ε σ α} {a : α} :
    o.value? = some a ↔ ∃ s, o = returned a s := by
  cases o <;> simp [value?]

@[simp] theorem state?_returned (a : α) (s : σ) :
    (returned a s : Outcome ε σ α).state? = some s := rfl

@[simp] theorem state?_thrown (e : ε) (s : σ) :
    (thrown e s : Outcome ε σ α).state? = some s := rfl

@[simp] theorem state?_undefined : (undefined : Outcome ε σ α).state? = none := rfl

@[simp] theorem andThen_returned (a : α) (s : σ) (next : α → Call ε σ γ) :
    (returned a s).andThen next = next a s := rfl

@[simp] theorem andThen_thrown (e : ε) (s : σ) (next : α → Call ε σ γ) :
    (thrown e s).andThen next = thrown e s := rfl

@[simp] theorem andThen_undefined (next : α → Call ε σ γ) :
    (undefined : Outcome ε σ α).andThen next = undefined := rfl

@[simp] theorem rescue_returned (a : α) (s : σ) (handler : ε → Call ε σ α) :
    (returned a s).rescue handler = returned a s := rfl

@[simp] theorem rescue_thrown (e : ε) (s : σ) (handler : ε → Call ε σ α) :
    (thrown e s).rescue handler = handler e s := rfl

@[simp] theorem rescue_undefined (handler : ε → Call ε σ α) :
    (undefined : Outcome ε σ α).rescue handler = undefined := rfl

@[simp] theorem mapState_returned (f : σ → τ) (a : α) (s : σ) :
    (returned a s : Outcome ε σ α).mapState f = returned a (f s) := rfl

@[simp] theorem mapState_thrown (f : σ → τ) (e : ε) (s : σ) :
    (thrown e s : Outcome ε σ α).mapState f = thrown e (f s) := rfl

@[simp] theorem mapState_undefined (f : σ → τ) :
    (undefined : Outcome ε σ α).mapState f = undefined := rfl

@[simp] theorem state?_mapState (f : σ → τ) (o : Outcome ε σ α) :
    (o.mapState f).state? = o.state?.map f := by
  cases o <;> rfl

/-- Continuations compose. -/
theorem andThen_assoc (o : Outcome ε σ α) (f : α → Call ε σ γ) (g : γ → Call ε σ δ) :
    (o.andThen f).andThen g = o.andThen fun a => ⟨fun s => (f a s).andThen g⟩ := by
  cases o <;> rfl

/-! ### Taking a finished call apart -/

/-- What returns in two parts returns in both. -/
theorem andThen_eq_returned {o : Outcome ε σ α} {next : α → Call ε σ γ} {c : γ} {s : σ} :
    o.andThen next = returned c s ↔ ∃ a s₁, o = returned a s₁ ∧ next a s₁ = returned c s := by
  cases o with
  | returned a s₁ =>
      constructor
      · exact fun h => ⟨a, s₁, rfl, h⟩
      · rintro ⟨_, _, ⟨⟩, h⟩
        exact h
  | thrown e s₁ => simp
  | undefined => simp

/-! ### Postconditions -/

/-- The call is defined, a return satisfies `Q` and an exception satisfies
`E`. -/
def Ends (Q : α → σ → Prop) (E : ε → σ → Prop) : Outcome ε σ α → Prop
  | returned a s => Q a s
  | thrown e s => E e s
  | undefined => False

variable {Q Q' : α → σ → Prop} {E E' : ε → σ → Prop}

@[simp] theorem ends_returned {a : α} {s : σ} :
    (returned a s : Outcome ε σ α).Ends Q E ↔ Q a s := Iff.rfl

@[simp] theorem ends_thrown {e : ε} {s : σ} :
    (thrown e s : Outcome ε σ α).Ends Q E ↔ E e s := Iff.rfl

@[simp] theorem ends_undefined : (undefined : Outcome ε σ α).Ends Q E ↔ False := Iff.rfl

/-- Consequence. -/
theorem Ends.imp {o : Outcome ε σ α} (ends : o.Ends Q E)
    (returns : ∀ a s, Q a s → Q' a s) (throws : ∀ e s, E e s → E' e s) : o.Ends Q' E' := by
  cases o with
  | returned a s => exact returns a s ends
  | thrown e s => exact throws e s ends
  | undefined => exact ends

/-- A sequence ends as its second part does from where the first one ends. -/
theorem ends_andThen {o : Outcome ε σ α} {next : α → Call ε σ γ} {R : γ → σ → Prop} :
    (o.andThen next).Ends R E ↔ o.Ends (fun a s => (next a s).Ends R E) E := by
  cases o <;> rfl

theorem Ends.of_returned {o : Outcome ε σ α} (ends : o.Ends Q E) {a : α} {s : σ}
    (equation : o = returned a s) : Q a s := by
  subst equation
  exact ends

theorem Ends.of_thrown {o : Outcome ε σ α} (ends : o.Ends Q E) {e : ε} {s : σ}
    (equation : o = thrown e s) : E e s := by
  subst equation
  exact ends

end Outcome

namespace Call

instance : Monad (Call ε σ) where
  pure a := ⟨fun s => .returned a s⟩
  bind m next := ⟨fun s => (m s).andThen next⟩

instance : LawfulMonad (Call ε σ) := LawfulMonad.mk' _
  (fun m => by
    apply congrArg Call.mk
    funext s
    cases m s <;> rfl)
  (fun _ _ => rfl)
  (fun m f g => by
    apply congrArg Call.mk
    funext s
    exact Outcome.andThen_assoc (m s) f g)

instance : MonadExceptOf ε (Call ε σ) where
  throw e := ⟨fun s => .thrown e s⟩
  tryCatch m handler := ⟨fun s => (m s).rescue handler⟩

instance : MonadStateOf σ (Call ε σ) where
  get := ⟨fun s => .returned s s⟩
  set s := ⟨fun _ => .returned ⟨⟩ s⟩
  modifyGet f := ⟨fun s => .returned (f s).1 (f s).2⟩

/-- Behaviour the language leaves undefined. -/
def undefined : Call ε σ α := ⟨fun _ => .undefined⟩

/-- Run a call on the component `get` of the state and store what it leaves
there with `put`. -/
def within (get : σ → τ) (put : τ → σ → σ) (m : Call ε τ α) : Call ε σ α :=
  ⟨fun s => (m (get s)).mapState fun t => put t s⟩

variable {m : Call ε σ α} {next : α → Call ε σ γ} {s : σ}

@[simp] theorem pure_apply (a : α) : (pure a : Call ε σ α) s = .returned a s := rfl

@[simp] theorem bind_apply : (m >>= next) s = (m s).andThen next := rfl

@[simp] theorem map_apply (f : α → γ) : (f <$> m) s = (m s).andThen fun a => pure (f a) := rfl

@[simp] theorem throw_apply (e : ε) : (throw e : Call ε σ α) s = .thrown e s := rfl

@[simp] theorem tryCatch_apply (handler : ε → Call ε σ α) :
    (tryCatch m handler) s = (m s).rescue handler := rfl

@[simp] theorem get_apply : (get : Call ε σ σ) s = .returned s s := rfl

@[simp] theorem set_apply (s' : σ) : (set s' : Call ε σ PUnit) s = .returned ⟨⟩ s' := rfl

@[simp] theorem modify_apply (f : σ → σ) :
    (modify f : Call ε σ PUnit) s = .returned ⟨⟩ (f s) := rfl

@[simp] theorem undefined_apply : (undefined : Call ε σ α) s = .undefined := rfl

@[simp] theorem within_apply (get : σ → τ) (put : τ → σ → σ) (m : Call ε τ α) :
    within get put m s = (m (get s)).mapState fun t => put t s := rfl

@[simp] theorem ite_apply (c : Prop) [Decidable c] (m m' : Call ε σ α) :
    (if c then m else m') s = if c then m s else m' s := by
  split <;> rfl

/-! ### Calls that return -/

/-- A sequence returns if both parts do. -/
theorem bind_eq_returned {c : γ} {s' : σ} : (m >>= next) s = .returned c s' ↔
    ∃ a s₁, m s = .returned a s₁ ∧ next a s₁ = .returned c s' := by
  rw [bind_apply, Outcome.andThen_eq_returned]

/-- A check that throws. -/
theorem check_eq_returned {p : Prop} [Decidable p] {e : ε} {a : α} {s' : σ} :
    (if p then throw e else m) s = .returned a s' ↔ ¬p ∧ m s = .returned a s' := by
  split <;> simp [*]

/-- Something that is only done under a condition. -/
theorem when_eq_returned {p : Prop} [Decidable p] {m : Call ε σ Unit} {u : Unit} {s' : σ} :
    (if p then m else pure ()) s = .returned u s' ↔
      if p then m s = .returned u s' else s' = s := by
  split <;> simp [eq_comm]

/-! ### Invariants -/

/-- Every return of the call keeps the invariant. -/
def Keeps (I : σ → Prop) (m : Call ε σ α) : Prop :=
  ∀ s a s', I s → m s = .returned a s' → I s'

section Keeps

variable {I : σ → Prop} {m' : Call ε σ α}

theorem keeps_pure (a : α) : Keeps I (pure a : Call ε σ α) := by
  intro s b s' holds returned
  cases returned
  exact holds

/-- An exception is no return. -/
theorem keeps_throw (e : ε) : Keeps I (throw e : Call ε σ α) := by
  intro s a s' _ returned
  cases returned

/-- A sequence keeps what both parts keep. -/
theorem keeps_bind (first : Keeps I m) (later : ∀ a, Keeps I (next a)) : Keeps I (m >>= next) := by
  intro s c s' holds returned
  obtain ⟨a, s₁, begun, ended⟩ := bind_eq_returned.mp returned
  exact later a s₁ c s' (first s a s₁ holds begun) ended

theorem keeps_ite {p : Prop} [Decidable p] (yes : Keeps I m) (no : Keeps I m') :
    Keeps I (if p then m else m') := by
  split
  · exact yes
  · exact no

theorem keeps_undefined : Keeps I (undefined : Call ε σ α) := by
  intro s a s' _ returned
  cases returned

theorem keeps_get : Keeps I (get : Call ε σ σ) := by
  intro s a s' holds returned
  cases returned
  exact holds

/-- An assignment keeps what it does not touch. -/
theorem keeps_modify {f : σ → σ} (kept : ∀ s, I s → I (f s)) :
    Keeps I (modify f : Call ε σ PUnit) := by
  intro s a s' holds returned
  cases returned
  exact kept s holds

/-- A call on a component keeps what does not depend on the component. -/
theorem keeps_within {get : σ → τ} {put : τ → σ → σ} {m : Call ε τ α}
    (kept : ∀ s t, I s → I (put t s)) : Keeps I (within get put m) := by
  intro s a s' holds returned
  rw [within_apply] at returned
  generalize m (get s) = outcome at returned
  cases outcome with
  | returned a t =>
      cases returned
      exact kept s t holds
  | thrown e t => cases returned
  | undefined => cases returned

end Keeps

/-! ### Values -/

/-- Every value the call returns is of the kind. -/
def Gives (Q : α → Prop) (m : Call ε σ α) : Prop :=
  ∀ s a s', m s = .returned a s' → Q a

section Gives

variable {Q : α → Prop} {R : γ → Prop} {m' : Call ε σ α}

theorem gives_pure {a : α} (holds : Q a) : Gives Q (pure a : Call ε σ α) := by
  intro s b s' returned
  cases returned
  exact holds

/-- The last part gives the value. -/
theorem gives_bind (later : ∀ a, Gives R (next a)) : Gives R (m >>= next) := by
  intro s c s' returned
  obtain ⟨a, s₁, -, ended⟩ := bind_eq_returned.mp returned
  exact later a s₁ c s' ended

theorem gives_ite {p : Prop} [Decidable p] (yes : p → Gives Q m) (no : ¬p → Gives Q m') :
    Gives Q (if p then m else m') := by
  split
  · next holds => exact yes holds
  · next fails => exact no fails

theorem gives_undefined : Gives Q (undefined : Call ε σ α) := by
  intro s a s' returned
  cases returned

end Gives

/-! ### The rules of postconditions -/

variable {Q : α → σ → Prop} {R : γ → σ → Prop} {E E' : ε → σ → Prop}

/-- Sequencing: the postcondition of the first call is a precondition of the
second. -/
theorem ends_bind (first : (m s).Ends Q E)
    (second : ∀ a s', Q a s' → (next a s').Ends R E) : ((m >>= next) s).Ends R E := by
  rw [bind_apply, Outcome.ends_andThen]
  exact first.imp second fun _ _ h => h

end Call

end Semantics
