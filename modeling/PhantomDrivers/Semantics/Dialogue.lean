import PhantomDrivers.Semantics.Partial
import PhantomDrivers.Semantics.Simulation

/-!
# Programs that ask

A program asks its environment one question after the other, and what it asks
next depends on the answers.  Seen as a call, only its end is visible.  A
`Dialogue` shows the questions themselves, for *all* answers the environment may
give.

* `Dialogue` — a program that keeps a record and asks questions.
* `run` — the dialogue as a call, given how a question is answered.
* `asked` — the question a dialogue has come to after some answers, and its
  record at that moment.
* `Meets` — an assertion about all questions, whatever the answers; `Meets.asked`
  says that it means what it says.
-/

namespace Semantics

/-- A program that keeps a record of type `ρ`.  Questions are of type `ι` and
answers of type `ω`. -/
inductive Dialogue (ρ ι ω α : Type) where
  | done (value : α)
  | note (update : ρ → ρ) (rest : Dialogue ρ ι ω α)
  | ask (question : ι) (rest : ω → Dialogue ρ ι ω α)

namespace Dialogue

variable {ρ ι ω α γ ε σ : Type}

/-- Go on with the value. -/
def bind : Dialogue ρ ι ω α → (α → Dialogue ρ ι ω γ) → Dialogue ρ ι ω γ
  | done a, next => next a
  | note update rest, next => note update (rest.bind next)
  | ask question rest, next => ask question fun answer => (rest answer).bind next

instance : Monad (Dialogue ρ ι ω) where
  pure := done
  bind := bind

/-- A question by itself. -/
def inquire (question : ι) : Dialogue ρ ι ω ω := ask question done

/-- An update of the record by itself. -/
def record (update : ρ → ρ) : Dialogue ρ ι ω Unit := note update (done ())

/-- The dialogue as a call. -/
def run (asking : ι → Call ε σ ω) (noting : (ρ → ρ) → Call ε σ Unit) :
    Dialogue ρ ι ω α → Call ε σ α
  | done a => pure a
  | note update rest => do
      noting update
      rest.run asking noting
  | ask question rest => do
      let answer ← asking question
      (rest answer).run asking noting

section Run

variable (asking : ι → Call ε σ ω) (noting : (ρ → ρ) → Call ε σ Unit)

@[simp] theorem run_pure (a : α) :
    (pure a : Dialogue ρ ι ω α).run asking noting = pure a := rfl

@[simp] theorem run_inquire (question : ι) :
    (inquire question : Dialogue ρ ι ω ω).run asking noting = asking question :=
  bind_pure _

@[simp] theorem run_record (update : ρ → ρ) :
    (record update : Dialogue ρ ι ω Unit).run asking noting = noting update :=
  bind_pure _

@[simp] theorem run_bind (d : Dialogue ρ ι ω α) (next : α → Dialogue ρ ι ω γ) :
    (d >>= next).run asking noting =
      d.run asking noting >>= fun a => (next a).run asking noting := by
  induction d with
  | done a =>
      show (next a).run asking noting = pure a >>= fun a => (next a).run asking noting
      rw [pure_bind]
  | note update rest ih =>
      refine Eq.trans ?_ (bind_assoc ..).symm
      exact congrArg (noting update >>= ·) (funext fun _ => ih)
  | ask question rest ih =>
      refine Eq.trans ?_ (bind_assoc ..).symm
      exact congrArg (asking question >>= ·) (funext fun answer => ih answer)

@[simp] theorem run_ite (p : Prop) [Decidable p] (d d' : Dialogue ρ ι ω α) :
    (if p then d else d').run asking noting =
      if p then d.run asking noting else d'.run asking noting := by
  split <;> rfl

/-- If the answers may be cut short by exceptions only, so may the dialogue. -/
theorem simulatesOrThrows_run {τ : Type} {f : σ → τ} {asking' : ι → Call ε τ ω}
    {noting' : (ρ → ρ) → Call ε τ Unit}
    (asks : ∀ question, Call.SimulatesOrThrows f (asking question) (asking' question))
    (notes : ∀ update, Call.SimulatesOrThrows f (noting update) (noting' update))
    (d : Dialogue ρ ι ω α) :
    Call.SimulatesOrThrows f (d.run asking noting) (d.run asking' noting') := by
  induction d with
  | done a => exact Call.simulatesOrThrows_pure a
  | note update rest ih => exact Call.simulatesOrThrows_bind (notes update) fun _ => ih
  | ask question rest ih => exact Call.simulatesOrThrows_bind (asks question) ih

/-- What the questions and the notes uphold, the dialogue does. -/
theorem upholds_run {I : σ → Prop} {E : ε → σ → Prop}
    (asks : ∀ question, Call.Upholds I E (asking question))
    (notes : ∀ update, Call.Upholds I E (noting update)) (d : Dialogue ρ ι ω α) :
    Call.Upholds I E (d.run asking noting) := by
  induction d with
  | done a => exact Call.upholds_pure a
  | note update rest ih => exact Call.upholds_bind (notes update) fun _ => ih
  | ask question rest ih => exact Call.upholds_bind (asks question) ih

end Run

/-- The question after these answers, and the record at that moment; none if
the dialogue is over before. -/
def asked : Dialogue ρ ι ω α → ρ → List ω → Option (ι × ρ)
  | done _, _, _ => none
  | note update rest, r, answers => rest.asked (update r) answers
  | ask question _, r, [] => some (question, r)
  | ask _ rest, r, answer :: answers => (rest answer).asked r answers

/-! ## Assertions about all questions -/

/-- Whatever the answers, every question satisfies `P`, and the end of the
dialogue satisfies `Q`.  Both may speak about the last answer. -/
def Meets (P : Option ω → ι → ρ → Prop) (Q : Option ω → α → ρ → Prop) :
    Dialogue ρ ι ω α → Option ω → ρ → Prop
  | done a, last, r => Q last a r
  | note update rest, last, r => rest.Meets P Q last (update r)
  | ask question rest, last, r =>
      P last question r ∧ ∀ answer, (rest answer).Meets P Q (some answer) r

variable {P : Option ω → ι → ρ → Prop} {Q Q' : Option ω → α → ρ → Prop}
  {R : Option ω → γ → ρ → Prop} {d : Dialogue ρ ι ω α} {next : α → Dialogue ρ ι ω γ}
  {last : Option ω} {r r' : ρ} {question : ι} {answers : List ω}

/-- Sequencing. -/
theorem meets_bind (first : d.Meets P Q last r)
    (later : ∀ last a r, Q last a r → (next a).Meets P R last r) :
    (d >>= next).Meets P R last r := by
  induction d generalizing last r with
  | done a => exact later last a r first
  | note update rest ih => exact ih first
  | ask question rest ih => exact ⟨first.1, fun answer => ih answer (first.2 answer)⟩

theorem meets_ite {p : Prop} [Decidable p] {d' : Dialogue ρ ι ω α}
    (yes : p → d.Meets P Q last r) (no : ¬p → d'.Meets P Q last r) :
    (if p then d else d').Meets P Q last r := by
  split
  · next holds => exact yes holds
  · next fails => exact no fails

/-- Every question that a dialogue comes to satisfies the assertion. -/
theorem Meets.asked (meets : d.Meets P Q last r)
    (asked : d.asked r answers = some (question, r')) :
    P (answers.getLast?.or last) question r' := by
  induction d generalizing last r answers with
  | done a => cases asked
  | note update rest ih => exact ih meets asked
  | ask question' rest ih =>
      cases answers with
      | nil =>
          cases asked
          exact meets.1
      | cons answer answers =>
          have spoken := ih answer (meets.2 answer) asked
          rw [List.getLast?_cons]
          cases later : answers.getLast? with
          | none => simpa [later] using spoken
          | some latest => simpa [later] using spoken

end Dialogue

end Semantics
