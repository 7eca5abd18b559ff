/-!
# Runs

A run works on a state and ends with a result or an error; the state it leaves behind stays in both
cases. The operations here change the state or the error a run works with. Each comes with the
equation for running it.
-/

namespace DocMapper

/-- A computation on a state `σ` that may fail with an `ε`, leaving its state behind either way. -/
abbrev Run (ε σ α : Type) := ExceptT ε (StateM σ) α

namespace Run

variable {ε ε' σ τ α : Type}

/-- The result of a run and the state it leaves behind. -/
def outcome (act : Run ε σ α) (state : σ) : Except ε α × σ :=
  act state

/-- A run made of its outcome in every state. -/
def ofOutcome (f : σ → Except ε α × σ) : Run ε σ α :=
  f

@[simp] theorem outcome_ofOutcome (f : σ → Except ε α × σ) (state : σ) :
    outcome (ofOutcome f) state = f state := rfl

/-- A result that is known already. -/
def ofExcept (result : Except ε α) : Run ε σ α :=
  ofOutcome fun state => (result, state)

/-- Runs on a part of the state. -/
def zoom (part : σ → τ) (update : σ → τ → σ) (act : Run ε τ α) : Run ε σ α :=
  ofOutcome fun state =>
    let (result, inner) := act.outcome (part state)
    (result, update state inner)

def onFirst (act : Run ε σ α) : Run ε (σ × τ) α :=
  zoom Prod.fst (fun state inner => (inner, state.2)) act

def mapError (f : ε → ε') (act : Run ε σ α) : Run ε' σ α :=
  ofOutcome fun state =>
    let (result, state) := act.outcome state
    (result.mapError f, state)

/-- Makes the error a result. -/
def attempt (act : Run ε σ α) : Run ε σ (Except ε α) :=
  ofOutcome fun state =>
    let (result, state) := act.outcome state
    (.ok result, state)

/-- Runs `repair` on the state that a failing run leaves behind, and fails all the same. -/
def onError (act : Run ε σ α) (repair : σ → σ) : Run ε σ α :=
  ofOutcome fun state =>
    match act.outcome state with
    | (.ok result, state) => (.ok result, state)
    | (.error error, state) => (.error error, repair state)

/-- Runs with a companion of the state, whose last form goes with the result. -/
def withCompanion (companion : τ) (act : Run ε (σ × τ) α) : Run ε σ (α × τ) :=
  ofOutcome fun state =>
    let (result, state, companion) := act.outcome (state, companion)
    (result.map (·, companion), state)

@[simp] theorem outcome_pure (a : α) (state : σ) :
    outcome (pure a : Run ε σ α) state = (.ok a, state) := rfl

@[simp] theorem outcome_throw (error : ε) (state : σ) :
    outcome (throw error : Run ε σ α) state = (.error error, state) := rfl

theorem outcome_bind {β : Type} (act : Run ε σ α) (next : α → Run ε σ β) (state : σ) :
    outcome (act >>= next) state =
      match outcome act state with
      | (.ok a, state) => outcome (next a) state
      | (.error error, state) => (.error error, state) := by
  simp only [outcome, bind, ExceptT.bind, ExceptT.mk, StateT.bind]
  rcases act state with ⟨_ | _, _⟩ <;> rfl

@[simp] theorem outcome_ofExcept (result : Except ε α) (state : σ) :
    outcome (ofExcept result : Run ε σ α) state = (result, state) := rfl

@[simp] theorem outcome_zoom (part : σ → τ) (update : σ → τ → σ) (act : Run ε τ α) (state : σ) :
    outcome (zoom part update act) state =
      ((act.outcome (part state)).1, update state (act.outcome (part state)).2) := rfl

@[simp] theorem outcome_attempt (act : Run ε σ α) (state : σ) :
    outcome act.attempt state = (.ok (act.outcome state).1, (act.outcome state).2) := rfl

@[simp] theorem outcome_mapError (f : ε → ε') (act : Run ε σ α) (state : σ) :
    outcome (act.mapError f) state = ((act.outcome state).1.mapError f, (act.outcome state).2) :=
  rfl

end Run

end DocMapper
