import DocMapper.Proofs.Outcome

/-!
# How runs end

`Ends` says of a run from a state how it ends, by one condition for a result and one for an error,
each together with the state that is left behind. The equations take it through a program from the
front to the back, so that a statement about a program becomes statements about its steps. `Raises`
is the special case of the errors of a run from whatever state.
-/

namespace DocMapper.Run

variable {ε ε' σ τ α β : Type}

/-- The run ends with a result that is `good` or with an error that is `bad`, for the state that it
leaves behind. -/
def Ends (act : Run ε σ α) (state : σ) (good : α → σ → Prop) (bad : ε → σ → Prop) : Prop :=
  match act.outcome state with
  | (.ok a, after) => good a after
  | (.error error, after) => bad error after

section

variable {act : Run ε σ α} {state after : σ} {good : α → σ → Prop} {bad : ε → σ → Prop}

theorem ends_of_ok {a : α} (ran : act.outcome state = (.ok a, after)) :
    act.Ends state good bad ↔ good a after := by
  rw [Ends, ran]

theorem ends_of_error {error : ε} (ran : act.outcome state = (.error error, after)) :
    act.Ends state good bad ↔ bad error after := by
  rw [Ends, ran]

@[simp] theorem ends_pure (a : α) : (pure a : Run ε σ α).Ends state good bad ↔ good a state :=
  Iff.rfl

@[simp] theorem ends_throw (error : ε) :
    (throw error : Run ε σ α).Ends state good bad ↔ bad error state := Iff.rfl

@[simp] theorem ends_get {good : σ → σ → Prop} :
    (get : Run ε σ σ).Ends state good bad ↔ good state state := Iff.rfl

@[simp] theorem ends_set {good : PUnit → σ → Prop} (next : σ) :
    (set next : Run ε σ PUnit).Ends state good bad ↔ good ⟨⟩ next := Iff.rfl

@[simp] theorem ends_modify {good : PUnit → σ → Prop} (f : σ → σ) :
    (modify f : Run ε σ PUnit).Ends state good bad ↔ good ⟨⟩ (f state) := Iff.rfl

theorem ends_ofExcept {result : Except ε α} (right : ∀ a, result = .ok a → good a state)
    (wrong : ∀ error, result = .error error → bad error state) :
    (ofExcept result : Run ε σ α).Ends state good bad := by
  cases result with
  | ok a => exact right a rfl
  | error error => exact wrong error rfl

@[simp] theorem ends_bind {next : α → Run ε σ β} {good : β → σ → Prop} :
    (act >>= next).Ends state good bad ↔
      act.Ends state (fun a middle => (next a).Ends middle good bad) bad := by
  rcases ran : act.outcome state with ⟨error | a, middle⟩
  · rw [ends_of_error (outcome_bind_of_error ran), ends_of_error ran]
  · rw [ends_of_ok ran, Ends, outcome_bind_of_ok ran, Ends]

theorem Ends.mono {good' : α → σ → Prop} {bad' : ε → σ → Prop} (ends : act.Ends state good bad)
    (right : ∀ a after, good a after → good' a after)
    (wrong : ∀ error after, bad error after → bad' error after) : act.Ends state good' bad' := by
  rcases ran : act.outcome state with ⟨error | a, middle⟩
  · exact (ends_of_error ran).mpr (wrong error middle ((ends_of_error ran).mp ends))
  · exact (ends_of_ok ran).mpr (right a middle ((ends_of_ok ran).mp ends))

/-- What holds of the state that is left behind, however the run ends. -/
theorem ends_of_after {left : σ → Prop} (holds : left (act.outcome state).2) :
    act.Ends state (fun _ => left) fun _ => left := by
  rcases ran : act.outcome state with ⟨error | a, after⟩ <;>
    simpa [Ends, ran] using holds

theorem Ends.bind {next : α → Run ε σ β} {good' : β → σ → Prop} {bad' : ε → σ → Prop}
    (first : act.Ends state good bad)
    (second : ∀ a middle, good a middle → (next a).Ends middle good' bad')
    (wrong : ∀ error after, bad error after → bad' error after) :
    (act >>= next).Ends state good' bad' :=
  ends_bind.mpr (first.mono second wrong)

theorem ends_attempt {good : Except ε α → σ → Prop} :
    act.attempt.Ends state good bad ↔
      act.Ends state (fun a => good (.ok a)) fun error => good (.error error) := by
  rcases ran : act.outcome state with ⟨error | a, after⟩ <;> simp [Ends, ran]

theorem ends_onFirst {companion : τ} {good : α → σ × τ → Prop} {bad : ε → σ × τ → Prop} :
    (onFirst act : Run ε (σ × τ) α).Ends (state, companion) good bad ↔
      act.Ends state (fun a after => good a (after, companion))
        fun error after => bad error (after, companion) := by
  rcases ran : act.outcome state with ⟨error | a, after⟩ <;> simp [Ends, ran]

theorem ends_zoom {part : τ → σ} {update : τ → σ → τ} {whole : τ} {good : α → τ → Prop}
    {bad : ε → τ → Prop} :
    (zoom part update act).Ends whole good bad ↔
      act.Ends (part whole) (fun a after => good a (update whole after))
        fun error after => bad error (update whole after) := by
  rcases ran : act.outcome (part whole) with ⟨error | a, after⟩ <;> simp [Ends, ran]

theorem ends_onError {repair : σ → σ} :
    (onError act repair).Ends state good bad ↔
      act.Ends state good fun error after => bad error (repair after) := by
  rcases ran : act.outcome state with ⟨error | a, after⟩ <;> simp [Ends, outcome_onError, ran]

theorem ends_mapError {f : ε → ε'} {bad : ε' → σ → Prop} :
    (act.mapError f).Ends state good bad ↔
      act.Ends state good fun error after => bad (f error) after := by
  rcases ran : act.outcome state with ⟨error | a, after⟩ <;> simp [Ends, ran, Except.mapError]

theorem ends_withCompanion {companion : τ} {act : Run ε (σ × τ) α} {good : α × τ → σ → Prop} :
    (withCompanion companion act).Ends state good bad ↔
      act.Ends (state, companion) (fun a after => good (a, after.2) after.1)
        fun error after => bad error after.1 := by
  rcases ran : act.outcome (state, companion) with ⟨error | a, after⟩ <;>
    simp [Ends, ran, Except.map]

/-- What holds between the members of a list holds after all of them. -/
theorem ends_foldlM {f : β → α → Run ε σ β} {items : List α} {start : β}
    (between : β → σ → Prop)
    (each : ∀ b, ∀ a ∈ items, ∀ state, between b state → (f b a).Ends state between bad)
    (holds : between start state) : (items.foldlM f start).Ends state between bad := by
  induction items generalizing start state with
  | nil => exact holds
  | cons a rest ih =>
    rw [List.foldlM_cons]
    exact (each start a List.mem_cons_self state holds).bind
      (fun b _ held => ih (fun b' a' member => each b' a' (List.mem_cons_of_mem _ member)) held)
      fun _ _ wrong => wrong

/-- What every member of a list leaves as it is holds after all of them. -/
theorem ends_mapM {f : α → Run ε σ β} {items : List α} (between : σ → Prop)
    (each : ∀ a ∈ items, ∀ state, between state → (f a).Ends state (fun _ => between) bad)
    (holds : between state) : (items.mapM f).Ends state (fun _ => between) bad := by
  induction items generalizing state with
  | nil => exact holds
  | cons a rest ih =>
    rw [List.mapM_cons]
    refine (each a List.mem_cons_self state holds).bind (fun b middle held => ?_)
      fun _ _ wrong => wrong
    exact (ih (fun a' member => each a' (List.mem_cons_of_mem _ member)) held).bind
      (fun _ _ held => held) fun _ _ wrong => wrong

theorem ends_forM {f : α → Run ε σ PUnit} {items : List α} (between : σ → Prop)
    (each : ∀ a ∈ items, ∀ state, between state → (f a).Ends state (fun _ => between) bad)
    (holds : between state) : (items.forM f).Ends state (fun _ => between) bad := by
  induction items generalizing state with
  | nil => exact holds
  | cons a rest ih =>
    exact (each a List.mem_cons_self state holds).bind
      (fun _ _ held => ih (fun a' member => each a' (List.mem_cons_of_mem _ member)) held)
      fun _ _ wrong => wrong

end

/-! ### The errors of a run -/

/-- Whatever state the run starts from, its errors are among these. -/
def Raises (act : Run ε σ α) (among : ε → Prop) : Prop :=
  ∀ state, act.Ends state (fun _ _ => True) fun error _ => among error

namespace Raises

variable {act : Run ε σ α} {among : ε → Prop}

theorem pure (a : α) : (Pure.pure a : Run ε σ α).Raises among := fun _ => trivial

theorem throw {error : ε} (isAmong : among error) :
    (MonadExcept.throw error : Run ε σ α).Raises among := fun _ => isAmong

theorem ofExcept {result : Except ε α} (isAmong : ∀ error, result = .error error → among error) :
    (Run.ofExcept result : Run ε σ α).Raises among := fun _ =>
  ends_ofExcept (fun _ _ => trivial) isAmong

theorem get : (MonadState.get : Run ε σ σ).Raises among := fun _ => trivial

theorem modify (f : σ → σ) : (modify f : Run ε σ PUnit).Raises among := fun _ => trivial

theorem bind {next : α → Run ε σ β} (first : act.Raises among)
    (second : ∀ a, (next a).Raises among) : (act >>= next).Raises among := fun state =>
  (first state).bind (fun a middle _ => second a middle) fun _ _ isAmong => isAmong

theorem throw_bind {error : ε} (isAmong : among error) (next : α → Run ε σ β) :
    ((MonadExcept.throw error : Run ε σ α) >>= next).Raises among := fun _ => isAmong

theorem foldlM {f : β → α → Run ε σ β} {items : List α} {start : β}
    (each : ∀ b a, (f b a).Raises among) : (items.foldlM f start).Raises among := fun _ =>
  ends_foldlM (fun _ _ => True) (fun b a _ middle _ => each b a middle) trivial

theorem mapM {f : α → Run ε σ β} {items : List α} (each : ∀ a, (f a).Raises among) :
    (items.mapM f).Raises among := fun _ =>
  ends_mapM (fun _ => True) (fun a _ middle _ => each a middle) trivial

theorem optionMapM {f : α → Run ε σ β} {item : Option α} (each : ∀ a, (f a).Raises among) :
    (item.mapM f).Raises among := by
  cases item with
  | none => exact pure none
  | some a =>
    rw [Option.mapM_some, map_eq_pure_bind]
    exact (each a).bind fun b => pure (some b)

theorem mapError {among' : ε' → Prop} {f : ε → ε'} (raises : act.Raises among)
    (maps : ∀ error, among error → among' (f error)) : (act.mapError f).Raises among' := by
  intro state
  have ends := raises state
  rcases ran : act.outcome state with ⟨error | a, after⟩
  · simp only [Ends, outcome_mapError, ran] at ends ⊢
    exact maps error ends
  · simp [Ends, ran, Except.mapError]

/-- A run whose errors are known ends with a result or with one of them. -/
theorem error_among {state after : σ} {error : ε} (raises : act.Raises among)
    (ran : act.outcome state = (.error error, after)) : among error :=
  (ends_of_error ran).mp (raises state)

end Raises

end DocMapper.Run
