import Mathlib.Data.List.Forall2
import DocMapper.Run

/-!
# Outcomes of runs

How a run that is put together from smaller runs ends. A sequence ends well exactly if both of its
parts do, and a change of the state or of the error is read off the run inside it. Proofs about
operations take a run apart with these lemmas and never look at how runs are represented. The same
is said of results without a state, which are what is left of a run where the state does not matter.
-/

namespace DocMapper.Result

variable {ε α β : Type}

@[simp] theorem ok_bind (a : α) (next : α → Except ε β) : (Except.ok a >>= next) = next a := rfl

@[simp] theorem error_bind (error : ε) (next : α → Except ε β) :
    (Except.error error >>= next) = .error error := rfl

@[simp] theorem pure_eq (a : α) : (pure a : Except ε α) = .ok a := rfl

@[simp] theorem throw_eq (error : ε) : (throw error : Except ε α) = .error error := rfl

theorem bind_eq_ok {first : Except ε α} {next : α → Except ε β} {b : β} :
    (first >>= next) = .ok b ↔ ∃ a, first = .ok a ∧ next a = .ok b := by
  cases first <;> simp

theorem eq_ok_of_toOption {result : Except ε α} {a : α} (h : result.toOption = some a) :
    result = .ok a := by
  cases result with
  | error error => cases h
  | ok b => rw [Option.some.inj h]

theorem map_eq_ok {f : α → β} {result : Except ε α} {b : β} :
    result.map f = .ok b ↔ ∃ a, result = .ok a ∧ f a = b := by
  cases result <;> simp [Except.map]

theorem mapError_eq_ok {ε' : Type} {f : ε → ε'} {result : Except ε α} {a : α} :
    result.mapError f = .ok a ↔ result = .ok a := by
  cases result <;> simp [Except.mapError]

/-- What is made of a result is there exactly if the result is. -/
theorem exists_map_eq_ok_iff {f : α → β} {result : Except ε α} :
    (∃ b, result.map f = .ok b) ↔ ∃ a, result = .ok a := by
  cases result <;> simp [Except.map]

/-- Working through a list succeeds exactly if it does for every member. -/
theorem mapM_eq_ok {f : α → Except ε β} {items : List α} {results : List β} :
    items.mapM f = .ok results ↔ List.Forall₂ (fun a b => f a = .ok b) items results := by
  induction items generalizing results with
  | nil => cases results <;> simp
  | cons a rest ih =>
    rw [List.mapM_cons]
    simp only [bind_eq_ok, pure_eq, Except.ok.injEq, ih]
    constructor
    · rintro ⟨b, hb, bs, hbs, rfl⟩
      exact .cons hb hbs
    · intro h
      cases h with
      | cons hb hbs => exact ⟨_, hb, _, hbs, rfl⟩

/-- Every member of a list goes with something exactly if something goes with the whole list. -/
theorem exists_forall₂_iff {γ δ : Type} {related : γ → δ → Prop} {items : List γ} :
    (∃ results, List.Forall₂ related items results) ↔ ∀ a ∈ items, ∃ b, related a b := by
  induction items with
  | nil => simp
  | cons a rest ih =>
    simp only [List.forall_mem_cons, ← ih]
    constructor
    · rintro ⟨_, _ | ⟨first, others⟩⟩
      exact ⟨⟨_, first⟩, _, others⟩
    · rintro ⟨⟨b, first⟩, results, others⟩
      exact ⟨b :: results, .cons first others⟩

/-- Lists go together by way of a third exactly if their members do. -/
theorem forall₂_exists_iff {γ δ : Type} {first : α → γ → Prop} {second : γ → δ → Prop}
    {items : List α} {results : List δ} :
    List.Forall₂ (fun a d => ∃ c, first a c ∧ second c d) items results ↔
      ∃ middle, List.Forall₂ first items middle ∧ List.Forall₂ second middle results := by
  constructor
  · intro pairs
    induction pairs with
    | nil => exact ⟨[], .nil, .nil⟩
    | cons here _ ih =>
      obtain ⟨c, one, two⟩ := here
      obtain ⟨middle, ones, twos⟩ := ih
      exact ⟨c :: middle, .cons one ones, .cons two twos⟩
  · rintro ⟨middle, ones, twos⟩
    induction ones generalizing results with
    | nil => cases twos; exact .nil
    | cons one _ ih =>
      cases twos with
      | cons two twos => exact .cons ⟨_, one, two⟩ (ih twos)

/-- Lists whose members come out the same, one by one, come out the same. -/
theorem mapM_eq_of_forall₂ {γ : Type} {f : α → Except ε β} {g : γ → Except ε β} {items : List α}
    {others : List γ} (same : List.Forall₂ (fun a b => f a = g b) items others) :
    items.mapM f = others.mapM g := by
  induction same with
  | nil => rfl
  | cons here _ ih => rw [List.mapM_cons, List.mapM_cons, here, ih]

theorem mapM_congr {f g : α → Except ε β} {items : List α} (same : ∀ a ∈ items, f a = g a) :
    items.mapM f = items.mapM g :=
  mapM_eq_of_forall₂ (List.forall₂_same.mpr same)

/-- Handing something on along a list depends on what is done with the members only. -/
theorem foldlM_congr {f g : β → α → Except ε β} {items : List α} {start : β}
    (same : ∀ b, ∀ a ∈ items, f b a = g b a) : items.foldlM f start = items.foldlM g start := by
  induction items generalizing start with
  | nil => rfl
  | cons a rest ih =>
    have later : ∀ b, rest.foldlM f b = rest.foldlM g b :=
      fun b => ih fun b a member => same b a (List.mem_cons_of_mem _ member)
    rw [List.foldlM_cons, List.foldlM_cons, same start a List.mem_cons_self]
    exact bind_congr later

/-- What stands in the second of two lists goes with something in the first. -/
theorem exists_of_mem_right {γ δ : Type} {related : γ → δ → Prop} {items : List γ}
    {results : List δ} (pairs : List.Forall₂ related items results) {b : δ}
    (member : b ∈ results) : ∃ a ∈ items, related a b := by
  induction pairs with
  | nil => simp at member
  | cons here _ ih =>
    rcases List.mem_cons.mp member with rfl | member
    · exact ⟨_, List.mem_cons_self, here⟩
    · obtain ⟨a, inItems, found⟩ := ih member
      exact ⟨a, List.mem_cons_of_mem _ inItems, found⟩

/-- What stands in the first of two lists goes with something in the second. -/
theorem exists_of_mem_left {γ δ : Type} {related : γ → δ → Prop} {items : List γ}
    {results : List δ} (pairs : List.Forall₂ related items results) {a : γ}
    (member : a ∈ items) : ∃ b ∈ results, related a b :=
  exists_of_mem_right pairs.flip member

/-- What a list goes with is checked member by member. -/
theorem forall₂_iff_forall {γ δ : Type} {related : γ → δ → Prop} {holds : δ → γ → Prop}
    {said : γ → Prop} {items : List γ} {results : List δ}
    (pairs : List.Forall₂ related items results)
    (each : ∀ a ∈ items, ∀ b, related a b → (holds b a ↔ said a)) :
    List.Forall₂ holds results items ↔ ∀ a ∈ items, said a := by
  induction pairs with
  | nil => simp
  | cons here _ ih =>
    rw [List.forall₂_cons, List.forall_mem_cons]
    exact and_congr (each _ List.mem_cons_self _ here)
      (ih fun a member => each a (List.mem_cons_of_mem _ member))

/-- Every result comes from a member of the list. -/
theorem exists_of_mem_results {f : α → Except ε β} {items : List α} {results : List β}
    (h : items.mapM f = .ok results) {b : β} (member : b ∈ results) :
    ∃ a ∈ items, f a = .ok b :=
  exists_of_mem_right (mapM_eq_ok.mp h) member

/-- What a member of the list gives is among the results. -/
theorem mem_results_of_mem {f : α → Except ε β} {items : List α} {results : List β}
    (h : items.mapM f = .ok results) {a : α} {b : β} (member : a ∈ items) (gives : f a = .ok b) :
    b ∈ results := by
  obtain ⟨c, inResults, gives'⟩ := exists_of_mem_left (mapM_eq_ok.mp h) member
  rwa [Except.ok.inj (gives.symm.trans gives')]

/-- Working through a list fails with the error of a member. -/
theorem exists_of_mapM_eq_error {f : α → Except ε β} {items : List α} {error : ε}
    (h : items.mapM f = .error error) : ∃ a ∈ items, f a = .error error := by
  induction items with
  | nil => cases h
  | cons a rest ih =>
    rw [List.mapM_cons] at h
    cases first : f a with
    | error other =>
      obtain rfl : other = error := by simpa [first] using h
      exact ⟨a, List.mem_cons_self, first⟩
    | ok b =>
      cases later : rest.mapM f with
      | ok results => simp [first, later] at h
      | error other =>
        obtain rfl : other = error := by simpa [first, later] using h
        obtain ⟨c, member, fails⟩ := ih later
        exact ⟨c, List.mem_cons_of_mem _ member, fails⟩

theorem forM_cons (f : α → Except ε Unit) (a : α) (rest : List α) :
    (a :: rest).forM f = f a >>= fun _ => rest.forM f := rfl

/-- Checking a list succeeds exactly if every member passes. -/
theorem forM_eq_ok {f : α → Except ε Unit} {items : List α} :
    items.forM f = .ok () ↔ ∀ a ∈ items, f a = .ok () := by
  induction items with
  | nil => exact iff_of_true rfl (by simp)
  | cons a rest ih =>
    rw [forM_cons, bind_eq_ok, List.forall_mem_cons, ih]
    exact ⟨fun ⟨_, first, later⟩ => ⟨first, later⟩, fun ⟨first, later⟩ => ⟨⟨⟩, first, later⟩⟩

theorem exists_of_forM_eq_error {f : α → Except ε Unit} {items : List α} {error : ε}
    (h : items.forM f = .error error) : ∃ a ∈ items, f a = .error error := by
  induction items with
  | nil => cases h
  | cons a rest ih =>
    rw [forM_cons] at h
    cases first : f a with
    | error other =>
      rw [first, error_bind] at h
      exact ⟨a, List.mem_cons_self, first.trans h⟩
    | ok =>
      rw [first, ok_bind] at h
      obtain ⟨b, member, fails⟩ := ih h
      exact ⟨b, List.mem_cons_of_mem _ member, fails⟩

theorem forM_filter {f : α → Except ε Unit} {keep : α → Bool} {items : List α}
    (pass : ∀ a ∈ items, keep a = false → f a = .ok ()) :
    (items.filter keep).forM f = items.forM f := by
  induction items with
  | nil => rfl
  | cons a rest ih =>
    have later := ih fun b member => pass b (List.mem_cons_of_mem _ member)
    rw [List.filter_cons, forM_cons]
    split
    · rw [forM_cons, later]
    next dropped => rw [later, pass a List.mem_cons_self (by simpa using dropped), ok_bind]

end DocMapper.Result

namespace DocMapper.Run

variable {ε ε' σ τ α β : Type}

@[simp] theorem outcome_get (state : σ) :
    outcome (get : Run ε σ σ) state = (.ok state, state) := rfl

@[simp] theorem outcome_set (next state : σ) :
    outcome (set next : Run ε σ PUnit) state = (.ok ⟨⟩, next) := rfl

@[simp] theorem outcome_modify (f : σ → σ) (state : σ) :
    outcome (modify f : Run ε σ PUnit) state = (.ok ⟨⟩, f state) := rfl

@[simp] theorem outcome_onFirst (act : Run ε σ α) (state : σ × τ) :
    outcome (onFirst act : Run ε (σ × τ) α) state =
      ((act.outcome state.1).1, ((act.outcome state.1).2, state.2)) := rfl

/-- Running on the first of two states leaves the second alone. -/
theorem outcome_onFirst_eq {act : Run ε σ α} {state after : σ} {result : Except ε α}
    (companion : τ) (ran : act.outcome state = (result, after)) :
    outcome (onFirst act : Run ε (σ × τ) α) (state, companion) =
      (result, (after, companion)) := by
  rw [outcome_onFirst, ran]

@[simp] theorem outcome_withCompanion (companion : τ) (act : Run ε (σ × τ) α) (state : σ) :
    outcome (withCompanion companion act) state =
      ((act.outcome (state, companion)).1.map (·, (act.outcome (state, companion)).2.2),
        (act.outcome (state, companion)).2.1) := rfl

theorem outcome_onError (act : Run ε σ α) (repair : σ → σ) (state : σ) :
    outcome (onError act repair) state =
      match act.outcome state with
      | (.ok result, state) => (.ok result, state)
      | (.error error, state) => (.error error, repair state) := rfl

theorem outcome_onError_eq_ok {act : Run ε σ α} {repair : σ → σ} {state after : σ} {a : α} :
    outcome (onError act repair) state = (.ok a, after) ↔ act.outcome state = (.ok a, after) := by
  rw [outcome_onError]
  rcases act.outcome state with ⟨error | a, middle⟩ <;> simp

/-- A sequence whose first part succeeds ends as its second part does. -/
theorem outcome_bind_of_ok {act : Run ε σ α} {next : α → Run ε σ β} {state middle : σ} {a : α}
    (h : act.outcome state = (.ok a, middle)) :
    outcome (act >>= next) state = (next a).outcome middle := by
  rw [outcome_bind, h]

/-- A sequence succeeds exactly if both of its parts do, the second where the first ended. -/
theorem outcome_bind_eq_ok {act : Run ε σ α} {next : α → Run ε σ β} {state after : σ} {b : β} :
    outcome (act >>= next) state = (.ok b, after) ↔
      ∃ a middle, act.outcome state = (.ok a, middle) ∧
        (next a).outcome middle = (.ok b, after) := by
  rw [outcome_bind]
  rcases act.outcome state with ⟨error | a, middle⟩ <;> simp

theorem outcome_bind_of_error {act : Run ε σ α} {next : α → Run ε σ β} {state middle : σ}
    {error : ε} (h : act.outcome state = (.error error, middle)) :
    outcome (act >>= next) state = (.error error, middle) := by
  rw [outcome_bind, h]

@[simp] theorem outcome_map (f : α → β) (act : Run ε σ α) (state : σ) :
    outcome (f <$> act) state = ((act.outcome state).1.map f, (act.outcome state).2) := by
  rw [map_eq_pure_bind, outcome_bind]
  rcases act.outcome state with ⟨_ | _, _⟩ <;> rfl

/-- A run whose result is known to be good. -/
theorem outcome_eq_of_toOption {act : Run ε σ α} {state : σ} {a : α}
    (h : (act.outcome state).1.toOption = some a) :
    act.outcome state = (.ok a, (act.outcome state).2) := by
  rw [← Result.eq_ok_of_toOption h]

/-- What an invariant says of each member of a list, it says of its result. -/
theorem forall₂_of_outcome_mapM {f : α → Run ε σ β} {items : List α} {results : List β}
    {state after : σ} {holds : σ → Prop} {said : α → β → Prop}
    (each : ∀ a ∈ items, ∀ state b after, holds state → (f a).outcome state = (.ok b, after) →
      holds after ∧ said a b)
    (start : holds state) (ran : (items.mapM f).outcome state = (.ok results, after)) :
    List.Forall₂ said items results := by
  induction items generalizing state results with
  | nil =>
    cases ran
    exact .nil
  | cons a rest ih =>
    rw [List.mapM_cons] at ran
    obtain ⟨b, middle, first, ran⟩ := outcome_bind_eq_ok.mp ran
    obtain ⟨others, last, later, ran⟩ := outcome_bind_eq_ok.mp ran
    cases ran
    obtain ⟨between, own⟩ := each a List.mem_cons_self state b middle start first
    exact .cons own (ih (fun a' member => each a' (List.mem_cons_of_mem _ member)) between later)

@[simp] theorem onFirst_pure (a : α) : onFirst (pure a : Run ε σ α) = (pure a : Run ε (σ × τ) α) :=
  rfl

end DocMapper.Run
