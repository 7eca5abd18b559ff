import DocMapper.Proofs.Outcome
import DocMapper.Query.Validation

/-!
# What checks add

The checks of a query share one list of failures. None of them changes what is on the list, and what
a check puts behind it depends neither on the list nor on the path that it is made under: the path
only shows in the wording. So a check adds failures with their path left open, `Additions`, and this
is all that has to be known of it.

Main statement: whatever is remembered, the checks accept a value exactly if they add nothing to the
list (`Check.exists_outcome_run`). The last of them applies to every value, so one always decides.
-/

namespace DocMapper

/-- The failure reports that a path leads to no field. -/
def QueryFailure.ReportsNotFound (failure : QueryFailure) : Prop :=
  ∃ (criterion : Criterion) (name : ClassName), failure = criterion.notFound name

/-- That a path leads to no field is worded in its own way. -/
theorem QueryFailure.ReportsNotFound.take_message {failure : QueryFailure}
    (notFound : failure.ReportsNotFound) : failure.message.toList.take 5 = "the f".toList := by
  obtain ⟨criterion, name, rfl⟩ := notFound
  simp [Criterion.notFound]

/-- Failures whose path is left open. -/
abbrev Additions := List (String → QueryFailure)

/-- The failures, under a path, behind those found before. -/
def Additions.behind (added : Additions) (path : String) (found : List QueryFailure) :
    List QueryFailure :=
  found ++ added.map (· path)

namespace Check

def under (check : Check) (path : String) : Check := { check with path }

@[simp] theorem path_under (check : Check) (path : String) : (check.under path).path = path := rfl

@[simp] theorem field_under (check : Check) (path : String) :
    (check.under path).field = check.field := rfl

@[simp] theorem type_under (check : Check) (path : String) :
    (check.under path).type = check.type := rfl

@[simp] theorem operator_under (check : Check) (path : String) :
    (check.under path).operator = check.operator := rfl

@[simp] theorem value_under (check : Check) (path : String) :
    (check.under path).value = check.value := rfl

/-- What the check may add. -/
structure Owns (check : Check) (failure : String → QueryFailure) : Prop where
  path : ∀ path, (failure path).path = path
  operator : ∀ path, (failure path).operator = check.operator
  /-- A check is about a field that has been found. -/
  found : ∀ path, ¬ (failure path).ReportsNotFound

/-- Under any path, and to any list of failures, the same failures of the check are added. -/
structure Adds (check : Check) (after : String → List QueryFailure → List QueryFailure)
    (added : Additions) : Prop where
  owned : ∀ failure ∈ added, check.Owns failure
  eq : ∀ path found, after path found = added.behind path found

/-- Whether the check applies depends neither on the path nor on the list; `added` is what it adds
if it does. -/
structure Settles (check : Check)
    (verdict : String → List QueryFailure → Option (List QueryFailure))
    (added : Option Additions) : Prop where
  owned : ∀ own ∈ added, ∀ failure ∈ own, check.Owns failure
  eq : ∀ path found, verdict path found = added.map (·.behind path found)

variable {catalog : Catalog} {owner : ClassName} {check : Check} {memory : Memory}
  {after after' : String → List QueryFailure → List QueryFailure}
  {verdict verdict' : String → List QueryFailure → Option (List QueryFailure)}

theorem adds_nothing : check.Adds (fun _ found => found) [] where
  owned := by simp
  eq path found := by simp [Additions.behind]

theorem Adds.trans {added more : Additions} (h : check.Adds after added)
    (h' : check.Adds after' more) :
    check.Adds (fun path found => after' path (after path found)) (added ++ more) where
  owned failure member := (List.mem_append.mp member).elim (h.owned failure) (h'.owned failure)
  eq path found := by simp [h.eq, h'.eq, Additions.behind]

theorem adds_require (check : Check) (condition : Bool) (expected : String)
    (message : String → String) (wording : ∀ path, (message path).toList.take 5 ≠ "the f".toList) :
    ∃ added, check.Adds
      (fun path => (check.under path).require condition expected (message path)) added := by
  cases condition with
  | true => exact ⟨[], adds_nothing⟩
  | false =>
    refine ⟨[fun path => (check.under path).failure expected (message path)], ?_, fun _ _ => rfl⟩
    intro failure member
    obtain rfl := List.mem_singleton.mp member
    exact ⟨fun _ => rfl, fun _ => rfl, fun path reports => wording path reports.take_message⟩

/-! ### The checks one by one -/

theorem settles_of_none (skips : ∀ path found, verdict path found = none) :
    check.Settles verdict none :=
  ⟨by simp, by simpa using skips⟩

theorem exists_settles_some (adds : ∃ added, check.Adds after added)
    (applies : ∀ path found, verdict path found = some (after path found)) :
    ∃ own, check.Settles verdict (some own) := by
  obtain ⟨added, adds⟩ := adds
  refine ⟨added, fun own isOwn => Option.some.inj isOwn ▸ adds.owned, fun path found => ?_⟩
  rw [applies, adds.eq]
  rfl

theorem exists_settles_of_adds (adds : ∃ added, check.Adds after added)
    (applies : ∀ path found, verdict path found = some (after path found)) :
    ∃ added, check.Settles verdict added := by
  obtain ⟨own, settles⟩ := exists_settles_some adds applies
  exact ⟨some own, settles⟩

/-- Where the first of two checks does not apply, the second decides. -/
theorem Settles.orElse {added added' : Option Additions} (h : check.Settles verdict added)
    (h' : check.Settles verdict' added') :
    check.Settles (fun path found => verdict path found <|> verdict' path found)
      (added <|> added') := by
  cases added with
  | none => exact ⟨h'.owned, fun path found => by rw [h.eq, h'.eq]; rfl⟩
  | some own => exact ⟨h.owned, fun path found => by rw [h.eq]; rfl⟩

theorem exists_settles_ite (applies : Prop) [Decidable applies]
    (adds : ∃ added, check.Adds after added) :
    ∃ added, check.Settles
      (fun path found => if applies then some (after path found) else none) added := by
  by_cases h : applies
  · exact exists_settles_of_adds adds fun path found => if_pos h
  · exact ⟨none, settles_of_none fun path found => if_neg h⟩

theorem settles_existence (check : Check) :
    ∃ added, check.Settles (fun path found => (check.under path).existence found) added := by
  simp only [existence, value_under, operator_under]
  exact exists_settles_ite (check.operator = .exists) (check.adds_require _ _ _ (by simp))

theorem settles_itemCount (check : Check) :
    ∃ added, check.Settles (fun path found => (check.under path).itemCount found) added := by
  obtain ⟨_, counted⟩ := check.adds_require (check.value.asValue?.bind Value.asInteger?).isSome
    "integer" (fun _ => "value for a " ++ check.operator.wireName ++
      " operation should be an integer, was " ++ check.value.typeDescription) (by simp)
  obtain ⟨_, multiple⟩ := check.adds_require check.type.isMultiple "a list, set or array field"
    (fun path => "a " ++ check.operator.wireName ++ " operation needs a multi-valued field, " ++
      path ++ " is declared " ++ check.type.description) (by simp)
  simp only [itemCount, value_under, operator_under, type_under, path_under]
  exact exists_settles_ite (check.operator = .size) ⟨_, counted.trans multiple⟩

theorem settles_candidates (check : Check) :
    ∃ added, check.Settles (fun path found => (check.under path).candidates found) added := by
  simp only [candidates, value_under, operator_under]
  exact exists_settles_ite (check.operator.takesArray = true) (check.adds_require _ _ _ (by simp))

theorem settles_division (check : Check) :
    ∃ added, check.Settles (fun path found => (check.under path).division found) added := by
  simp only [division, value_under, operator_under]
  exact exists_settles_ite (check.operator = .remainder) (check.adds_require _ _ _ (by simp))

theorem exists_adds_misfit (check : Check) (v : Value) (fits : Bool) :
    ∃ added, check.Adds (fun path => (check.under path).misfit v fits) added :=
  check.adds_require fits check.type.description (fun path => "type " ++ v.kindName ++
    " may not be compatible with field " ++ path ++ ", declared " ++ check.type.description)
    (by simp)

theorem settles_plain (check : Check) :
    ∃ added, check.Settles (fun path found => (check.under path).plain found) added := by
  cases isValue : check.value with
  | entity | key =>
    exact ⟨none, settles_of_none fun path found => by simp [plain, isValue]⟩
  | value v =>
    obtain ⟨kind, scalar⟩ | noKind := em (∃ kind, check.type.element = .scalar kind)
    · refine exists_settles_of_adds (check.exists_adds_misfit v (check.fitsKind kind v)) ?_
      intro path found
      simp [plain, isValue, scalar, fitsKind]
    · refine ⟨none, settles_of_none fun path found => ?_⟩
      rw [plain]
      split
      next kind _ scalar => exact absurd ⟨kind, scalar⟩ noKind
      next => rfl

/-- The last check applies to every value. -/
theorem settles_otherwise (check : Check) :
    ∃ own, check.Settles (fun path found => (check.under path).otherwise found) (some own) := by
  cases isValue : check.value with
  | entity | key =>
    refine exists_settles_some ⟨[], adds_nothing⟩ fun path found => ?_
    simp [otherwise, isValue]
  | value v =>
    cases type : check.type with
    | object | map =>
      refine exists_settles_some (check.exists_adds_misfit v v.asDocument?.isSome) ?_
      intro path found
      simp [otherwise, isValue, type]
    | _ =>
      refine exists_settles_some ⟨[], adds_nothing⟩ fun path found => ?_
      simp [otherwise, isValue, type]

/-! ### Checks that ask the catalog -/

/-- In a memory, the check settles the matter in the same way under any path and for any list. -/
structure SettlesIn (check : Check) (memory after : Memory)
    (act : String → List QueryFailure → MapM (Option (List QueryFailure)))
    (added : Option Additions) : Prop where
  owned : ∀ own ∈ added, ∀ failure ∈ own, check.Owns failure
  outcome : ∀ path found,
    (act path found).outcome memory = (.ok (added.map (·.behind path found)), after)

theorem Settles.settlesIn {added : Option Additions} (settles : check.Settles verdict added) :
    check.SettlesIn memory memory (fun path found => pure (verdict path found)) added :=
  ⟨settles.owned, fun path found => by rw [Run.outcome_pure, settles.eq]⟩

/-- Where the first of two checks does not apply, the second decides, and it decides anything. -/
theorem exists_settlesIn_orElse
    {act next : String → List QueryFailure → MapM (Option (List QueryFailure))}
    (first : ∃ middle added, check.SettlesIn memory middle act added)
    (second : ∀ memory, ∃ after own, check.SettlesIn memory after next (some own)) :
    ∃ after own, check.SettlesIn memory after (fun path found => do
      match ← act path found with
      | some result => return some result
      | none => next path found) (some own) := by
  obtain ⟨middle, _ | own, settles⟩ := first
  · obtain ⟨after, own, settles'⟩ := second middle
    refine ⟨after, own, settles'.owned, fun path found => ?_⟩
    rw [Run.outcome_bind_of_ok (settles.outcome path found)]
    exact settles'.outcome path found
  · refine ⟨middle, own, settles.owned, fun path found => ?_⟩
    rw [Run.outcome_bind_of_ok (settles.outcome path found)]
    rfl

/-- Whether objects can stand in a field is always decided, also where a class is refused. -/
theorem exists_outcome_assignable (catalog : Catalog) (name : ClassName) (type : FieldType)
    (memory : Memory) : ∃ fits after,
      (assignable catalog name type).outcome memory = (.ok fits, after) := by
  rw [assignable]
  cases type.className? with
  | none => exact ⟨_, _, rfl⟩
  | some target =>
    simp only
    rw [Run.outcome_bind_of_ok (Run.outcome_attempt _ _)]
    split <;> exact ⟨_, _, rfl⟩

theorem exists_outcome_targetIdKind (catalog : Catalog) (field : MappedField) (memory : Memory) :
    ∃ kind after, (targetIdKind catalog field).outcome memory = (.ok kind, after) := by
  rw [targetIdKind]
  cases field.target? with
  | none => exact ⟨_, _, rfl⟩
  | some target =>
    simp only
    rw [Run.outcome_bind_of_ok (Run.outcome_attempt _ _)]
    split
    · exact ⟨_, _, rfl⟩
    · split <;> exact ⟨_, _, rfl⟩

/-- A check that asks the catalog for something that is always answered. -/
theorem exists_settlesIn_of_bind {α : Type} {act : MapM α}
    {result : α → String → List QueryFailure → List QueryFailure}
    (answers : ∃ a after, act.outcome memory = (.ok a, after))
    (adds : ∀ a, ∃ added, check.Adds (result a) added) :
    ∃ after added, check.SettlesIn memory after
      (fun path found => do
        let a ← act
        return some (result a path found)) added := by
  obtain ⟨a, after, answered⟩ := answers
  obtain ⟨added, adds⟩ := adds a
  refine ⟨after, some added, fun own isOwn => Option.some.inj isOwn ▸ adds.owned, ?_⟩
  intro path found
  rw [Run.outcome_bind_of_ok answered, Run.outcome_pure, adds.eq]
  rfl

theorem exists_settlesIn_object (check : Check) (catalog : Catalog) (memory : Memory) :
    ∃ after added,
      check.SettlesIn memory after (fun path => (check.under path).object catalog) added := by
  obtain ⟨_, field, type, operator, value⟩ := check
  cases value with
  | value v => exact ⟨memory, none, by simp, fun _ _ => rfl⟩
  | key key =>
    exact exists_settlesIn_of_bind (exists_outcome_assignable catalog key.className type memory)
      fun fits => adds_require _ fits type.description (fun path => "the type " ++
        key.className.text ++ " of the key is not compatible with field " ++ path ++
          ", declared " ++ type.description) (by simp)
  | entity entity =>
    exact exists_settlesIn_of_bind (exists_outcome_assignable catalog entity.className type memory)
      fun fits => adds_require _ fits type.description (fun path => "a value of type " ++
        entity.className.text ++ " cannot be compared with field " ++ path ++ ", declared " ++
          type.description) (by simp)

theorem exists_settlesIn_referencedId (check : Check) (catalog : Catalog) (owner : ClassName)
    (memory : Memory) : ∃ after added,
      check.SettlesIn memory after (fun path => (check.under path).referencedId catalog owner)
        added := by
  cases isValue : check.value with
  | entity | key =>
    refine ⟨memory, none, by simp, fun path found => ?_⟩
    simp [referencedId, isValue]
  | value v =>
    cases link : check.field.isReference with
    | false =>
      refine ⟨memory, none, by simp, fun path found => ?_⟩
      simp [referencedId, isValue, link]
    | true =>
      cases pointer : Pointer.isPointer v with
      | true =>
        refine ⟨memory, some [], by simp, fun path found => ?_⟩
        simp [referencedId, isValue, link, pointer, Additions.behind]
      | false =>
        obtain ⟨after, added, settles⟩ := exists_settlesIn_of_bind
          (exists_outcome_targetIdKind catalog check.field memory) fun kind =>
            check.adds_require (kind.accepts v) kind.name (fun _ => "the value for " ++
              owner.text ++ "." ++ check.field.name ++ " must be the referenced id (" ++
                kind.name ++ ") but was " ++ v.kindName) (by simp)
        refine ⟨after, added, settles.owned, fun path found => ?_⟩
        simpa [referencedId, isValue, link, pointer] using settles.outcome path found

/-! ### All checks -/

theorem exists_settlesIn_firstApplied (check : Check) (catalog : Catalog) (owner : ClassName)
    (memory : Memory) : ∃ after own,
      check.SettlesIn memory after (fun path => (check.under path).firstApplied catalog owner)
        (some own) := by
  obtain ⟨_, onExistence⟩ := check.settles_existence
  obtain ⟨_, onItemCount⟩ := check.settles_itemCount
  obtain ⟨_, onCandidates⟩ := check.settles_candidates
  obtain ⟨_, onDivision⟩ := check.settles_division
  obtain ⟨_, onOther⟩ := check.settles_otherwise
  have byOperator := onExistence.orElse (onItemCount.orElse (onCandidates.orElse onDivision))
  refine exists_settlesIn_orElse ⟨_, _, byOperator.settlesIn⟩ fun middle => ?_
  refine exists_settlesIn_orElse (check.exists_settlesIn_object catalog middle) fun later => ?_
  refine exists_settlesIn_orElse (check.exists_settlesIn_referencedId catalog owner later)
    fun last => ?_
  obtain ⟨own, decides⟩ : ∃ own, check.Settles (fun path found =>
      (check.under path).plain found <|> (check.under path).otherwise found) (some own) := by
    obtain ⟨_ | onPlain, plain⟩ := check.settles_plain
    all_goals exact ⟨_, plain.orElse onOther⟩
  exact ⟨last, own, decides.settlesIn⟩

/-- Whatever is remembered, there are failures that the checks add to any list under any path, none
of them where the value is null, and the value is accepted exactly if there are none. -/
theorem exists_outcome_run (check : Check) (catalog : Catalog) (owner : ClassName)
    (memory : Memory) : ∃ (after : Memory) (added : Additions),
      (∀ failure ∈ added, check.Owns failure) ∧ (check.value.isNull = true → added = []) ∧
      ∀ path found, ((check.under path).run catalog owner found).outcome memory =
        (.ok (added.isEmpty, added.behind path found), after) := by
  cases null : check.value.isNull with
  | true =>
    refine ⟨memory, [], by simp, fun _ => rfl, fun path found => ?_⟩
    simp [run, null, Additions.behind]
  | false =>
    obtain ⟨after, own, settles⟩ := check.exists_settlesIn_firstApplied catalog owner memory
    refine ⟨after, own, settles.owned own rfl, by simp, fun path found => ?_⟩
    have unchanged : ((own.behind path found).length == found.length) = own.isEmpty := by
      cases own <;> simp [Additions.behind]
    rw [run, value_under, null, if_neg Bool.false_ne_true,
      Run.outcome_bind_of_ok (settles.outcome path found), ← unchanged]
    rfl

end Check

end DocMapper
