import DocMapper.Proofs.Discovery.History
import DocMapper.Proofs.Query.Appending
import DocMapper.Samples

/-!
# Queries criterion by criterion

The failures of a query are those of its criteria, one after the other. Since no criterion changes
what is on the list of failures, and no question to the catalog depends on what is remembered, each
criterion adds what it would add alone.

The main result says so of two lists of criteria put together, and says what one criterion adds: one
failure where its path leads to no field, and otherwise none exactly if its value can be used with
its operator on the field that the path leads to.
-/

namespace DocMapper

namespace Catalog

variable {catalog : Catalog} {α : Type} {name : ClassName} {memory : Memory}

/-! ### What is asked of the catalog does not depend on what is remembered -/

theorem Steady.attempt {act : MapM α} (h : catalog.Steady act) : catalog.Steady act.attempt := by
  have gives : catalog.Gives act.attempt (.ok (answer act)) := by
    intro memory sound
    obtain ⟨after, learns, outcome⟩ := h.outcome sound
    exact ⟨after, learns, by rw [Run.outcome_attempt, outcome]⟩
  exact gives.steady

theorem steady_assignable (name : ClassName) (type : FieldType) :
    catalog.Steady (Check.assignable catalog name type) := by
  rw [Check.assignable]
  split
  · exact steady_pure _
  · refine (steady_describe name).attempt.bind fun result _ => ?_
    split <;> exact steady_pure _

theorem steady_targetIdKind (field : MappedField) :
    catalog.Steady (Check.targetIdKind catalog field) := by
  rw [Check.targetIdKind]
  split
  · exact steady_pure _
  · refine (steady_describe _).attempt.bind fun result _ => ?_
    split
    · exact steady_pure _
    · split <;> exact steady_pure _

theorem steady_object (check : Check) (found : List QueryFailure) :
    catalog.Steady (check.object catalog found) := by
  rw [Check.object]
  split
  · exact (steady_assignable _ _).bind fun _ _ => steady_pure _
  · exact (steady_assignable _ _).bind fun _ _ => steady_pure _
  · exact steady_pure _

theorem steady_referencedId (owner : ClassName) (check : Check) (found : List QueryFailure) :
    catalog.Steady (check.referencedId catalog owner found) := by
  rw [Check.referencedId]
  split
  · split
    · exact steady_pure _
    · split
      · exact steady_pure _
      · exact (steady_targetIdKind _).bind fun _ _ => steady_pure _
  · exact steady_pure _

theorem steady_firstApplied (owner : ClassName) (check : Check) (found : List QueryFailure) :
    catalog.Steady (check.firstApplied catalog owner found) := by
  rw [Check.firstApplied]
  split
  · exact steady_pure _
  · refine (steady_object check found).bind fun result _ => ?_
    split
    · exact steady_pure _
    · refine (steady_referencedId owner check found).bind fun result _ => ?_
      split <;> exact steady_pure _

theorem steady_run (owner : ClassName) (check : Check) (found : List QueryFailure) :
    catalog.Steady (check.run catalog owner found) := by
  rw [Check.run]
  split
  · exact steady_pure _
  · refine (steady_firstApplied owner check found).bind fun result _ => ?_
    split <;> exact steady_pure _

theorem steady_fieldAt (owner : Descriptor) (names : List String) :
    catalog.Steady (catalog.fieldAt owner names) := by
  induction names generalizing owner with
  | nil => exact steady_pure none
  | cons name rest ih =>
    rw [fieldAt]
    split
    · exact steady_pure _
    · split
      · exact steady_pure _
      · split
        · exact steady_pure _
        · split
          · exact steady_pure _
          · exact (steady_describe _).bind fun next _ => ih next

/-- What is done with a criterion once it is known what its path leads to. -/
private theorem steady_checkResolved (name : ClassName) (criterion : Criterion)
    (found : List QueryFailure) (resolved : Option (Descriptor × MappedField)) :
    catalog.Steady (match resolved with
      | some (owner, field) => do
        return (← (criterion.check field).run catalog owner.className found).2
      | none => return found ++ [criterion.notFound name] : MapM (List QueryFailure)) := by
  split
  · exact (steady_run _ _ found).bind fun _ _ => steady_pure _
  · exact steady_pure _

theorem steady_checkCriterion (root : Descriptor) (found : List QueryFailure)
    (criterion : Criterion) :
    catalog.Steady (catalog.checkCriterion root name found criterion) :=
  (steady_fieldAt root criterion.names).bind fun resolved _ =>
    steady_checkResolved name criterion found resolved

theorem steady_foldlM_checkCriterion (root : Descriptor) (found : List QueryFailure)
    (criteria : List Criterion) :
    catalog.Steady (criteria.foldlM (catalog.checkCriterion root name) found) :=
  (Steady.gives_foldlM fun found criterion _ => steady_checkCriterion root found criterion).steady

theorem steady_validate (name : ClassName) (criteria : List Criterion) :
    catalog.Steady (catalog.validate name criteria) :=
  (steady_describe name).bind fun root _ => steady_foldlM_checkCriterion root [] criteria

/-! ### Criteria only add failures -/

/-- Whatever list the operation is given, it hands it on with the same behind it, or fails in the
same way. -/
def AppendOnly (act : List α → MapM (List α)) : Prop :=
  ∀ memory : Memory, ∃ result after, ∀ found,
    (act found).outcome memory = (Except.map (found ++ ·) result, after)

theorem appendOnly_checkCriterion (root : Descriptor) (criterion : Criterion) :
    AppendOnly fun found => catalog.checkCriterion root name found criterion := by
  intro memory
  simp only [checkCriterion]
  rcases resolved : (catalog.fieldAt root criterion.names).outcome memory with
    ⟨error | ⟨_ | ⟨owner, field⟩⟩, middle⟩
  · exact ⟨.error error, middle, fun found => Run.outcome_bind_of_error resolved⟩
  · exact ⟨.ok [criterion.notFound name], middle, fun found => Run.outcome_bind_of_ok resolved⟩
  · obtain ⟨after, added, -, -, ran⟩ := Check.exists_outcome_run
      ⟨criterion.path, field, field.type, criterion.operator, criterion.value⟩ catalog
      owner.className middle
    refine ⟨.ok (added.map (· criterion.path)), after, fun found => ?_⟩
    rw [Run.outcome_bind_of_ok resolved]
    exact Run.outcome_bind_of_ok (ran criterion.path found)

theorem AppendOnly.foldlM {β : Type} {f : List α → β → MapM (List α)} {items : List β}
    (each : ∀ b, AppendOnly fun found => f found b) : AppendOnly (items.foldlM f) := by
  induction items with
  | nil => exact fun memory => ⟨.ok [], memory, fun found => by simp [Except.map]⟩
  | cons b rest ih =>
    intro memory
    simp only [List.foldlM_cons]
    obtain ⟨error | own, middle, first⟩ := each b memory
    · exact ⟨.error error, middle, fun found => Run.outcome_bind_of_error (first found)⟩
    · obtain ⟨result, after, later⟩ := ih middle
      refine ⟨result.map (own ++ ·), after, fun found => ?_⟩
      rw [Run.outcome_bind_of_ok (first found), later]
      cases result <;> simp [Except.map]

/-- What is added to any list is what is added to the empty one. -/
theorem AppendOnly.answer_eq {act : List α → MapM (List α)} (appendOnly : AppendOnly act)
    (found : List α) : answer (act found) = (answer (act [])).map (found ++ ·) := by
  obtain ⟨result, after, ran⟩ := appendOnly {}
  rw [answer, answer, ran, ran]
  cases result <;> simp [Except.map]

/-- The answers to two lists of criteria make the answer to both. -/
theorem answer_validate_append (name : ClassName) (xs ys : List Criterion) :
    answer (catalog.validate name (xs ++ ys)) = do
      let front ← answer (catalog.validate name xs)
      let back ← answer (catalog.validate name ys)
      return front ++ back := by
  have parts : ∀ criteria, answer (catalog.validate name criteria) =
      answer (catalog.describe name) >>= fun root =>
        answer (criteria.foldlM (catalog.checkCriterion root name) []) := fun criteria =>
    (steady_describe name).answer_bind fun root _ => steady_foldlM_checkCriterion root [] criteria
  simp only [parts]
  cases answer (catalog.describe name) with
  | error error => rfl
  | ok root =>
    simp only [Result.ok_bind]
    rw [List.foldlM_append, (steady_foldlM_checkCriterion root [] xs).answer_bind
      fun front _ => steady_foldlM_checkCriterion root front ys]
    refine bind_congr fun front => ?_
    rw [(AppendOnly.foldlM (appendOnly_checkCriterion root)).answer_eq front]
    cases answer (ys.foldlM (catalog.checkCriterion root name) []) <;> rfl

/-! ### What one criterion adds -/

/-- What a criterion adds to the failures of a query on a class that is described like this. -/
inductive Contributes (catalog : Catalog) (root : Descriptor) (name : ClassName)
    (criterion : Criterion) : List QueryFailure → Prop
  /-- Its path leads to no field. -/
  | notFound (resolved : catalog.Gives (catalog.fieldAt root criterion.names) (.ok none)) :
      Contributes catalog root name criterion [criterion.notFound name]
  /-- Its path leads to a field, whose own check finds nothing exactly if nothing is added. -/
  | checked {owner : Descriptor} {field : MappedField} {added : List QueryFailure}
      (resolved : catalog.Gives (catalog.fieldAt root criterion.names) (.ok (some (owner, field))))
      (compatible : ∀ before, ∃ after, catalog.Gives
        (catalog.isCompatible owner field field.type criterion.operator criterion.value before)
        (.ok (added.isEmpty, after)))
      (null : criterion.value.isNull = true → added = [])
      (labelled : ∀ failure ∈ added,
        failure.path = criterion.path ∧ failure.operator = criterion.operator)
      (found : ∀ failure ∈ added, ¬ failure.ReportsNotFound) :
      Contributes catalog root name criterion added

variable {root : Descriptor} {criterion : Criterion} {criteria : List Criterion}
  {found : List QueryFailure}

theorem Contributes.labels (contributes : catalog.Contributes root name criterion found) :
    ∀ failure ∈ found, failure.path = criterion.path ∧ failure.operator = criterion.operator := by
  cases contributes with
  | notFound =>
    intro failure member
    obtain rfl := List.mem_singleton.mp member
    exact ⟨rfl, rfl⟩
  | checked _ _ _ labelled => exact labelled

theorem answer_isCompatible (owner : Descriptor) (field : MappedField) (type : FieldType)
    (operator : Operator) (value : QueryValue) :
    ∃ added : Additions,
      (∀ failure ∈ added, Check.Owns ⟨field.name, field, type, operator, value⟩ failure) ∧
      (value.isNull = true → added = []) ∧
      (∀ path found, answer (Check.run catalog owner.className
        ⟨path, field, type, operator, value⟩ found) =
          .ok (added.isEmpty, added.behind path found)) ∧
      ∀ before, catalog.Gives (catalog.isCompatible owner field type operator value before)
        (.ok (added.isEmpty, added.behind field.name before)) := by
  obtain ⟨after, added, owned, null, ran⟩ := Check.exists_outcome_run
    ⟨field.name, field, type, operator, value⟩ catalog owner.className {}
  have answered : ∀ path found, answer (Check.run catalog owner.className
      ⟨path, field, type, operator, value⟩ found) =
        .ok (added.isEmpty, added.behind path found) :=
    fun path found => congrArg Prod.fst (ran path found)
  exact ⟨added, owned, null, answered, fun before =>
    (steady_run _ _ before).gives (answered field.name before)⟩

/-- What is behind nothing was found by one criterion alone. -/
theorem answer_validate_singleton : answer (catalog.validate name [criterion]) = .ok found ↔
    ∃ root, catalog.Describes name root ∧
      answer (catalog.checkCriterion root name [] criterion) = .ok found := by
  rw [validate, (steady_describe name).answer_bind_eq_ok fun root _ =>
    steady_foldlM_checkCriterion root [] [criterion]]
  simp only [answer_describe_eq_ok, List.foldlM_cons, List.foldlM_nil, bind_pure]

/-- The answer on a criterion follows from where its path leads. -/
theorem answer_checkCriterion :
    answer (catalog.checkCriterion root name found criterion) =
      answer (catalog.fieldAt root criterion.names) >>= fun
        | some (owner, field) =>
          (answer ((criterion.check field).run catalog owner.className found)).map Prod.snd
        | none => .ok (found ++ [criterion.notFound name]) := by
  refine ((steady_fieldAt root criterion.names).answer_bind fun resolved _ =>
    steady_checkResolved name criterion found resolved).trans ?_
  refine bind_congr fun resolved => ?_
  rcases resolved with _ | ⟨owner, field⟩
  · rfl
  · exact answer_map Prod.snd _

theorem contributes_of_answer
    (answered : answer (catalog.checkCriterion root name [] criterion) = .ok found) :
    catalog.Contributes root name criterion found := by
  rw [answer_checkCriterion] at answered
  obtain ⟨_ | ⟨owner, field⟩, resolved, answered⟩ := Result.bind_eq_ok.mp answered
  · obtain rfl : [criterion.notFound name] = found := Except.ok.inj answered
    exact .notFound ((steady_fieldAt root criterion.names).gives resolved)
  · obtain ⟨added, owned, null, ran, compatible⟩ :=
      catalog.answer_isCompatible owner field field.type criterion.operator criterion.value
    obtain ⟨result, checked, rfl⟩ := Result.map_eq_ok.mp answered
    obtain rfl := Except.ok.inj ((ran criterion.path []).symm.trans checked)
    refine .checked ((steady_fieldAt root criterion.names).gives resolved) ?_ ?_ ?_ ?_
    · intro before
      exact ⟨_, by simpa [Additions.behind] using compatible before⟩
    · intro isNull
      simp [null isNull, Additions.behind]
    · intro failure member
      obtain ⟨own, isOwn, rfl⟩ := List.mem_map.mp member
      exact ⟨(owned own isOwn).path _, (owned own isOwn).operator _⟩
    · intro failure member
      obtain ⟨own, isOwn, rfl⟩ := List.mem_map.mp member
      exact (owned own isOwn).found _

/-- The failures of a query are what its criteria add, in their order. -/
theorem exists_parts_of_answer_validate
    (answered : answer (catalog.validate name criteria) = .ok found) :
    ∃ parts, List.Forall₂ (fun criterion part =>
      answer (catalog.validate name [criterion]) = .ok part) criteria parts ∧
        found = parts.flatten := by
  induction criteria generalizing found with
  | nil =>
    obtain ⟨root, -, checked⟩ := ((steady_describe name).answer_bind_eq_ok fun root _ =>
      steady_foldlM_checkCriterion root [] []).mp answered
    obtain rfl : [] = found := Except.ok.inj checked
    exact ⟨[], .nil, rfl⟩
  | cons criterion rest ih =>
    rw [← List.singleton_append, answer_validate_append] at answered
    obtain ⟨part, first, answered⟩ := Result.bind_eq_ok.mp answered
    obtain ⟨others, later, joined⟩ := Result.bind_eq_ok.mp answered
    obtain rfl : part ++ others = found := Except.ok.inj joined
    obtain ⟨parts, each, rfl⟩ := ih later
    exact ⟨part :: parts, .cons first each, rfl⟩

/-- Each failure of a query is one of some criterion alone. -/
theorem exists_criterion_of_mem
    (answered : answer (catalog.validate name criteria) = .ok found) {failure : QueryFailure}
    (member : failure ∈ found) :
    ∃ criterion ∈ criteria, ∃ part,
      answer (catalog.validate name [criterion]) = .ok part ∧ failure ∈ part := by
  obtain ⟨parts, each, rfl⟩ := exists_parts_of_answer_validate answered
  obtain ⟨part, isPart, inPart⟩ := List.mem_flatten.mp member
  obtain ⟨i, bound, rfl⟩ := List.getElem_of_mem isPart
  have bound' : i < criteria.length := each.length_eq ▸ bound
  exact ⟨criteria[i], List.getElem_mem bound', parts[i], each.get bound' bound, inPart⟩

/-- Each failure of a criterion alone is one of every query with it. -/
theorem subset_of_mem_criteria
    (answered : answer (catalog.validate name criteria) = .ok found)
    (member : criterion ∈ criteria) {part : List QueryFailure}
    (alone : answer (catalog.validate name [criterion]) = .ok part) : part ⊆ found := by
  obtain ⟨parts, each, rfl⟩ := exists_parts_of_answer_validate answered
  obtain ⟨i, bound, rfl⟩ := List.getElem_of_mem member
  have bound' : i < parts.length := each.length_eq ▸ bound
  obtain rfl : parts[i] = part := Except.ok.inj ((each.get bound bound').symm.trans alone)
  exact fun failure inPart => List.mem_flatten_of_mem (List.getElem_mem bound') inPart

/-- Whatever correct descriptors are kept, the failures of two lists of criteria put together are
those of the first and those of the second. What one criterion adds are failures of its own, as its
field has it. Whether a value can be used with a field shows in what the check adds to the failures
found before, whatever they are. -/
theorem validate_concatenates (catalog : Catalog) (name : ClassName)
    {memory memory' memory'' : Memory} (sound : memory.Sound catalog)
    (sound' : memory'.Sound catalog) (sound'' : memory''.Sound catalog) :
    (∀ xs ys, ((catalog.validate name (xs ++ ys)).outcome memory).1 = do
      let front ← ((catalog.validate name xs).outcome memory').1
      let back ← ((catalog.validate name ys).outcome memory'').1
      return front ++ back) ∧
    (∀ criterion found, ((catalog.validate name [criterion]).outcome memory).1 = .ok found →
      (∀ failure ∈ found, failure.path = criterion.path ∧ failure.operator = criterion.operator) ∧
      ∃ root, catalog.Describes name root ∧ catalog.Contributes root name criterion found) ∧
    (∀ owner field type operator value, ∃ accepted added, (accepted = true ↔ added = []) ∧
      (value.isNull = true → accepted = true) ∧
      ∀ before, ((catalog.isCompatible owner field type operator value before).outcome memory).1 =
        .ok (accepted, before ++ added)) := by
  refine ⟨fun xs ys => ?_, fun criterion found validated => ?_, ?_⟩
  · rw [(steady_validate name _).result_eq sound, (steady_validate name xs).result_eq sound',
      (steady_validate name ys).result_eq sound'']
    exact answer_validate_append name xs ys
  · rw [(steady_validate name _).result_eq sound] at validated
    obtain ⟨root, described, answered⟩ := answer_validate_singleton.mp validated
    have contributes := contributes_of_answer answered
    exact ⟨contributes.labels, root, described, contributes⟩
  · intro owner field type operator value
    obtain ⟨added, -, null, -, compatible⟩ :=
      catalog.answer_isCompatible owner field type operator value
    refine ⟨added.isEmpty, added.map (· field.name), by simp, fun isNull => by simp [null isNull],
      fun before => ?_⟩
    exact ((compatible before).steady.result_eq sound).trans (compatible before).answer_eq

end Catalog

namespace Samples

/-- Homes by their city: a text, and a number that no city is. -/
def cities : List Criterion :=
  [{ path := "home.city", value := .value (.text "Portland") },
    { path := "home.city", value := .value (.integer 12) }]

def street : Criterion := { path := "home.street", value := .value (.text "Main") }

/-- Asked by city and street at once, a new mapper finds what one that knows books finds by city,
and then what one that knows authors finds by street. -/
theorem validate_concatenates_author :
    let catalog : Catalog := { registry := library }
    (∃ front, ((catalog.validate author.name cities).outcome (catalog.asked [book.name])).1 =
        .ok front ∧ front.length = 1 ∧
      ((catalog.validate author.name (cities ++ [street])).outcome {}).1 =
        .ok (front ++ [street.notFound author.name])) ∧
    ∃ root, catalog.Describes author.name root ∧
      catalog.Contributes root author.name street [street.notFound author.name] := by
  intro catalog
  have soundBooks := catalog.sound_asked [book.name]
  have soundAuthors := catalog.sound_asked [author.name]
  obtain ⟨joined, -, -⟩ := catalog.validate_concatenates author.name
    (Memory.sound_empty catalog) soundBooks soundAuthors
  obtain ⟨-, single, -⟩ := catalog.validate_concatenates author.name soundAuthors soundAuthors
    soundAuthors
  have byStreet : ((catalog.validate author.name [street]).outcome
      (catalog.asked [author.name])).1 = .ok [street.notFound author.name] :=
    Result.eq_ok_of_toOption (by decide +kernel)
  have counted : ((catalog.validate author.name cities).outcome
      (catalog.asked [book.name])).1.toOption.map List.length = some 1 := by decide +kernel
  constructor
  · obtain ⟨front, found, one⟩ := Option.map_eq_some_iff.mp counted
    have byCity := Result.eq_ok_of_toOption found
    refine ⟨front, byCity, one, ?_⟩
    rw [joined, byCity, byStreet]
    rfl
  · exact (single street _ byStreet).2

end Samples

end DocMapper
