import DocMapper.Mapping.Conversion
import DocMapper.Proofs.Conversion.Conflicts
import DocMapper.Proofs.Conversion.Encoded

/-!
# What hooks leave alone

Hooks may do much to an entity and to the running document, and may fail with what they have done.
What they leave alone is said by two observations, one of entities and one of documents: a hook
preserves them if both are afterwards what they were, that of the entity even where the hook fails.
A dispatch to hooks that preserve two observations preserves them as well, and where encoding shows
in a document what is seen of an entity, so does the whole conversion with its hooks.
-/

namespace DocMapper

/-- Wherever the answers to its questions lead the reaction, it ends as said. -/
def Reaction.All (said : Entity → Document → Option String → Prop) : Reaction → Prop
  | .finish entity doc failure => said entity doc failure
  | .askCollection _ next => ∀ answer, (next answer).All said

section

variable {α β : Type} (seen : Entity → α) (shown : Document → β)

/-- Whatever it is called with, the handler leaves alone what is seen of the entity that it is
passed, and what the running document shows in one that it puts in its place. -/
def Handler.Preserves (handler : Handler) : Prop :=
  ∀ listener entity doc,
    ((handler.call listener entity doc).entity.isSome = true →
      ∀ left, (handler.method.body (handler.call listener entity doc)).entity = some left →
        seen left = seen entity) ∧
    ∀ replacement,
      (handler.method.body (handler.call listener entity doc)).result = .ok (some replacement) →
        shown replacement = shown doc

/-- Whatever it is called with and answered, the interceptor leaves alone what is seen of the entity
and what the document shows. -/
def Interceptor.Preserves (event : Event) (interceptor : Interceptor) : Prop :=
  ∀ entity doc, (interceptor event entity doc).All fun left final failure =>
    seen left = seen entity ∧ (failure = none → shown final = shown doc)

/-- Every hook that an event of a class calls preserves the observations. -/
structure Mapper.Preserves (mapper : Mapper) (descriptor : Descriptor) (event : Event) : Prop where
  handlers : ∀ handler ∈ descriptor.handlersFor event, handler.Preserves seen shown
  interceptors : ∀ interceptor ∈ mapper.interceptors,
    Interceptor.Preserves seen shown event interceptor

end

/-- Steady work ends with its answer, be it a result or an error, and leaves correct descriptors. -/
theorem Catalog.Steady.ends_of_sound {catalog : Catalog} {α : Type} {act : MapM α}
    (steady : catalog.Steady act) {memory : Memory} (sound : memory.Sound catalog) :
    act.Ends memory (fun a after => answer act = .ok a ∧ after.Sound catalog)
      fun error after => answer act = .error error ∧ after.Sound catalog := by
  obtain ⟨after, learns, ran⟩ := steady.outcome sound
  rw [Run.Ends, ran]
  cases answered : answer act <;> exact ⟨rfl, learns.sound⟩

/-- If it is peaceful as well, it does not report a conflict. -/
theorem Catalog.Steady.ends {catalog : Catalog} {α : Type} {act : MapM α}
    (steady : catalog.Steady act) (peaceful : Peaceful act) {memory : Memory}
    (sound : memory.Sound catalog) :
    act.Ends memory (fun a after => answer act = .ok a ∧ after.Sound catalog)
      fun error after => error.isConflict = false ∧ after.Sound catalog := by
  have ends := steady.ends_of_sound sound
  rcases ran : act.outcome memory with ⟨error | a, after⟩
  · rw [Run.ends_of_error ran] at ends ⊢
    exact ⟨peaceful.error_among ran, ends.2⟩
  · rw [Run.ends_of_ok ran] at ends ⊢
    exact ends

namespace Mapper

variable {α β : Type} {seen : Entity → α} {shown : Document → β} {mapper : Mapper}
  {descriptor : Descriptor} {event : Event} {memory : Memory} {entity : Entity} {doc : Document}
  {a : α} {name : ClassName}

/-- Descriptors that are kept are correct, and this is seen of the entity. -/
structure Sees (mapper : Mapper) (seen : Entity → α) (a : α) (state : Memory × Entity) : Prop where
  sound : state.1.Sound mapper.catalog
  seen : seen state.2 = a

/-- A listener instance is found or made; either leaves the descriptors alone. -/
theorem ends_instance? {handler : Handler} (sound : memory.Sound mapper.catalog) :
    (handler.instance? event name).Ends memory (fun _ after => after.Sound mapper.catalog)
      fun error after => error.isConflict = false ∧ after.Sound mapper.catalog := by
  rw [Handler.instance?]
  split
  · exact sound
  next binding _ =>
    simp only [ListenerBinding.instance, Run.ends_bind, Run.ends_get]
    split
    · exact sound
    · split
      · exact ⟨rfl, sound⟩
      · exact sound

theorem ends_invoke {handler : Handler × Option ListenerInstance} {state : Memory × Entity}
    (preserves : handler.1.Preserves seen shown) (sees : mapper.Sees seen a state) :
    (Handler.invoke event name doc handler).Ends state
      (fun final after => shown final = shown doc ∧ mapper.Sees seen a after)
      fun error after => error.isConflict = false ∧ mapper.Sees seen a after := by
  obtain ⟨memory, entity⟩ := state
  obtain ⟨left, replaced⟩ := preserves handler.2 entity doc
  simp only [Handler.invoke, Run.ends_bind, Run.ends_get, Run.ends_set]
  generalize handler.1.method.body (handler.1.call handler.2 entity doc) = outcome at left replaced
  have same : mapper.Sees seen a
      (memory.note
        { callee := .method handler.1.method.declaredBy handler.1.method.name
          event
          listener := (handler.1.call handler.2 entity doc).listener
          entity := (handler.1.call handler.2 entity doc).entity.map Entity.className
          document := (handler.1.call handler.2 entity doc).document },
        if (handler.1.call handler.2 entity doc).entity.isSome then outcome.entity.getD entity
        else entity) := by
    refine ⟨sees.sound, Eq.trans ?_ sees.seen⟩
    split
    next passed =>
      cases given : outcome.entity with
      | none => rfl
      | some other => exact left passed other given
    · rfl
  cases result : outcome.result with
  | error reason => exact ⟨rfl, same⟩
  | ok replacement =>
    cases replacement with
    | none => exact ⟨rfl, same⟩
    | some replacement => exact ⟨replaced replacement result, same⟩

/-- A reaction always comes to an end, and to one of its own. -/
theorem ends_settle {said : Entity → Document → Option String → Prop} {reaction : Reaction}
    (all : reaction.All said) (sound : memory.Sound mapper.catalog) :
    (reaction.settle mapper.catalog).Ends memory
      (fun final after => said final.1 final.2.1 final.2.2 ∧ after.Sound mapper.catalog)
      fun _ _ => False := by
  induction reaction generalizing memory with
  | finish entity doc failure => exact ⟨all, sound⟩
  | askCollection name next ih =>
    have steady : mapper.catalog.Steady (mapper.catalog.collectionName name) :=
      (Catalog.steady_describe name).bind fun _ _ => Catalog.steady_pure _
    have peaceful : Peaceful (mapper.catalog.collectionName name) :=
      (Catalog.peaceful_describe name).bind fun _ => .pure _
    rw [Reaction.settle, Run.ends_bind, Run.ends_attempt]
    exact (steady.ends peaceful sound).mono (fun _ _ ends => ih _ (all _) ends.2)
      fun _ _ ends => ih _ (all _) ends.2

theorem ends_intercept {interceptor : Interceptor × Nat} {state : Memory × Entity}
    (preserves : Interceptor.Preserves seen shown event interceptor.1)
    (sees : mapper.Sees seen a state) :
    (mapper.intercept event name doc interceptor).Ends state
      (fun final after => shown final = shown doc ∧ mapper.Sees seen a after)
      fun error after => error.isConflict = false ∧ mapper.Sees seen a after := by
  obtain ⟨memory, entity⟩ := state
  simp only [intercept, Run.ends_bind, Run.ends_get, Run.ends_set, Run.ends_onFirst,
    Run.ends_modify]
  have sound : (memory.note
      { callee := .interceptor interceptor.2
        event
        listener := none
        entity := some entity.className
        document := some doc }).Sound mapper.catalog := sees.sound
  refine (ends_settle (preserves entity doc) sound).mono ?_ fun _ _ => False.elim
  rintro ⟨left, final, failure⟩ after ⟨⟨same, sameDoc⟩, sound⟩
  have sees' : mapper.Sees seen a (after, left) := ⟨sound, same.trans sees.seen⟩
  cases failure with
  | none => exact ⟨sameDoc rfl, sees'⟩
  | some reason => exact ⟨rfl, sees'⟩

/-- A dispatch to hooks that preserve two observations preserves them, however it ends. -/
theorem Preserves.ends_dispatch (preserves : mapper.Preserves seen shown descriptor event)
    {state : Memory × Entity} (sees : mapper.Sees seen a state) (doc : Document) :
    (mapper.dispatch descriptor event doc).Ends state
      (fun final after => shown final = shown doc ∧ mapper.Sees seen a after)
      fun error after => error.isConflict = false ∧ mapper.Sees seen a after := by
  obtain ⟨memory, entity⟩ := state
  rw [dispatch, Run.ends_bind, Run.ends_onFirst]
  refine (Run.ends_mapM (fun memory => memory.Sound mapper.catalog)
    (fun handler _ memory sound => ends_instance? sound) sees.sound).mono ?_ ?_
  · intro instances middle sound
    have start : mapper.Sees seen a (middle, entity) := ⟨sound, sees.seen⟩
    refine (Run.ends_foldlM (fun final after => shown final = shown doc ∧
      mapper.Sees seen a after) ?_ ⟨rfl, start⟩).bind ?_ fun _ _ wrong => wrong
    · rintro final ⟨handler, listener⟩ member state ⟨sameDoc, sees⟩
      refine (ends_invoke (preserves.handlers handler (List.of_mem_zip member).1) sees).mono ?_
        fun _ _ wrong => wrong
      exact fun _ _ ends => ⟨ends.1.trans sameDoc, ends.2⟩
    · intro final state held
      refine Run.ends_foldlM _ ?_ held
      rintro final ⟨interceptor, place⟩ member state ⟨sameDoc, sees⟩
      have isInterceptor := List.fst_mem_of_mem_zipIdx member
      refine (ends_intercept (preserves.interceptors interceptor isInterceptor) sees).mono ?_
        fun _ _ wrong => wrong
      exact fun _ _ ends => ⟨ends.1.trans sameDoc, ends.2⟩
  · exact fun error after ends => ⟨ends.1, ends.2, sees.seen⟩

/-- If encoding makes a document show what is seen of an entity, an entity whose hooks preserve both
is led to a document that shows it, and keeps what is seen of it even where this fails. -/
theorem Preserves.ends_toDocument {b : β}
    (described : mapper.catalog.Describes entity.className descriptor)
    (prePersist : mapper.Preserves seen shown descriptor .prePersist)
    (preSave : mapper.Preserves seen shown descriptor .preSave)
    (encodes : ∀ left start doc, seen left = a →
      Catalog.answer (mapper.catalog.encodeInto descriptor left start) = .ok doc → shown doc = b)
    (sees : mapper.Sees seen a (memory, entity)) :
    mapper.toDocument.Ends (memory, entity)
      (fun doc after => shown doc = b ∧ mapper.Sees seen a after)
      fun error after => error.isConflict = false ∧ mapper.Sees seen a after := by
  have steady : mapper.catalog.Steady (mapper.catalog.describe entity.className) :=
    Catalog.steady_describe entity.className
  rw [toDocument, Run.ends_bind, Run.ends_get, Run.ends_bind, Run.ends_onFirst]
  refine (steady.ends (Catalog.peaceful_describe _) sees.sound).mono ?_
    fun _ _ ends => ⟨ends.1, ends.2, sees.seen⟩
  rintro found first ⟨answered, sound⟩
  obtain rfl := Except.ok.inj (described.answer_eq.symm.trans answered)
  have start : mapper.Sees seen a (first, entity) := ⟨sound, sees.seen⟩
  refine (prePersist.ends_dispatch start []).bind ?_ fun _ _ wrong => wrong
  rintro prepared ⟨second, left⟩ ⟨-, sees⟩
  rw [Run.ends_bind, Run.ends_get, Run.ends_bind, Run.ends_onFirst]
  have steadily : mapper.catalog.Steady (mapper.catalog.encodeInto descriptor left prepared) :=
    Catalog.steady_encodeInto descriptor left prepared
  refine (steadily.ends (Catalog.peaceful_encodeInto _ _ _) sees.sound).mono ?_
    fun _ _ ends => ⟨ends.1, ends.2, sees.seen⟩
  rintro doc third ⟨encoded, sound⟩
  have written : mapper.Sees seen a (third, left) := ⟨sound, sees.seen⟩
  refine (preSave.ends_dispatch written doc).mono ?_ fun _ _ wrong => wrong
  exact fun final after ends => ⟨ends.1.trans (encodes left prepared doc sees.seen encoded), ends.2⟩

end Mapper

end DocMapper
