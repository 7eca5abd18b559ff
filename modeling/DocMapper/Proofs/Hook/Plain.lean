import DocMapper.Mapping.Conversion
import DocMapper.Proofs.Conversion.Decoded
import DocMapper.Proofs.Conversion.Encoded
import DocMapper.Samples

/-!
# Mappers without hooks

A plain mapper has no interceptors, and no registered type has a method that serves an event. Then
no class has a handler, be it an inherited one or one of a listener, and a dispatch hands the
document on as it is. Conversion with hooks is then conversion as such.
-/

namespace DocMapper

namespace Registry

/-- No method of a registered type serves an event; static methods never do. -/
def Hookless (registry : Registry) : Prop :=
  ∀ name schema, registry.find? name = some schema →
    ∀ method ∈ schema.methods, method.isStatic = false → method.events = []

theorem mem_override {methods : List Method} {method other : Method}
    (h : other ∈ override methods method) : other ∈ methods ∨ other = method := by
  induction methods with
  | nil => exact .inr (by simpa [override] using h)
  | cons first rest ih =>
    rw [override] at h
    split at h
    · rcases List.mem_cons.mp h with rfl | h
      · exact .inr rfl
      · exact .inl (List.mem_cons_of_mem _ h)
    · rcases List.mem_cons.mp h with rfl | h
      · exact .inl List.mem_cons_self
      · exact (ih h).imp (List.mem_cons_of_mem _) id

theorem mem_foldl_override {declared methods : List Method} {method : Method}
    (h : method ∈ declared.foldl override methods) : method ∈ methods ∨ method ∈ declared := by
  induction declared generalizing methods with
  | nil => exact .inl h
  | cons first rest ih =>
    rcases ih h with h | h
    · exact (mem_override h).imp id (by rintro rfl; exact List.mem_cons_self)
    · exact .inr (List.mem_cons_of_mem _ h)

/-- The superclasses that a walk meets are registered. -/
theorem registered_of_mem_ancestry (registry : Registry) (seen : List ClassName)
    (schema : TypeSchema) :
    ∀ ancestor ∈ registry.ancestry seen schema,
      ancestor = schema ∨ ∃ name, registry.find? name = some ancestor := by
  fun_induction registry.ancestry seen schema with
  | case1 seen schema ih =>
    intro ancestor member
    rcases List.mem_cons.mp member with rfl | member
    · exact .inl rfl
    · right
      split at member
      · simp at member
      next parent _ =>
        split at member
        next fresh =>
          split at member
          · simp at member
          next parentSchema found =>
            rcases ih parent fresh parentSchema found ancestor member with rfl | known
            · exact ⟨parent, found⟩
            · exact known
        · simp at member

namespace Hookless

variable {registry : Registry} {name : ClassName} {schema : TypeSchema}

theorem of_methods_eq_nil (h : registry.all (·.2.methods.isEmpty) = true) : registry.Hookless := by
  intro name schema found method member
  obtain ⟨before, after, rfl, -⟩ := List.lookup_eq_some_iff.mp found
  have none : schema.methods.isEmpty = true := List.all_eq_true.mp h (name, schema) (by simp)
  simp [List.isEmpty_iff.mp none] at member

/-- No method of a registered type, inherited ones included, serves an event. -/
theorem events_eq_nil (hookless : registry.Hookless) (found : registry.find? name = some schema) :
    ∀ method ∈ registry.methods schema, method.events = [] := by
  intro method member
  have declared := (mem_foldl_override member).resolve_left (by simp)
  obtain ⟨ancestor, inherited, member⟩ := List.mem_flatMap.mp declared
  obtain ⟨member, instanceMethod⟩ := List.mem_filter.mp member
  have known : ∃ name, registry.find? name = some ancestor := by
    rcases registered_of_mem_ancestry registry _ schema ancestor (List.mem_reverse.mp inherited)
      with rfl | known
    · exact ⟨name, found⟩
    · exact known
  obtain ⟨name, found⟩ := known
  exact hookless name ancestor found method member (by simpa using instanceMethod)

theorem listenerHandlers_events_eq_nil (hookless : registry.Hookless)
    (found : registry.find? name = some schema) {listener : ClassName} {handlers : List Handler}
    (given : registry.listenerHandlers schema listener = .ok handlers) :
    ∀ handler ∈ handlers, handler.method.events = [] := by
  rw [listenerHandlers] at given
  split at given
  · cases given
    intro handler member
    obtain ⟨method, declared, rfl⟩ := List.mem_map.mp member
    exact hookless.events_eq_nil found method declared
  · split at given
    · cases given
    next described known =>
      split at given
      · cases given
      · cases given
        intro handler member
        obtain ⟨method, declared, rfl⟩ := List.mem_map.mp member
        exact hookless.events_eq_nil known method declared

theorem handlers_events_eq_nil (hookless : registry.Hookless)
    (found : registry.find? name = some schema) {handlers : List Handler}
    (given : registry.handlers schema = .ok handlers) :
    ∀ handler ∈ handlers, handler.method.events = [] := by
  obtain ⟨contributed, listeners, all⟩ := Result.bind_eq_ok.mp given
  cases all
  intro handler member
  rcases List.mem_append.mp member with own | foreign
  · obtain ⟨method, declared, rfl⟩ := List.mem_map.mp own
    exact hookless.events_eq_nil found method declared
  · obtain ⟨group, inGroups, inGroup⟩ := List.mem_flatten.mp foreign
    obtain ⟨listener, -, given⟩ := Result.exists_of_mem_results listeners inGroups
    exact hookless.listenerHandlers_events_eq_nil found given handler inGroup

end Hookless

end Registry

/-- A mapper without interceptors over types without methods that serve events. -/
structure Mapper.Plain (mapper : Mapper) : Prop where
  named : mapper.catalog.registry.Named
  hookless : mapper.catalog.registry.Hookless
  interceptors : mapper.interceptors = []

namespace Mapper.Plain

variable {mapper : Mapper} {name : ClassName} {descriptor : Descriptor}

theorem handlersFor_eq_nil (plain : mapper.Plain)
    (described : mapper.catalog.Describes name descriptor) (event : Event) :
    descriptor.handlersFor event = [] := by
  cases described with
  | intro registered _ _ _ _ _ served _ =>
    apply List.filter_eq_nil_iff.mpr
    intro handler member
    have quiet := plain.hookless.handlers_events_eq_nil registered served handler member
    simp [Method.handles, quiet]

/-- A dispatch leaves everything as it is. -/
theorem dispatch_eq (plain : mapper.Plain)
    (described : mapper.catalog.Describes name descriptor) (event : Event) (doc : Document) :
    mapper.dispatch descriptor event doc = pure doc := by
  simp only [dispatch, plain.handlersFor_eq_nil described event, plain.interceptors,
    List.mapM_nil, List.zip_nil_left, List.foldlM_nil, List.zipIdx_nil, Run.onFirst_pure, pure_bind]

/-- An entity becomes its document, and stays as it is. -/
theorem outcome_toDocument (plain : mapper.Plain) {memory : Memory}
    (sound : memory.Sound mapper.catalog) (entity : Entity) :
    ∃ after, Memory.Learns mapper.catalog memory after ∧
      mapper.toDocument.outcome (memory, entity) =
        (Catalog.answer (mapper.catalog.document entity), (after, entity)) := by
  have steady : mapper.catalog.Steady (mapper.catalog.document entity) :=
    Catalog.steady_document entity
  have steadyClass : mapper.catalog.Steady (mapper.catalog.describe entity.className) :=
    Catalog.steady_describe entity.className
  obtain ⟨after, learns, ran⟩ := steady.outcome sound
  refine ⟨after, learns, ?_⟩
  generalize Catalog.answer (mapper.catalog.document entity) = result at ran ⊢
  obtain ⟨middle, -, asked⟩ := steadyClass.outcome sound
  rw [Catalog.document] at ran
  rw [toDocument, Run.outcome_bind_of_ok (Run.outcome_get _)]
  cases described : Catalog.answer (mapper.catalog.describe entity.className) with
  | error error =>
    rw [described] at asked
    rw [Run.outcome_bind_of_error asked] at ran
    obtain ⟨rfl, rfl⟩ := Prod.mk.inj ran
    exact Run.outcome_bind_of_error (by simp [asked])
  | ok descriptor =>
    rw [described] at asked
    rw [Run.outcome_bind_of_ok asked] at ran
    have isClass := Catalog.answer_describe_eq_ok.mp described
    have first : (Run.onFirst (mapper.catalog.describe entity.className) :
        EntityM Descriptor).outcome (memory, entity) = (.ok descriptor, (middle, entity)) := by
      simp [asked]
    rw [Run.outcome_bind_of_ok first]
    simp only [plain.dispatch_eq isClass, pure_bind, bind_pure]
    rw [Run.outcome_bind_of_ok (Run.outcome_get _)]
    simp [ran]

/-- A document that was written is the document of the entity. -/
theorem of_outcome_toDocument (plain : mapper.Plain) {memory after : Memory}
    (sound : memory.Sound mapper.catalog) {entity left : Entity} {doc : Document}
    (encoded : mapper.toDocument.outcome (memory, entity) = (.ok doc, (after, left))) :
    Catalog.answer (mapper.catalog.document entity) = .ok doc ∧ after.Sound mapper.catalog ∧
      left = entity := by
  obtain ⟨_, learns, ran⟩ := plain.outcome_toDocument sound entity
  obtain ⟨same, rfl, rfl⟩ : Catalog.answer (mapper.catalog.document entity) = .ok doc ∧
      _ = after ∧ entity = left := by
    simpa using ran.symm.trans encoded
  exact ⟨same, learns.sound, rfl⟩

end Mapper.Plain

theorem Samples.plain_library (options : Options) :
    Mapper.Plain { catalog := { registry := library, options } } where
  named := Registry.named_ofTypes _
  hookless := .of_methods_eq_nil rfl
  interceptors := rfl

end DocMapper
