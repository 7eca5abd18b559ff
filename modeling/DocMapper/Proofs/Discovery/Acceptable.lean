import DocMapper.Proofs.Discovery.History
import DocMapper.Proofs.Discovery.Lawful

/-!
# Which classes can be described

`Acceptable` says of the registered types alone when a class can be described: its ancestors are
registered and make no cycle, and each of them obeys the mapping rules with the fields that it
inherits and declares. It knows nothing of descriptors, of the order of discovery, of a cache or of
a path of types under way.

The main result is that a mapper gives a class a descriptor exactly if the class is acceptable.
-/

namespace DocMapper

/-- The fields that a type itself declares and that are stored. -/
def TypeSchema.storedFields (schema : TypeSchema) : List MappedField :=
  (schema.fields.map (MappedField.ofSchema schema.name)).filter (!·.isTransient)

namespace Registry

/-- The fields of a class that are stored: those of the furthest superclass first, its own last. -/
def storedFields (registry : Registry) (name : ClassName) (schema : TypeSchema) :
    List MappedField :=
  (registry.ancestry [name] schema).reverse.flatMap TypeSchema.storedFields

/-- A registered class obeys the mapping rules. -/
structure Obeys (registry : Registry) (name : ClassName) (schema : TypeSchema) : Prop where
  nesting : schema.nesting ≠ .innerMember
  listeners : ∀ listener ∈ schema.listenerNames, listener ≠ schema.name →
    ∃ described factory, registry.find? listener = some described ∧
      described.factory = some factory
  oneId : (registry.storedFields name schema).countP (·.isId) ≤ 1
  oneVersion : (registry.storedFields name schema).countP (·.isVersion) ≤ 1
  /-- The class is not marked as an entity and as embedded at once. -/
  notBoth : ¬ ((∃ mark ∈ schema.annotations, mark.kind = .entity) ∧
    ∃ mark ∈ schema.annotations, mark.kind = .embedded)
  distinct : ((registry.storedFields name schema).map MappedField.storedName).Nodup
  fields : ∀ field ∈ registry.storedFields name schema, field.Lawful registry

/-- Every ancestor of the class, itself included, is registered and obeys the rules, and none is its
own ancestor. -/
structure Acceptable (registry : Registry) (name : ClassName) : Prop where
  obeys : ∀ ancestor, Relation.ReflTransGen registry.Link name ancestor →
    ∃ schema, registry.find? ancestor = some schema ∧ registry.Obeys ancestor schema
  acyclic : ∀ ancestor, Relation.ReflTransGen registry.Link name ancestor →
    ¬ Relation.TransGen registry.Link ancestor ancestor

variable {registry : Registry} {name super : ClassName} {schema : TypeSchema}

theorem Acceptable.of_link (acceptable : registry.Acceptable name)
    (link : registry.Link name super) : registry.Acceptable super where
  obeys ancestor reached := acceptable.obeys ancestor (.head link reached)
  acyclic ancestor reached := acceptable.acyclic ancestor (.head link reached)

/-! ### Inherited fields -/

/-- A walk to the superclasses depends on what was seen only where it gets there. -/
theorem ancestry_congr {seen seen' : List ClassName}
    (registered : registry.find? name = some schema)
    (same : ∀ ancestor, Relation.TransGen registry.Link name ancestor →
      (ancestor ∈ seen ↔ ancestor ∈ seen')) :
    registry.ancestry seen schema = registry.ancestry seen' schema := by
  fun_induction registry.ancestry seen schema generalizing name seen' with
  | case1 seen schema ih =>
    rw [ancestry]
    congr 1
    cases isParent : schema.superclass with
    | none => rfl
    | some parent =>
      have link : registry.Link name parent := ⟨schema, registered, .inl isParent⟩
      have seenParent := same parent (.single link)
      by_cases fresh : parent ∉ seen
      · have fresh' : parent ∉ seen' := fun member => fresh (seenParent.mpr member)
        simp only [dif_pos fresh, dif_pos fresh']
        split
        · rfl
        next parentSchema found =>
          refine ih parent fresh parentSchema found found fun ancestor beyond => ?_
          have := same ancestor (.head link beyond)
          simp [this]
      · have known : ¬ parent ∉ seen' := fun new => fresh fun member => new (seenParent.mp member)
        simp only [dif_neg fresh, dif_neg known]

theorem storedFields_of_root (noParent : schema.superclass = none) :
    registry.storedFields name schema = schema.storedFields := by
  rw [storedFields, ancestry]
  simp [noParent]

/-- A class that is not its own ancestor has the fields of its superclass and its own. -/
theorem storedFields_of_parent {parent : TypeSchema}
    (registered : registry.find? name = some schema) (isParent : schema.superclass = some super)
    (registeredParent : registry.find? super = some parent)
    (acyclic : ¬ Relation.TransGen registry.Link name name) :
    registry.storedFields name schema =
      registry.storedFields super parent ++ schema.storedFields := by
  have link : registry.Link name super := ⟨schema, registered, .inl isParent⟩
  have fresh : super ∉ [name] := by
    intro member
    obtain rfl := List.mem_singleton.mp member
    exact acyclic (.single link)
  have walk : registry.ancestry [name] schema =
      schema :: registry.ancestry [super, name] parent := by
    rw [ancestry]
    congr 1
    simp only [isParent, dif_pos fresh]
    split
    · simp_all
    next found => rw [Option.some.inj (registeredParent.symm.trans found)]
  have beyond : registry.ancestry [super, name] parent = registry.ancestry [super] parent := by
    refine ancestry_congr registeredParent fun ancestor reached => ?_
    have other : ancestor ≠ name := by
      rintro rfl
      exact acyclic (.head link reached)
    simp [other]
  rw [storedFields, walk, beyond, storedFields]
  simp

/-! ### Listeners -/

theorem exists_listenerHandlers_iff {listener : ClassName} :
    (∃ handlers, registry.listenerHandlers schema listener = .ok handlers) ↔
      (listener ≠ schema.name → ∃ described factory, registry.find? listener = some described ∧
        described.factory = some factory) := by
  rw [listenerHandlers]
  split
  next self => simp [self]
  next other =>
    cases registry.find? listener with
    | none => simp [other]
    | some described => cases hfactory : described.factory <;> simp [other, hfactory]

/-- The handlers of a type are there exactly if each of its listeners can be made. -/
theorem exists_handlers_iff : (∃ handlers, registry.handlers schema = .ok handlers) ↔
    ∀ listener ∈ schema.listenerNames, listener ≠ schema.name →
      ∃ described factory, registry.find? listener = some described ∧
        described.factory = some factory := by
  simp only [← exists_listenerHandlers_iff, ← Result.exists_forall₂_iff, ← Result.mapM_eq_ok]
  constructor
  · rintro ⟨handlers, served⟩
    obtain ⟨contributed, listeners, -⟩ := Result.bind_eq_ok.mp served
    exact ⟨contributed, listeners⟩
  · rintro ⟨contributed, listeners⟩
    exact ⟨_, Result.bind_eq_ok.mpr ⟨contributed, listeners, rfl⟩⟩

end Registry

/-! ### Rules -/

theorem TypeSchema.annotationsOf_isEmpty {schema : TypeSchema} {kind : TypeAnnotationKind} :
    (schema.annotationsOf kind).isEmpty = false ↔
      ∃ mark ∈ schema.annotations, mark.kind = kind := by
  simp [annotationsOf, ← Bool.not_eq_true, List.isEmpty_iff]

/-- A descriptor has no violations exactly if its type and its fields obey the rules. -/
theorem Descriptor.violations_eq_nil_iff {registry : Registry} {descriptor : Descriptor} :
    descriptor.violations registry = [] ↔
      descriptor.fields.countP (·.isId) ≤ 1 ∧ descriptor.fields.countP (·.isVersion) ≤ 1 ∧
      ¬ ((∃ mark ∈ descriptor.schema.annotations, mark.kind = .entity) ∧
        ∃ mark ∈ descriptor.schema.annotations, mark.kind = .embedded) ∧
      (descriptor.fields.map MappedField.storedName).Nodup ∧
      ∀ field ∈ descriptor.fields, field.Lawful registry := by
  have atMostOne : ∀ (count : Nat) (violation : Violation),
      (if 1 < count then [violation] else []) = [] ↔ count ≤ 1 := fun count violation => by
    split <;> simp <;> omega
  have ids : (descriptor.fieldsWith .id).length = descriptor.fields.countP (·.isId) :=
    List.countP_eq_length_filter.symm
  have versions :
      (descriptor.fieldsWith .version).length = descriptor.fields.countP (·.isVersion) :=
    List.countP_eq_length_filter.symm
  rw [← ids, ← versions, ← TypeSchema.annotationsOf_isEmpty, ← TypeSchema.annotationsOf_isEmpty]
  simp only [violations, List.append_eq_nil_iff, MappedField.allViolations_eq_nil_iff, atMostOne]
  simp [and_assoc]

namespace Catalog

variable {catalog : Catalog} {name super : ClassName} {descriptor : Descriptor}

namespace Describes

/-- A described class has the fields that it inherits and declares. -/
theorem fields_eq (described : catalog.Describes name descriptor) :
    descriptor.fields = catalog.registry.storedFields name descriptor.schema := by
  have acyclic := described.not_ancestor_self
  induction described with
  | @intro name schema superclass _ _ registered _ hasParent parent _ _ _ _ inherited _ =>
    cases isParent : schema.superclass with
    | none =>
      obtain rfl : superclass = none := by simpa [isParent] using hasParent
      exact (Registry.storedFields_of_root isParent).symm
    | some super =>
      obtain ⟨above, rfl⟩ := Option.isSome_iff_exists.mp (hasParent.trans (by simp [isParent]))
      have describedAbove := parent super above isParent rfl
      have fieldsAbove := inherited super above isParent rfl describedAbove.not_ancestor_self
      change above.fields ++ schema.storedFields = _
      rw [fieldsAbove]
      exact (Registry.storedFields_of_parent registered isParent describedAbove.find?_eq
        acyclic).symm

theorem obeys (described : catalog.Describes name descriptor) :
    catalog.registry.Obeys name descriptor.schema := by
  obtain ⟨oneId, oneVersion, notBoth, distinct, lawful⟩ :=
    Descriptor.violations_eq_nil_iff.mp described.violations_eq
  have fields := described.fields_eq
  rw [fields] at oneId oneVersion distinct lawful
  cases described with
  | intro _ nesting _ _ _ _ served _ =>
    exact ⟨nesting, Registry.exists_handlers_iff.mp ⟨_, served⟩, oneId, oneVersion, notBoth,
      distinct, lawful⟩

theorem acceptable (described : catalog.Describes name descriptor) :
    catalog.registry.Acceptable name where
  obeys ancestor reached := by
    obtain ⟨other, above⟩ := described.of_ancestor reached
    exact ⟨other.schema, above.find?_eq, above.obeys⟩
  acyclic ancestor reached := by
    obtain ⟨other, above⟩ := described.of_ancestor reached
    exact above.not_ancestor_self

end Describes

/-- A class that obeys the rules is described if its supertypes are. -/
theorem exists_describes_of_supers {schema : TypeSchema}
    (registered : catalog.registry.find? name = some schema)
    (obeys : catalog.registry.Obeys name schema)
    (acyclic : ¬ Relation.TransGen catalog.registry.Link name name)
    (supers : ∀ super, catalog.registry.Link name super →
      ∃ descriptor, catalog.Describes super descriptor) :
    ∃ descriptor, catalog.Describes name descriptor := by
  obtain ⟨handlers, served⟩ := Registry.exists_handlers_iff.mpr obeys.listeners
  obtain ⟨interfaces, interface⟩ := Result.exists_forall₂_iff.mpr fun super member =>
    supers super ⟨schema, registered, .inr member⟩
  obtain ⟨count, interface⟩ := List.forall₂_iff_zip.mp interface
  obtain ⟨superclass, hasParent, parent⟩ : ∃ superclass : Option Descriptor,
      superclass.isSome = schema.superclass.isSome ∧ ∀ super descriptor,
        schema.superclass = some super → superclass = some descriptor →
          catalog.Describes super descriptor := by
    cases isParent : schema.superclass with
    | none => exact ⟨none, rfl, by simp⟩
    | some super =>
      obtain ⟨above, described⟩ := supers super ⟨schema, registered, .inl isParent⟩
      refine ⟨some above, rfl, ?_⟩
      rintro _ _ ⟨⟩ ⟨⟩
      exact described
  have fields : (catalog.assemble schema superclass interfaces handlers).fields =
      catalog.registry.storedFields name schema := by
    cases isParent : schema.superclass with
    | none =>
      obtain rfl : superclass = none := by simpa [isParent] using hasParent
      exact (Registry.storedFields_of_root isParent).symm
    | some super =>
      obtain ⟨above, rfl⟩ := Option.isSome_iff_exists.mp (hasParent.trans (by simp [isParent]))
      have described := parent super above isParent rfl
      change above.fields ++ schema.storedFields = _
      rw [described.fields_eq]
      exact (Registry.storedFields_of_parent registered isParent described.find?_eq acyclic).symm
  refine ⟨_, .intro registered obeys.nesting hasParent parent count.symm
    (fun super d given => interface given) served ?_⟩
  rw [Descriptor.violations_eq_nil_iff, fields]
  exact ⟨obeys.oneId, obeys.oneVersion, obeys.notBoth, obeys.distinct, obeys.fields⟩

/-- The induction is on the registered types that are not on the way to the class. A type on the way
leads to the class, so an acceptable class is not on it. -/
theorem exists_describes_of_acceptable (path : List ClassName)
    (acceptable : catalog.registry.Acceptable name)
    (leads : ∀ under ∈ path, Relation.TransGen catalog.registry.Link under name) :
    ∃ descriptor, catalog.Describes name descriptor := by
  induction hn : catalog.registry.unseen path using Nat.strongRecOn generalizing path name with
  | ind n ih =>
    obtain ⟨schema, registered, obeys⟩ := acceptable.obeys name .refl
    have acyclic := acceptable.acyclic name .refl
    have fresh : name ∉ path := fun member => acyclic (leads name member)
    have fewer := Registry.unseen_cons_lt registered fresh
    refine exists_describes_of_supers registered obeys acyclic fun super link => ?_
    refine ih _ (hn ▸ fewer) (name :: path) (acceptable.of_link link) ?_ rfl
    intro under member
    rcases List.mem_cons.mp member with rfl | member
    · exact .single link
    · exact .tail (leads under member) link

theorem exists_describes_iff_acceptable :
    (∃ descriptor, catalog.Describes name descriptor) ↔ catalog.registry.Acceptable name :=
  ⟨fun ⟨_, described⟩ => described.acceptable,
    fun acceptable => exists_describes_of_acceptable [] acceptable (by simp)⟩

/-- A mapper gives a class a descriptor exactly if the class is acceptable, whatever the mapper was
asked for before; it refuses every other class with an error. -/
theorem exists_describe_iff_acceptable (catalog : Catalog) (earlier : List ClassName)
    (name : ClassName) :
    (∃ descriptor,
      ((catalog.describe name).outcome (catalog.asked earlier)).1 = .ok descriptor) ↔
      catalog.registry.Acceptable name := by
  simp only [describe_after_asked, answer_describe_eq_ok]
  exact exists_describes_iff_acceptable

end Catalog

end DocMapper
