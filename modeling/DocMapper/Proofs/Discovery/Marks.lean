import DocMapper.Proofs.Discovery.Hierarchy

/-!
# Entities and embedded types

A type is marked by its annotations. The mark of an entity passes on to subclasses, the mark of an
embedded type does not. So a descriptor is that of an entity if the mark is found on the way up the
superclasses, and that of an embedded type if it is found on the type itself. The mapping rules
refuse a type that has both marks itself, and do not look further up.

The main result says which accepted types are both: those marked as embedded below an entity.
-/

namespace DocMapper

namespace Registry

def Extends (registry : Registry) (name super : ClassName) : Prop :=
  ∃ schema, registry.find? name = some schema ∧ schema.superclass = some super

/-- The type itself has an annotation of a kind. -/
def Marks (registry : Registry) (name : ClassName) (kind : TypeAnnotationKind) : Prop :=
  ∃ schema, registry.find? name = some schema ∧ ∃ mark ∈ schema.annotations, mark.kind = kind

/-- The type, or a class that it descends from, has an annotation of a kind. -/
def Bears (registry : Registry) (name : ClassName) (kind : TypeAnnotationKind) : Prop :=
  ∃ ancestor, Relation.ReflTransGen registry.Extends name ancestor ∧ registry.Marks ancestor kind

variable {registry : Registry} {name super : ClassName} {schema : TypeSchema}
  {kind : TypeAnnotationKind}

theorem extends_iff (registered : registry.find? name = some schema) :
    registry.Extends name super ↔ schema.superclass = some super := by
  simp [Extends, registered]

theorem marks_iff (registered : registry.find? name = some schema) :
    registry.Marks name kind ↔ ∃ mark ∈ schema.annotations, mark.kind = kind := by
  simp [Marks, registered]

/-- A type bears the marks of its own and those that its superclass bears. -/
theorem bears_iff : registry.Bears name kind ↔
    registry.Marks name kind ∨ ∃ super, registry.Extends name super ∧
      registry.Bears super kind := by
  constructor
  · rintro ⟨ancestor, reached, marks⟩
    rcases Relation.ReflTransGen.cases_head reached with rfl | ⟨super, link, further⟩
    · exact .inl marks
    · exact .inr ⟨super, link, ancestor, further, marks⟩
  · rintro (marks | ⟨super, link, ancestor, reached, marks⟩)
    · exact ⟨name, .refl, marks⟩
    · exact ⟨ancestor, .head link reached, marks⟩

end Registry

namespace TypeSchema

variable {schema : TypeSchema}

theorem isSome_entityOptions? : schema.entityOptions?.isSome = true ↔
    ∃ mark ∈ schema.annotations, mark.kind = .entity := by
  rw [← annotationsOf_isEmpty, entityOptions?]
  cases first : (schema.annotationsOf .entity).head? with
  | none => simp [List.head?_eq_none_iff.mp first]
  | some mark =>
    have marked := List.mem_of_head? first
    have kind : mark.kind = .entity := by simpa using (List.mem_filter.mp marked).2
    cases mark <;> cases kind
    simpa using List.ne_nil_of_mem marked

theorem isSome_embeddedOptions? : schema.embeddedOptions?.isSome = true ↔
    ∃ mark ∈ schema.annotations, mark.kind = .embedded := by
  rw [← annotationsOf_isEmpty, embeddedOptions?]
  cases last : (schema.annotationsOf .embedded).getLast? with
  | none => simp [List.getLast?_eq_none_iff.mp last]
  | some mark =>
    have marked := List.mem_of_getLast? last
    have kind : mark.kind = .embedded := by simpa using (List.mem_filter.mp marked).2
    cases mark <;> cases kind
    simpa using List.ne_nil_of_mem marked

end TypeSchema

namespace Catalog

variable {catalog : Catalog} {name : ClassName} {descriptor : Descriptor}

/-- A type is an entity by its own annotation or as its superclass is. -/
theorem isEntity_assemble {schema : TypeSchema} {superclass : Option Descriptor}
    {interfaces : List Descriptor} {handlers : List Handler} :
    (catalog.assemble schema superclass interfaces handlers).isEntity =
      (schema.entityOptions?.isSome || superclass.any Descriptor.isEntity) := by
  cases own : schema.entityOptions? <;> cases superclass <;>
    simp [assemble, Descriptor.isEntity, own]

namespace Describes

theorem isEmbedded_iff (described : catalog.Describes name descriptor) :
    descriptor.isEmbedded = true ↔ catalog.registry.Marks name .embedded := by
  rw [Registry.marks_iff described.find?_eq, ← TypeSchema.isSome_embeddedOptions?]
  cases described
  rfl

theorem isEntity_iff (described : catalog.Describes name descriptor) :
    descriptor.isEntity = true ↔ catalog.registry.Bears name .entity := by
  induction described with
  | @intro name schema superclass _ _ registered _ hasParent _ _ _ _ _ inherited _ =>
    rw [Registry.bears_iff, Registry.marks_iff registered, ← TypeSchema.isSome_entityOptions?]
    simp only [Registry.extends_iff registered]
    rw [isEntity_assemble, Bool.or_eq_true]
    refine or_congr_right ?_
    cases isParent : schema.superclass with
    | none =>
      obtain rfl : superclass = none := by simpa [isParent] using hasParent
      simp
    | some super =>
      obtain ⟨parent, rfl⟩ := Option.isSome_iff_exists.mp (hasParent.trans (by simp [isParent]))
      simpa using inherited super parent isParent rfl

/-- No type that can be described has both marks itself. -/
theorem not_marks_both (described : catalog.Describes name descriptor) :
    ¬ (catalog.registry.Marks name .entity ∧ catalog.registry.Marks name .embedded) := by
  rw [Registry.marks_iff described.find?_eq, Registry.marks_iff described.find?_eq]
  exact (Descriptor.violations_eq_nil_iff.mp described.violations_eq).2.2.1

end Describes

/-- Whatever a mapper was asked for before, a type that it accepts is both an entity and embedded
exactly if it is marked as embedded itself and its superclass bears the mark of an entity. -/
theorem both_iff_embedded_below (catalog : Catalog) (earlier : List ClassName) (name : ClassName)
    {descriptor : Descriptor}
    (accepted : ((catalog.describe name).outcome (catalog.asked earlier)).1 = .ok descriptor) :
    (descriptor.isEntity = true ∧ descriptor.isEmbedded = true) ↔
      catalog.registry.Marks name .embedded ∧
        ∃ super, catalog.registry.Extends name super ∧ catalog.registry.Bears super .entity := by
  have described := describe_after_asked_eq_ok.mp accepted
  rw [described.isEntity_iff, described.isEmbedded_iff, Registry.bears_iff]
  constructor
  · rintro ⟨marks | above, embedded⟩
    · exact absurd ⟨marks, embedded⟩ described.not_marks_both
    · exact ⟨embedded, above⟩
  · rintro ⟨embedded, above⟩
    exact ⟨.inr above, embedded⟩

end Catalog

namespace Samples

def poet : TypeSchema where
  name := ⟨"Poet"⟩
  superclass := some author.name

/-- An author who is mentioned in the document of something else. -/
def mention : TypeSchema where
  name := ⟨"Mention"⟩
  superclass := some author.name
  annotations := [.embedded {}]

/-- Authors with documents of their own and without. -/
def writers : Catalog where
  registry := .ofTypes [address, author, poet, mention]

/-- A poet is an entity, as an author is, and is not embedded. -/
theorem poet_not_both :
    ∃ descriptor, ((writers.describe poet.name).outcome (writers.asked [mention.name])).1 =
      .ok descriptor ∧ descriptor.isEntity = true ∧ descriptor.isEmbedded = false := by
  have asEntity : ((writers.describe poet.name).outcome
      (writers.asked [mention.name])).1.toOption.map Descriptor.isEntity = some true := by
    decide +kernel
  obtain ⟨descriptor, found, isEntity⟩ := Option.map_eq_some_iff.mp asEntity
  have accepted := Result.eq_ok_of_toOption found
  have notMarked : ¬ writers.registry.Marks poet.name .embedded := by
    rintro ⟨schema, registered, mark, marked, -⟩
    obtain rfl : poet = schema := Option.some.inj registered
    simp [poet] at marked
  have iff := Catalog.both_iff_embedded_below writers [mention.name] poet.name accepted
  refine ⟨descriptor, accepted, isEntity, Bool.eq_false_iff.mpr fun isEmbedded => ?_⟩
  exact notMarked (iff.mp ⟨isEntity, isEmbedded⟩).1

/-- A mentioned author is embedded and, as an author, an entity. -/
theorem mention_both :
    ∃ (catalog : Catalog) (name : ClassName) (descriptor : Descriptor),
      ((catalog.describe name).outcome {}).1 = .ok descriptor ∧
        descriptor.isEntity = true ∧ descriptor.isEmbedded = true := by
  have both : ((writers.describe mention.name).outcome {}).1.toOption.map
      (fun descriptor => (descriptor.isEntity, descriptor.isEmbedded)) = some (true, true) := by
    decide +kernel
  obtain ⟨descriptor, found, marks⟩ := Option.map_eq_some_iff.mp both
  obtain ⟨isEntity, isEmbedded⟩ := Prod.mk.inj marks
  exact ⟨writers, mention.name, descriptor, Result.eq_ok_of_toOption found, isEntity, isEmbedded⟩

end Samples

end DocMapper
