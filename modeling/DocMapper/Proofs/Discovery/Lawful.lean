import Mathlib.Data.List.Nodup
import Mathlib.Tactic.ByContra
import Mathlib.Tactic.MkIffOfInductiveProp
import DocMapper.Proofs.Discovery.Describes

/-!
# What the mapping rules guarantee

A descriptor without violations keeps its fields apart by their stored names, and each field obeys
the rules for its annotations. Every field of a described class is a declared field of the class or
of an ancestor, so the identity is stored under the identifier of the document.
-/

namespace DocMapper

namespace MappedField

variable {registry : Registry} {taken : List String} {fields : List MappedField}
  {field : MappedField}

theorem has_iff {field : MappedField} {kind : FieldAnnotationKind} :
    field.has kind = true ↔ ∃ mark ∈ field.annotations, mark.kind = kind := by
  simp [has, annotation?, List.find?_isSome]

/-- What the rules ask of a field by itself. -/
@[mk_iff]
structure Lawful (registry : Registry) (field : MappedField) : Prop where
  /-- The identity is no link. -/
  idNotReference : ¬ (field.isId = true ∧ field.isReference = true)
  /-- A version counter counts. -/
  versionInteger : field.isVersion = true → field.type = .scalar .integer
  /-- A link names a registered class. -/
  referenceTarget : field.isReference = true →
    ∃ target, field.target? = some target ∧ registry.contains target = true

theorem violations_eq_nil_iff : field.violations registry taken = [] ↔
    field.storedName ∉ taken ∧ field.Lawful registry := by
  rw [lawful_iff, violations]
  simp only [List.append_eq_nil_iff, and_assoc]
  refine and_congr (by simp) (and_congr (by simp) (and_congr (by simp) ?_))
  cases field.isReference with
  | false => simp
  | true => cases field.target? <;> simp

/-- Fields have no violations exactly if their stored names are new and each of them obeys the rules
by itself. -/
theorem allViolations_eq_nil_iff : allViolations registry taken fields = [] ↔
    (fields.map storedName).Nodup ∧ (∀ field ∈ fields, field.storedName ∉ taken) ∧
      ∀ field ∈ fields, field.Lawful registry := by
  induction fields generalizing taken with
  | nil => simp [allViolations]
  | cons first rest ih =>
    rw [allViolations, List.append_eq_nil_iff, violations_eq_nil_iff, ih, List.map_cons,
      List.nodup_cons]
    rw [List.forall_mem_cons, List.forall_mem_cons]
    simp only [List.mem_cons, not_or]
    constructor
    · rintro ⟨⟨free, lawful⟩, distinct, apart, later⟩
      refine ⟨⟨?_, distinct⟩, ⟨free, fun field member => (apart field member).2⟩, lawful, later⟩
      intro member
      obtain ⟨field, inRest, same⟩ := List.mem_map.mp member
      exact (apart field inRest).1 same
    · rintro ⟨⟨new, distinct⟩, ⟨free, apart⟩, lawful, later⟩
      refine ⟨⟨free, lawful⟩, distinct, fun field member => ⟨?_, apart field member⟩, later⟩
      intro same
      exact new (same ▸ List.mem_map_of_mem member)

/-- A field that is kept apart from the others by a key is found by it. -/
theorem find?_key_eq {key : MappedField → String} (distinct : (fields.map key).Nodup)
    (member : field ∈ fields) : fields.find? (key · = key field) = some field := by
  cases found : fields.find? (key · = key field) with
  | none => simpa using List.find?_eq_none.mp found field member
  | some other =>
    have same : key other = key field := by simpa using List.find?_some found
    rw [List.inj_on_of_nodup_map distinct (List.mem_of_find?_eq_some found) member same]

end MappedField

namespace Descriptor

variable {descriptor : Descriptor} {field : MappedField}

theorem idField?_spec (isId : descriptor.idField? = some field) :
    field ∈ descriptor.fields ∧ field.isId = true :=
  ⟨List.mem_of_find?_eq_some isId, List.find?_some isId⟩

theorem versionField?_spec (isVersion : descriptor.versionField? = some field) :
    field ∈ descriptor.fields ∧ field.isVersion = true :=
  ⟨List.mem_of_find?_eq_some isVersion, List.find?_some isVersion⟩

/-- Where fields have names of their own, each is found under its name. -/
theorem field?_eq (names : (descriptor.fields.map MappedField.name).Nodup)
    (member : field ∈ descriptor.fields) : descriptor.field? field.name = some field :=
  MappedField.find?_key_eq names member

end Descriptor

namespace Catalog.Describes

variable {catalog : Catalog} {name : ClassName} {descriptor : Descriptor} {field : MappedField}

private theorem allViolations_eq_nil (described : catalog.Describes name descriptor) :
    MappedField.allViolations catalog.registry [] descriptor.fields = [] := by
  have lawful := described.violations_eq
  simp only [Descriptor.violations, List.append_eq_nil_iff] at lawful
  exact lawful.2

/-- Fields of a class are stored under names of their own. -/
theorem nodup_storedNames (described : catalog.Describes name descriptor) :
    (descriptor.fields.map MappedField.storedName).Nodup :=
  (MappedField.allViolations_eq_nil_iff.mp described.allViolations_eq_nil).1

theorem eq_of_storedName (described : catalog.Describes name descriptor) {other : MappedField}
    (member : field ∈ descriptor.fields) (member' : other ∈ descriptor.fields)
    (same : field.storedName = other.storedName) : field = other :=
  List.inj_on_of_nodup_map described.nodup_storedNames member member' same

theorem storedField?_eq (described : catalog.Describes name descriptor)
    (member : field ∈ descriptor.fields) :
    descriptor.storedField? field.storedName = some field :=
  MappedField.find?_key_eq described.nodup_storedNames member

private theorem field_lawful (described : catalog.Describes name descriptor)
    (member : field ∈ descriptor.fields) : field.Lawful catalog.registry :=
  (MappedField.allViolations_eq_nil_iff.mp described.allViolations_eq_nil).2.2 field member

theorem isReference_of_isId (described : catalog.Describes name descriptor)
    (member : field ∈ descriptor.fields) (id : field.isId = true) : field.isReference = false := by
  by_contra reference
  exact (described.field_lawful member).idNotReference ⟨id, by simpa using reference⟩

theorem type_of_isVersion (described : catalog.Describes name descriptor)
    (member : field ∈ descriptor.fields) (version : field.isVersion = true) :
    field.type = .scalar .integer :=
  (described.field_lawful member).versionInteger version

theorem target_of_isReference (described : catalog.Describes name descriptor)
    (member : field ∈ descriptor.fields) (reference : field.isReference = true) :
    ∃ target, field.target? = some target ∧ catalog.registry.contains target = true :=
  (described.field_lawful member).referenceTarget reference

theorem isReference_of_isVersion (described : catalog.Describes name descriptor)
    (member : field ∈ descriptor.fields) (version : field.isVersion = true) :
    field.isReference = false := by
  by_contra reference
  obtain ⟨target, given, -⟩ := described.target_of_isReference member (by simpa using reference)
  simp [MappedField.target?, FieldType.className?, FieldType.element,
    described.type_of_isVersion member version] at given

/-- Every field was declared by the class or by one that it inherits from. -/
theorem field_declared (described : catalog.Describes name descriptor)
    (member : field ∈ descriptor.fields) :
    ∃ declaredBy schema, field = MappedField.ofSchema declaredBy schema := by
  induction described with
  | @intro name schema superclass _ _ registered _ hasParent _ _ _ _ _ inherited _ =>
    rcases List.mem_append.mp member with member | member
    · cases superclass with
      | none => simp at member
      | some parent =>
        obtain ⟨super, isParent⟩ := Option.isSome_iff_exists.mp hasParent.symm
        exact inherited super parent isParent rfl member
    · obtain ⟨declared, -⟩ := List.mem_filter.mp member
      obtain ⟨declaration, -, rfl⟩ := List.mem_map.mp declared
      exact ⟨_, declaration, rfl⟩

/-- The identity is stored as the identifier of the document. -/
theorem storedName_of_isId (described : catalog.Describes name descriptor)
    (member : field ∈ descriptor.fields) (id : field.isId = true) :
    field.storedName = DocMapper.idField := by
  obtain ⟨declaredBy, schema, rfl⟩ := described.field_declared member
  obtain ⟨mark, marked, kind⟩ := MappedField.has_iff.mp id
  have isMark : mark = .id := by
    cases mark <;> cases kind
    rfl
  subst isMark
  exact if_pos marked

/-- A class has at most one identity. -/
theorem eq_of_isId (described : catalog.Describes name descriptor) {other : MappedField}
    (member : field ∈ descriptor.fields) (member' : other ∈ descriptor.fields)
    (id : field.isId = true) (id' : other.isId = true) : field = other :=
  described.eq_of_storedName member member'
    ((described.storedName_of_isId member id).trans (described.storedName_of_isId member' id').symm)

/-- The field that is marked as the identity is the identity. -/
theorem idField?_eq (described : catalog.Describes name descriptor)
    (member : field ∈ descriptor.fields) (id : field.isId = true) :
    descriptor.idField? = some field := by
  cases found : descriptor.idField? with
  | none => simpa [id] using List.find?_eq_none.mp found field member
  | some other =>
    obtain ⟨member', id'⟩ := Descriptor.idField?_spec found
    rw [described.eq_of_isId member' member id' id]

end Catalog.Describes

namespace Catalog

variable {catalog : Catalog} {name : ClassName} {descriptor : Descriptor}

/-- The fields of every described class have names of their own. -/
def Distinct (catalog : Catalog) : Prop :=
  ∀ name descriptor, catalog.Describes name descriptor →
    (descriptor.fields.map MappedField.name).Nodup

/-- A class without a superclass has the fields that it declares. -/
theorem Describes.exists_schema (described : catalog.Describes name descriptor)
    (alone : catalog.registry.all (·.2.superclass.isNone) = true) :
    ∃ schema, (name, schema) ∈ catalog.registry ∧
      descriptor.fields.Sublist (schema.fields.map (MappedField.ofSchema schema.name)) := by
  cases described with
  | @intro _ schema superclass _ _ registered _ hasParent =>
    obtain ⟨before, after, same, -⟩ := List.lookup_eq_some_iff.mp registered
    have member : (name, schema) ∈ catalog.registry := by simp [same]
    have noParent : schema.superclass = none := by
      simpa using List.all_eq_true.mp alone _ member
    obtain rfl : superclass = none := by simpa [noParent] using hasParent
    exact ⟨schema, member, List.filter_sublist⟩

/-- Classes without superclasses have distinct names if they declare distinct names. -/
theorem distinct_of_alone (alone : catalog.registry.all (·.2.superclass.isNone) = true)
    (names : catalog.registry.all (fun (_, schema) =>
      decide (schema.fields.map FieldSchema.name).Nodup) = true) : catalog.Distinct := by
  intro name descriptor described
  obtain ⟨schema, member, fields⟩ := described.exists_schema alone
  refine List.Nodup.sublist (fields.map _) ?_
  simpa [Function.comp_def, MappedField.ofSchema] using List.all_eq_true.mp names _ member

end Catalog

end DocMapper
