import DocMapper.Mapping.ReferenceField
import DocMapper.Proofs.Discovery.Acceptable

/-!
# Types that differ in lazy marks

Whether a reference is marked as lazy matters to nobody but those who load entities. Types are alike
if they are the same once every reference is read as an eager one. Where the registered types are
alike, a class is described for one registry exactly if it is described for the other, and its
descriptors are alike: they have the same fields up to lazy marks, the same collection, and stand
for the same classes.
-/

namespace DocMapper

/-! ### Eager forms -/

/-- The annotation, with a reference marked as eager. -/
def FieldAnnotation.asEager : FieldAnnotation → FieldAnnotation
  | .reference options => .reference { options with lazy := false }
  | mark => mark

def FieldSchema.asEager (schema : FieldSchema) : FieldSchema :=
  { schema with annotations := schema.annotations.map FieldAnnotation.asEager }

def TypeSchema.asEager (schema : TypeSchema) : TypeSchema :=
  { schema with fields := schema.fields.map FieldSchema.asEager }

def MappedField.asEager (field : MappedField) : MappedField :=
  { field with annotations := field.annotations.map FieldAnnotation.asEager }

namespace FieldAnnotation

@[simp] theorem kind_asEager (mark : FieldAnnotation) : mark.asEager.kind = mark.kind := by
  cases mark <;> rfl

@[simp] theorem id_eq_asEager {mark : FieldAnnotation} : mark.asEager = .id ↔ mark = .id := by
  cases mark <;> simp [asEager]

@[simp] theorem transient_eq_asEager {mark : FieldAnnotation} :
    mark.asEager = .transient ↔ mark = .transient := by
  cases mark <;> simp [asEager]

@[simp] theorem givenName?_asEager (mark : FieldAnnotation) :
    MappedField.givenName? mark.asEager = MappedField.givenName? mark := by
  cases mark <;> rfl

end FieldAnnotation

namespace MappedField

theorem ofSchema_asEager (declaredBy : ClassName) (schema : FieldSchema) :
    ofSchema declaredBy schema.asEager = (ofSchema declaredBy schema).asEager := by
  simp [ofSchema, FieldSchema.asEager, MappedField.asEager, List.findSome?_map,
    Function.comp_def]

@[simp] theorem annotation?_asEager (field : MappedField) (kind : FieldAnnotationKind) :
    field.asEager.annotation? kind = (field.annotation? kind).map FieldAnnotation.asEager := by
  simp only [annotation?, asEager, List.find?_map, Function.comp_def, FieldAnnotation.kind_asEager]

@[simp] theorem has_asEager (field : MappedField) (kind : FieldAnnotationKind) :
    field.asEager.has kind = field.has kind := by
  simp [has]

@[simp] theorem idOnly_asEager (field : MappedField) :
    field.asEager.pointerOptions.idOnly = field.pointerOptions.idOnly := by
  rw [pointerOptions, pointerOptions, referenceOptions?, referenceOptions?, annotation?_asEager]
  cases field.annotation? .reference with
  | none => rfl
  | some mark => cases mark <;> rfl

/-- The fields differ in lazy marks at most. -/
def Alike (field other : MappedField) : Prop :=
  other.asEager = field.asEager

namespace Alike

variable {field other : MappedField} (alike : field.Alike other)

include alike

theorem symm : other.Alike field := Eq.symm alike

theorem declaredBy : other.declaredBy = field.declaredBy :=
  (congrArg MappedField.declaredBy alike :)

theorem name : other.name = field.name := (congrArg MappedField.name alike :)

theorem storedName : other.storedName = field.storedName :=
  (congrArg MappedField.storedName alike :)

theorem type : other.type = field.type := (congrArg MappedField.type alike :)

theorem has (kind : FieldAnnotationKind) : other.has kind = field.has kind := by
  rw [← has_asEager, alike, has_asEager]

theorem isReference : other.isReference = field.isReference := alike.has .reference

theorem isMultiple : other.isMultiple = field.isMultiple := by
  rw [MappedField.isMultiple, alike.type, ← MappedField.isMultiple]

theorem target? : other.target? = field.target? := by
  rw [MappedField.target?, alike.type, ← MappedField.target?]

theorem idOnly : other.pointerOptions.idOnly = field.pointerOptions.idOnly := by
  rw [← idOnly_asEager, alike, idOnly_asEager]

/-- The mapping rules do not look at lazy marks. -/
theorem lawful {registry registry' : Registry}
    (known : ∀ name, registry'.contains name = registry.contains name)
    (lawful : field.Lawful registry) : other.Lawful registry' where
  idNotReference := by
    rw [isId, alike.has, alike.isReference]
    exact lawful.idNotReference
  versionInteger := by
    rw [isVersion, alike.has, alike.type]
    exact lawful.versionInteger
  referenceTarget := by
    simp only [alike.isReference, alike.target?, known]
    exact lawful.referenceTarget

end Alike

end MappedField

/-! ### Registries -/

namespace TypeSchema

/-- The types differ in lazy marks at most. -/
def Alike (schema other : TypeSchema) : Prop :=
  other.asEager = schema.asEager

namespace Alike

variable {schema other : TypeSchema} (alike : schema.Alike other)

include alike

theorem symm : other.Alike schema := Eq.symm alike

theorem name : other.name = schema.name := (congrArg TypeSchema.name alike :)

theorem nesting : other.nesting = schema.nesting := (congrArg TypeSchema.nesting alike :)

theorem superclass : other.superclass = schema.superclass :=
  (congrArg TypeSchema.superclass alike :)

theorem interfaces : other.interfaces = schema.interfaces :=
  (congrArg TypeSchema.interfaces alike :)

theorem annotations : other.annotations = schema.annotations :=
  (congrArg TypeSchema.annotations alike :)

theorem factory : other.factory = schema.factory := (congrArg TypeSchema.factory alike :)

theorem listenerNames : other.listenerNames = schema.listenerNames :=
  (congrArg TypeSchema.listenerNames alike :)

theorem entityOptions? : other.entityOptions? = schema.entityOptions? :=
  (congrArg TypeSchema.entityOptions? alike :)

theorem storedFields :
    List.Forall₂ MappedField.Alike schema.storedFields other.storedFields := by
  have sameFields : other.fields.map FieldSchema.asEager = schema.fields.map FieldSchema.asEager :=
    (congrArg TypeSchema.fields alike :)
  have declared : ∀ schema : TypeSchema, schema.storedFields.map MappedField.asEager =
      ((schema.fields.map FieldSchema.asEager).map (MappedField.ofSchema schema.name)).filter
        (!·.isTransient) := by
    intro schema
    rw [TypeSchema.storedFields, List.map_map, List.filter_map, List.filter_map, List.map_map]
    simp [Function.comp_def, MappedField.ofSchema_asEager, MappedField.asEager]
  have same : other.storedFields.map MappedField.asEager =
      schema.storedFields.map MappedField.asEager := by
    rw [declared, declared, sameFields, alike.name]
  rw [← List.forall₂_eq_eq_eq, List.forall₂_map_left_iff, List.forall₂_map_right_iff] at same
  exact same.flip

end Alike

end TypeSchema

namespace Registry

variable {registry other : Registry} {name super : ClassName} {schema : TypeSchema}

/-- The same names are registered, with types that differ in lazy marks at most. -/
def Alike (registry other : Registry) : Prop :=
  ∀ name, Option.Rel TypeSchema.Alike (registry.find? name) (other.find? name)

namespace Alike

variable (alike : registry.Alike other)

include alike

theorem symm : other.Alike registry := by
  intro name
  have same := alike name
  generalize registry.find? name = found, other.find? name = found' at same ⊢
  cases same with
  | some same => exact .some same.symm
  | none => exact .none

theorem contains (name : ClassName) : other.contains name = registry.contains name := by
  have same := alike name
  rw [Registry.contains, Registry.contains]
  generalize registry.find? name = found, other.find? name = found' at same ⊢
  cases same <;> rfl

theorem exists_find? (registered : registry.find? name = some schema) :
    ∃ schema', other.find? name = some schema' ∧ schema.Alike schema' := by
  have same := alike name
  rw [registered] at same
  generalize other.find? name = found at same ⊢
  cases same with
  | some same => exact ⟨_, rfl, same⟩

theorem named (named : registry.Named) : other.Named := by
  intro name schema registered
  obtain ⟨schema', registered', same⟩ := alike.symm.exists_find? registered
  exact same.name.symm.trans (named name schema' registered')

theorem link (link : registry.Link name super) : other.Link name super := by
  obtain ⟨schema, registered, isSuper⟩ := link
  obtain ⟨schema', registered', same⟩ := alike.exists_find? registered
  exact ⟨schema', registered', by rwa [same.superclass, same.interfaces]⟩

theorem reaches (reached : Relation.ReflTransGen registry.Link name super) :
    Relation.ReflTransGen other.Link name super :=
  reached.lift id fun _ _ => alike.link

/-- Listeners are served alike: their types have the same factories. -/
theorem exists_handlers {schema' : TypeSchema} (same : schema.Alike schema')
    {handlers : List Handler} (served : registry.handlers schema = .ok handlers) :
    ∃ handlers', other.handlers schema' = .ok handlers' := by
  rw [exists_handlers_iff, same.listenerNames, same.name]
  intro listener member foreign
  obtain ⟨described, factory, registered, made⟩ :=
    exists_handlers_iff.mp ⟨_, served⟩ listener member foreign
  obtain ⟨described', registered', same⟩ := alike.exists_find? registered
  exact ⟨described', factory, registered', same.factory.trans made⟩

/-- Registering alike types keeps registries alike. -/
theorem register {schema' : TypeSchema} (same : schema.Alike schema') :
    (registry.register schema).Alike (other.register schema') := by
  intro name
  rw [find?, find?, Registry.register, Registry.register, same.name]
  by_cases isName : name = schema.name
  · subst isName
    rw [Assoc.lookup_insert_self, Assoc.lookup_insert_self]
    exact .some same
  · rw [Assoc.lookup_insert_of_ne isName, Assoc.lookup_insert_of_ne isName]
    exact alike name

end Alike

theorem alike_ofTypes {schemas schemas' : List TypeSchema}
    (same : List.Forall₂ TypeSchema.Alike schemas schemas') :
    (ofTypes schemas).Alike (ofTypes schemas') := by
  have keeps : ∀ registry registry' : Registry, registry.Alike registry' →
      (schemas.foldl register registry).Alike (schemas'.foldl register registry') := by
    induction same with
    | nil => exact fun _ _ alike => alike
    | cons first _ ih => exact fun _ _ alike => ih _ _ (alike.register first)
  exact keeps [] [] fun _ => .none

end Registry

/-! ### Descriptors -/

/-- The descriptors differ in lazy marks at most. Handlers and supertypes are not compared. -/
structure Descriptor.Alike (descriptor other : Descriptor) : Prop where
  schema : descriptor.schema.Alike other.schema
  fields : List.Forall₂ MappedField.Alike descriptor.fields other.fields
  entityOptions : other.entityOptions = descriptor.entityOptions
  collection : other.collection = descriptor.collection

namespace Descriptor.Alike

variable {descriptor other : Descriptor} (alike : descriptor.Alike other)

include alike

theorem className : other.className = descriptor.className := alike.schema.name

theorem isEntity : other.isEntity = descriptor.isEntity := by
  rw [Descriptor.isEntity, alike.entityOptions, ← Descriptor.isEntity]

theorem map_fields {β : Type} {f : MappedField → β}
    (same : ∀ field other : MappedField, field.Alike other → f other = f field) :
    other.fields.map f = descriptor.fields.map f := by
  have pairs := alike.fields.imp same
  rw [← List.forall₂_eq_eq_eq, List.forall₂_map_left_iff, List.forall₂_map_right_iff]
  exact pairs.flip

/-- Breaches of the mapping rules do not depend on lazy marks. -/
theorem violations {registry registry' : Registry}
    (known : ∀ name, registry'.contains name = registry.contains name)
    (lawful : descriptor.violations registry = []) : other.violations registry' = [] := by
  obtain ⟨oneId, oneVersion, notBoth, distinct, lawful⟩ :=
    Descriptor.violations_eq_nil_iff.mp lawful
  have count : ∀ kind,
      other.fields.countP (·.has kind) = descriptor.fields.countP (·.has kind) := by
    intro kind
    have same := alike.map_fields (f := (·.has kind)) fun _ _ alike => alike.has kind
    simpa [List.countP_map, Function.comp_def] using congrArg (List.countP id) same
  refine Descriptor.violations_eq_nil_iff.mpr ⟨?_, ?_, ?_, ?_, ?_⟩
  · exact (count .id) ▸ oneId
  · exact (count .version) ▸ oneVersion
  · rwa [alike.schema.annotations]
  · rwa [alike.map_fields fun _ _ alike => alike.storedName]
  · intro field member
    obtain ⟨original, inFields, alike⟩ := Result.exists_of_mem_right alike.fields member
    exact alike.lawful known (lawful original inFields)

end Descriptor.Alike

/-! ### Described classes -/

namespace Catalog

/-- The catalogs differ in lazy marks at most. -/
structure Alike (catalog other : Catalog) : Prop where
  registry : catalog.registry.Alike other.registry
  options : other.options = catalog.options

variable {catalog other : Catalog} {name : ClassName} {descriptor : Descriptor}

theorem Alike.symm (alike : catalog.Alike other) : other.Alike catalog :=
  ⟨alike.registry.symm, alike.options.symm⟩

/-- Alike types with alike superclasses have alike descriptors. -/
theorem Alike.assemble (alike : catalog.Alike other) {schema schema' : TypeSchema}
    (same : schema.Alike schema') {superclass superclass' : Option Descriptor}
    (parents : Option.Rel Descriptor.Alike superclass superclass')
    (interfaces interfaces' : List Descriptor) (handlers handlers' : List Handler) :
    (catalog.assemble schema superclass interfaces handlers).Alike
      (other.assemble schema' superclass' interfaces' handlers') := by
  obtain ⟨inherited, inheritedOptions⟩ : List.Forall₂ MappedField.Alike
      (superclass.elim [] Descriptor.fields) (superclass'.elim [] Descriptor.fields) ∧
      superclass'.bind Descriptor.entityOptions = superclass.bind Descriptor.entityOptions := by
    rcases parents with alike | _
    · exact ⟨alike.fields, alike.entityOptions⟩
    · exact ⟨.nil, rfl⟩
  have options : (schema'.entityOptions? <|> superclass'.bind Descriptor.entityOptions) =
      (schema.entityOptions? <|> superclass.bind Descriptor.entityOptions) := by
    rw [same.entityOptions?, inheritedOptions]
  refine ⟨same, ?_, options, ?_⟩
  · have fields : ∀ (catalog : Catalog) (schema : TypeSchema) (superclass : Option Descriptor)
        (interfaces : List Descriptor) (handlers : List Handler),
        (catalog.assemble schema superclass interfaces handlers).fields =
          superclass.elim [] Descriptor.fields ++ schema.storedFields := by
      intro _ _ superclass _ _
      cases superclass <;> rfl
    rw [fields, fields]
    exact List.rel_append inherited same.storedFields
  · change other.collectionOf schema'.name _ = catalog.collectionOf schema.name _
    rw [options, same.name, Catalog.collectionOf, Catalog.collectionOf, alike.options]

/-- A class that is described for a registry is described alike for an alike one. -/
theorem Describes.exists_alike (described : catalog.Describes name descriptor)
    (alike : catalog.Alike other) :
    ∃ descriptor', other.Describes name descriptor' ∧ descriptor.Alike descriptor' := by
  induction described with
  | @intro name schema superclass interfaces handlers registered nesting hasParent _ interfaceCount
      _ served lawful parentAlike interfaceAlike =>
    obtain ⟨schema', registered', same⟩ := alike.registry.exists_find? registered
    obtain ⟨superclass', hasParent', parents, parent'⟩ : ∃ superclass' : Option Descriptor,
        superclass'.isSome = schema'.superclass.isSome ∧
        Option.Rel Descriptor.Alike superclass superclass' ∧
        ∀ super d, schema'.superclass = some super → superclass' = some d →
          other.Describes super d := by
      rw [same.superclass]
      cases superclass with
      | none => exact ⟨none, hasParent, .none, by simp⟩
      | some above =>
        obtain ⟨super, isParent⟩ := Option.isSome_iff_exists.mp hasParent.symm
        obtain ⟨above', described', alikeAbove⟩ := parentAlike super above isParent rfl
        refine ⟨some above', hasParent, .some alikeAbove, ?_⟩
        rintro _ _ isParent' ⟨⟩
        obtain rfl := Option.some.inj (isParent.symm.trans isParent')
        exact described'
    obtain ⟨interfaces', all⟩ : ∃ interfaces',
        List.Forall₂ other.Describes schema'.interfaces interfaces' := by
      rw [same.interfaces]
      refine Result.exists_forall₂_iff.mpr fun super member => ?_
      obtain ⟨i, bound, rfl⟩ := List.getElem_of_mem member
      have given : (schema.interfaces[i], interfaces[i]) ∈ schema.interfaces.zip interfaces :=
        List.mem_iff_getElem.mpr ⟨i, by rw [List.length_zip]; omega, List.getElem_zip⟩
      obtain ⟨d, described', -⟩ := interfaceAlike _ _ given
      exact ⟨d, described'⟩
    obtain ⟨count, interface'⟩ := List.forall₂_iff_zip.mp all
    obtain ⟨handlers', served'⟩ := alike.registry.exists_handlers same served
    have alikeDescriptor := alike.assemble same parents interfaces interfaces' handlers handlers'
    exact ⟨_, .intro registered' (same.nesting ▸ nesting) hasParent' parent' count.symm
      (fun super d given => interface' given) served'
      (alikeDescriptor.violations alike.registry.contains lawful), alikeDescriptor⟩

theorem Describes.isAssignableTo_of_alike (named : catalog.registry.Named)
    (described : catalog.Describes name descriptor) (alike : catalog.Alike other)
    {descriptor' : Descriptor} (described' : other.Describes name descriptor') {target : ClassName}
    (assignable : descriptor.isAssignableTo target = true) :
    descriptor'.isAssignableTo target = true :=
  (described'.isAssignableTo_iff_reaches (alike.registry.named named)).mpr
    (alike.registry.reaches ((described.isAssignableTo_iff_reaches named).mp assignable))

end Catalog

end DocMapper
