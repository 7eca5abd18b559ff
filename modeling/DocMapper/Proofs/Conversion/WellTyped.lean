import DocMapper.Proofs.Conversion.Decoded
import DocMapper.Proofs.Conversion.Encoded

/-!
# Well-typed entities

An entity is well-typed if every property belongs to a field of its class and has the shape that the
declared type of the field asks for, the embedded objects included. `Restores` says when an entity
that was read is the one that was written: the same class and the same properties at any depth, with
keys in the place of references. The options decide what may differ: whether null is kept, and
whether what is empty is.
-/

namespace DocMapper

namespace FieldType

def IsManyOf (type : FieldType) (target : ClassName) : Prop :=
  type = .list (.object target) ∨ type = .set (.object target) ∨ type = .array (.object target)

theorem IsManyOf.isMultiple {type : FieldType} {target : ClassName} (h : type.IsManyOf target) :
    type.isMultiple = true := by
  rcases h with rfl | rfl | rfl <;> rfl

theorem IsManyOf.className? {type : FieldType} {target : ClassName} (h : type.IsManyOf target) :
    type.className? = some target := by
  rcases h with rfl | rfl | rfl <;> rfl

end FieldType

namespace Property

def parts : Property → List Entity
  | .embedded entity => [entity]
  | .embeddedList entities => entities
  | _ => []

def isEmpty : Property → Bool
  | .value (.array items) => items.isEmpty
  | .embeddedList entities => entities.isEmpty
  | .references refs => refs.isEmpty
  | _ => false

end Property

namespace Catalog

/-- An object can stand where a class is declared, and its document tells what class it is of. -/
def StandsFor (catalog : Catalog) (entity : Entity) (target : ClassName) : Prop :=
  ∃ descriptor, catalog.Describes entity.className descriptor ∧
    descriptor.isAssignableTo target = true ∧
      (descriptor.storesClassName = true ∨ entity.className = target)

theorem Describes.standsFor {catalog : Catalog} {entity : Entity} {descriptor : Descriptor}
    (named : catalog.registry.Named) (described : catalog.Describes entity.className descriptor) :
    catalog.StandsFor entity entity.className := by
  refine ⟨descriptor, described, ?_, .inr rfl⟩
  have sameName := described.className_eq named
  obtain ⟨schema, _, _, _, _, _, _, _⟩ := descriptor
  have sameName : schema.name = entity.className := sameName
  simp [Descriptor.isAssignableTo, sameName]

/-- The place that a reference leads to. -/
def LeadsTo (catalog : Catalog) : Reference → Pointer → Prop
  | .resolved entity, place => ∃ descriptor, catalog.Describes entity.className descriptor ∧
      descriptor.collection = place.collection ∧ descriptor.idValue? entity = some place.id
  | .key key, place | .missing key, place => key.pointer = place

/-- The key that stands for a reference in a field: it is of the class that the field declares, and
an identifier by itself is one of the collection of that class. -/
def IsKeyOf (catalog : Catalog) (field : MappedField) (ref : Reference) (key : Key) : Prop :=
  ∃ name target place, field.target? = some name ∧ catalog.Describes name target ∧
    catalog.LeadsTo ref place ∧
      key = ⟨target.className,
        if field.pointerOptions.idOnly then target.collection else place.collection, place.id⟩

/-- The properties that the declared type of a field allows. -/
inductive Suits (catalog : Catalog) (field : MappedField) : Property → Prop
  | null {property : Property} (isNull : property.isNull = true) : Suits catalog field property
  | id {value : Value} {kind : ScalarKind} (isId : field.isId = true)
      (type : field.type = .scalar kind) (accepted : kind.accepts value = true) :
      Suits catalog field (.value value)
  | plain {value : Value} (noId : field.isId = false) (noReference : field.isReference = false)
      (noClass : field.target? = none) (fits : field.type.fits value = true) :
      Suits catalog field (.value value)
  | embedded {entity : Entity} {target : ClassName} (noId : field.isId = false)
      (noReference : field.isReference = false) (type : field.type = .object target)
      (stands : catalog.StandsFor entity target) : Suits catalog field (.embedded entity)
  | embeddedList {entities : List Entity} {target : ClassName} (noId : field.isId = false)
      (noReference : field.isReference = false) (type : field.type.IsManyOf target)
      (stands : ∀ entity ∈ entities, catalog.StandsFor entity target) :
      Suits catalog field (.embeddedList entities)
  | reference {ref : Reference} {name : ClassName} {target : Descriptor}
      (isReference : field.isReference = true) (single : field.isMultiple = false)
      (named : field.target? = some name) (described : catalog.Describes name target) :
      Suits catalog field (.reference ref)
  | references {refs : List Reference} {name : ClassName} {target : Descriptor}
      (isReference : field.isReference = true) (multiple : field.isMultiple = true)
      (named : field.target? = some name) (described : catalog.Describes name target) :
      Suits catalog field (.references refs)

/-- The class of an entity can be mapped without its fields or its name getting in each other's way,
and every property, at any depth, suits the field it is for. -/
inductive WellTyped (catalog : Catalog) : Entity → Prop
  | intro {entity : Entity} {descriptor : Descriptor}
      (described : catalog.Describes entity.className descriptor)
      (names : (descriptor.fields.map MappedField.name).Nodup)
      (apart : ∀ field ∈ descriptor.fields, field.storedName ≠ catalog.options.classNameKey)
      (declared : ∀ name property, entity.get? name = some property →
        ∃ field ∈ descriptor.fields, field.name = name)
      (suits : ∀ field ∈ descriptor.fields, ∀ property,
        entity.get? field.name = some property → catalog.Suits field property)
      (parts : ∀ name property, entity.get? name = some property →
        ∀ part ∈ property.parts, WellTyped catalog part) :
      WellTyped catalog entity

section WellTyped

variable {catalog : Catalog} {entity : Entity} {descriptor : Descriptor} {field : MappedField}
  {property : Property}

theorem WellTyped.names (typed : catalog.WellTyped entity)
    (described : catalog.Describes entity.className descriptor) :
    (descriptor.fields.map MappedField.name).Nodup := by
  cases typed with
  | intro described' names => rwa [described.unique described']

theorem WellTyped.apart (typed : catalog.WellTyped entity)
    (described : catalog.Describes entity.className descriptor) :
    ∀ field ∈ descriptor.fields, field.storedName ≠ catalog.options.classNameKey := by
  cases typed with
  | intro described' names apart => rwa [described.unique described']

theorem WellTyped.suits (typed : catalog.WellTyped entity)
    (described : catalog.Describes entity.className descriptor)
    (member : field ∈ descriptor.fields) (held : entity.get? field.name = some property) :
    catalog.Suits field property := by
  cases typed with
  | intro described' names apart declared suits =>
    obtain rfl := described.unique described'
    exact suits field member property held

end WellTyped

/-- It is enough to look at the properties one by one. -/
theorem WellTyped.of_properties {catalog : Catalog} {entity : Entity} {descriptor : Descriptor}
    (described : catalog.Describes entity.className descriptor)
    (names : (descriptor.fields.map MappedField.name).Nodup)
    (apart : ∀ field ∈ descriptor.fields, field.storedName ≠ catalog.options.classNameKey)
    (each : ∀ entry ∈ entity.properties, ∃ field ∈ descriptor.fields,
      field.name = entry.1 ∧ catalog.Suits field entry.2)
    (parts : ∀ entry ∈ entity.properties, ∀ part ∈ entry.2.parts, catalog.WellTyped part) :
    catalog.WellTyped entity := by
  have held : ∀ name property, entity.get? name = some property →
      (name, property) ∈ entity.properties := by
    intro name property found
    obtain ⟨before, after, same, -⟩ := List.lookup_eq_some_iff.mp found
    simp [same]
  refine .intro described names apart ?_ ?_ ?_
  · intro name property found
    obtain ⟨field, member, same, -⟩ := each _ (held name property found)
    exact ⟨field, member, same⟩
  · intro field member property found
    obtain ⟨other, member', same, suits⟩ := each _ (held field.name property found)
    rwa [List.inj_on_of_nodup_map names member member' same.symm]
  · exact fun name property found => parts _ (held name property found)

theorem WellTyped.set {catalog : Catalog} {entity : Entity} {descriptor : Descriptor}
    {field : MappedField} {property : Property} (typed : catalog.WellTyped entity)
    (described : catalog.Describes entity.className descriptor)
    (member : field ∈ descriptor.fields) (suits : catalog.Suits field property)
    (plain : property.parts = []) : catalog.WellTyped (entity.set field.name property) := by
  cases typed with
  | intro described' names apart declared suited typedParts =>
    obtain rfl := described.unique described'
    have held : ∀ name found, (entity.set field.name property).get? name = some found →
        name = field.name ∧ found = property ∨ entity.get? name = some found := by
      intro name found given
      by_cases same : name = field.name
      · subst same
        rw [Entity.get?_set_self] at given
        exact .inl ⟨rfl, (Option.some.inj given).symm⟩
      · exact .inr ((Entity.get?_set_of_ne entity same property).symm.trans given)
    refine .intro described names apart ?_ ?_ ?_
    · intro name found given
      rcases held name found given with ⟨rfl, -⟩ | given
      · exact ⟨field, member, rfl⟩
      · exact declared name found given
    · intro other member' found given
      rcases held other.name found given with ⟨same, rfl⟩ | given
      · rwa [List.inj_on_of_nodup_map names member' member same]
      · exact suited other member' found given
    · intro name found given
      rcases held name found given with ⟨-, rfl⟩ | given
      · simp [plain]
      · exact typedParts name found given

/-- What may be read for a field that holds a property, the embedded objects aside. -/
inductive Returns (catalog : Catalog) (field : MappedField) :
    Option Property → Option Property → Prop
  /-- A field without a value is null if null is stored; an identity is never stored as null. -/
  | null {property : Option Property} (isNull : property.all Property.isNull = true) :
      Returns catalog field property
        (if catalog.options.storeNulls && !field.isId then some .null else none)
  | id {value : Value} (isId : field.isId = true) (set : value.isNull = false) :
      Returns catalog field (some (.value value)) (some (.value value))
  | value {value : Value} (set : value.isNull = false)
      (kept : catalog.options.keeps value = true) :
      Returns catalog field (some (.value value)) (some (.value value))
  /-- What is empty is left out unless the options say so. -/
  | empty {property : Property} (noId : field.isId = false) (isEmpty : property.isEmpty = true)
      (dropped : catalog.options.storeEmpties = false) :
      Returns catalog field (some property) none
  | embedded {entity restored : Entity} :
      Returns catalog field (some (.embedded entity)) (some (.embedded restored))
  | embeddedList {entities restored : List Entity}
      (kept : entities ≠ [] ∨ catalog.options.storeEmpties = true)
      (count : restored.length = entities.length) :
      Returns catalog field (some (.embeddedList entities)) (some (.embeddedList restored))
  | reference {ref : Reference} {key : Key} (isKey : catalog.IsKeyOf field ref key) :
      Returns catalog field (some (.reference ref)) (some (.reference (.key key)))
  /-- An identifier by itself is treated like any other value. -/
  | nullLink {ref : Reference} {place : Pointer} (bare : field.pointerOptions.idOnly = true)
      (leads : catalog.LeadsTo ref place) (isNull : place.id = .null) :
      Returns catalog field (some (.reference ref))
        (if catalog.options.storeNulls then some .null else none)
  | emptyLink {ref : Reference} {place : Pointer} (bare : field.pointerOptions.idOnly = true)
      (leads : catalog.LeadsTo ref place) (isEmpty : place.id = .array [])
      (dropped : catalog.options.storeEmpties = false) :
      Returns catalog field (some (.reference ref)) none
  | references {refs : List Reference} {keys : List Key}
      (kept : refs ≠ [] ∨ catalog.options.storeEmpties = true)
      (areKeys : List.Forall₂ (catalog.IsKeyOf field) refs keys) :
      Returns catalog field (some (.references refs)) (some (.references (keys.map .key)))

/-- The second entity is the first as it comes back from a document. -/
inductive Restores (catalog : Catalog) : Entity → Entity → Prop
  | intro {entity restored : Entity} {descriptor : Descriptor}
      (described : catalog.Describes entity.className descriptor)
      (sameClass : restored.className = entity.className)
      (declared : ∀ name property, restored.get? name = some property →
        ∃ field ∈ descriptor.fields, field.name = name)
      (returns : ∀ field ∈ descriptor.fields,
        catalog.Returns field (entity.get? field.name) (restored.get? field.name))
      (parts : ∀ field ∈ descriptor.fields, ∀ property found,
        entity.get? field.name = some property → restored.get? field.name = some found →
          ∀ part restoredPart, (part, restoredPart) ∈ property.parts.zip found.parts →
            Restores catalog part restoredPart) :
      Restores catalog entity restored

end Catalog

end DocMapper
