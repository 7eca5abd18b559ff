import DocMapper.Mapping.Encode
import DocMapper.Proofs.Discovery.Lawful
import DocMapper.Proofs.Discovery.Steady
import DocMapper.Proofs.Updates

/-!
# What encoding writes

Encoding asks the mapper for nothing but descriptors, so it is steady. What a document of an entity
holds under a key is then read off the fields of the class: `Written` gives it for every key, the
name of the class and the identity included.
-/

namespace DocMapper.Catalog

variable {catalog : Catalog}

theorem steady_idOf (entity : Entity) : catalog.Steady (catalog.idOf entity) := by
  apply (steady_describe _).bind
  intro descriptor _
  split
  · exact (gives_throw _).bind_error.steady
  · exact steady_pure _

/-- The identity is the plain value of the identity field, unless that is null. -/
theorem idValue?_eq {descriptor : Descriptor} {field : MappedField}
    (isId : descriptor.idField? = some field) (entity : Entity) :
    descriptor.idValue? entity = (entity.value? field.name).filter (!·.isNull) := by
  rw [Descriptor.idValue?, isId]
  rfl

/-- Only a class with an identity field has entities with an identity. -/
theorem exists_idField?_of_idValue? {descriptor : Descriptor} {entity : Entity} {id : Value}
    (set : descriptor.idValue? entity = some id) : ∃ field, descriptor.idField? = some field := by
  cases found : descriptor.idField? with
  | none => simp [Descriptor.idValue?, found] at set
  | some field => exact ⟨field, rfl⟩

theorem isNull_of_idValue? {descriptor : Descriptor} {entity : Entity} {id : Value}
    (set : descriptor.idValue? entity = some id) : id.isNull = false := by
  obtain ⟨field, isId⟩ := exists_idField?_of_idValue? set
  rw [idValue?_eq isId, Option.filter_eq_some_iff] at set
  simpa using set.2

theorem answer_idOf (entity : Entity) : answer (catalog.idOf entity) =
    answer (catalog.describe entity.className) >>= fun descriptor =>
      if descriptor.idField?.isNone then .error (.mapping (.noIdField entity.className))
      else .ok (descriptor.idValue? entity) := by
  rw [idOf, (steady_describe _).answer_bind fun descriptor _ => ?_]
  · congr 1
    funext descriptor
    cases descriptor.idField? <;> rfl
  · cases descriptor.idField? with
    | none => exact (gives_throw _).bind_error.steady
    | some field => exact steady_pure _

theorem answer_idOf_eq_ok {entity : Entity} {id : Option Value} :
    answer (catalog.idOf entity) = .ok id ↔ ∃ descriptor,
      catalog.Describes entity.className descriptor ∧ descriptor.idField?.isSome = true ∧
        descriptor.idValue? entity = id := by
  simp only [answer_idOf, Result.bind_eq_ok, answer_describe_eq_ok]
  refine exists_congr fun descriptor => and_congr_right fun _ => ?_
  cases descriptor.idField? <;> simp

theorem steady_entityPointer (field : MappedField) (entity : Entity) :
    catalog.Steady (catalog.entityPointer field entity) := by
  refine (steady_describe _).bind fun target _ => (steady_idOf entity).bind fun id _ => ?_
  cases id with
  | some id => exact steady_pure _
  | none => exact steady_throw _

theorem answer_entityPointer (field : MappedField) (entity : Entity) :
    answer (catalog.entityPointer field entity) =
      answer (catalog.describe entity.className) >>= fun target =>
        if target.idField?.isNone then .error (.mapping (.noIdField entity.className))
        else match target.idValue? entity with
          | some id => .ok (field.pointerTo target.collection id)
          | none =>
            .error (.mapping (.targetWithoutId entity.className field.declaredBy field.name)) := by
  rw [entityPointer]
  refine ((steady_describe _).answer_bind fun target _ =>
    (steady_idOf entity).bind fun id _ => ?_).trans ?_
  · cases id with
    | some id => exact steady_pure _
    | none => exact steady_throw _
  cases described : answer (catalog.describe entity.className) with
  | error error => rfl
  | ok target =>
    refine ((steady_idOf entity).answer_bind fun id _ => ?_).trans ?_
    · cases id with
      | some id => exact steady_pure _
      | none => exact steady_throw _
    rw [answer_idOf, described]
    cases isId : target.idField? with
    | none => simp [isId]
    | some idField => cases set : target.idValue? entity <;> simp [isId, set]

theorem steady_referencePointer (field : MappedField) (ref : Reference) :
    catalog.Steady (catalog.referencePointer field ref) := by
  cases ref with
  | resolved entity => exact steady_entityPointer field entity
  | key key => exact steady_pure _
  | missing key => exact steady_pure _

theorem steady_encodeReference (field : MappedField) (property : Property) :
    catalog.Steady (catalog.encodeReference field property) := by
  simp only [encodeReference]
  cases shapeFault? field property with
  | some fault => exact (gives_throw _).bind_error.steady
  | none =>
    cases property with
    | null => exact steady_pure _
    | value v => exact steady_throw _
    | embedded entity => exact steady_entityPointer field entity
    | embeddedList entities =>
      exact (Steady.gives_mapM fun entity _ => steady_entityPointer field entity).steady.bind
        fun _ _ => steady_pure _
    | reference ref => exact steady_referencePointer field ref
    | references refs =>
      exact (Steady.gives_mapM fun ref _ => steady_referencePointer field ref).steady.bind
        fun _ _ => steady_pure _

theorem steady_writeEntity {descriptor : Descriptor} {entity : Entity}
    {encoders : List (String × PropertyEncoder)} {doc : Document}
    (h : ∀ name encode, encoders.lookup name = some encode → ∀ field,
      catalog.Steady (encode field)) :
    catalog.Steady (catalog.writeEntity descriptor entity encoders doc) := by
  refine (Steady.gives_foldlM fun doc field _ => Steady.bind ?_ fun value _ => steady_pure _).steady
  rw [fieldValue]
  split
  · exact steady_encodeReference _ _
  · split
    next encode found => exact h _ _ found field
    · exact steady_pure _

mutual

theorem steady_encodeEmbedded : ∀ entity : Entity, catalog.Steady (catalog.encodeEmbedded entity)
  | .mk className properties =>
    (steady_describe className).bind fun _ _ =>
      (steady_writeEntity (steady_propertyEncoders properties)).bind fun _ _ => steady_pure _

theorem steady_encodeEmbeddedList :
    ∀ entities : List Entity, catalog.Steady (catalog.encodeEmbeddedList entities)
  | [] => steady_pure _
  | entity :: rest =>
    (steady_encodeEmbedded entity).bind fun _ _ =>
      (steady_encodeEmbeddedList rest).bind fun _ _ => steady_pure _

theorem steady_encodeProperty :
    ∀ (property : Property) (field : MappedField),
      catalog.Steady (catalog.encodeProperty property field)
  | .null, _ => steady_pure _
  | .value v, field => by
    rw [encodeProperty]
    split
    · exact steady_pure _
    · exact steady_throw _
  | .embedded entity, _ => steady_encodeEmbedded entity
  | .embeddedList entities, _ =>
    (steady_encodeEmbeddedList entities).bind fun _ _ => steady_pure _
  | .reference _, _ => steady_throw _
  | .references _, _ => steady_throw _

theorem steady_propertyEncoders :
    ∀ (properties : List (String × Property)) (name : String) (encode : PropertyEncoder),
      (catalog.propertyEncoders properties).lookup name = some encode →
        ∀ field, catalog.Steady (encode field)
  | [], _, _, h, _ => by simp [propertyEncoders] at h
  | (key, property) :: rest, name, encode, h, field => by
    rw [propertyEncoders, List.lookup_cons] at h
    split at h
    · cases h
      exact steady_encodeProperty property field
    · exact steady_propertyEncoders rest name encode h field

end

theorem steady_encodeInto (descriptor : Descriptor) (entity : Entity) (doc : Document) :
    catalog.Steady (catalog.encodeInto descriptor entity doc) :=
  steady_writeEntity (steady_propertyEncoders entity.properties)

/-! ### The value of a field -/

/-- The value that a property is written as in a field. -/
def propertyValue (catalog : Catalog) (field : MappedField) (property : Property) : MapM Value :=
  if field.isReference then catalog.encodeReference field property
  else catalog.encodeProperty property field

theorem steady_propertyValue (field : MappedField) (property : Property) :
    catalog.Steady (catalog.propertyValue field property) := by
  rw [propertyValue]
  split
  · exact steady_encodeReference field property
  · exact steady_encodeProperty property field

theorem answer_propertyValue_null (field : MappedField) :
    answer (catalog.propertyValue field .null) = .ok .null := by
  rw [propertyValue]
  split <;> simp [encodeReference, shapeFault?, encodeProperty]

theorem Describes.eq_of_propertyValue_version {name : ClassName} {descriptor : Descriptor}
    {field : MappedField} (described : catalog.Describes name descriptor)
    (isVersion : descriptor.versionField? = some field) {n : Int64} {value : Value}
    (written : answer (catalog.propertyValue field (.value (.integer n))) = .ok value) :
    value = .integer n := by
  obtain ⟨member, marked⟩ := Descriptor.versionField?_spec isVersion
  have fits : field.type.fits (.integer n) = true := by
    rw [described.type_of_isVersion member marked]
    rfl
  simpa [propertyValue, described.isReference_of_isVersion member marked, encodeProperty, fits,
    eq_comm] using written

/-- A field is written as what the property under its name is written as. -/
theorem fieldValue_propertyEncoders (entity : Entity) (field : MappedField) :
    catalog.fieldValue entity (catalog.propertyEncoders entity.properties) field =
      catalog.propertyValue field ((entity.get? field.name).getD .null) := by
  rw [fieldValue, propertyValue]
  split
  · rfl
  · rw [lookup_propertyEncoders, Entity.get?]
    cases entity.properties.lookup field.name <;> rfl

/-! ### The entries of a document -/

/-- What is written under the name of a field, if anything is. -/
def entryOf (catalog : Catalog) (entity : Entity) (field : MappedField) :
    Except MapError (Option Value) := do
  let value ← answer (catalog.propertyValue field ((entity.get? field.name).getD .null))
  return if catalog.options.keeps value then some value else none

theorem entryOf_eq_ok {entity : Entity} {field : MappedField} {entry : Option Value} :
    catalog.entryOf entity field = .ok entry ↔
      ∃ value, answer (catalog.propertyValue field ((entity.get? field.name).getD .null)) =
          .ok value ∧
        entry = if catalog.options.keeps value then some value else none := by
  rw [entryOf, Result.bind_eq_ok]
  constructor
  · rintro ⟨value, isValue, same⟩
    exact ⟨value, isValue, (Except.ok.inj same).symm⟩
  · rintro ⟨value, isValue, rfl⟩
    exact ⟨value, isValue, rfl⟩

/-- Encoding is a sequence of updates under the names of the fields. -/
theorem answer_encodeInto (descriptor : Descriptor) (entity : Entity) (doc : Document) :
    answer (catalog.encodeInto descriptor entity doc) =
      (descriptor.fields.filter (!·.isId)).foldlM (fun current field => do
        let entry ← catalog.entryOf entity field
        return entry.elim current (Document.insert current field.storedName))
        (catalog.writeIdentity descriptor entity doc) := by
  have steady : ∀ (current : Document) (field : MappedField), catalog.Steady
      (catalog.writeField entity (catalog.propertyEncoders entity.properties) current field) := by
    intro current field
    rw [writeField, fieldValue_propertyEncoders]
    exact (steady_propertyValue _ _).bind fun _ _ => steady_pure _
  rw [encodeInto, writeEntity, (Steady.gives_foldlM fun current field _ =>
    steady current field).answer_eq]
  congr 1
  funext current field
  rw [writeField, fieldValue_propertyEncoders,
    (steady_propertyValue _ _).answer_bind fun _ _ => steady_pure _, entryOf]
  cases answer (catalog.propertyValue field ((entity.get? field.name).getD .null)) with
  | error _ => rfl
  | ok value => cases h : catalog.options.keeps value <;> simp [h]

private theorem get?_insertIf (doc : Document) (wanted : Bool) (name key : String)
    (value : Value) :
    Document.get? (if wanted then Document.insert doc name value else doc) key =
      if wanted = true ∧ key = name then some value else Document.get? doc key := by
  cases wanted with
  | false => simp
  | true =>
    by_cases same : key = name
    · subst same
      simp
    · simpa [same] using Document.get?_insert_of_ne doc same value

/-- What identifies an entity: its identity and the name of its class. -/
theorem get?_writeIdentity (descriptor : Descriptor) (entity : Entity) (key : String) :
    Document.get? (catalog.writeIdentity descriptor entity []) key =
      if descriptor.storesClassName = true ∧ key = catalog.options.classNameKey then
        some (.text descriptor.className.text)
      else if key = idField then descriptor.idValue? entity
      else none := by
  rw [writeIdentity]
  rw [get?_insertIf]
  congr 1
  cases descriptor.idValue? entity with
  | none => simp
  | some id =>
    by_cases isId : key = idField
    · subst isId
      simp
    · exact (Document.get?_insert_of_ne _ isId id).trans (if_neg isId).symm

/-- The identity of an entity takes the place of an identifier that a document had before. -/
theorem get?_writeIdentity_idField {descriptor : Descriptor} {entity : Entity} {id : Value}
    (set : descriptor.idValue? entity = some id) (apart : catalog.options.classNameKey ≠ idField)
    (doc : Document) :
    Document.get? (catalog.writeIdentity descriptor entity doc) idField = some id := by
  rw [writeIdentity, get?_insertIf, if_neg fun both => apart both.2.symm, set]
  exact Document.get?_insert_self doc idField id

/-- The entries of a document that an entity of a class was written as. -/
structure Written (catalog : Catalog) (descriptor : Descriptor) (entity : Entity)
    (doc : Document) : Prop where
  /-- A field whose value is left out shows what the identity of the entity left there. -/
  field : ∀ field ∈ descriptor.fields, field.isId = false → ∃ value,
    answer (catalog.propertyValue field ((entity.get? field.name).getD .null)) = .ok value ∧
      Document.get? doc field.storedName =
        if catalog.options.keeps value then some value
        else Document.get? (catalog.writeIdentity descriptor entity []) field.storedName
  /-- There is nothing else beside the identity. -/
  rest : ∀ key, (∀ field ∈ descriptor.fields, field.isId = false → field.storedName ≠ key) →
    Document.get? doc key = Document.get? (catalog.writeIdentity descriptor entity []) key

theorem Describes.written {name : ClassName} {descriptor : Descriptor} {entity : Entity}
    {doc : Document} (described : catalog.Describes name descriptor)
    (encoded : answer (catalog.encodeInto descriptor entity []) = .ok doc) :
    catalog.Written descriptor entity doc := by
  rw [answer_encodeInto] at encoded
  have distinct : ((descriptor.fields.filter (!·.isId)).map MappedField.storedName).Nodup :=
    described.nodup_storedNames.sublist (List.filter_sublist.map _)
  obtain ⟨entries, others⟩ := read_foldlM_updates Document.get?_insert_self
    (fun doc _ _ value apart => Document.get?_insert_of_ne doc apart value) encoded distinct
  refine ⟨fun field member noId => ?_, fun key apart => others key ?_⟩
  · obtain ⟨entry, given, found⟩ :=
      entries field (List.mem_filter.mpr ⟨member, by simp [noId]⟩)
    obtain ⟨value, isValue, rfl⟩ := entryOf_eq_ok.mp given
    refine ⟨value, isValue, found.trans ?_⟩
    split <;> simp
  · intro member
    obtain ⟨field, stored, rfl⟩ := List.mem_map.mp member
    obtain ⟨member, noId⟩ := List.mem_filter.mp stored
    exact apart field member (by simpa using noId) rfl

/-! ### The document of an entity -/

/-- An entity as a document, without any hooks. -/
def document (catalog : Catalog) (entity : Entity) : MapM Document := do
  let descriptor ← catalog.describe entity.className
  catalog.encodeInto descriptor entity []

theorem steady_document (entity : Entity) : catalog.Steady (catalog.document entity) :=
  (steady_describe _).bind fun _ _ => steady_encodeInto _ _ _

theorem answer_document_eq_ok {entity : Entity} {doc : Document} :
    answer (catalog.document entity) = .ok doc ↔ ∃ descriptor,
      catalog.Describes entity.className descriptor ∧
        answer (catalog.encodeInto descriptor entity []) = .ok doc := by
  rw [document, (steady_describe _).answer_bind_eq_ok fun _ _ => steady_encodeInto _ _ _]
  simp only [answer_describe_eq_ok]

/-- The document of an entity shows what was written for its class. -/
theorem Describes.written_document {entity : Entity} {descriptor : Descriptor} {doc : Document}
    (described : catalog.Describes entity.className descriptor)
    (encoded : answer (catalog.document entity) = .ok doc) :
    catalog.Written descriptor entity doc := by
  obtain ⟨_, described', encoded⟩ := answer_document_eq_ok.mp encoded
  obtain rfl := described.unique described'
  exact described.written encoded

theorem encodeEmbedded_eq (entity : Entity) :
    catalog.encodeEmbedded entity = do return .document (← catalog.document entity) := by
  obtain ⟨className, properties⟩ := entity
  simp only [encodeEmbedded, document, encodeInto, Entity.className, Entity.properties, bind_assoc]

theorem answer_encodeEmbedded (entity : Entity) :
    answer (catalog.encodeEmbedded entity) =
      (answer (catalog.document entity)).map Value.document := by
  rw [encodeEmbedded_eq, ← map_eq_pure_bind, answer_map]

theorem answer_encodeEmbedded_eq_ok {entity : Entity} {value : Value} :
    answer (catalog.encodeEmbedded entity) = .ok value ↔
      ∃ doc, answer (catalog.document entity) = .ok doc ∧ value = .document doc := by
  rw [answer_encodeEmbedded, Result.map_eq_ok]
  simp only [eq_comm]

/-- Embedded objects are written as their documents, in their order. -/
theorem encodeEmbeddedList_eq (entities : List Entity) :
    catalog.encodeEmbeddedList entities = entities.mapM catalog.encodeEmbedded := by
  induction entities with
  | nil => rfl
  | cons entity rest ih => rw [encodeEmbeddedList, List.mapM_cons, ih]

theorem answer_encodeEmbeddedList_eq_ok {entities : List Entity} {values : List Value} :
    answer (catalog.encodeEmbeddedList entities) = .ok values ↔
      List.Forall₂ (fun entity value => answer (catalog.encodeEmbedded entity) = .ok value)
        entities values := by
  rw [encodeEmbeddedList_eq,
    Steady.answer_mapM_eq_ok fun entity _ => steady_encodeEmbedded entity]

section Embedded

variable {field : MappedField} {part : Entity} {parts : List Entity} {value : Value}

/-- A plain field writes an object that is embedded in it as its document. -/
theorem answer_propertyValue_embedded_eq_ok (noReference : field.isReference = false) :
    answer (catalog.propertyValue field (.embedded part)) = .ok value ↔
      ∃ doc, answer (catalog.document part) = .ok doc ∧ value = .document doc := by
  rw [propertyValue, noReference, if_neg Bool.false_ne_true, encodeProperty,
    answer_encodeEmbedded_eq_ok]

/-- A plain field writes several objects as the array of their documents. -/
theorem answer_propertyValue_embeddedList_eq_ok (noReference : field.isReference = false) :
    answer (catalog.propertyValue field (.embeddedList parts)) = .ok value ↔
      ∃ values, value = .array values ∧
        List.Forall₂ (fun part value => answer (catalog.encodeEmbedded part) = .ok value)
          parts values := by
  rw [propertyValue, noReference, if_neg Bool.false_ne_true, encodeProperty,
    (steady_encodeEmbeddedList parts).answer_bind_eq_ok fun _ _ => steady_pure _]
  refine exists_congr fun values => ?_
  rw [answer_encodeEmbeddedList_eq_ok, answer_pure, Except.ok.injEq, and_comm, eq_comm]

end Embedded

end DocMapper.Catalog
