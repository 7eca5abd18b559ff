import DocMapper.Datastore.Basic
import DocMapper.Proofs.Hook.Preserving
import DocMapper.Proofs.Store.Intact

/-!
# Hooks that leave identity and version alone

A hook is discreet if it leaves the identity and the version of the entity and of the running
document as they are, even where it fails. Discreet hooks lead an entity to a document that shows
the identity and the version of the entity, whatever else they put there, and a dispatch of theirs
leaves both where they were.
-/

namespace DocMapper

def Descriptor.marks (descriptor : Descriptor) (field : MappedField) (entity : Entity) :
    Option Value × Option Int64 :=
  (descriptor.idValue? entity, Mapper.carriedVersion field entity)

def MappedField.documentMarks (field : MappedField) (doc : Document) :
    Option Value × Option Int64 :=
  (Collections.idOf? doc, Mapper.storedVersion field doc)

/-- Whatever it is called with, the handler leaves identity and version alone: those of the entity
that it is passed, and those of the running document in one that it puts in its place. -/
def Handler.Discreet (descriptor : Descriptor) (field : MappedField) (handler : Handler) : Prop :=
  ∀ listener entity doc,
    ((handler.call listener entity doc).entity.isSome = true →
      ∀ left, (handler.method.body (handler.call listener entity doc)).entity = some left →
        descriptor.marks field left = descriptor.marks field entity) ∧
    ∀ replacement,
      (handler.method.body (handler.call listener entity doc)).result = .ok (some replacement) →
        field.documentMarks replacement = field.documentMarks doc

/-- Whatever it is called with and answered, the interceptor leaves identity and version alone. -/
def Interceptor.Discreet (descriptor : Descriptor) (field : MappedField) (event : Event)
    (interceptor : Interceptor) : Prop :=
  ∀ entity doc, (interceptor event entity doc).All fun left final failure =>
    descriptor.marks field left = descriptor.marks field entity ∧
      (failure = none → field.documentMarks final = field.documentMarks doc)

/-- Every hook that an event of a class calls leaves identity and version alone. -/
structure Mapper.Discreet (mapper : Mapper) (descriptor : Descriptor) (field : MappedField)
    (event : Event) : Prop where
  handlers : ∀ handler ∈ descriptor.handlersFor event, handler.Discreet descriptor field
  interceptors : ∀ interceptor ∈ mapper.interceptors,
    Interceptor.Discreet descriptor field event interceptor

namespace Mapper

variable {mapper : Mapper} {descriptor : Descriptor} {field : MappedField} {event : Event}
  {memory : Memory} {entity : Entity} {doc : Document} {marks : Option Value × Option Int64}

/-- Descriptors that are kept are correct, and the entity has this identity and this version. -/
structure Marked (mapper : Mapper) (descriptor : Descriptor) (field : MappedField)
    (marks : Option Value × Option Int64) (state : Memory × Entity) : Prop where
  sound : state.1.Sound mapper.catalog
  marks : descriptor.marks field state.2 = marks

/-! ### Hooks -/

/-- What is discreet preserves identity and version, as observed of entities and documents. -/
theorem Discreet.preserves (discreet : mapper.Discreet descriptor field event) :
    mapper.Preserves (descriptor.marks field) field.documentMarks descriptor event :=
  ⟨discreet.handlers, discreet.interceptors⟩

/-- A dispatch to discreet hooks leaves identity and version where they were. -/
theorem ends_dispatch (discreet : mapper.Discreet descriptor field event)
    {state : Memory × Entity} (marked : mapper.Marked descriptor field marks state)
    (doc : Document) :
    (mapper.dispatch descriptor event doc).Ends state
      (fun final after => field.documentMarks final = field.documentMarks doc ∧
        mapper.Marked descriptor field marks after)
      fun error after => error.isConflict = false ∧ mapper.Marked descriptor field marks after :=
  (discreet.preserves.ends_dispatch ⟨marked.sound, marked.marks⟩ doc).mono
    (fun _ _ ends => ⟨ends.1, ends.2.sound, ends.2.seen⟩)
    fun _ _ ends => ⟨ends.1, ends.2.sound, ends.2.seen⟩

/-! ### Documents -/

theorem carriedVersion_eq_some {version : Int64} : carriedVersion field entity = some version ↔
    entity.get? field.name = some (.value (.integer version)) := by
  rw [carriedVersion, Entity.value?]
  constructor
  · intro carried
    obtain ⟨value, held, isInteger⟩ := Option.bind_eq_some_iff.mp carried
    obtain ⟨property, found, isValue⟩ := Option.bind_eq_some_iff.mp held
    cases property <;> cases isValue
    cases value <;> cases isInteger
    exact found
  · intro found
    rw [found]
    rfl

/-- The field that is the identity and the version at the same time. -/
theorem idValue?_of_isId {name : ClassName} (described : mapper.catalog.Describes name descriptor)
    (member : field ∈ descriptor.fields) (isId : field.isId = true) {version : Int64}
    (carried : carriedVersion field entity = some version) :
    descriptor.idValue? entity = some (.integer version) := by
  rw [Catalog.idValue?_eq (described.idField?_eq member isId), Entity.value?,
    carriedVersion_eq_some.mp carried]
  rfl

/-- The fields that are not the identity are stored under names of their own, which are not the
identity's either. -/
theorem idField_notMem_storedNames {name : ClassName}
    (described : mapper.catalog.Describes name descriptor) {owner : MappedField}
    (isOwner : descriptor.idField? = some owner) :
    idField ∉ (descriptor.fields.filter (!·.isId)).map MappedField.storedName := by
  obtain ⟨member, marked⟩ := Descriptor.idField?_spec isOwner
  intro among
  obtain ⟨other, stored, same⟩ := List.mem_map.mp among
  obtain ⟨otherMember, noId⟩ := List.mem_filter.mp stored
  have own := same.trans (described.storedName_of_isId member marked).symm
  rw [described.eq_of_storedName otherMember member own, marked] at noId
  cases noId

/-- What was in a document before does not matter: encoding writes the identity of the entity over
it. -/
theorem idOf?_encodeInto {name : ClassName} {start : Document} {id : Value}
    (described : mapper.catalog.Describes name descriptor)
    (apart : mapper.catalog.options.classNameKey ≠ idField)
    (identity : descriptor.idValue? entity = some id)
    (encoded : Catalog.answer (mapper.catalog.encodeInto descriptor entity start) = .ok doc) :
    Collections.idOf? doc = some id := by
  rw [Catalog.answer_encodeInto] at encoded
  have distinct : ((descriptor.fields.filter (!·.isId)).map MappedField.storedName).Nodup :=
    described.nodup_storedNames.sublist (List.filter_sublist.map _)
  obtain ⟨-, others⟩ := read_foldlM_updates Document.get?_insert_self
    (fun doc _ _ value apart => Document.get?_insert_of_ne doc apart value) encoded distinct
  obtain ⟨owner, isOwner⟩ := Catalog.exists_idField?_of_idValue? identity
  have present : id ≠ .null := by
    rintro rfl
    cases Catalog.isNull_of_idValue? identity
  refine Collections.idOf?_eq_some.mpr ⟨?_, present⟩
  rw [others idField (idField_notMem_storedNames described isOwner),
    Catalog.get?_writeIdentity_idField identity apart]

/-- Encoding likewise writes the version of the entity over what was in a document before. -/
theorem documentMarks_encodeInto {name : ClassName} {start : Document} {id : Value}
    {version : Int64} (described : mapper.catalog.Describes name descriptor)
    (isVersion : descriptor.versionField? = some field)
    (apart : mapper.catalog.options.classNameKey ≠ idField)
    (marks : descriptor.marks field entity = (some id, some version))
    (encoded : Catalog.answer (mapper.catalog.encodeInto descriptor entity start) = .ok doc) :
    field.documentMarks doc = (some id, some version) := by
  obtain ⟨identity, carried⟩ := Prod.mk.inj marks
  obtain ⟨member, -⟩ := Descriptor.versionField?_spec isVersion
  have identified := idOf?_encodeInto described apart identity encoded
  rw [Catalog.answer_encodeInto] at encoded
  have distinct : ((descriptor.fields.filter (!·.isId)).map MappedField.storedName).Nodup :=
    described.nodup_storedNames.sublist (List.filter_sublist.map _)
  obtain ⟨entries, -⟩ := read_foldlM_updates Document.get?_insert_self
    (fun doc _ _ value apart => Document.get?_insert_of_ne doc apart value) encoded distinct
  have version : storedVersion field doc = some version := by
    cases isId : field.isId with
    | true =>
      rw [idValue?_of_isId described member isId carried] at identity
      cases identity
      rw [storedVersion, described.storedName_of_isId member isId,
        (Collections.idOf?_eq_some.mp identified).1]
      rfl
    | false =>
      obtain ⟨entry, given, found⟩ := entries field (List.mem_filter.mpr ⟨member, by simp [isId]⟩)
      obtain ⟨value, isValue, rfl⟩ := Catalog.entryOf_eq_ok.mp given
      rw [carriedVersion_eq_some.mp carried] at isValue
      obtain rfl := described.eq_of_propertyValue_version isVersion isValue
      rw [storedVersion, found]
      rfl
  rw [MappedField.documentMarks, identified, version]

/-- An entity with identity and version is led to a document that shows both, and keeps them, as it
does where this fails. -/
theorem ends_toDocument {id : Value} {version : Int64}
    (described : mapper.catalog.Describes entity.className descriptor)
    (isVersion : descriptor.versionField? = some field)
    (apart : mapper.catalog.options.classNameKey ≠ idField)
    (prePersist : mapper.Discreet descriptor field .prePersist)
    (preSave : mapper.Discreet descriptor field .preSave)
    (marked : mapper.Marked descriptor field (some id, some version) (memory, entity)) :
    mapper.toDocument.Ends (memory, entity)
      (fun doc after => field.documentMarks doc = (some id, some version) ∧
        mapper.Marked descriptor field (some id, some version) after)
      fun error after => error.isConflict = false ∧
        mapper.Marked descriptor field (some id, some version) after :=
  (Preserves.ends_toDocument described prePersist.preserves preSave.preserves
    (fun _ _ _ marks encoded => documentMarks_encodeInto described isVersion apart marks encoded)
    ⟨marked.sound, marked.marks⟩).mono
    (fun _ _ ends => ⟨ends.1, ends.2.sound, ends.2.seen⟩)
    fun _ _ ends => ⟨ends.1, ends.2.sound, ends.2.seen⟩

end Mapper

end DocMapper
