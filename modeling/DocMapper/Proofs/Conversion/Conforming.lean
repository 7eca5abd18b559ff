import DocMapper.Proofs.Conversion.Legible

/-!
# Objects that conform to the declarations of their fields

Documents come from outside, and at every level the document itself says what class it is read as.
What is read nevertheless conforms to the declared class: its class can stand where that class is
declared, every property is of a persistent field and is one that the field admits, and the embedded
objects conform to the classes that their fields declare (`Conforms`). An object that conforms can
be written, so whatever was read can be written again.
-/

namespace DocMapper

/-- The classes of an object and of the objects embedded in it, at any depth. -/
inductive Entity.Involves : Entity → ClassName → Prop
  | self (entity : Entity) : Involves entity entity.className
  | part {entity part : Entity} {name : String} {property : Property} {involved : ClassName}
      (held : entity.get? name = some property) (member : part ∈ property.parts)
      (inside : Involves part involved) : Involves entity involved

namespace Catalog

/-- The properties that a field admits by its declaration. References in it are keys of the class
that it links to, and nothing more. -/
inductive Admits (field : MappedField) : Property → Prop
  | null : Admits field .null
  | plain {value : Value} (noReference : field.isReference = false)
      (fits : field.type.fits value = true) : Admits field (.value value)
  | embedded {entity : Entity} {target : ClassName} (noReference : field.isReference = false)
      (type : field.type = .object target) : Admits field (.embedded entity)
  | embeddedList {entities : List Entity} {target : ClassName}
      (noReference : field.isReference = false) (multiple : field.isMultiple = true)
      (isClass : field.target? = some target) : Admits field (.embeddedList entities)
  | key {key : Key} (isReference : field.isReference = true) (single : field.isMultiple = false)
      (isTarget : field.target? = some key.className) : Admits field (.reference (.key key))
  | keys {keys : List Key} (isReference : field.isReference = true)
      (multiple : field.isMultiple = true)
      (areTargets : ∀ key ∈ keys, field.target? = some key.className) :
      Admits field (.references (keys.map .key))

/-- An object can stand where a class is declared, all of its properties are of persistent fields
that admit them, and the objects embedded in a field conform to the class that the field
declares. -/
inductive Conforms (catalog : Catalog) : ClassName → Entity → Prop
  | intro {requested : ClassName} {entity : Entity} {descriptor : Descriptor}
      (described : catalog.Describes entity.className descriptor)
      (assignable : descriptor.isAssignableTo requested = true)
      (declared : ∀ name property, entity.get? name = some property →
        ∃ field ∈ descriptor.fields, field.name = name)
      (admits : ∀ field ∈ descriptor.fields, ∀ property,
        entity.get? field.name = some property → Admits field property)
      (parts : ∀ field ∈ descriptor.fields, ∀ property,
        entity.get? field.name = some property → ∀ target, field.target? = some target →
          ∀ part ∈ property.parts, Conforms catalog target part) :
      Conforms catalog requested entity

/-- In the class of the object, and in the class of each object inside it, the fields have names of
their own. -/
def DistinctIn (catalog : Catalog) (entity : Entity) : Prop :=
  ∀ name, entity.Involves name → ∀ descriptor, catalog.Describes name descriptor →
    (descriptor.fields.map MappedField.name).Nodup

variable {catalog : Catalog} {requested target : ClassName} {doc entries : Document}
  {descriptor : Descriptor} {field : MappedField} {value : Value} {property : Property}
  {entity part : Entity}

theorem DistinctIn.of_part {name : String} (distinct : catalog.DistinctIn entity)
    (held : entity.get? name = some property) (member : part ∈ property.parts) :
    catalog.DistinctIn part :=
  fun name inside => distinct name (.part held member inside)

/-! ### What is read conforms -/

theorem Describes.isAssignableTo_self (named : catalog.registry.Named)
    (described : catalog.Describes requested descriptor) :
    descriptor.isAssignableTo requested = true :=
  described.isAssignableTo_of_reaches named .refl

/-- A document is read as a class that can stand for the one that it is asked for as. -/
theorem ReadAs.isAssignableTo (named : catalog.registry.Named)
    (isClass : catalog.ReadAs requested doc descriptor) :
    descriptor.isAssignableTo requested = true := by
  rw [ReadAs] at isClass
  split at isClass
  · exact isClass.isAssignableTo_self named
  · exact isClass.2

/-- What is read as a class is of that class, whatever names its fields have. -/
theorem ReadAs.className_eq (isClass : catalog.ReadAs requested doc descriptor)
    (read : answer (catalog.decodeDocument requested doc) = .ok entity) :
    entity.className = descriptor.className := by
  rw [answer_decodeDocument_of_readAs isClass, decodeInto, answer_readEntity] at read
  obtain ⟨_, -, rfl⟩ := foldlM_updates_eq_ok.mp read
  exact Entity.className_applyAll _ _

/-- Every key of a stored value is of the class that the field links to. -/
theorem target?_of_mem_keys (named : catalog.registry.Named) {keys : List Key}
    (linked : answer (catalog.keys field value) = .ok keys) {key : Key} (member : key ∈ keys) :
    field.target? = some key.className := by
  obtain ⟨target, ⟨name, isTarget, described⟩, made⟩ := answer_keys_eq_ok.mp linked
  have ofTarget : key.className = target.className := by
    cases multiple : field.isMultiple with
    | false =>
      obtain ⟨only, isKey, rfl⟩ := (keysFor_eq_ok_of_single multiple).mp made
      rw [List.mem_singleton.mp member]
      exact className_of_keyFor isKey
    | true =>
      obtain ⟨items, -, areKeys⟩ := (keysFor_eq_ok_of_multiple multiple).mp made
      obtain ⟨item, -, isKey⟩ := Result.exists_of_mem_results areKeys member
      exact className_of_keyFor isKey
  rw [isTarget, ofTarget, described.className_eq named]

/-- A field admits whatever a value in it stands for. -/
theorem Means.admits (named : catalog.registry.Named)
    (means : catalog.Means field value property) : Admits field property := by
  cases means with
  | null => exact .null
  | @links _ keys isReference _ linked =>
    have areTargets := fun key (member : key ∈ keys) => target?_of_mem_keys named linked member
    rw [propertyOfKeys]
    cases multiple : field.isMultiple with
    | true => exact .keys isReference multiple areTargets
    | false =>
      cases keys with
      | nil => exact .null
      | cons key rest => exact .key isReference multiple (areTargets key List.mem_cons_self)
  | plain noReference _ _ fits => exact .plain noReference fits
  | object noReference isObject => exact .embedded noReference isObject
  | objects noReference multiple isObject => exact .embeddedList noReference multiple isObject

/-- The class of a document inside a value is the one that the field declares. -/
theorem Nests.target?_eq (nests : Nests field value target entries) :
    field.target? = some target := by
  cases nests with
  | object _ isObject => rw [MappedField.target?, isObject]; rfl
  | objects _ _ isObject => exact isObject

/-- What is read as a class conforms to it. The induction is on the document: the documents inside
it are smaller, whatever classes they say they are of. -/
theorem conforms_of_decodeDocument (named : catalog.registry.Named)
    (distinct : catalog.DistinctIn entity)
    (read : answer (catalog.decodeDocument requested doc) = .ok entity) :
    catalog.Conforms requested entity := by
  induction size : sizeOf doc using Nat.strongRecOn generalizing requested doc entity with
  | ind n ih =>
    obtain ⟨descriptor, isClass⟩ := exists_readAs read
    have described : catalog.Describes entity.className descriptor := by
      obtain ⟨name, described⟩ := isClass.describes
      rwa [isClass.className_eq read, described.className_eq named]
    have shows := isClass.shows (distinct _ (.self entity) descriptor described) read
    -- What an entity holds for a field is what a value of the document means.
    have stored : ∀ field ∈ descriptor.fields, ∀ property,
        entity.get? field.name = some property → ∃ value,
          Document.get? doc field.storedName = some value ∧
            catalog.Means field value property := by
      intro field member property held
      have shown := shows.field field member
      rw [held] at shown
      generalize Document.get? doc field.storedName = found at shown
      cases shown with
      | some means => exact ⟨_, rfl, means⟩
    refine .intro described (isClass.isAssignableTo named) shows.declared ?_ ?_
    · intro field member property held
      obtain ⟨value, -, means⟩ := stored field member property held
      exact means.admits named
    · intro field member property held target isTarget part inParts
      obtain ⟨value, found, means⟩ := stored field member property held
      obtain ⟨other, entries, nests, read⟩ := means.exists_nested inParts
      obtain rfl : other = target := Option.some.inj (nests.target?_eq.symm.trans isTarget)
      exact ih _ (size ▸ nests.sizeOf_lt found) (distinct.of_part held inParts) read rfl

/-! ### What conforms can be written -/

/-- A field writes what it admits if the objects inside it can be written. -/
theorem Admits.exists_answer_propertyValue (admits : Admits field property)
    (parts : ∀ part ∈ property.parts, ∃ doc, answer (catalog.document part) = .ok doc) :
    ∃ value, answer (catalog.propertyValue field property) = .ok value := by
  cases admits with
  | null => exact ⟨.null, answer_propertyValue_null field⟩
  | @plain value noReference fits =>
    exact ⟨value, by simp [propertyValue, noReference, encodeProperty, fits]⟩
  | embedded noReference =>
    obtain ⟨doc, written⟩ := parts _ (List.mem_singleton_self _)
    exact ⟨.document doc, (answer_propertyValue_embedded_eq_ok noReference).mpr ⟨doc, written, rfl⟩⟩
  | @embeddedList entities _ noReference =>
    obtain ⟨values, each⟩ : ∃ values, List.Forall₂
        (fun entity value => answer (catalog.encodeEmbedded entity) = .ok value) entities values :=
      Result.exists_forall₂_iff.mpr fun part member => by
        obtain ⟨doc, written⟩ := parts part member
        exact ⟨.document doc, answer_encodeEmbedded_eq_ok.mpr ⟨doc, written, rfl⟩⟩
    exact ⟨.array values,
      (answer_propertyValue_embeddedList_eq_ok noReference).mpr ⟨values, rfl, each⟩⟩
  | @key key isReference single =>
    refine ⟨field.pointerTo key.collection key.id, ?_⟩
    simp [propertyValue, isReference, encodeReference, shapeFault?, single, referencePointer]
  | @keys keys isReference multiple =>
    have each : answer ((keys.map Reference.key).mapM (catalog.referencePointer field)) =
        .ok (keys.map fun key => field.pointerTo key.collection key.id) := by
      rw [Steady.answer_mapM_eq_ok fun ref _ => steady_referencePointer field ref]
      simp [List.forall₂_map_left_iff, List.forall₂_map_right_iff, List.forall₂_same,
        referencePointer]
    refine ⟨.array (keys.map fun key => field.pointerTo key.collection key.id), ?_⟩
    simpa [propertyValue, isReference, encodeReference, shapeFault?, multiple, Result.map_eq_ok]
      using each

/-- An object that conforms to a class can be written. -/
theorem Conforms.exists_document (conforms : catalog.Conforms requested entity) :
    ∃ doc, answer (catalog.document entity) = .ok doc := by
  induction conforms with
  | @intro requested entity descriptor described _ _ admits _ written =>
    have each : ∀ field ∈ descriptor.fields.filter (!·.isId),
        ∃ entry, catalog.entryOf entity field = .ok entry := by
      intro field kept
      have member := (List.mem_filter.mp kept).1
      cases held : entity.get? field.name with
      | none =>
        exact ⟨_, entryOf_eq_ok.mpr ⟨.null, held ▸ answer_propertyValue_null field, rfl⟩⟩
      | some property =>
        have fitting := admits field member property held
        obtain ⟨value, isValue⟩ := fitting.exists_answer_propertyValue fun part inParts => by
          obtain ⟨target, isTarget⟩ : ∃ target, field.target? = some target := by
            cases fitting with
            | @embedded _ target _ type => exact ⟨target, by rw [MappedField.target?, type]; rfl⟩
            | embeddedList _ _ isClass => exact ⟨_, isClass⟩
            | _ => cases inParts
          exact written field member property held target isTarget part inParts
        exact ⟨_, entryOf_eq_ok.mpr ⟨value, held ▸ isValue, rfl⟩⟩
    obtain ⟨doc, encoded⟩ := exists_foldlM_updates_iff.mpr each
    refine ⟨doc, answer_document_eq_ok.mpr ⟨descriptor, described, ?_⟩⟩
    rw [answer_encodeInto]
    exact encoded

end Catalog

/-- Whatever document a mapper without hooks reads as a class, the object conforms to the class, at
every depth, and the same mapper can write it. -/
theorem Mapper.Plain.decoded_conforms {mapper : Mapper} (plain : mapper.Plain)
    {memory after : Memory} (sound : memory.Sound mapper.catalog) {requested : ClassName}
    {doc : Document} {entity : Entity} (distinct : mapper.catalog.DistinctIn entity)
    (read : (mapper.catalog.decodeDocument requested doc).outcome memory = (.ok entity, after)) :
    mapper.catalog.Conforms requested entity ∧
      ∃ written later, mapper.toDocument.outcome (after, entity) =
        (.ok written, (later, entity)) := by
  have steady : mapper.catalog.Steady (mapper.catalog.decodeDocument requested doc) :=
    Catalog.steady_decodeDocument _ _
  obtain ⟨answered, learns⟩ := steady.of_outcome sound read
  have conforms := Catalog.conforms_of_decodeDocument plain.named distinct answered
  obtain ⟨written, isDocument⟩ := conforms.exists_document
  obtain ⟨later, -, encoding⟩ := plain.outcome_toDocument learns.sound entity
  exact ⟨conforms, written, later, by rw [encoding, isDocument]⟩

namespace Samples

/-- The document of an author at home is read as an author that conforms, with the home inside. -/
theorem decoded_conforms_ada :
    let mapper : Mapper := { catalog := { registry := library } }
    ∃ entity after, (mapper.catalog.decodeDocument author.name
        (authorDocument [("name", .text "Ada"), ("home", london)])).outcome {} =
          (.ok entity, after) ∧
      mapper.catalog.Conforms author.name entity ∧
      ∃ written later, mapper.toDocument.outcome (after, entity) =
        (.ok written, (later, entity)) := by
  intro mapper
  have decoded : ((mapper.catalog.decodeDocument author.name
      (authorDocument [("name", .text "Ada"), ("home", london)])).outcome {}).1.toOption.isSome =
        true := by decide +kernel
  obtain ⟨entity, decoded⟩ := Option.isSome_iff_exists.mp decoded
  have read := Run.outcome_eq_of_toOption decoded
  have distinct : mapper.catalog.Distinct := Catalog.distinct_of_alone (by decide) (by decide)
  exact ⟨_, _, read, Mapper.Plain.decoded_conforms (plain_library {}) (Memory.sound_empty _)
    (fun name _ descriptor described => distinct name descriptor described) read⟩

end Samples

end DocMapper
