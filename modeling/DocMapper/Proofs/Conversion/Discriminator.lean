import DocMapper.Proofs.Conversion.RoundTrip

/-!
# The class name in a document

The class name, the identity and the fields of an entity share the keys of its document, and the
fields are written last. The mapping rules keep the stored names of the fields apart from each other
and from the identity, but not from the key of the class name, which is an option. So a field stored
under this key hides the class name, and the class name hides the identity if the key is `_id`.

`Writes` gives the documents that are written for an entity, its own and those of the objects
embedded in it. Each of them identifies its object exactly if none of these hides another.
-/

namespace DocMapper

/-- An object embedded in a property, and its document in the value that is written for it. -/
inductive Property.Shows : Property → Value → Entity → Document → Prop
  | single {part : Entity} {partDoc : Document} :
      Shows (.embedded part) (.document partDoc) part partDoc
  | listed {parts : List Entity} {values : List Value} {part : Entity} {partDoc : Document}
      (member : (part, .document partDoc) ∈ parts.zip values) :
      Shows (.embeddedList parts) (.array values) part partDoc

namespace Catalog

/-- The documents that stand in the document of an entity for the entity itself and for the objects
embedded in it, at any depth. -/
inductive Writes (catalog : Catalog) : Entity → Document → Entity → Document → Prop
  | self {entity : Entity} {doc : Document} : Writes catalog entity doc entity doc
  | part {entity part object : Entity} {doc partDoc written : Document} {descriptor : Descriptor}
      {field : MappedField} {property : Property} {value : Value}
      (described : catalog.Describes entity.className descriptor)
      (member : field ∈ descriptor.fields) (noId : field.isId = false)
      (noReference : field.isReference = false) (held : entity.get? field.name = some property)
      (stored : Document.get? doc field.storedName = some value)
      (shows : property.Shows value part partDoc)
      (inside : Writes catalog part partDoc object written) :
      Writes catalog entity doc object written

/-- A document holds the name of an object's class under the key for it and, if the object has an
identity, this as its identifier. -/
structure Identifies (catalog : Catalog) (descriptor : Descriptor) (object : Entity)
    (written : Document) : Prop where
  className : Document.get? written catalog.options.classNameKey =
    some (.text object.className.text)
  id : ∀ id, descriptor.idValue? object = some id → Document.get? written idField = some id

/-- Neither is the class name hidden by a field nor the identity by the class name. -/
structure Unhidden (catalog : Catalog) (descriptor : Descriptor) (object : Entity) : Prop where
  className : ∀ field ∈ descriptor.fields, field.isId = false →
    field.storedName = catalog.options.classNameKey → ∀ value,
      catalog.entryOf object field = .ok (some value) → value = .text object.className.text
  id : catalog.options.classNameKey = idField → ∀ id, descriptor.idValue? object = some id →
    id = .text object.className.text

variable {catalog : Catalog} {entity object part : Entity} {doc written partDoc : Document}
  {descriptor : Descriptor} {field : MappedField} {property : Property} {value : Value}

/-- It is enough that the key of the class name is used for nothing else. -/
theorem Unhidden.of_apart (noId : catalog.options.classNameKey ≠ idField)
    (apart : ∀ field ∈ descriptor.fields, field.storedName ≠ catalog.options.classNameKey) :
    catalog.Unhidden descriptor object where
  className field member _ same := absurd same (apart field member)
  id same := absurd same noId

/-! ### The documents of embedded objects -/

theorem keeps_of_shows {shown : Value} (shows : property.Shows shown part partDoc)
    (noReference : field.isReference = false)
    (isValue : answer (catalog.propertyValue field property) = .ok value) :
    catalog.options.keeps value = true := by
  cases shows with
  | single =>
    obtain ⟨_, -, rfl⟩ := (answer_propertyValue_embedded_eq_ok noReference).mp isValue
    rfl
  | listed member =>
    obtain ⟨values, rfl, each⟩ := (answer_propertyValue_embeddedList_eq_ok noReference).mp isValue
    cases each with
    | nil => simp at member
    | cons => rfl

/-- What is written for an embedded object is its document. -/
theorem answer_document_of_shows (shows : property.Shows value part partDoc)
    (noReference : field.isReference = false)
    (isValue : answer (catalog.propertyValue field property) = .ok value) :
    answer (catalog.document part) = .ok partDoc := by
  cases shows with
  | single =>
    obtain ⟨_, encoded, same⟩ := (answer_propertyValue_embedded_eq_ok noReference).mp isValue
    cases same
    exact encoded
  | listed member =>
    obtain ⟨values, same, each⟩ := (answer_propertyValue_embeddedList_eq_ok noReference).mp isValue
    cases same
    obtain ⟨_, encoded, same⟩ :=
      answer_encodeEmbedded_eq_ok.mp ((List.forall₂_iff_zip.mp each).2 member)
    cases same
    exact encoded

/-- A document inside the document of an entity is that of the object it stands for. -/
theorem Writes.answer_document (writes : catalog.Writes entity doc object written)
    (encoded : answer (catalog.document entity) = .ok doc) :
    answer (catalog.document object) = .ok written := by
  induction writes with
  | self => exact encoded
  | part described member noId noReference held stored shows _ ih =>
    obtain ⟨value, isValue, found⟩ := (described.written_document encoded).field _ member noId
    rw [held, Option.getD_some] at isValue
    rw [keeps_of_shows shows noReference isValue, if_pos rfl] at found
    obtain rfl := Option.some.inj (found.symm.trans stored)
    exact ih (answer_document_of_shows shows noReference isValue)

/-! ### What identifies an object -/

/-- A field shows its entry, and where it has none, what identifies the entity. -/
theorem Written.exists_entry (shows : catalog.Written descriptor object written)
    (member : field ∈ descriptor.fields) (noId : field.isId = false) :
    ∃ entry, catalog.entryOf object field = .ok entry ∧
      Document.get? written field.storedName = entry.or
        (Document.get? (catalog.writeIdentity descriptor object []) field.storedName) := by
  obtain ⟨value, isValue, stored⟩ := shows.field field member noId
  refine ⟨_, entryOf_eq_ok.mpr ⟨value, isValue, rfl⟩, stored.trans ?_⟩
  split <;> rfl

/-- The class name is found under its key unless a field is written over it. -/
theorem Written.className_iff (shows : catalog.Written descriptor object written)
    (stores : descriptor.storesClassName = true)
    (named : descriptor.className = object.className) :
    Document.get? written catalog.options.classNameKey = some (.text object.className.text) ↔
      ∀ field ∈ descriptor.fields, field.isId = false →
        field.storedName = catalog.options.classNameKey → ∀ value,
          catalog.entryOf object field = .ok (some value) →
            value = .text object.className.text := by
  have beneath : Document.get? (catalog.writeIdentity descriptor object [])
      catalog.options.classNameKey = some (.text object.className.text) := by
    rw [get?_writeIdentity, if_pos ⟨stores, rfl⟩, named]
  constructor
  · intro found field member noId hides value isEntry
    obtain ⟨entry, isEntry', stored⟩ := shows.exists_entry member noId
    obtain rfl := Except.ok.inj (isEntry.symm.trans isEntry')
    rw [hides, found, Option.some_or] at stored
    exact (Option.some.inj stored).symm
  · intro clear
    by_cases hidden : ∃ field ∈ descriptor.fields, field.isId = false ∧
        field.storedName = catalog.options.classNameKey
    · obtain ⟨field, member, noId, hides⟩ := hidden
      obtain ⟨entry, isEntry, stored⟩ := shows.exists_entry member noId
      rw [hides, beneath] at stored
      cases entry with
      | none => exact stored
      | some value => rwa [clear field member noId hides value isEntry] at stored
    · rw [shows.rest _ fun field member noId hides => hidden ⟨field, member, noId, hides⟩]
      exact beneath

/-- The identity is found as the identifier unless the class name is written over it. -/
theorem Written.id_iff {id : Value} (shows : catalog.Written descriptor object written)
    (described : catalog.Describes object.className descriptor)
    (stores : descriptor.storesClassName = true)
    (named : descriptor.className = object.className)
    (set : descriptor.idValue? object = some id) :
    Document.get? written idField = some id ↔
      (catalog.options.classNameKey = idField → id = .text object.className.text) := by
  obtain ⟨idOf, isId⟩ := exists_idField?_of_idValue? set
  obtain ⟨idMember, marked⟩ := Descriptor.idField?_spec isId
  have free : ∀ field ∈ descriptor.fields, field.isId = false → field.storedName ≠ idField := by
    intro field member noId same
    have onlyId : field = idOf := described.eq_of_storedName member idMember
      (same.trans (described.storedName_of_isId idMember marked).symm)
    rw [onlyId, marked] at noId
    cases noId
  rw [shows.rest idField free, get?_writeIdentity, if_pos rfl, set]
  by_cases same : catalog.options.classNameKey = idField
  · rw [if_pos ⟨stores, same.symm⟩, Option.some.injEq, named, forall_prop_of_true same, eq_comm]
  · rw [if_neg fun both => same both.2.symm, forall_prop_of_false same, iff_true]

/-- The document of an object identifies it exactly if nothing in it hides something else. -/
theorem Describes.identifies_iff (described : catalog.Describes object.className descriptor)
    (stores : descriptor.storesClassName = true) (named : catalog.registry.Named)
    (encoded : answer (catalog.document object) = .ok written) :
    catalog.Identifies descriptor object written ↔ catalog.Unhidden descriptor object := by
  have shows := described.written_document encoded
  have sameName := described.className_eq named
  constructor
  · intro identifies
    refine ⟨(shows.className_iff stores sameName).mp identifies.className, fun same id set => ?_⟩
    exact (shows.id_iff described stores sameName set).mp (identifies.id id set) same
  · intro clear
    refine ⟨(shows.className_iff stores sameName).mpr clear.className, fun id set => ?_⟩
    exact (shows.id_iff described stores sameName set).mpr fun same => clear.id same id set

end Catalog

/-- The documents that a mapper without hooks writes for an entity and for what is embedded in it
identify their objects, exactly as far as neither a field nor the class name hides what does. -/
theorem Mapper.Plain.writes_identifies_iff {mapper : Mapper} (plain : mapper.Plain)
    {memory : Memory} (sound : memory.Sound mapper.catalog) {entity : Entity} {doc : Document}
    {after : Memory × Entity}
    (encoded : mapper.toDocument.outcome (memory, entity) = (.ok doc, after)) {object : Entity}
    {written : Document} (writes : mapper.catalog.Writes entity doc object written)
    {descriptor : Descriptor} (described : mapper.catalog.Describes object.className descriptor)
    (stores : descriptor.storesClassName = true) :
    mapper.catalog.Identifies descriptor object written ↔
      mapper.catalog.Unhidden descriptor object := by
  obtain ⟨isDocument, -⟩ := plain.of_outcome_toDocument sound encoded
  exact described.identifies_iff stores plain.named (writes.answer_document isDocument)

namespace Samples

/-- The documents of an author at home and of the home identify both. -/
theorem writes_identifies_iff_ada :
    let mapper : Mapper := { catalog := ⟨library, {}⟩ }
    (∃ after, mapper.toDocument.outcome ({}, ada) =
      (.ok (authorDocument [("name", .text "Ada"), ("home", london)]), after)) ∧
    mapper.catalog.Identifies (mapper.catalog.assemble author none [] []) ada
      (authorDocument [("name", .text "Ada"), ("home", london)]) ∧
    mapper.catalog.Identifies (mapper.catalog.assemble address none [] []) londonHome
      [("className", .text "Address"), ("city", .text "London")] := by
  intro mapper
  have encoded : (mapper.toDocument.outcome ({}, ada)).1.toOption =
      some (authorDocument [("name", .text "Ada"), ("home", london)]) := by decide +kernel
  have encoded := Run.outcome_eq_of_toOption encoded
  have member : .ofSchema author.name (marked "home" (object "Address") .embedded) ∈
      (mapper.catalog.assemble author none [] []).fields := by decide
  have home : mapper.catalog.Writes ada (authorDocument [("name", .text "Ada"), ("home", london)])
      londonHome [("className", .text "Address"), ("city", .text "London")] :=
    .part (describes_author {}) member rfl rfl rfl rfl .single .self
  refine ⟨⟨_, encoded⟩, ?_, ?_⟩
  · apply (Mapper.Plain.writes_identifies_iff (plain_library {}) (Memory.sound_empty _) encoded
      .self (describes_author {}) rfl).mpr
    exact .of_apart (by decide) (by decide)
  · apply (Mapper.Plain.writes_identifies_iff (plain_library {}) (Memory.sound_empty _) encoded
      home (describes_address {}) rfl).mpr
    exact .of_apart (by decide) (by decide)

/-- Neither the class name nor the identity of an author is sure to be found: a name is written over
the class name if it is stored under the same key, and the class name over the identity. -/
theorem not_every_author_identified :
    (∃ mapper : Mapper, mapper.Plain ∧ ∃ descriptor doc after,
      mapper.catalog.Describes memo.className descriptor ∧ descriptor.storesClassName = true ∧
        mapper.toDocument.outcome ({}, memo) = (.ok doc, after) ∧
          Document.get? doc mapper.catalog.options.classNameKey ≠
            some (.text memo.className.text)) ∧
    ∃ mapper : Mapper, mapper.Plain ∧ ∃ descriptor doc after,
      mapper.catalog.Describes memo.className descriptor ∧ descriptor.storesClassName = true ∧
        mapper.toDocument.outcome ({}, memo) = (.ok doc, after) ∧
          descriptor.idValue? memo = some (.integer 1) ∧
            Document.get? doc idField ≠ some (.integer 1) := by
  constructor
  · let mapper : Mapper := { catalog := ⟨library, { classNameKey := "name" }⟩ }
    have encoded : (mapper.toDocument.outcome ({}, memo)).1.toOption =
        some [("_id", .integer 1), ("name", .text "memo")] := by decide +kernel
    exact ⟨mapper, plain_library _, _, _, _, describes_author _, rfl,
      Run.outcome_eq_of_toOption encoded, by decide⟩
  · let mapper : Mapper := { catalog := ⟨library, { classNameKey := idField }⟩ }
    have encoded : (mapper.toDocument.outcome ({}, memo)).1.toOption =
        some [("_id", .text "Author"), ("name", .text "memo")] := by decide +kernel
    exact ⟨mapper, plain_library _, _, _, _, describes_author _, rfl,
      Run.outcome_eq_of_toOption encoded, rfl, by decide⟩

end Samples

end DocMapper
