import DocMapper.Proofs.Conversion.Agreement

/-!
# Forms of null

Nothing is held in a field if there is no property, if it is null, or if it is the plain value null.
Documents do not tell these forms apart, wherever in an entity the field is. The exception is a
reference field: it takes no plain values and does not except null, so an entity that holds a plain
null there cannot be written at all.
-/

namespace DocMapper

/-- The entities are of one class and hold the same except under one name. -/
structure Entity.DiffersAt (name : String) (entity other : Entity) : Prop where
  sameClass : other.className = entity.className
  elsewhere : ∀ key, key ≠ name → other.get? key = entity.get? key

theorem Entity.differsAt_set (entity : Entity) (name : String) (property : Property) :
    entity.DiffersAt name (entity.set name property) :=
  ⟨rfl, fun _ isOther => get?_set_of_ne entity isOther property⟩

namespace Catalog

/-- The second entity is the first with another form of null in one of its fields, or in one of the
objects embedded in it, at any depth. -/
inductive Renulls (catalog : Catalog) : Entity → Entity → Prop
  | here {entity other : Entity} {name : String} (differs : entity.DiffersAt name other)
      (null : ∀ descriptor, catalog.Describes entity.className descriptor →
        ∀ field ∈ descriptor.fields, field.name = name →
          field.HoldsNull (entity.get? name) ∧ field.HoldsNull (other.get? name)) :
      Renulls catalog entity other
  | inside {entity other part otherPart : Entity} {name : String}
      (differs : entity.DiffersAt name other) (held : entity.get? name = some (.embedded part))
      (held' : other.get? name = some (.embedded otherPart))
      (change : Renulls catalog part otherPart) : Renulls catalog entity other
  | listed {entity other part otherPart : Entity} {name : String} {before after : List Entity}
      (differs : entity.DiffersAt name other)
      (held : entity.get? name = some (.embeddedList (before ++ part :: after)))
      (held' : other.get? name = some (.embeddedList (before ++ otherPart :: after)))
      (change : Renulls catalog part otherPart) : Renulls catalog entity other

/-- The objects whose documents stand in the document of an entity: the entity itself and the
objects embedded in its fields, at any depth. An object in a reference field is not one of them. -/
inductive Embeds (catalog : Catalog) : Entity → Entity → Prop
  | self {entity : Entity} : Embeds catalog entity entity
  | part {entity part object : Entity} {descriptor : Descriptor} {field : MappedField}
      {property : Property} (described : catalog.Describes entity.className descriptor)
      (member : field ∈ descriptor.fields) (noId : field.isId = false)
      (noReference : field.isReference = false) (held : entity.get? field.name = some property)
      (inProperty : part ∈ property.parts) (inside : Embeds catalog part object) :
      Embeds catalog entity object

variable {catalog : Catalog} {entity other object part : Entity} {descriptor : Descriptor}
  {field : MappedField} {property : Property} {value : Value} {doc : Document} {name : String}

/-! ### Another form of null -/

/-- It is enough to look at what the entities hold under the name at which they differ. -/
theorem Agree.of_differsAt (differs : entity.DiffersAt name other)
    (there : ∀ descriptor, catalog.Describes entity.className descriptor →
      ∀ field ∈ descriptor.fields, field.name = name →
        catalog.SaysSame field (entity.get? name) (other.get? name) ∧
          ∀ property found, entity.get? name = some property → other.get? name = some found →
            ∀ part otherPart, (part, otherPart) ∈ property.parts.zip found.parts →
              catalog.Agree part otherPart) : catalog.Agree entity other := by
  refine .of_differing differs.sameClass fun descriptor described field member unequal => ?_
  obtain rfl : field.name = name := by
    by_contra isOther
    exact unequal (differs.elsewhere field.name isOther)
  exact there descriptor described field member rfl

private theorem parts_eq_nil_of_holdsNull (null : field.HoldsNull (some property)) :
    property.parts = [] := by
  cases property with
  | null | value => rfl
  | _ => cases null.1

private theorem agree_of_mem_zip {before after : List Entity} {part otherPart first second : Entity}
    (agree : catalog.Agree part otherPart)
    (member : (first, second) ∈ (before ++ part :: after).zip (before ++ otherPart :: after)) :
    catalog.Agree first second := by
  have same : ∀ parts : List Entity, List.Forall₂ catalog.Agree parts parts :=
    fun parts => List.forall₂_same.mpr fun part _ => .refl part
  have pairs : List.Forall₂ catalog.Agree (before ++ part :: after)
      (before ++ otherPart :: after) := List.rel_append (same before) (.cons agree (same after))
  exact (List.forall₂_iff_zip.mp pairs).2 member

/-- Entities that differ in a form of null only agree. -/
theorem Renulls.agree (change : catalog.Renulls entity other) : catalog.Agree entity other := by
  induction change with
  | here differs null =>
    refine .of_differsAt differs fun descriptor described field member isField => ?_
    obtain ⟨first, second⟩ := null descriptor described field member isField
    refine ⟨.null first second, fun property found held _ part otherPart inParts => ?_⟩
    rw [held] at first
    simp [parts_eq_nil_of_holdsNull first] at inParts
  | inside differs held held' _ agree =>
    refine .of_differsAt differs fun _ _ _ _ _ => ⟨held ▸ held' ▸ .embedded, ?_⟩
    intro property found isProperty isFound first second inParts
    obtain rfl := Option.some.inj (held.symm.trans isProperty)
    obtain rfl := Option.some.inj (held'.symm.trans isFound)
    obtain ⟨rfl, rfl⟩ : first = _ ∧ second = _ := by simpa [Property.parts] using inParts
    exact agree
  | listed differs held held' _ agree =>
    refine .of_differsAt differs fun _ _ _ _ _ => ⟨held ▸ held' ▸ .embeddedList (by simp), ?_⟩
    intro property found isProperty isFound first second inParts
    obtain rfl := Option.some.inj (held.symm.trans isProperty)
    obtain rfl := Option.some.inj (held'.symm.trans isFound)
    exact agree_of_mem_zip agree inParts

/-! ### A plain null in a reference field -/

/-- What is embedded in a field that can be written can be written by itself. -/
theorem exists_document_of_part (noReference : field.isReference = false)
    (inProperty : part ∈ property.parts)
    (isValue : answer (catalog.propertyValue field property) = .ok value) :
    ∃ doc, answer (catalog.document part) = .ok doc := by
  cases property with
  | embedded =>
    obtain rfl := List.mem_singleton.mp inProperty
    obtain ⟨doc, isDocument, -⟩ := (answer_propertyValue_embedded_eq_ok noReference).mp isValue
    exact ⟨doc, isDocument⟩
  | embeddedList =>
    obtain ⟨values, -, each⟩ := (answer_propertyValue_embeddedList_eq_ok noReference).mp isValue
    obtain ⟨written, -, isWritten⟩ := Result.exists_of_mem_left each inProperty
    obtain ⟨doc, isDocument, -⟩ := answer_encodeEmbedded_eq_ok.mp isWritten
    exact ⟨doc, isDocument⟩
  | _ => cases inProperty

/-- An entity can be written only if every object embedded in it can. -/
theorem Embeds.exists_document (embeds : catalog.Embeds entity object)
    (encoded : answer (catalog.document entity) = .ok doc) :
    ∃ inner, answer (catalog.document object) = .ok inner := by
  induction embeds generalizing doc with
  | self => exact ⟨doc, encoded⟩
  | part described member noId noReference held inProperty _ ih =>
    obtain ⟨value, isValue, -⟩ := (described.written_document encoded).field _ member noId
    rw [held, Option.getD_some] at isValue
    obtain ⟨inner, encodedPart⟩ := exists_document_of_part noReference inProperty isValue
    exact ih encodedPart

/-- No object can be written that holds a plain value in a reference field, null included. -/
theorem Describes.not_document_of_plain_reference
    (described : catalog.Describes object.className descriptor) (member : field ∈ descriptor.fields)
    (isReference : field.isReference = true) {v : Value}
    (held : object.get? field.name = some (.value v)) :
    answer (catalog.document object) ≠ .ok doc := by
  intro encoded
  have noId : field.isId = false := by
    by_contra isId
    have := described.isReference_of_isId member (by simpa using isId)
    simp [isReference] at this
  obtain ⟨value, isValue, -⟩ := (described.written_document encoded).field field member noId
  simp [held, propertyValue, isReference, encodeReference, shapeFault?] at isValue

end Catalog

/-- A mapper without hooks makes the same of an entity whatever form of null is in its fields, in
those of the objects embedded in it too. It never writes an entity that holds a plain null in a
reference field, be it a field of its own or of an object embedded in it. -/
theorem Mapper.Plain.writes_nulls_alike {mapper : Mapper} (plain : mapper.Plain) {memory : Memory}
    (sound : memory.Sound mapper.catalog) (entity : Entity) :
    (∀ other memory', mapper.catalog.Renulls entity other → memory'.Sound mapper.catalog →
      (mapper.toDocument.outcome (memory', other)).1 =
        (mapper.toDocument.outcome (memory, entity)).1) ∧
    ∀ object descriptor field, mapper.catalog.Embeds entity object →
      mapper.catalog.Describes object.className descriptor → field ∈ descriptor.fields →
        field.isReference = true → object.get? field.name = some (.value .null) →
          ∀ doc, (mapper.toDocument.outcome (memory, entity)).1 ≠ .ok doc := by
  obtain ⟨_, -, ran⟩ := plain.outcome_toDocument sound entity
  rw [ran]
  constructor
  · intro other memory' change sound'
    obtain ⟨_, -, ran'⟩ := plain.outcome_toDocument sound' other
    rw [ran']
    exact change.agree.answer_document
  · intro object descriptor field embeds described member isReference held doc encoded
    obtain ⟨inner, written⟩ := embeds.exists_document encoded
    exact described.not_document_of_plain_reference member isReference held written

namespace Samples

def nowhere : Entity := .empty address.name

def nomad : Entity :=
  .mk author.name [
    ("home", .embedded nowhere),
    ("id", .value (.integer 1)),
    ("name", .value (.text "Ada"))]

def unedited : Entity := .mk book.name [("id", .value (.integer 1))]

/-- An author whose home has a plain null for a city is written as one whose home has no city; a
book with a plain null for an editor is not written. -/
theorem writes_nulls_alike_nomad :
    let mapper : Mapper := { catalog := ⟨library, {}⟩ }
    (mapper.toDocument.outcome
        ({}, nomad.set "home" (.embedded (nowhere.set "city" (.value .null))))).1 =
      .ok (authorDocument [("name", .text "Ada"),
        ("home", .document [("className", .text "Address")])]) ∧
    ∀ doc, (mapper.toDocument.outcome ({}, unedited.set "editor" (.value .null))).1 ≠ .ok doc := by
  intro mapper
  have encoded : (mapper.toDocument.outcome ({}, nomad)).1 =
      .ok (authorDocument [("name", .text "Ada"),
        ("home", .document [("className", .text "Address")])]) :=
    Result.eq_ok_of_toOption (by decide +kernel)
  constructor
  · obtain ⟨alike, -⟩ := Mapper.Plain.writes_nulls_alike (plain_library {})
      (Memory.sound_empty _) nomad
    have plainFields : ∀ field ∈ (mapper.catalog.assemble address none [] []).fields,
        field.isReference = false := by decide
    have city : mapper.catalog.Renulls nowhere (nowhere.set "city" (.value .null)) := by
      refine .here (Entity.differsAt_set _ _ _) fun descriptor described field member _ => ?_
      obtain rfl := described.unique (describes_address {})
      exact ⟨⟨rfl, nofun⟩, rfl, by simp [plainFields field member]⟩
    exact (alike _ {} (.inside (Entity.differsAt_set _ _ _) rfl rfl city)
      (Memory.sound_empty _)).trans encoded
  · obtain ⟨-, refused⟩ := Mapper.Plain.writes_nulls_alike (plain_library {})
      (Memory.sound_empty _) (unedited.set "editor" (.value .null))
    exact refused _ _ (.ofSchema book.name (marked "editor" (object "Author")
      (.reference { idOnly := true }))) .self describes_book (by decide) rfl rfl

/-- Not every form of null is written alike: a book without an editor is written, and refused if the
editor is a plain null. -/
theorem plain_null_editor_refused :
    ¬ ∀ (mapper : Mapper) (memory : Memory) (entity other : Entity) (descriptor : Descriptor),
      mapper.Plain → memory.Sound mapper.catalog →
        mapper.catalog.Describes entity.className descriptor → ∀ field ∈ descriptor.fields,
          entity.DiffersAt field.name other →
            (entity.get? field.name).all Property.isNull = true →
              (other.get? field.name).all Property.isNull = true →
                (mapper.toDocument.outcome (memory, other)).1 =
                  (mapper.toDocument.outcome (memory, entity)).1 := by
  intro alike
  let mapper : Mapper := { catalog := ⟨library, {}⟩ }
  have written : (mapper.toDocument.outcome ({}, unedited)).1.toOption.isSome = true := by
    decide +kernel
  have refused : (mapper.toDocument.outcome
      ({}, unedited.set "editor" (.value .null))).1.toOption.isSome = false := by decide +kernel
  have same := alike mapper {} unedited (unedited.set "editor" (.value .null)) _ (plain_library {})
    (Memory.sound_empty _) describes_book
    (.ofSchema book.name (marked "editor" (object "Author") (.reference { idOnly := true })))
    (by decide) (Entity.differsAt_set _ _ _) rfl rfl
  rw [same, written] at refused
  cases refused

end Samples

end DocMapper
