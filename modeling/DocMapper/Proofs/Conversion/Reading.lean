import DocMapper.Proofs.Conversion.WellTyped

/-!
# What stored values stand for

`Means` gives the property that a stored value of a field is read as, form by form: null, links,
plain values, and documents that are read as objects. Decoding reads a value exactly as it says. The
documents inside a value (`Nests`) go with the embedded objects of the property, so what is said of
documents at every depth can be said of the objects that they are read as.
-/

namespace DocMapper.Catalog

variable {catalog : Catalog} {field : MappedField} {value : Value} {property : Property}
  {requested target : ClassName} {doc entries : Document} {descriptor : Descriptor}
  {entity part : Entity}

/-- The property that a stored value of a field is read as. -/
inductive Means (catalog : Catalog) (field : MappedField) : Value → Property → Prop
  | null : Means catalog field .null .null
  | links {value : Value} {keys : List Key} (isReference : field.isReference = true)
      (set : value.isNull = false) (linked : answer (catalog.keys field value) = .ok keys) :
      Means catalog field value (propertyOfKeys field keys)
  | plain {value : Value} (noReference : field.isReference = false) (set : value.isNull = false)
      (asItStands : readsObjects field value = false) (fits : field.type.fits value = true) :
      Means catalog field value (.value value)
  | object {target : ClassName} {entries : Document} {entity : Entity}
      (noReference : field.isReference = false) (isObject : field.type = .object target)
      (read : answer (catalog.decodeDocument target entries) = .ok entity) :
      Means catalog field (.document entries) (.embedded entity)
  | objects {target : ClassName} {items : List Value} {entities : List Entity}
      (noReference : field.isReference = false) (multiple : field.isMultiple = true)
      (isObject : field.target? = some target)
      (read : List.Forall₂ (fun item entity => ∃ entries, item = .document entries ∧
        answer (catalog.decodeDocument target entries) = .ok entity) items entities) :
      Means catalog field (.array items) (.embeddedList entities)

/-- A document in a value of a field is read as an object of a class. -/
inductive Nests (field : MappedField) : Value → ClassName → Document → Prop
  | object {target : ClassName} {entries : Document} (noReference : field.isReference = false)
      (isObject : field.type = .object target) : Nests field (.document entries) target entries
  | objects {target : ClassName} {items : List Value} {entries : Document}
      (noReference : field.isReference = false) (multiple : field.isMultiple = true)
      (isObject : field.target? = some target) (member : .document entries ∈ items) :
      Nests field (.array items) target entries

/-! ### One value -/

/-- Decoding reads a plain field as its value means. -/
theorem answer_decodeValue_iff_means (noReference : field.isReference = false)
    (set : value.isNull = false) :
    answer (catalog.decodeValue value descriptor field) = .ok property ↔
      catalog.Means field value property := by
  cases reads : readsObjects field value with
  | false =>
    rw [decodeValue_of_plain reads, answer_readPlain_eq_ok]
    constructor
    · rintro ⟨fits, rfl⟩
      exact .plain noReference set reads fits
    · intro means
      cases means with
      | null => cases set
      | links isReference => simp [noReference] at isReference
      | plain _ _ _ fits => exact ⟨fits, rfl⟩
      | object _ isObject => simp [readsObjects, isObject] at reads
      | objects _ multiple isObject => simp [readsObjects, multiple, isObject] at reads
  | true =>
    cases value with
    | document entries =>
      obtain ⟨target, isObject⟩ : ∃ target, field.type = .object target := by
        cases type : field.type <;> simp [readsObjects, type] at reads ⊢
      rw [answer_decodeValue_document isObject, Result.map_eq_ok]
      constructor
      · rintro ⟨entity, read, rfl⟩
        exact .object noReference isObject read
      · intro means
        cases means with
        | links isReference => simp [noReference] at isReference
        | plain _ _ asItStands => simp [reads] at asItStands
        | object _ isObject' read =>
          obtain rfl := FieldType.object.inj (isObject.symm.trans isObject')
          exact ⟨_, read, rfl⟩
    | array items =>
      obtain ⟨multiple, target, isObject⟩ : field.isMultiple = true ∧
          ∃ target, field.target? = some target := by
        simpa [readsObjects, Option.isSome_iff_exists] using reads
      obtain ⟨fault, same⟩ :=
        @answer_decodeValue_array catalog field target multiple isObject descriptor items
      rw [same, Result.map_eq_ok]
      simp only [answer_decodeObjects_eq_ok]
      constructor
      · rintro ⟨entities, read, rfl⟩
        exact .objects noReference multiple isObject read
      · intro means
        cases means with
        | links isReference => simp [noReference] at isReference
        | plain _ _ asItStands => simp [reads] at asItStands
        | objects _ _ isObject' read =>
          obtain rfl := Option.some.inj (isObject.symm.trans isObject')
          exact ⟨_, read, rfl⟩
    | _ => simp [readsObjects] at reads

/-- What a document holds for a field is read as it means. -/
theorem readingOf_eq_ok {reading : Option Property} :
    catalog.readingOf descriptor doc field = .ok reading ↔
      Option.Rel (catalog.Means field) (Document.get? doc field.storedName) reading := by
  cases found : Document.get? doc field.storedName with
  | none =>
    rw [readingOf_of_none found]
    constructor
    · rintro ⟨⟩
      exact .none
    · rintro ⟨⟩
      rfl
  | some value =>
    cases isNull : value.isNull with
    | true =>
      obtain rfl := (Value.isNull_iff value).mp isNull
      rw [readingOf_of_null found]
      constructor
      · rintro ⟨⟩
        exact .some .null
      · rintro (means | _)
        cases means with
        | null => rfl
        | links _ set => cases set
        | plain _ set => cases set
    | false =>
      rw [readingOf_of_some found isNull, Result.map_eq_ok]
      have same : ∀ property, answer (if field.isReference then catalog.decodeKeys field value
          else catalog.decodeValue value descriptor field) = .ok property ↔
            catalog.Means field value property := by
        intro property
        cases isReference : field.isReference with
        | false => exact answer_decodeValue_iff_means isReference isNull
        | true =>
          rw [if_pos rfl, answer_decodeKeys_eq_ok isNull]
          constructor
          · rintro ⟨keys, linked, rfl⟩
            exact .links isReference isNull linked
          · intro means
            cases means with
            | null => cases isNull
            | links _ _ linked => exact ⟨_, linked, rfl⟩
            | plain noReference => simp [isReference] at noReference
            | object noReference => simp [isReference] at noReference
            | objects noReference => simp [isReference] at noReference
      simp only [same]
      constructor
      · rintro ⟨property, means, rfl⟩
        exact .some means
      · rintro (means | _)
        exact ⟨_, means, rfl⟩

/-! ### Documents inside -/

/-- Every document inside a value is one of the embedded objects. -/
theorem Means.exists_part (means : catalog.Means field value property)
    (nests : Nests field value target entries) :
    ∃ part ∈ property.parts, answer (catalog.decodeDocument target entries) = .ok part := by
  cases nests with
  | object noReference isObject =>
    cases means with
    | links isReference => simp [noReference] at isReference
    | plain _ _ asItStands => simp [readsObjects, isObject] at asItStands
    | object _ isObject' read =>
      obtain rfl := FieldType.object.inj (isObject.symm.trans isObject')
      exact ⟨_, List.mem_singleton_self _, read⟩
  | objects noReference multiple isObject member =>
    cases means with
    | links isReference => simp [noReference] at isReference
    | plain _ _ asItStands => simp [readsObjects, multiple, isObject] at asItStands
    | objects _ _ isObject' read =>
      obtain rfl := Option.some.inj (isObject.symm.trans isObject')
      obtain ⟨part, inParts, _, same, read⟩ := Result.exists_of_mem_left read member
      cases same
      exact ⟨part, inParts, read⟩

/-- Every embedded object is one of the documents inside the value. -/
theorem Means.exists_nested (means : catalog.Means field value property)
    (member : part ∈ property.parts) :
    ∃ target entries, Nests field value target entries ∧
      answer (catalog.decodeDocument target entries) = .ok part := by
  cases means with
  | null => cases member
  | links =>
    rw [propertyOfKeys] at member
    split at member
    · cases member
    · rename_i keys _ _ _ _
      cases keys <;> cases member
  | plain => cases member
  | object noReference isObject read =>
    obtain rfl := List.mem_singleton.mp member
    exact ⟨_, _, .object noReference isObject, read⟩
  | objects noReference multiple isObject read =>
    obtain ⟨_, inItems, entries, rfl, read⟩ := Result.exists_of_mem_right read member
    exact ⟨_, entries, .objects noReference multiple isObject inItems, read⟩

/-- What is stored in a document is smaller than the document. -/
theorem sizeOf_lt_of_get? {key : String} (found : Document.get? doc key = some value) :
    sizeOf value < sizeOf doc := by
  induction doc with
  | nil => simp at found
  | cons entry rest ih =>
    obtain ⟨name, stored⟩ := entry
    rw [Document.get?, List.lookup_cons] at found
    split at found
    · cases found
      simp only [List.cons.sizeOf_spec, Prod.mk.sizeOf_spec]
      omega
    · have := ih found
      simp only [List.cons.sizeOf_spec]
      omega

theorem Nests.sizeOf_lt (nests : Nests field value target entries) {key : String}
    (found : Document.get? doc key = some value) : sizeOf entries < sizeOf doc := by
  have smaller := sizeOf_lt_of_get? found
  cases nests with
  | object =>
    simp only [Value.document.sizeOf_spec] at smaller
    omega
  | objects _ _ _ member =>
    have inside := List.sizeOf_lt_of_mem member
    simp only [Value.document.sizeOf_spec, Value.array.sizeOf_spec] at smaller inside
    omega

/-! ### Whole documents -/

theorem ReadAs.unique {other : Descriptor} (isClass : catalog.ReadAs requested doc descriptor)
    (isClass' : catalog.ReadAs requested doc other) : descriptor = other :=
  Except.ok.inj ((answer_concreteClass_eq_ok.mpr isClass).symm.trans
    (answer_concreteClass_eq_ok.mpr isClass'))

/-- The object that a document was read as has the class of the document, and each of its properties
is what the value of a field means. -/
structure Shows (catalog : Catalog) (descriptor : Descriptor) (doc : Document) (entity : Entity) :
    Prop where
  className : entity.className = descriptor.className
  field : ∀ field ∈ descriptor.fields, Option.Rel (catalog.Means field)
    (Document.get? doc field.storedName) (entity.get? field.name)
  declared : ∀ name property, entity.get? name = some property →
    ∃ field ∈ descriptor.fields, field.name = name

theorem ReadAs.shows (isClass : catalog.ReadAs requested doc descriptor)
    (names : (descriptor.fields.map MappedField.name).Nodup)
    (read : answer (catalog.decodeDocument requested doc) = .ok entity) :
    catalog.Shows descriptor doc entity := by
  rw [answer_decodeDocument_of_readAs isClass] at read
  obtain ⟨sameClass, fields, declared⟩ := readEntity_properties read names
  exact ⟨sameClass, fun field member => readingOf_eq_ok.mp (fields field member), declared⟩

theorem exists_readAs (read : answer (catalog.decodeDocument requested doc) = .ok entity) :
    ∃ descriptor, catalog.ReadAs requested doc descriptor := by
  obtain ⟨descriptor, isClass, -⟩ := answer_readObject_eq_ok.mp read
  exact ⟨descriptor, isClass⟩

end DocMapper.Catalog
