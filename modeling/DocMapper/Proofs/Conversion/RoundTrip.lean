import DocMapper.Proofs.Conversion.Legible
import DocMapper.Proofs.Conversion.WellTyped

/-!
# Documents bring entities back

The document of a well-typed entity is read as an entity of the same class that restores it, under
every class that the entity can stand for. The proof follows the entity: each property suits its
field, so what the encoder writes for it is what the decoder expects there, and the embedded objects
come back by induction. Any other document that was written is read exactly if it is legible.
-/

namespace DocMapper.Catalog

variable {catalog : Catalog}

/-! ### References -/

/-- An entity is pointed at in its collection, by its identity. -/
theorem answer_entityPointer_eq_ok {field : MappedField} {entity : Entity} {value : Value} :
    answer (catalog.entityPointer field entity) = .ok value ↔ ∃ descriptor id,
      catalog.Describes entity.className descriptor ∧ descriptor.idValue? entity = some id ∧
        value = field.pointerTo descriptor.collection id := by
  simp only [answer_entityPointer, Result.bind_eq_ok, answer_describe_eq_ok]
  refine exists_congr fun descriptor => ?_
  cases set : descriptor.idValue? entity with
  | none => cases descriptor.idField? <;> simp
  | some id =>
    obtain ⟨idField, isId⟩ := exists_idField?_of_idValue? set
    simp [isId, eq_comm]

/-- A reference is written as a pointer to the place that it leads to. -/
theorem answer_referencePointer_eq_ok {field : MappedField} {ref : Reference} {value : Value} :
    answer (catalog.referencePointer field ref) = .ok value ↔
      ∃ place, catalog.LeadsTo ref place ∧
        value = field.pointerTo place.collection place.id := by
  cases ref with
  | resolved entity =>
    rw [referencePointer, answer_entityPointer_eq_ok]
    constructor
    · rintro ⟨descriptor, id, described, set, rfl⟩
      exact ⟨⟨descriptor.collection, id⟩, ⟨descriptor, described, rfl, set⟩, rfl⟩
    · rintro ⟨place, ⟨descriptor, described, same, set⟩, rfl⟩
      exact ⟨descriptor, place.id, described, set, by rw [same]⟩
  | key key => simp [referencePointer, LeadsTo, Key.pointer, eq_comm]
  | missing key => simp [referencePointer, LeadsTo, Key.pointer, eq_comm]

theorem keyFor_pointerTo (field : MappedField) (target : Descriptor) (collection : String)
    (id : Value) :
    keyFor field target (field.pointerTo collection id) =
      .ok ⟨target.className,
        if field.pointerOptions.idOnly then target.collection else collection, id⟩ := by
  rw [keyFor, MappedField.pointerTo]
  cases field.pointerOptions.idOnly <;> simp

/-- What a reference is written as is read as its key. -/
theorem keyFor_of_referencePointer {field : MappedField} {name : ClassName} {target : Descriptor}
    (named : field.target? = some name) (described : catalog.Describes name target)
    {ref : Reference} {value : Value}
    (written : answer (catalog.referencePointer field ref) = .ok value) :
    ∃ key, keyFor field target value = .ok key ∧ catalog.IsKeyOf field ref key := by
  obtain ⟨place, leads, rfl⟩ := answer_referencePointer_eq_ok.mp written
  exact ⟨_, keyFor_pointerTo field target place.collection place.id,
    name, target, place, named, described, leads, rfl⟩

/-! ### The identity and the class of a document -/

section Document

variable {name : ClassName} {descriptor : Descriptor} {entity : Entity} {doc : Document}
  {field : MappedField}

/-- Where the class name has a place of its own, a field shows its own value and nothing else. -/
theorem Written.get?_storedName (written : catalog.Written descriptor entity doc)
    (described : catalog.Describes name descriptor)
    (apart : ∀ field ∈ descriptor.fields, field.storedName ≠ catalog.options.classNameKey)
    (member : field ∈ descriptor.fields) (noId : field.isId = false) :
    ∃ value, answer (catalog.propertyValue field ((entity.get? field.name).getD .null)) =
        .ok value ∧
      Document.get? doc field.storedName =
        if catalog.options.keeps value then some value else none := by
  obtain ⟨value, encoded, found⟩ := written.field field member noId
  have unnamed : ¬ (descriptor.storesClassName = true ∧
      field.storedName = catalog.options.classNameKey) := fun both => apart field member both.2
  have unidentified : (if field.storedName = idField then descriptor.idValue? entity else none) =
      none := by
    split
    next isId =>
      cases set : descriptor.idValue? entity with
      | none => rfl
      | some id =>
        obtain ⟨other, found⟩ := exists_idField?_of_idValue? set
        obtain ⟨member', isId'⟩ := Descriptor.idField?_spec found
        have same := described.eq_of_storedName member member'
          (isId.trans (described.storedName_of_isId member' isId').symm)
        rw [same, isId'] at noId
        cases noId
    · rfl
  rw [get?_writeIdentity, if_neg unnamed, unidentified] at found
  exact ⟨value, encoded, found⟩

/-- The identity is what is stored under the identifier of the document. -/
theorem Written.get?_id (written : catalog.Written descriptor entity doc)
    (described : catalog.Describes name descriptor)
    (apart : field.storedName ≠ catalog.options.classNameKey)
    (member : field ∈ descriptor.fields) (isId : field.isId = true) :
    Document.get? doc field.storedName = (entity.value? field.name).filter (!·.isNull) := by
  have others : ∀ other ∈ descriptor.fields, other.isId = false →
      other.storedName ≠ field.storedName := by
    rintro other member' noId same
    rw [described.eq_of_storedName member' member same, isId] at noId
    cases noId
  have unnamed : ¬ (descriptor.storesClassName = true ∧
      field.storedName = catalog.options.classNameKey) := fun both => apart both.2
  rw [written.rest _ others, get?_writeIdentity, if_neg unnamed,
    if_pos (described.storedName_of_isId member isId),
    idValue?_eq (described.idField?_eq member isId)]

/-- The document holds the name of the class if the class stores it, and no other name. -/
theorem Written.storedClassName? (written : catalog.Written descriptor entity doc)
    (described : catalog.Describes name descriptor)
    (apart : ∀ field ∈ descriptor.fields, field.storedName ≠ catalog.options.classNameKey) :
    catalog.storedClassName? doc =
      if descriptor.storesClassName then some descriptor.className else none := by
  have unidentified : (if catalog.options.classNameKey = idField then descriptor.idValue? entity
      else none) = none := by
    split
    next isId =>
      cases set : descriptor.idValue? entity with
      | none => rfl
      | some id =>
        obtain ⟨field, found⟩ := exists_idField?_of_idValue? set
        obtain ⟨member, marked⟩ := Descriptor.idField?_spec found
        exact absurd ((described.storedName_of_isId member marked).trans isId.symm)
          (apart field member)
    · rfl
  rw [Catalog.storedClassName?, written.rest _ fun field member _ => apart field member,
    get?_writeIdentity, unidentified]
  cases descriptor.storesClassName <;> simp [Value.asText?]

/-- The document is read as what it was written from, under every class that it can stand for. -/
theorem Written.readAs (written : catalog.Written descriptor entity doc)
    (named : catalog.registry.Named) (described : catalog.Describes entity.className descriptor)
    (apart : ∀ field ∈ descriptor.fields, field.storedName ≠ catalog.options.classNameKey)
    {target : ClassName} (stands : catalog.StandsFor entity target) :
    catalog.ReadAs target doc descriptor := by
  obtain ⟨_, described', assignable, told⟩ := stands
  obtain rfl := described.unique described'
  rw [ReadAs]
  rw [written.storedClassName? described apart, described.className_eq named]
  by_cases same : entity.className = target
  · subst same
    cases descriptor.storesClassName <;> simpa [Option.filter] using described
  · have stores := told.resolve_right same
    simpa [stores, Option.filter, same] using ⟨described, assignable⟩

end Document

/-! ### Fields -/

/-- Every document of the entity brings the entity back. -/
def RoundTrips (catalog : Catalog) (entity : Entity) : Prop :=
  ∀ doc, answer (catalog.document entity) = .ok doc → ∀ target, catalog.StandsFor entity target →
    ∃ restored, answer (catalog.readObject target doc (catalog.valueDecoders doc)) =
      .ok restored ∧ catalog.Restores entity restored

/-- What was read for a field is what the property comes back as, the embedded objects included. -/
def BringsBack (catalog : Catalog) (field : MappedField) (property found : Option Property) :
    Prop :=
  catalog.Returns field property found ∧
    ∀ written read, property = some written → found = some read →
      ∀ part restored, (part, restored) ∈ written.parts.zip read.parts →
        catalog.Restores part restored

/-- A property without embedded objects comes back as soon as its own shape does. -/
theorem Returns.bringsBack {field : MappedField} {property found : Option Property}
    (h : catalog.Returns field property found)
    (none : ∀ written, property = some written → written.parts = []) :
    catalog.BringsBack field property found := by
  refine ⟨h, fun written read isProperty _ part restored member => ?_⟩
  rw [none written isProperty] at member
  simp at member

section Field

variable {descriptor : Descriptor} {doc : Document} {field : MappedField} {property : Property}
  {value : Value}

/-- What is null is written as null, if it can be written. -/
theorem propertyValue_of_isNull (isNull : property.isNull = true)
    (encoded : answer (catalog.propertyValue field property) = .ok value) : value = .null := by
  cases property with
  | null => exact (Except.ok.inj ((answer_propertyValue_null field).symm.trans encoded)).symm
  | value v =>
    obtain rfl := (Value.isNull_iff v).mp isNull
    rw [propertyValue] at encoded
    split at encoded
    · simp [encodeReference, shapeFault?] at encoded
    · simpa [encodeProperty, Value.isNull, eq_comm] using encoded
  | _ => simp [Property.isNull] at isNull

theorem readingOf_of_null_entry (found : Document.get? doc field.storedName =
      if catalog.options.keeps .null then some .null else none) :
    catalog.readingOf descriptor doc field =
      .ok (if catalog.options.storeNulls then some .null else none) := by
  have keeps : catalog.options.keeps .null = catalog.options.storeNulls := rfl
  rw [keeps] at found
  cases stored : catalog.options.storeNulls with
  | true =>
    rw [stored, if_pos rfl] at found
    simpa using readingOf_of_null found
  | false =>
    rw [stored, if_neg Bool.false_ne_true] at found
    simpa using readingOf_of_none found

theorem bringsBack_of_isNull (noId : field.isId = false) {property : Option Property}
    (isNull : property.all Property.isNull = true)
    (encoded : answer (catalog.propertyValue field (property.getD .null)) = .ok value)
    (found : Document.get? doc field.storedName =
      if catalog.options.keeps value then some value else none) :
    ∃ read, catalog.readingOf descriptor doc field = .ok read ∧
      catalog.BringsBack field property read := by
  have isNull' : (property.getD .null).isNull = true := by
    cases property with
    | none => rfl
    | some property => exact isNull
  obtain rfl := propertyValue_of_isNull isNull' encoded
  have returns : catalog.Returns field property _ := .null isNull
  rw [noId, Bool.not_false, Bool.and_true] at returns
  refine ⟨_, readingOf_of_null_entry found, returns.bringsBack ?_⟩
  rintro written rfl
  cases written <;> simp_all [Property.isNull, Property.parts]

/-- What the options leave out of what is not null is an empty array. -/
theorem eq_empty_of_not_keeps {options : Options} (set : value.isNull = false)
    (dropped : options.keeps value = false) :
    value = .array [] ∧ options.storeEmpties = false := by
  simp only [Options.keeps] at dropped
  split at dropped
  · cases set
  · exact ⟨rfl, dropped⟩
  · cases dropped

theorem bringsBack_value {stored : Value} (noId : field.isId = false)
    (noReference : field.isReference = false)
    (noClass : field.target? = none) (fits : field.type.fits stored = true)
    (set : stored.isNull = false)
    (encoded : answer (catalog.propertyValue field (.value stored)) = .ok value)
    (found : Document.get? doc field.storedName =
      if catalog.options.keeps value then some value else none) :
    ∃ read, catalog.readingOf descriptor doc field = .ok read ∧
      catalog.BringsBack field (some (.value stored)) read := by
  obtain rfl : stored = value := by
    simpa [propertyValue, noReference, encodeProperty, fits] using encoded
  have noParts : ∀ written, some (Property.value stored) = some written → written.parts = [] := by
    rintro _ ⟨rfl⟩
    rfl
  have plain : readsObjects field stored = false := by
    have noObject : ∀ target, field.type ≠ .object target := by
      intro target isObject
      simp [MappedField.target?, isObject, FieldType.className?, FieldType.element] at noClass
    unfold readsObjects
    split
    · split
      next target isObject => exact absurd isObject (noObject target)
      · rfl
    · simp [noClass]
    · rfl
  cases kept : catalog.options.keeps stored with
  | true =>
    rw [kept, if_pos rfl] at found
    refine ⟨some (.value stored), ?_, (Returns.value set kept).bringsBack noParts⟩
    rw [readingOf_of_some found set, noReference, decodeValue_of_plain plain]
    exact Result.map_eq_ok.mpr ⟨_, answer_readPlain_eq_ok.mpr ⟨fits, rfl⟩, rfl⟩
  | false =>
    rw [kept, if_neg Bool.false_ne_true] at found
    obtain ⟨rfl, dropped⟩ := eq_empty_of_not_keeps set kept
    exact ⟨none, readingOf_of_none found, (Returns.empty noId rfl dropped).bringsBack noParts⟩

theorem bringsBack_embedded {entity : Entity} {target : ClassName}
    (noReference : field.isReference = false) (type : field.type = .object target)
    (stands : catalog.StandsFor entity target) (trips : catalog.RoundTrips entity)
    (encoded : answer (catalog.propertyValue field (.embedded entity)) = .ok value)
    (found : Document.get? doc field.storedName =
      if catalog.options.keeps value then some value else none) :
    ∃ read, catalog.readingOf descriptor doc field = .ok read ∧
      catalog.BringsBack field (some (.embedded entity)) read := by
  obtain ⟨inner, isDocument, rfl⟩ := (answer_propertyValue_embedded_eq_ok noReference).mp encoded
  obtain ⟨restored, read, restores⟩ := trips inner isDocument target stands
  have found : Document.get? doc field.storedName = some (.document inner) := found
  refine ⟨some (.embedded restored), ?_, .embedded, ?_⟩
  · rw [readingOf_of_some found rfl, noReference]
    simp only [Bool.false_eq_true, if_false]
    rw [answer_decodeValue_document type, read]
    rfl
  · rintro _ _ ⟨rfl⟩ ⟨rfl⟩ part part' member
    obtain ⟨rfl, rfl⟩ : part = entity ∧ part' = restored := by
      simpa [Property.parts] using member
    exact restores

/-- An array is written unless it is empty and the options leave out what is empty. -/
theorem keeps_array {options : Options} {items : List Value} :
    options.keeps (.array items) = true ↔ items ≠ [] ∨ options.storeEmpties = true := by
  cases items <;> simp [Options.keeps]

/-- Embedded objects come back one by one. -/
theorem restores_each {entities : List Entity} {values : List Value} {target : ClassName}
    (stands : ∀ entity ∈ entities, catalog.StandsFor entity target)
    (trips : ∀ entity ∈ entities, catalog.RoundTrips entity)
    (written : List.Forall₂ (fun entity value => answer (catalog.encodeEmbedded entity) =
      .ok value) entities values) :
    ∃ restored, List.Forall₂ (fun item entity => ∃ entries, item = Value.document entries ∧
        answer (catalog.readObject target entries (catalog.valueDecoders entries)) = .ok entity)
        values restored ∧
      List.Forall₂ catalog.Restores entities restored := by
  induction written with
  | nil => exact ⟨[], .nil, .nil⟩
  | cons first _ ih =>
    obtain ⟨inner, isDocument, rfl⟩ := answer_encodeEmbedded_eq_ok.mp first
    obtain ⟨restored, read, restores⟩ :=
      trips _ List.mem_cons_self inner isDocument target (stands _ List.mem_cons_self)
    obtain ⟨others, reads, restoresOthers⟩ :=
      ih (fun entity member => stands entity (List.mem_cons_of_mem _ member))
        fun entity member => trips entity (List.mem_cons_of_mem _ member)
    exact ⟨restored :: others, .cons ⟨inner, rfl, read⟩ reads, .cons restores restoresOthers⟩

theorem bringsBack_embeddedList {entities : List Entity} {target : ClassName}
    (noId : field.isId = false) (noReference : field.isReference = false)
    (type : field.type.IsManyOf target)
    (stands : ∀ entity ∈ entities, catalog.StandsFor entity target)
    (trips : ∀ entity ∈ entities, catalog.RoundTrips entity)
    (encoded : answer (catalog.propertyValue field (.embeddedList entities)) = .ok value)
    (found : Document.get? doc field.storedName =
      if catalog.options.keeps value then some value else none) :
    ∃ read, catalog.readingOf descriptor doc field = .ok read ∧
      catalog.BringsBack field (some (.embeddedList entities)) read := by
  obtain ⟨values, rfl, written⟩ := (answer_propertyValue_embeddedList_eq_ok noReference).mp encoded
  by_cases kept : entities ≠ [] ∨ catalog.options.storeEmpties = true
  · have keeps : catalog.options.keeps (.array values) = true :=
      keeps_array.mpr (kept.imp_left fun nonempty none => nonempty (by
        rw [none] at written
        cases written
        rfl))
    rw [keeps, if_pos rfl] at found
    obtain ⟨restored, reads, restores⟩ := restores_each stands trips written
    obtain ⟨fault, decoded⟩ := @answer_decodeValue_array catalog field target type.isMultiple
      type.className? descriptor values
    refine ⟨some (.embeddedList restored), ?_, .embeddedList kept restores.length_eq.symm, ?_⟩
    · rw [readingOf_of_some found rfl, noReference]
      simp only [Bool.false_eq_true, if_false]
      rw [decoded, answer_decodeObjects_eq_ok.mpr reads]
      rfl
    · rintro _ _ ⟨rfl⟩ ⟨rfl⟩ part part' member
      exact (List.forall₂_iff_zip.mp restores).2 member
  · obtain ⟨rfl, dropped⟩ : entities = [] ∧ catalog.options.storeEmpties = false := by
      simpa using kept
    cases written
    have drops : catalog.options.keeps (.array []) = false := dropped
    rw [drops, if_neg Bool.false_ne_true] at found
    refine ⟨none, readingOf_of_none found, (Returns.empty noId rfl dropped).bringsBack ?_⟩
    rintro _ ⟨rfl⟩
    rfl

theorem bringsBack_reference {ref : Reference} {name : ClassName} {target : Descriptor}
    (isReference : field.isReference = true) (single : field.isMultiple = false)
    (named : field.target? = some name) (described : catalog.Describes name target)
    (encoded : answer (catalog.propertyValue field (.reference ref)) = .ok value)
    (found : Document.get? doc field.storedName =
      if catalog.options.keeps value then some value else none) :
    ∃ read, catalog.readingOf descriptor doc field = .ok read ∧
      catalog.BringsBack field (some (.reference ref)) read := by
  have written : answer (catalog.referencePointer field ref) = .ok value := by
    simpa [propertyValue, isReference, encodeReference, shapeFault?, single] using encoded
  have noParts : ∀ property, some (Property.reference ref) = some property →
      property.parts = [] := by
    rintro _ ⟨rfl⟩
    rfl
  obtain ⟨key, made, isKey⟩ := keyFor_of_referencePointer named described written
  obtain ⟨place, leads, isPointer⟩ := answer_referencePointer_eq_ok.mp written
  -- Only an identifier by itself can be null or empty.
  have bare : ∀ plain, value = plain → (∀ entries, plain ≠ .document entries) →
      field.pointerOptions.idOnly = true ∧ place.id = plain := by
    rintro plain rfl noDocument
    rw [MappedField.pointerTo] at isPointer
    split at isPointer
    next idOnly => exact ⟨idOnly, isPointer.symm⟩
    · exact absurd isPointer (noDocument _)
  cases set : value.isNull with
  | true =>
    obtain rfl := (Value.isNull_iff value).mp set
    obtain ⟨idOnly, isNull⟩ := bare .null rfl (by simp)
    exact ⟨_, readingOf_of_null_entry found,
      (Returns.nullLink idOnly leads isNull).bringsBack noParts⟩
  | false =>
    cases kept : catalog.options.keeps value with
    | true =>
      rw [kept, if_pos rfl] at found
      have keys : answer (catalog.keys field value) = .ok [key] := by
        refine answer_keys_eq_ok.mpr ⟨target, ⟨name, named, described⟩, ?_⟩
        simp [keysFor, single, made]
      refine ⟨some (.reference (.key key)), ?_, (Returns.reference isKey).bringsBack noParts⟩
      rw [readingOf_of_some found set, isReference]
      simp only [if_true]
      rw [(answer_decodeKeys_eq_ok set).mpr ⟨[key], keys, rfl⟩]
      simp [propertyOfKeys, single, Property.ofKey, Except.map]
    | false =>
      rw [kept, if_neg Bool.false_ne_true] at found
      obtain ⟨rfl, dropped⟩ := eq_empty_of_not_keeps set kept
      obtain ⟨idOnly, isEmpty⟩ := bare (.array []) rfl (by simp)
      exact ⟨none, readingOf_of_none found,
        (Returns.emptyLink idOnly leads isEmpty dropped).bringsBack noParts⟩

theorem bringsBack_references {refs : List Reference} {name : ClassName} {target : Descriptor}
    (noId : field.isId = false)
    (isReference : field.isReference = true) (multiple : field.isMultiple = true)
    (named : field.target? = some name) (described : catalog.Describes name target)
    (encoded : answer (catalog.propertyValue field (.references refs)) = .ok value)
    (found : Document.get? doc field.storedName =
      if catalog.options.keeps value then some value else none) :
    ∃ read, catalog.readingOf descriptor doc field = .ok read ∧
      catalog.BringsBack field (some (.references refs)) read := by
  obtain ⟨values, written, rfl⟩ : ∃ values,
      answer (refs.mapM (catalog.referencePointer field)) = .ok values ∧ .array values = value := by
    simpa [propertyValue, isReference, encodeReference, shapeFault?, multiple, Result.map_eq_ok]
      using encoded
  rw [Steady.answer_mapM_eq_ok fun ref _ => steady_referencePointer field ref] at written
  have noParts : ∀ property, some (Property.references refs) = some property →
      property.parts = [] := by
    rintro _ ⟨rfl⟩
    rfl
  obtain ⟨keys, made, areKeys⟩ : ∃ keys,
      List.Forall₂ (fun value key => keyFor field target value = .ok key) values keys ∧
        List.Forall₂ (catalog.IsKeyOf field) refs keys := by
    clear noParts encoded found
    induction written with
    | nil => exact ⟨[], .nil, .nil⟩
    | cons first _ ih =>
      obtain ⟨key, made, isKey⟩ := keyFor_of_referencePointer named described first
      obtain ⟨keys, others, areKeys⟩ := ih
      exact ⟨key :: keys, .cons made others, .cons isKey areKeys⟩
  by_cases kept : refs ≠ [] ∨ catalog.options.storeEmpties = true
  · have keeps : catalog.options.keeps (.array values) = true :=
      keeps_array.mpr (kept.imp_left fun nonempty none => nonempty (by
        rw [none] at written
        cases written
        rfl))
    rw [keeps, if_pos rfl] at found
    refine ⟨some (.references (keys.map .key)), ?_,
      (Returns.references kept areKeys).bringsBack noParts⟩
    have all : answer (catalog.keys field (.array values)) = .ok keys := by
      refine answer_keys_eq_ok.mpr ⟨target, ⟨name, named, described⟩, ?_⟩
      simpa [keysFor, multiple] using Result.mapM_eq_ok.mpr made
    rw [readingOf_of_some found rfl, isReference]
    simp only [if_true]
    rw [(answer_decodeKeys_eq_ok rfl).mpr ⟨keys, all, rfl⟩]
    simp [propertyOfKeys, multiple, Except.map]
  · obtain ⟨rfl, dropped⟩ : refs = [] ∧ catalog.options.storeEmpties = false := by
      simpa using kept
    cases written
    have drops : catalog.options.keeps (.array []) = false := dropped
    rw [drops, if_neg Bool.false_ne_true] at found
    exact ⟨none, readingOf_of_none found, (Returns.empty noId rfl dropped).bringsBack noParts⟩

theorem bringsBack_id {name : ClassName} {entity : Entity}
    (described : catalog.Describes name descriptor) (member : field ∈ descriptor.fields)
    (isId : field.isId = true)
    (suits : ∀ property, entity.get? field.name = some property → catalog.Suits field property)
    (found : Document.get? doc field.storedName =
      (entity.value? field.name).filter (!·.isNull)) :
    ∃ read, catalog.readingOf descriptor doc field = .ok read ∧
      catalog.BringsBack field (entity.get? field.name) read := by
  have noReference := described.isReference_of_isId member isId
  rw [Entity.value?] at found
  cases held : entity.get? field.name with
  | none =>
    rw [held] at found
    have returns : catalog.Returns field none _ := .null rfl
    rw [isId, Bool.not_true, Bool.and_false, if_neg Bool.false_ne_true] at returns
    exact ⟨none, readingOf_of_none found, returns.bringsBack (by simp)⟩
  | some property =>
    rw [held, Option.bind_some] at found
    cases isNull : property.isNull with
    | true =>
      have returns : catalog.Returns field (some property) _ := .null isNull
      rw [isId, Bool.not_true, Bool.and_false, if_neg Bool.false_ne_true] at returns
      refine ⟨none, readingOf_of_none (found.trans ?_), returns.bringsBack ?_⟩
      · cases property <;> simp_all [Property.isNull, Property.asValue?, Value.isNull]
      · rintro _ ⟨rfl⟩
        cases property <;> simp_all [Property.isNull, Property.parts]
    | false =>
      cases suits property held with
      | null isNull' => simp [isNull] at isNull'
      | @id value kind _ type accepted =>
        have set : value.isNull = false := isNull
        have plain : readsObjects field value = false := by
          cases value <;> simp [readsObjects, type, MappedField.isMultiple, FieldType.isMultiple]
        rw [Property.asValue?, Option.filter_some, set] at found
        have fits : field.type.fits value = true := by rw [type]; exact accepted
        refine ⟨some (.value value), ?_, (Returns.id isId set).bringsBack ?_⟩
        · rw [readingOf_of_some found set, noReference, decodeValue_of_plain plain]
          exact Result.map_eq_ok.mpr ⟨_, answer_readPlain_eq_ok.mpr ⟨fits, rfl⟩, rfl⟩
        · rintro _ ⟨rfl⟩
          rfl
      | plain noId => simp [isId] at noId
      | embedded noId => simp [isId] at noId
      | embeddedList noId => simp [isId] at noId
      | reference isReference => simp [noReference] at isReference
      | references isReference => simp [noReference] at isReference

theorem Suits.bringsBack (suits : catalog.Suits field property) (noId : field.isId = false)
    (trips : ∀ part ∈ property.parts, catalog.RoundTrips part)
    (encoded : answer (catalog.propertyValue field property) = .ok value)
    (found : Document.get? doc field.storedName =
      if catalog.options.keeps value then some value else none) :
    ∃ read, catalog.readingOf descriptor doc field = .ok read ∧
      catalog.BringsBack field (some property) read := by
  cases suits with
  | null isNull => exact bringsBack_of_isNull noId isNull encoded found
  | id isId => simp [noId] at isId
  | @plain stored _ noReference noClass fits =>
    cases set : stored.isNull with
    | true => exact bringsBack_of_isNull noId set encoded found
    | false => exact bringsBack_value noId noReference noClass fits set encoded found
  | embedded _ noReference type stands =>
    exact bringsBack_embedded noReference type stands (trips _ (by simp [Property.parts]))
      encoded found
  | embeddedList _ noReference type stands =>
    exact bringsBack_embeddedList noId noReference type stands trips encoded found
  | reference isReference single named described =>
    exact bringsBack_reference isReference single named described encoded found
  | references isReference multiple named described =>
    exact bringsBack_references noId isReference multiple named described encoded found

end Field

/-! ### Entities -/

/-- Every document of a well-typed entity brings it back, under every class that it stands for. -/
theorem WellTyped.roundTrips {entity : Entity} (named : catalog.registry.Named)
    (typed : catalog.WellTyped entity) : catalog.RoundTrips entity := by
  induction typed with
  | @intro entity descriptor described names apart declared suits _ trips =>
    intro doc encoded target stands
    have written := described.written_document encoded
    have each : ∀ field ∈ descriptor.fields, ∃ read,
        catalog.readingOf descriptor doc field = .ok read ∧
          catalog.BringsBack field (entity.get? field.name) read := by
      intro field member
      cases isId : field.isId with
      | true =>
        exact bringsBack_id described member isId (suits field member)
          (written.get?_id described (apart field member) member isId)
      | false =>
        obtain ⟨value, encoded, found⟩ := written.get?_storedName described apart member isId
        cases held : entity.get? field.name with
        | none => exact bringsBack_of_isNull isId rfl (held ▸ encoded) found
        | some property =>
          exact (suits field member property held).bringsBack isId
            (trips field.name property held) (by simpa [held] using encoded) found
    obtain ⟨restored, done⟩ : ∃ restored, answer (catalog.readEntity descriptor doc
        (catalog.valueDecoders doc) (.empty descriptor.className)) = .ok restored := by
      rw [answer_readEntity]
      exact exists_foldlM_updates_iff.mpr fun field member => (each field member).imp
        fun _ both => both.1
    obtain ⟨sameClass, readings, only⟩ := readEntity_properties done names
    have back : ∀ field ∈ descriptor.fields, catalog.BringsBack field (entity.get? field.name)
        (restored.get? field.name) := by
      intro field member
      obtain ⟨read, isRead, brings⟩ := each field member
      rwa [Except.ok.inj ((readings field member).symm.trans isRead)]
    refine ⟨restored, answer_readObject_eq_ok.mpr
      ⟨descriptor, written.readAs named described apart stands, done⟩, ?_⟩
    exact .intro described (sameClass.trans (described.className_eq named)) only
      (fun field member => (back field member).1) fun field member => (back field member).2

/-- Every document of a well-typed entity can be read as an object of its class. -/
theorem WellTyped.legible {entity : Entity} {doc : Document} (named : catalog.registry.Named)
    (typed : catalog.WellTyped entity) (written : answer (catalog.document entity) = .ok doc) :
    catalog.Legible entity.className doc := by
  obtain ⟨descriptor, described, -⟩ := answer_document_eq_ok.mp written
  obtain ⟨restored, read, -⟩ :=
    typed.roundTrips named doc written entity.className (described.standsFor named)
  exact exists_answer_readObject_iff_legible.mp ⟨restored, read⟩

end DocMapper.Catalog

namespace DocMapper

/-- The mapper that wrote a document reads it again exactly if the document is legible, and a
well-typed entity is written as a legible document. -/
theorem Mapper.Plain.decodes_iff_legible {mapper : Mapper} (plain : mapper.Plain)
    {memory after : Memory} (sound : memory.Sound mapper.catalog) {entity left : Entity}
    {doc : Document} (encoded : mapper.toDocument.outcome (memory, entity) =
      (.ok doc, (after, left))) :
    ((∃ decoded later, (mapper.catalog.decodeDocument entity.className doc).outcome after =
      (.ok decoded, later)) ↔ mapper.catalog.Legible entity.className doc) ∧
    (mapper.catalog.WellTyped entity → mapper.catalog.Legible entity.className doc) := by
  obtain ⟨same, sound', rfl⟩ := plain.of_outcome_toDocument sound encoded
  refine ⟨?_, fun typed => typed.legible plain.named same⟩
  have steady : mapper.catalog.Steady (mapper.catalog.decodeDocument left.className doc) :=
    Catalog.steady_decodeDocument _ _
  obtain ⟨later, -, decoding⟩ := steady.outcome sound'
  rw [← Catalog.exists_answer_readObject_iff_legible, ← Catalog.decodeDocument_eq, decoding]
  simp

/-- The document that a mapper without hooks makes of a well-typed entity is read by it, under every
class that the entity stands for, as an entity that restores it. -/
theorem Mapper.Plain.decodes_restored {mapper : Mapper} (plain : mapper.Plain)
    {memory after : Memory} (sound : memory.Sound mapper.catalog) {entity left : Entity}
    {doc : Document} (typed : mapper.catalog.WellTyped entity)
    (encoded : mapper.toDocument.outcome (memory, entity) = (.ok doc, (after, left)))
    {target : ClassName} (stands : mapper.catalog.StandsFor entity target) :
    ∃ restored later, (mapper.catalog.decodeDocument target doc).outcome after =
      (.ok restored, later) ∧ mapper.catalog.Restores entity restored := by
  obtain ⟨same, sound', -⟩ := plain.of_outcome_toDocument sound encoded
  obtain ⟨restored, read, restores⟩ := typed.roundTrips plain.named doc same target stands
  have steady : mapper.catalog.Steady (mapper.catalog.decodeDocument target doc) :=
    Catalog.steady_decodeDocument _ _
  obtain ⟨later, -, decoding⟩ := steady.outcome sound'
  exact ⟨restored, later, by rw [decoding, Catalog.decodeDocument_eq, read], restores⟩

namespace Samples

theorem describes_address (options : Options) : Catalog.Describes ⟨library, options⟩ address.name
    (Catalog.assemble ⟨library, options⟩ address none [] []) :=
  Catalog.describes_alone rfl (by decide) rfl rfl rfl rfl rfl

theorem describes_author (options : Options) : Catalog.Describes ⟨library, options⟩ author.name
    (Catalog.assemble ⟨library, options⟩ author none [] []) :=
  Catalog.describes_alone rfl (by decide) rfl rfl rfl rfl rfl

theorem describes_book : Catalog.Describes ⟨library, {}⟩ book.name
    (Catalog.assemble ⟨library, {}⟩ book none [] []) :=
  Catalog.describes_alone rfl (by decide) rfl rfl rfl rfl (by decide +kernel)

theorem wellTyped_londonHome : Catalog.WellTyped ⟨library, {}⟩ londonHome := by
  refine .of_properties (describes_address {}) (by decide) (by decide) ?_ (by
    simp [londonHome, Entity.properties, Property.parts])
  simp only [londonHome, Entity.properties, List.forall_mem_singleton]
  exact ⟨.ofSchema address.name (plain "city" text), by decide, rfl, .plain rfl rfl rfl rfl⟩

theorem wellTyped_ada : Catalog.WellTyped ⟨library, {}⟩ ada := by
  refine .of_properties (describes_author {}) (by decide) (by decide) ?_ ?_
  · simp only [ada, Entity.properties, List.forall_mem_cons]
    refine ⟨⟨.ofSchema author.name (marked "home" (object "Address") .embedded), by decide, rfl,
        .embedded rfl rfl rfl ((describes_address {}).standsFor (Registry.named_ofTypes _))⟩,
      ⟨.ofSchema author.name (marked "id" integer .id), by decide, rfl, .id rfl rfl rfl⟩,
      ⟨.ofSchema author.name (plain "name" text), by decide, rfl, .plain rfl rfl rfl rfl⟩, ?_⟩
    simp
  · simpa [ada, Entity.properties, Property.parts] using wellTyped_londonHome

/-- The document of an author at home can be read. -/
theorem legible_ada :
    let mapper : Mapper := { catalog := { registry := library } }
    let doc := authorDocument [("name", .text "Ada"), ("home", london)]
    mapper.catalog.Legible author.name doc ∧
      ∃ decoded later, (mapper.catalog.decodeDocument author.name doc).outcome
        (mapper.toDocument.outcome ({}, ada)).2.1 = (.ok decoded, later) := by
  intro mapper doc
  have encoded : (mapper.toDocument.outcome ({}, ada)).1.toOption = some doc := by decide +kernel
  obtain ⟨decodes, legible⟩ := Mapper.Plain.decodes_iff_legible (plain_library {})
    (Memory.sound_empty _) (Run.outcome_eq_of_toOption encoded)
  exact ⟨legible wellTyped_ada, decodes.mpr (legible wellTyped_ada)⟩

/-- An author whose home is where the name should be. -/
def misplaced : Entity :=
  .mk author.name [("id", .value (.integer 1)), ("name", .embedded londonHome)]

/-- A mapper without hooks writes a document that it refuses to read. -/
theorem misplaced_not_decoded :
    ∃ mapper : Mapper, mapper.Plain ∧ ∃ doc after,
      mapper.toDocument.outcome ({}, misplaced) = (.ok doc, after) ∧
        ∀ decoded later, (mapper.catalog.decodeDocument misplaced.className doc).outcome after.1 ≠
          (.ok decoded, later) := by
  let mapper : Mapper := { catalog := { registry := library } }
  have encoded : (mapper.toDocument.outcome ({}, misplaced)).1.toOption =
      some (authorDocument [("name", london)]) := by decide +kernel
  have refused : ((mapper.catalog.decodeDocument misplaced.className
      (authorDocument [("name", london)])).outcome
      (mapper.toDocument.outcome ({}, misplaced)).2.1).1.toOption = none := by decide +kernel
  refine ⟨mapper, plain_library {}, _, _, Run.outcome_eq_of_toOption encoded, ?_⟩
  intro decoded later ran
  rw [ran] at refused
  cases refused

/-- An author at home comes back from its document. -/
theorem decodes_restored_ada :
    let mapper : Mapper := { catalog := { registry := library } }
    ∃ restored later, (mapper.catalog.decodeDocument author.name
        (authorDocument [("name", .text "Ada"), ("home", london)])).outcome
          (mapper.toDocument.outcome ({}, ada)).2.1 = (.ok restored, later) ∧
      mapper.catalog.Restores ada restored := by
  intro mapper
  have encoded : (mapper.toDocument.outcome ({}, ada)).1.toOption =
      some (authorDocument [("name", .text "Ada"), ("home", london)]) := by decide +kernel
  exact Mapper.Plain.decodes_restored (plain_library {}) (Memory.sound_empty _) wellTyped_ada
    (Run.outcome_eq_of_toOption encoded)
    ((describes_author {}).standsFor (Registry.named_ofTypes _))

/-- What a new mapper makes of an entity by writing it and reading it again. -/
def throughDocument (mapper : Mapper) (entity : Entity) : Except MapError Entity :=
  ((do
    let doc ← mapper.toDocument
    (mapper.catalog.decodeDocument entity.className doc).onFirst : EntityM Entity).outcome
      ({}, entity)).1

def anonymous : Entity :=
  .mk author.name [("id", .null), ("name", .value (.text "Ada"))]

/-- An author named like no class. -/
def memo : Entity :=
  .mk author.name [("id", .value (.integer 1)), ("name", .value (.text "memo"))]

def unsigned : Entity :=
  .mk book.name [
    ("editor", .reference (.key ⟨author.name, "authors", .null⟩)),
    ("id", .value (.integer 1))]

/-- What only exists inside something else. -/
def draft : TypeSchema where
  name := ⟨"Draft"⟩
  nesting := .innerMember

def review : TypeSchema :=
  entity "Review" "reviews" [
    marked "id" integer .id,
    marked "draft" (object "Draft") (.reference {})]

def reviewed : Entity :=
  .mk review.name [
    ("draft", .reference (.key ⟨draft.name, "drafts", .integer 7⟩)),
    ("id", .value (.integer 1))]

/-- Where documents do not bring entities back: an identity that is null stays away even if null is
stored, a name that is stored in place of the class name is taken for one, a reference to a class
that cannot be described cannot be read, and a reference to no identity is no reference. -/
theorem not_every_entity_restored :
    (∃ restored, throughDocument { catalog := ⟨library, { storeNulls := true }⟩ } anonymous =
      .ok restored ∧ anonymous.get? "id" = some .null ∧ restored.get? "id" = none) ∧
    (∃ doc, (Mapper.toDocument { catalog := ⟨library, { classNameKey := "name" }⟩ } |>.outcome
        ({}, memo)).1.toOption = some doc ∧
      ∀ restored, throughDocument { catalog := ⟨library, { classNameKey := "name" }⟩ } memo ≠
        .ok restored) ∧
    (∃ doc, (Mapper.toDocument { catalog := ⟨.ofTypes [draft, review], {}⟩ } |>.outcome
        ({}, reviewed)).1.toOption = some doc ∧
      ∀ restored, throughDocument { catalog := ⟨.ofTypes [draft, review], {}⟩ } reviewed ≠
        .ok restored) ∧
    ∃ restored, throughDocument { catalog := ⟨library, {}⟩ } unsigned = .ok restored ∧
      restored.get? "editor" = none := by
  have without : ∀ (mapper : Mapper) (entity : Entity) (field : String),
      (throughDocument mapper entity).toOption.map (fun e => (e.get? field).isSome) =
        some false →
      ∃ restored, throughDocument mapper entity = .ok restored ∧ restored.get? field = none := by
    intro mapper entity field h
    cases ran : throughDocument mapper entity with
    | error error => simp [ran, Except.toOption] at h
    | ok restored => exact ⟨restored, rfl, by simpa [ran, Except.toOption] using h⟩
  have refused : ∀ {mapper : Mapper} {entity : Entity},
      (throughDocument mapper entity).toOption.isSome = false →
      ∀ restored, throughDocument mapper entity ≠ .ok restored := by
    intro mapper entity h restored ran
    simp [ran, Except.toOption] at h
  obtain ⟨restored, ran, unset⟩ :=
    without { catalog := ⟨library, { storeNulls := true }⟩ } anonymous "id" (by decide +kernel)
  refine ⟨⟨restored, ran, rfl, unset⟩, ?_, ?_, without _ _ _ (by decide +kernel)⟩
  · exact ⟨[("_id", .integer 1), ("name", .text "memo")], by decide +kernel,
      refused (by decide +kernel)⟩
  · exact ⟨[("_id", .integer 1), ("className", .text "Review"),
      ("draft", Pointer.toValue ⟨"drafts", .integer 7⟩)], by decide +kernel,
      refused (by decide +kernel)⟩

end Samples

end DocMapper
