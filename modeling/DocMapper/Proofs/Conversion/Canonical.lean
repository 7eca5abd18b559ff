import DocMapper.Proofs.Conversion.Layout
import DocMapper.Proofs.Conversion.Reading
import DocMapper.Proofs.Conversion.RoundTrip
import DocMapper.Proofs.Hook.Plain

/-!
# Documents that are written as they are read

A document is canonical if what it is read as is written as the same document again. Nothing of it
gets lost then: its entries stand in the order of the class, what the options leave out is not there
and what they keep is, and so it goes on in the documents inside (`Canonical`).

The documents of well-typed entities are canonical unless null is stored and what is empty is not:
an empty array that was left out is read as nothing, which is stored as null.
-/

namespace DocMapper

/-- A link is stored as the field stores it: by its identifier alone, or as a pointer and nothing
else. -/
def MappedField.StoresLink (field : MappedField) (value : Value) : Prop :=
  field.pointerOptions.idOnly = true ∨ ∃ pointer : Pointer, value = pointer.toValue

namespace Catalog

/-- No class has two fields of one name, or a field that is stored in place of the class name. -/
structure Regular (catalog : Catalog) : Prop where
  distinct : catalog.Distinct
  apart : ∀ name descriptor, catalog.Describes name descriptor →
    ∀ field ∈ descriptor.fields, field.storedName ≠ catalog.options.classNameKey

/-- The links in a stored value of a reference field. -/
def linksOf (field : MappedField) : Value → List Value
  | .null => []
  | .array items => if field.isMultiple then items else [.array items]
  | value => [value]

/-- The document of an object has the entries of its class in their order and no others: its class
name if that is stored, an identity that is no object, and for every other field what the options
keep, with null for what is not there. The documents inside are likewise. -/
inductive Canonical (catalog : Catalog) : ClassName → Document → Prop
  | intro {requested : ClassName} {doc : Document} {descriptor : Descriptor}
      (isClass : catalog.ReadAs requested doc descriptor)
      (order : (Document.keys doc).Sublist (catalog.keysOf descriptor))
      (named : descriptor.storesClassName = true →
        Document.get? doc catalog.options.classNameKey = some (.text descriptor.className.text))
      (identity : ∀ field ∈ descriptor.fields, field.isId = true → ∀ value,
        Document.get? doc field.storedName = some value →
          value.isNull = false ∧ readsObjects field value = false)
      (kept : ∀ field ∈ descriptor.fields, field.isId = false →
        catalog.options.keeps ((Document.get? doc field.storedName).getD .null) =
          (Document.get? doc field.storedName).isSome)
      (links : ∀ field ∈ descriptor.fields, field.isReference = true → ∀ value,
        Document.get? doc field.storedName = some value → ∀ link ∈ linksOf field value,
          field.StoresLink link)
      (nested : ∀ field ∈ descriptor.fields, field.isId = false → ∀ value,
        Document.get? doc field.storedName = some value → ∀ target entries,
          Nests field value target entries → Canonical catalog target entries) :
      Canonical catalog requested doc

variable {catalog : Catalog} {name requested target : ClassName} {descriptor : Descriptor}
  {field : MappedField} {doc entries : Document} {entity : Entity} {value : Value}
  {property : Property}

/-- Classes without superclasses are regular if what they declare is. -/
theorem Regular.of_alone (alone : catalog.registry.all (·.2.superclass.isNone) = true)
    (names : catalog.registry.all (fun (_, schema) =>
      decide (schema.fields.map FieldSchema.name).Nodup) = true)
    (apart : catalog.registry.all (fun (_, schema) => schema.fields.all fun field =>
      decide ((MappedField.ofSchema schema.name field).storedName ≠
        catalog.options.classNameKey)) = true) : catalog.Regular where
  distinct := distinct_of_alone alone names
  apart := by
    intro name descriptor described field member
    obtain ⟨schema, registered, fields⟩ := described.exists_schema alone
    obtain ⟨declared, inSchema, rfl⟩ := List.mem_map.mp (fields.subset member)
    have checked := List.all_eq_true.mp apart _ registered
    simpa using List.all_eq_true.mp checked declared inSchema

/-- A document is what an entity is written as exactly if it has the entries that are written for
the entity, in the order of the class. -/
theorem answer_encodeInto_eq_ok (described : catalog.Describes name descriptor)
    (apart : ∀ field ∈ descriptor.fields, field.storedName ≠ catalog.options.classNameKey) :
    answer (catalog.encodeInto descriptor entity []) = .ok doc ↔
      (Document.keys doc).Sublist (catalog.keysOf descriptor) ∧
      (descriptor.storesClassName = true → Document.get? doc catalog.options.classNameKey =
        some (.text descriptor.className.text)) ∧
      (∀ field ∈ descriptor.fields, field.isId = true →
        Document.get? doc field.storedName = (entity.value? field.name).filter (!·.isNull)) ∧
      ∀ field ∈ descriptor.fields, field.isId = false →
        catalog.entryOf entity field = .ok (Document.get? doc field.storedName) := by
  -- What is known of everything that the entity is written as.
  have facts : ∀ doc, answer (catalog.encodeInto descriptor entity []) = .ok doc →
      (descriptor.storesClassName = true → Document.get? doc catalog.options.classNameKey =
        some (.text descriptor.className.text)) ∧
      (∀ field ∈ descriptor.fields, field.isId = true →
        Document.get? doc field.storedName = (entity.value? field.name).filter (!·.isNull)) ∧
      ∀ field ∈ descriptor.fields, field.isId = false →
        catalog.entryOf entity field = .ok (Document.get? doc field.storedName) := by
    intro doc encoded
    have written := described.written encoded
    refine ⟨fun stores => ?_, fun field member isId => ?_, fun field member noId => ?_⟩
    · rw [written.rest _ fun field member _ => apart field member, get?_writeIdentity,
        if_pos ⟨stores, rfl⟩]
    · exact written.get?_id described (apart field member) member isId
    · obtain ⟨value, isValue, found⟩ := written.get?_storedName described apart member noId
      exact entryOf_eq_ok.mpr ⟨value, isValue, found⟩
  constructor
  · intro encoded
    exact ⟨sublist_keysOf described apart encoded, facts doc encoded⟩
  · rintro ⟨arranged, isNamed, identity, fields⟩
    obtain ⟨other, encoded⟩ : ∃ other, answer (catalog.encodeInto descriptor entity []) =
        .ok other := by
      rw [answer_encodeInto]
      refine exists_foldlM_updates_iff.mpr fun field kept => ?_
      obtain ⟨member, noId⟩ := List.mem_filter.mp kept
      exact ⟨_, fields field member (by simpa using noId)⟩
    obtain ⟨isNamed', identity', fields'⟩ := facts other encoded
    rw [encoded, Document.eq_of_sublist (nodup_keysOf described apart)
      (sublist_keysOf described apart encoded) arranged fun key member => ?_]
    rw [keysOf, List.mem_append, List.mem_append] at member
    rcases member with (member | member) | member
    · cases isId : descriptor.idField? with
      | none => simp [isId] at member
      | some idOwner =>
        obtain ⟨inClass, marked⟩ := Descriptor.idField?_spec isId
        obtain rfl : key = idField := by simpa [isId] using member
        rw [← described.storedName_of_isId inClass marked, identity' idOwner inClass marked,
          identity idOwner inClass marked]
    · cases stores : descriptor.storesClassName with
      | false => simp [stores] at member
      | true =>
        obtain rfl : key = catalog.options.classNameKey := by simpa [stores] using member
        rw [isNamed' stores, isNamed stores]
    · obtain ⟨field, kept, rfl⟩ := List.mem_map.mp member
      obtain ⟨inClass, unmarked⟩ := List.mem_filter.mp kept
      have noId : field.isId = false := by simpa using unmarked
      exact Except.ok.inj ((fields' field inClass noId).symm.trans (fields field inClass noId))

/-! ### Fields -/

/-- A link that was read is stored again as it was if the field stores it so. -/
theorem pointerTo_eq_iff {target : Descriptor} {key : Key}
    (made : keyFor field target value = .ok key) :
    field.pointerTo key.collection key.id = value ↔ field.StoresLink value := by
  obtain ⟨place, rfl, given⟩ := keyFor_eq_ok.mp made
  rw [MappedField.pointerTo, MappedField.StoresLink]
  cases bare : field.pointerOptions.idOnly with
  | true =>
    obtain rfl : place = ⟨target.collection, value⟩ := by simpa [bare] using given
    simp
  | false =>
    have read : Pointer.ofValue value = .ok place := by simpa [bare] using given
    simp only [Bool.false_eq_true, if_false, false_or]
    constructor
    · intro same
      exact ⟨place, same.symm⟩
    · rintro ⟨other, rfl⟩
      rw [Pointer.ofValue_toValue] at read
      rw [Except.ok.inj read]

theorem linksOf_of_single (single : field.isMultiple = false) (set : value.isNull = false) :
    linksOf field value = [value] := by
  cases value with
  | null => cases set
  | array items => simp [linksOf, single]
  | _ => rfl

/-- Keys are written as the value that they were read from if its links are stored as the field
stores them. -/
theorem answer_encodeReference_keys_iff {keys : List Key} (set : value.isNull = false)
    (linked : answer (catalog.keys field value) = .ok keys) :
    answer (catalog.encodeReference field (propertyOfKeys field keys)) = .ok value ↔
      ∀ link ∈ linksOf field value, field.StoresLink link := by
  obtain ⟨target, -, given⟩ := answer_keys_eq_ok.mp linked
  rw [propertyOfKeys]
  cases multiple : field.isMultiple with
  | false =>
    obtain ⟨key, made, rfl⟩ := (keysFor_eq_ok_of_single multiple).mp given
    rw [linksOf_of_single multiple set]
    simpa [encodeReference, shapeFault?, multiple, Property.ofKey, referencePointer]
      using pointerTo_eq_iff made
  | true =>
    obtain ⟨items, rfl, made⟩ := (keysFor_eq_ok_of_multiple multiple).mp given
    have each : answer (((keys.map Reference.key).mapM (catalog.referencePointer field))) =
        .ok items ↔ ∀ link ∈ items, field.StoresLink link := by
      rw [Steady.answer_mapM_eq_ok fun ref _ => steady_referencePointer field ref]
      rw [List.forall₂_map_left_iff]
      refine Result.forall₂_iff_forall (Result.mapM_eq_ok.mp made) fun item _ key made => ?_
      rw [← pointerTo_eq_iff made]
      simp [referencePointer]
    simpa [encodeReference, shapeFault?, multiple, linksOf, Result.map_eq_ok] using each

/-- What a value means is written as the same value again if its links are stored as the field
stores them and the documents inside are canonical, as long as this is so for each of these. -/
theorem Means.answer_propertyValue_iff (means : catalog.Means field value property)
    (each : ∀ target entries part, Nests field value target entries →
      answer (catalog.decodeDocument target entries) = .ok part →
        (answer (catalog.document part) = .ok entries ↔ catalog.Canonical target entries)) :
    answer (catalog.propertyValue field property) = .ok value ↔
      (field.isReference = true → ∀ link ∈ linksOf field value, field.StoresLink link) ∧
        ∀ target entries, Nests field value target entries →
          catalog.Canonical target entries := by
  cases means with
  | null =>
    exact iff_of_true (answer_propertyValue_null field)
      ⟨fun _ _ member => (nomatch member), fun _ _ nests => (nomatch nests)⟩
  | links isReference set linked =>
    rw [propertyValue, if_pos isReference, answer_encodeReference_keys_iff set linked]
    constructor
    · intro stored
      refine ⟨fun _ => stored, fun target entries nests => ?_⟩
      cases nests <;> simp_all
    · rintro ⟨stored, -⟩
      exact stored isReference
  | plain noReference set asItStands fits =>
    refine iff_of_true ?_ ⟨fun isReference => by simp [noReference] at isReference, ?_⟩
    · simp [propertyValue, noReference, encodeProperty, fits]
    · intro target entries nests
      cases nests <;> simp_all [readsObjects]
  | @object target entries part noReference isObject read =>
    have alone : ∀ other inner, Nests field (.document entries) other inner ↔
        other = target ∧ inner = entries := by
      intro other inner
      constructor
      · rintro (⟨-, isObject'⟩ | _)
        exact ⟨FieldType.object.inj (isObject'.symm.trans isObject), rfl⟩
      · rintro ⟨rfl, rfl⟩
        exact .object noReference isObject
    have written : answer (catalog.propertyValue field (.embedded part)) =
        .ok (.document entries) ↔ answer (catalog.document part) = .ok entries := by
      simp [answer_propertyValue_embedded_eq_ok noReference]
    rw [written, each target entries part (.object noReference isObject) read]
    simp [noReference, alone]
  | @objects target items parts noReference multiple isObject read =>
    have alone : ∀ other inner, Nests field (.array items) other inner ↔
        other = target ∧ .document inner ∈ items := by
      intro other inner
      constructor
      · rintro (_ | ⟨-, -, isObject', member⟩)
        exact ⟨Option.some.inj (isObject'.symm.trans isObject), member⟩
      · rintro ⟨rfl, member⟩
        exact .objects noReference multiple isObject member
    have written : answer (catalog.propertyValue field (.embeddedList parts)) =
        .ok (.array items) ↔ List.Forall₂
          (fun part item => answer (catalog.encodeEmbedded part) = .ok item) parts items := by
      simp [answer_propertyValue_embeddedList_eq_ok noReference]
    rw [written]
    have checked : List.Forall₂ (fun part item => answer (catalog.encodeEmbedded part) = .ok item)
        parts items ↔ ∀ item ∈ items, ∀ entries, item = .document entries →
          catalog.Canonical target entries := by
      refine Result.forall₂_iff_forall read ?_
      rintro _ member part ⟨entries, rfl, read⟩
      rw [answer_encodeEmbedded_eq_ok]
      simpa using each target entries part (.objects noReference multiple isObject member) read
    rw [checked]
    constructor
    · intro all
      refine ⟨fun isReference => by simp [noReference] at isReference, ?_⟩
      intro other entries nests
      obtain ⟨rfl, member⟩ := (alone other entries).mp nests
      exact all _ member entries rfl
    · rintro ⟨-, nested⟩ _ member entries rfl
      exact nested target entries ((alone target entries).mpr ⟨rfl, member⟩)

/-- An identity is written as it was read unless it was null or an object. -/
theorem Shows.identity_iff (shows : catalog.Shows descriptor doc entity)
    (noReference : field.isReference = false) (member : field ∈ descriptor.fields) :
    Document.get? doc field.storedName = (entity.value? field.name).filter (!·.isNull) ↔
      ∀ value, Document.get? doc field.storedName = some value →
        value.isNull = false ∧ readsObjects field value = false := by
  have shown := shows.field field member
  rw [Entity.value?]
  generalize Document.get? doc field.storedName = stored at shown
  generalize entity.get? field.name = held at shown
  cases shown with
  | none => simp
  | some means =>
    cases means with
    | null => simp [Property.asValue?, Value.isNull]
    | links isReference => simp [noReference] at isReference
    | plain _ set asItStands => simp [Property.asValue?, Option.filter, set, asItStands]
    | object _ isObject => simp [Property.asValue?, readsObjects, isObject]
    | objects _ multiple isObject => simp [Property.asValue?, readsObjects, multiple, isObject]

/-- The entry of any other field is written as it was read if the options keep it, its links are
stored as the field stores them and the documents inside are canonical. -/
theorem Shows.entryOf_iff (shows : catalog.Shows descriptor doc entity)
    (member : field ∈ descriptor.fields)
    (each : ∀ value, Document.get? doc field.storedName = some value → ∀ target entries part,
      Nests field value target entries → answer (catalog.decodeDocument target entries) = .ok part →
        (answer (catalog.document part) = .ok entries ↔ catalog.Canonical target entries)) :
    catalog.entryOf entity field = .ok (Document.get? doc field.storedName) ↔
      catalog.options.keeps ((Document.get? doc field.storedName).getD .null) =
          (Document.get? doc field.storedName).isSome ∧
        (field.isReference = true → ∀ value, Document.get? doc field.storedName = some value →
          ∀ link ∈ linksOf field value, field.StoresLink link) ∧
        ∀ value, Document.get? doc field.storedName = some value → ∀ target entries,
          Nests field value target entries → catalog.Canonical target entries := by
  have shown := shows.field field member
  rw [entryOf_eq_ok]
  generalize Document.get? doc field.storedName = stored at shown each ⊢
  generalize entity.get? field.name = held at shown
  cases shown with
  | none =>
    rw [Option.getD_none, answer_propertyValue_null]
    constructor
    · rintro ⟨value, isValue, absent⟩
      obtain rfl := Except.ok.inj isValue
      refine ⟨?_, fun _ _ stored => (by cases stored), fun _ stored => (by cases stored)⟩
      split at absent
      · cases absent
      next dropped => simpa using dropped
    · rintro ⟨dropped, -, -⟩
      have dropped : catalog.options.keeps .null = false := dropped
      exact ⟨.null, rfl, by rw [dropped, if_neg Bool.false_ne_true]⟩
  | @some value property means =>
    have written := means.answer_propertyValue_iff (each value rfl)
    simp only [Option.getD_some, Option.isSome_some, Option.some.injEq, forall_eq', ← written]
    constructor
    · rintro ⟨other, isValue, same⟩
      split at same
      next keeps =>
        obtain rfl := Option.some.inj same
        exact ⟨keeps, isValue⟩
      · cases same
    · rintro ⟨keeps, isValue⟩
      exact ⟨value, isValue, by rw [keeps, if_pos rfl]⟩

/-! ### Documents -/

/-- A document that can be read is what its object is written as exactly if it is canonical. The
induction is on the document. -/
theorem answer_document_iff_canonical (named : catalog.registry.Named) (regular : catalog.Regular)
    (read : answer (catalog.decodeDocument requested doc) = .ok entity) :
    answer (catalog.document entity) = .ok doc ↔ catalog.Canonical requested doc := by
  induction size : sizeOf doc using Nat.strongRecOn generalizing requested doc entity with
  | ind n ih =>
    obtain ⟨descriptor, isClass⟩ := exists_readAs read
    obtain ⟨name, described⟩ := isClass.describes
    have shows := isClass.shows (regular.distinct name descriptor described) read
    have sameClass : catalog.Describes entity.className descriptor := by
      rwa [shows.className, described.className_eq named]
    have inClass : answer (catalog.document entity) = .ok doc ↔
        answer (catalog.encodeInto descriptor entity []) = .ok doc := by
      rw [answer_document_eq_ok]
      constructor
      · rintro ⟨other, described', encoded⟩
        rwa [sameClass.unique described']
      · exact fun encoded => ⟨descriptor, sameClass, encoded⟩
    have identity := fun field (member : field ∈ descriptor.fields) isId => shows.identity_iff
      (described.isReference_of_isId member isId) member
    have others := fun field (member : field ∈ descriptor.fields) => shows.entryOf_iff member
      fun value found target entries part nests read =>
        ih _ (size ▸ nests.sizeOf_lt found) read rfl
    rw [inClass, answer_encodeInto_eq_ok described (regular.apart name descriptor described)]
    constructor
    · rintro ⟨order, isNamed, ids, entries⟩
      refine .intro isClass order isNamed
        (fun field member isId => (identity field member isId).mp (ids field member isId))
        (fun field member noId => ((others field member).mp (entries field member noId)).1)
        (fun field member isReference => ?_)
        fun field member noId => ((others field member).mp (entries field member noId)).2.2
      have noId : field.isId = false := by
        by_contra isId
        simp [described.isReference_of_isId member (by simpa using isId)] at isReference
      exact ((others field member).mp (entries field member noId)).2.1 isReference
    · intro canonical
      cases canonical with
      | intro isClass' order isNamed ids kept links nested =>
        obtain rfl := isClass.unique isClass'
        exact ⟨order, isNamed,
          fun field member isId => (identity field member isId).mpr (ids field member isId),
          fun field member noId => (others field member).mpr
            ⟨kept field member noId, links field member, nested field member noId⟩⟩

/-! ### Documents of well-typed entities -/

theorem eq_of_kept {options : Options} {stored : Value}
    (kept : (if options.keeps stored then some stored else none) = some value) :
    stored = value := by
  split at kept
  · exact Option.some.inj kept
  · cases kept

theorem storesLink_pointerTo (field : MappedField) (collection : String) (id : Value) :
    field.StoresLink (field.pointerTo collection id) := by
  rw [MappedField.StoresLink, MappedField.pointerTo]
  cases field.pointerOptions.idOnly with
  | true => exact .inl rfl
  | false => exact .inr ⟨⟨collection, id⟩, rfl⟩

/-- Whatever a reference field of a well-typed entity holds, its links are stored as it stores
them. -/
theorem Suits.storesLink (suits : catalog.Suits field property)
    (isReference : field.isReference = true) (noId : field.isId = false)
    (encoded : answer (catalog.propertyValue field property) = .ok value) :
    ∀ link ∈ linksOf field value, field.StoresLink link := by
  have stored : ∀ ref value, answer (catalog.referencePointer field ref) = .ok value →
      field.StoresLink value := by
    intro ref value written
    obtain ⟨place, -, rfl⟩ := answer_referencePointer_eq_ok.mp written
    exact storesLink_pointerTo field place.collection place.id
  cases suits with
  | null isNull =>
    obtain rfl := propertyValue_of_isNull isNull encoded
    exact fun _ member => nomatch member
  | id isId => simp [noId] at isId
  | plain _ noReference => simp [isReference] at noReference
  | embedded _ noReference => simp [isReference] at noReference
  | embeddedList _ noReference => simp [isReference] at noReference
  | @reference ref _ _ _ single =>
    have written : answer (catalog.referencePointer field ref) = .ok value := by
      simpa [propertyValue, isReference, encodeReference, shapeFault?, single] using encoded
    cases set : value.isNull with
    | true =>
      obtain rfl := (Value.isNull_iff value).mp set
      exact fun _ member => nomatch member
    | false =>
      rw [linksOf_of_single single set]
      simpa using stored ref value written
  | @references refs _ _ _ multiple =>
    obtain ⟨values, written, rfl⟩ : ∃ values,
        answer (refs.mapM (catalog.referencePointer field)) = .ok values ∧
          .array values = value := by
      simpa [propertyValue, isReference, encodeReference, shapeFault?, multiple, Result.map_eq_ok]
        using encoded
    rw [Steady.answer_mapM_eq_ok fun ref _ => steady_referencePointer field ref] at written
    rw [linksOf, if_pos multiple]
    intro link member
    obtain ⟨ref, -, written⟩ := Result.exists_of_mem_right written member
    exact stored ref link written

/-- Every document inside what a property is written as is the document of an embedded object that
can stand for the class it is read as. -/
theorem Suits.exists_part (suits : catalog.Suits field property) (noId : field.isId = false)
    (encoded : answer (catalog.propertyValue field property) = .ok value)
    (nests : Nests field value target entries) :
    ∃ part ∈ property.parts, catalog.StandsFor part target ∧
      answer (catalog.document part) = .ok entries := by
  have noReference : field.isReference = false := by
    cases nests <;> assumption
  have isClass : field.target? = some target := by
    cases nests with
    | object _ isObject => rw [MappedField.target?, isObject]; rfl
    | objects _ _ isObject => exact isObject
  cases suits with
  | null isNull =>
    obtain rfl := propertyValue_of_isNull isNull encoded
    cases nests
  | id isId => simp [noId] at isId
  | plain _ _ noClass => simp [noClass] at isClass
  | reference isReference => simp [noReference] at isReference
  | references isReference => simp [noReference] at isReference
  | @embedded part other _ _ type stands =>
    obtain rfl : other = target := by
      rw [MappedField.target?, type] at isClass
      exact Option.some.inj isClass
    obtain ⟨inner, isDocument, rfl⟩ :=
      (answer_propertyValue_embedded_eq_ok noReference).mp encoded
    cases nests
    exact ⟨part, List.mem_singleton_self _, stands, isDocument⟩
  | @embeddedList parts other _ _ type stands =>
    obtain rfl : other = target := Option.some.inj (type.className?.symm.trans isClass)
    obtain ⟨values, rfl, written⟩ :=
      (answer_propertyValue_embeddedList_eq_ok noReference).mp encoded
    cases nests with
    | objects _ _ _ member =>
      obtain ⟨part, inParts, written⟩ := Result.exists_of_mem_right written member
      obtain ⟨inner, isDocument, same⟩ := answer_encodeEmbedded_eq_ok.mp written
      cases same
      exact ⟨part, inParts, stands part inParts, isDocument⟩

/-- Where null is not stored, or everything is, the documents of well-typed entities are
canonical. -/
theorem WellTyped.canonical (named : catalog.registry.Named)
    (whole : catalog.options.storeNulls = false ∨ catalog.options.storeEmpties = true)
    (typed : catalog.WellTyped entity) :
    ∀ doc, answer (catalog.document entity) = .ok doc → ∀ target,
      catalog.StandsFor entity target → catalog.Canonical target doc := by
  -- What is left out is left out for good.
  have dropsNull : ∀ value, catalog.options.keeps value = false →
      catalog.options.keeps .null = false := by
    intro value dropped
    rcases whole with noNulls | empties
    · exact noNulls
    · cases set : value.isNull with
      | true => rwa [← (Value.isNull_iff value).mp set]
      | false =>
        have noEmpties := (eq_empty_of_not_keeps set dropped).2
        simp [empties] at noEmpties
  induction typed with
  | @intro entity descriptor described names apart declared suits _ trips =>
    intro doc encoded target stands
    have written := described.written_document encoded
    obtain ⟨_, described', inClass⟩ := answer_document_eq_ok.mp encoded
    obtain rfl := described.unique described'
    obtain ⟨order, isNamed, ids, entries⟩ := (answer_encodeInto_eq_ok described apart).mp inClass
    have entry : ∀ field ∈ descriptor.fields, field.isId = false → ∃ value,
        answer (catalog.propertyValue field ((entity.get? field.name).getD .null)) = .ok value ∧
          Document.get? doc field.storedName =
            if catalog.options.keeps value then some value else none :=
      fun field member noId => entryOf_eq_ok.mp (entries field member noId)
    have suitable : ∀ field ∈ descriptor.fields,
        catalog.Suits field ((entity.get? field.name).getD .null) := by
      intro field member
      cases held : entity.get? field.name with
      | none => exact .null rfl
      | some property => exact suits field member property held
    refine .intro (written.readAs named described apart stands) order isNamed ?_ ?_ ?_ ?_
    · intro field member isId value found
      rw [ids field member isId, Option.filter_eq_some_iff] at found
      obtain ⟨held, set⟩ := found
      have set : value.isNull = false := by simpa using set
      refine ⟨set, ?_⟩
      obtain ⟨property, held, isValue⟩ := Option.bind_eq_some_iff.mp held
      have fitting := suits field member property held
      cases property <;> cases isValue
      cases fitting with
      | null isNull => simp [Property.isNull, set] at isNull
      | id _ type =>
        cases value <;> simp [readsObjects, type, MappedField.isMultiple, FieldType.isMultiple]
      | plain noId => simp [isId] at noId
    · intro field member noId
      obtain ⟨value, -, found⟩ := entry field member noId
      rw [found]
      cases keeps : catalog.options.keeps value with
      | true => simpa using keeps
      | false => simpa using dropsNull value keeps
    · intro field member isReference value found
      have noId : field.isId = false := by
        by_contra isId
        simp [described.isReference_of_isId member (by simpa using isId)] at isReference
      obtain ⟨stored, encoded, found'⟩ := entry field member noId
      obtain rfl : stored = value := eq_of_kept (found'.symm.trans found)
      exact (suitable field member).storesLink isReference noId encoded
    · intro field member noId value found inner entries nests
      obtain ⟨stored, encoded, found'⟩ := entry field member noId
      obtain rfl : stored = value := eq_of_kept (found'.symm.trans found)
      obtain ⟨part, inside, stands, isDocument⟩ :=
        (suitable field member).exists_part noId encoded nests
      cases held : entity.get? field.name with
      | none => simp [held, Property.parts] at inside
      | some property =>
        rw [held] at inside
        exact trips field.name property held part inside entries isDocument inner stands

end Catalog

/-- What a mapper without hooks makes of an entity and reads again is written as the same document
exactly if that is canonical. It is so for a well-typed entity unless null is stored and what is
empty is not. -/
theorem Mapper.Plain.reencodes_iff {mapper : Mapper} (plain : mapper.Plain)
    (regular : mapper.catalog.Regular) {memory middle later : Memory}
    (sound : memory.Sound mapper.catalog) {entity left decoded : Entity} {doc : Document}
    (encoded : mapper.toDocument.outcome (memory, entity) = (.ok doc, (middle, left)))
    (read : (mapper.catalog.decodeDocument entity.className doc).outcome middle =
      (.ok decoded, later)) :
    ((mapper.toDocument.outcome (later, decoded)).1 = .ok doc ↔
      mapper.catalog.Canonical entity.className doc) ∧
    (mapper.catalog.WellTyped entity →
      mapper.catalog.options.storeNulls = false ∨ mapper.catalog.options.storeEmpties = true →
        mapper.catalog.Canonical entity.className doc) := by
  obtain ⟨same, sound', -⟩ := plain.of_outcome_toDocument sound encoded
  have steady : mapper.catalog.Steady (mapper.catalog.decodeDocument entity.className doc) :=
    Catalog.steady_decodeDocument _ _
  obtain ⟨answered, learns'⟩ := steady.of_outcome sound' read
  obtain ⟨_, -, again⟩ := plain.outcome_toDocument learns'.sound decoded
  refine ⟨?_, fun typed whole => ?_⟩
  · rw [again]
    exact Catalog.answer_document_iff_canonical plain.named regular answered
  · obtain ⟨descriptor, described, -⟩ := Catalog.answer_document_eq_ok.mp same
    exact typed.canonical plain.named whole doc same entity.className
      (described.standsFor plain.named)

namespace Samples

theorem regular_library : Catalog.Regular ⟨library, {}⟩ :=
  .of_alone (by decide) (by decide) (by decide)

/-- An author at home is written as the same document again. -/
theorem reencodes_ada :
    let mapper : Mapper := { catalog := { registry := library } }
    let doc := authorDocument [("name", .text "Ada"), ("home", london)]
    ∃ decoded later, (mapper.catalog.decodeDocument author.name doc).outcome
        (mapper.toDocument.outcome ({}, ada)).2.1 = (.ok decoded, later) ∧
      (mapper.toDocument.outcome (later, decoded)).1 = .ok doc := by
  intro mapper doc
  have encoded : (mapper.toDocument.outcome ({}, ada)).1.toOption = some doc := by decide +kernel
  have read : ((mapper.catalog.decodeDocument author.name doc).outcome
      (mapper.toDocument.outcome ({}, ada)).2.1).1.toOption.isSome = true := by decide +kernel
  obtain ⟨decoded, read⟩ := Option.isSome_iff_exists.mp read
  have read := Run.outcome_eq_of_toOption read
  obtain ⟨again, canonical⟩ := Mapper.Plain.reencodes_iff (plain_library {}) regular_library
    (Memory.sound_empty _) (Run.outcome_eq_of_toOption encoded) read
  exact ⟨decoded, _, read, again.mpr (canonical wellTyped_ada (.inl rfl))⟩

/-- The document of an entity, and the document of what it is read as. -/
def twice (mapper : Mapper) (entity : Entity) : Option (Document × Document) :=
  ((do
    let doc ← mapper.toDocument
    let decoded ← (mapper.catalog.decodeDocument entity.className doc).onFirst
    modify fun state => (state.1, decoded)
    return (doc, ← mapper.toDocument) : EntityM (Document × Document)).outcome
      ({}, entity)).1.toOption

def folklore : Entity :=
  .mk book.name [("authors", .references []), ("id", .value (.integer 1))]

/-- An author whose home is given as it is stored. -/
def settled : Entity :=
  .mk author.name [("home", .value (.document [("city", .text "London")]))]

/-- A place with a number, which does not tell what it is. -/
def numberedAddress : TypeSchema where
  name := ⟨"NumberedAddress"⟩
  annotations := [.entity { noClassName := true }]
  fields := [plain "number" integer]
  superclass := some address.name

def housed : Entity :=
  .mk author.name [("home", .embedded (.mk numberedAddress.name [("number", .value (.integer 7))]))]

def numbering : Mapper where
  catalog := { registry := .ofTypes [address, numberedAddress, author] }

/-- Documents that are not written as they were read: an empty array that was left out comes back as
null where null is stored, a plain document in the place of an object gets a class name, and what an
object of a class without a class name has more than the declared class is lost. -/
theorem not_every_document_canonical :
    (Mapper.Plain { catalog := ⟨library, { storeNulls := true }⟩ } ∧ ∃ doc again,
      twice { catalog := ⟨library, { storeNulls := true }⟩ } folklore = some (doc, again) ∧
        Document.get? doc "authors" = none ∧ Document.get? again "authors" = some .null) ∧
    (Mapper.Plain { catalog := ⟨library, {}⟩ } ∧ ∃ doc again,
      twice { catalog := ⟨library, {}⟩ } settled = some (doc, again) ∧
        Document.get? doc "home" = some (.document [("city", .text "London")]) ∧
        Document.get? again "home" = some london) ∧
    numbering.Plain ∧ ∃ doc again, twice numbering housed = some (doc, again) ∧
      Document.get? doc "home" = some (.document [("number", .integer 7)]) ∧
      Document.get? again "home" = some (.document [("className", .text "Address")]) := by
  have entries : ∀ {mapper : Mapper} {entity : Entity} {key : String} {first second : Option Value},
      (twice mapper entity).map (fun docs => (Document.get? docs.1 key, Document.get? docs.2 key)) =
        some (first, second) →
      ∃ doc again, twice mapper entity = some (doc, again) ∧ Document.get? doc key = first ∧
        Document.get? again key = second := by
    intro mapper entity key first second found
    obtain ⟨⟨doc, again⟩, made, same⟩ := Option.map_eq_some_iff.mp found
    obtain ⟨isFirst, isSecond⟩ := Prod.mk.inj same
    exact ⟨doc, again, made, isFirst, isSecond⟩
  exact ⟨⟨plain_library _, entries (by decide +kernel)⟩,
    ⟨plain_library _, entries (by decide +kernel)⟩,
    ⟨Registry.named_ofTypes _, .of_methods_eq_nil rfl, rfl⟩, entries (by decide +kernel)⟩

end Samples

end DocMapper
