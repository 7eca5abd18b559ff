import DocMapper.Mapping.Decode
import DocMapper.Proofs.Discovery.Lawful
import DocMapper.Proofs.Discovery.Steady
import DocMapper.Proofs.Updates

/-!
# What decoding reads

Decoding asks the mapper for nothing but descriptors, so it is steady. A document is read exactly if
its class can be told and every field of the class can be read, and the properties of the object are
then what was read for its fields.
-/

namespace DocMapper.Catalog

variable {catalog : Catalog}

theorem steady_concreteClass (requested : ClassName) (doc : Document) :
    catalog.Steady (catalog.concreteClass requested doc) := by
  rw [concreteClass]
  split
  · exact steady_describe _
  · apply (steady_describe _).bind
    intro descriptor _
    split
    · exact steady_pure _
    · exact steady_throw _

theorem steady_target (field : MappedField) : catalog.Steady (catalog.target field) := by
  rw [target]
  split
  · exact steady_describe _
  · exact steady_throw _

/-- A link is read as the place that it names, or as an identifier in the collection of the
class. -/
theorem keyFor_eq_ok {field : MappedField} {target : Descriptor} {stored : Value} {key : Key} :
    keyFor field target stored = .ok key ↔ ∃ place : Pointer,
      key = ⟨target.className, place.collection, place.id⟩ ∧
        if field.pointerOptions.idOnly then place = ⟨target.collection, stored⟩
        else Pointer.ofValue stored = .ok place := by
  rw [keyFor]
  cases field.pointerOptions.idOnly with
  | true => simp [eq_comm]
  | false => cases Pointer.ofValue stored <;> simp [eq_comm]

theorem className_of_keyFor {field : MappedField} {target : Descriptor} {stored : Value} {key : Key}
    (made : keyFor field target stored = .ok key) : key.className = target.className := by
  obtain ⟨place, rfl, -⟩ := keyFor_eq_ok.mp made
  rfl

/-- The keys that a stored value stands for, once the class that it links to is described. -/
def keysFor (field : MappedField) (target : Descriptor) (stored : Value) :
    Except MapError (List Key) :=
  if field.isMultiple then
    match stored with
    | .array items => items.mapM (keyFor field target)
    | other => .error (.invalidDocument field.declaredBy
        (.misfit field.storedName other.kindName field.type))
  else do
    return [← keyFor field target stored]

theorem keysFor_eq_ok_of_single {field : MappedField} {target : Descriptor} {stored : Value}
    {keys : List Key} (single : field.isMultiple = false) :
    keysFor field target stored = .ok keys ↔
      ∃ key, keyFor field target stored = .ok key ∧ keys = [key] := by
  simp only [keysFor, single, Bool.false_eq_true, if_false]
  cases keyFor field target stored <;> simp [eq_comm]

/-- A field over many entities has a key for every item of its array. -/
theorem keysFor_eq_ok_of_multiple {field : MappedField} {target : Descriptor} {stored : Value}
    {keys : List Key} (multiple : field.isMultiple = true) :
    keysFor field target stored = .ok keys ↔
      ∃ items, stored = .array items ∧ items.mapM (keyFor field target) = .ok keys := by
  simp only [keysFor, multiple, if_true]
  cases stored <;> simp

theorem keys_eq (field : MappedField) (stored : Value) :
    catalog.keys field stored =
      (catalog.target field >>= fun target => Run.ofExcept (keysFor field target stored)) := by
  rw [keys]
  congr 1
  funext target
  simp only [keysFor]
  split
  · cases stored <;> rfl
  · cases keyFor field target stored <;> rfl

theorem steady_keys (field : MappedField) (stored : Value) :
    catalog.Steady (catalog.keys field stored) := by
  rw [keys_eq]
  exact (steady_target field).bind fun _ _ => steady_ofExcept _

theorem steady_decodeKeys (field : MappedField) (stored : Value) :
    catalog.Steady (catalog.decodeKeys field stored) := by
  rw [decodeKeys]
  split
  · exact steady_pure _
  · apply (steady_keys field stored).bind
    intro keys _
    split
    · exact steady_pure _
    · split <;> exact steady_pure _

theorem steady_readPlain (value : Value) (descriptor : Descriptor) (field : MappedField) :
    catalog.Steady (readPlain value descriptor field) := by
  rw [readPlain]
  split
  · exact steady_pure _
  · exact steady_throw _

theorem steady_readProperty {descriptor : Descriptor} {field : MappedField} {stored : Value}
    {decode : ValueDecoder} (h : catalog.Steady (decode descriptor field)) :
    catalog.Steady (catalog.readProperty descriptor field stored decode) := by
  rw [readProperty]
  split
  · exact steady_pure _
  · split
    · exact steady_decodeKeys field stored
    · exact h

theorem steady_readField {descriptor : Descriptor} {doc : Document}
    {decoders : List (String × ValueDecoder)} {entity : Entity} {field : MappedField}
    (h : ∀ key decode, decoders.lookup key = some decode →
      catalog.Steady (decode descriptor field)) :
    catalog.Steady (catalog.readField descriptor doc decoders entity field) := by
  rw [readField]
  split
  next stored decode _ found =>
    exact (steady_readProperty (h _ _ found)).bind fun _ _ => steady_pure _
  · exact steady_pure _

theorem steady_readEntity {descriptor : Descriptor} {doc : Document}
    {decoders : List (String × ValueDecoder)} {entity : Entity}
    (h : ∀ key decode, decoders.lookup key = some decode → ∀ descriptor field,
      catalog.Steady (decode descriptor field)) :
    catalog.Steady (catalog.readEntity descriptor doc decoders entity) :=
  (Steady.gives_foldlM fun _ field _ =>
    steady_readField fun key decode found => h key decode found descriptor field).steady

theorem steady_readObject {requested : ClassName} {doc : Document}
    {decoders : List (String × ValueDecoder)}
    (h : ∀ key decode, decoders.lookup key = some decode → ∀ descriptor field,
      catalog.Steady (decode descriptor field)) :
    catalog.Steady (catalog.readObject requested doc decoders) :=
  (steady_concreteClass requested doc).bind fun _ _ => steady_readEntity h

mutual

theorem steady_decodeValue : ∀ (value : Value) (descriptor : Descriptor) (field : MappedField),
    catalog.Steady (catalog.decodeValue value descriptor field)
  | .document entries, descriptor, field => by
    simp only [decodeValue]
    split
    · exact (steady_readObject (steady_valueDecoders entries)).bind fun _ _ => steady_pure _
    · exact steady_readPlain _ descriptor field
  | .array items, descriptor, field => by
    simp only [decodeValue]
    split
    · exact (steady_decodeObjects _ _ items).bind fun _ _ => steady_pure _
    · exact steady_readPlain _ descriptor field
  | .null, descriptor, field => steady_readPlain .null descriptor field
  | .bool b, descriptor, field => steady_readPlain (.bool b) descriptor field
  | .integer n, descriptor, field => steady_readPlain (.integer n) descriptor field
  | .text s, descriptor, field => steady_readPlain (.text s) descriptor field
  | .bytes bs, descriptor, field => steady_readPlain (.bytes bs) descriptor field
  | .id oid, descriptor, field => steady_readPlain (.id oid) descriptor field

theorem steady_decodeObjects : ∀ (target : ClassName) (fault : MapError) (items : List Value),
    catalog.Steady (catalog.decodeObjects target fault items)
  | _, _, [] => steady_pure _
  | target, fault, .document entries :: rest =>
    (steady_readObject (steady_valueDecoders entries)).bind fun _ _ =>
      (steady_decodeObjects target fault rest).bind fun _ _ => steady_pure _
  | _, fault, .null :: _ => steady_throw fault
  | _, fault, .bool _ :: _ => steady_throw fault
  | _, fault, .integer _ :: _ => steady_throw fault
  | _, fault, .text _ :: _ => steady_throw fault
  | _, fault, .bytes _ :: _ => steady_throw fault
  | _, fault, .id _ :: _ => steady_throw fault
  | _, fault, .array _ :: _ => steady_throw fault

theorem steady_valueDecoders : ∀ (entries : List (String × Value)) (key : String)
    (decode : ValueDecoder), (catalog.valueDecoders entries).lookup key = some decode →
      ∀ descriptor field, catalog.Steady (decode descriptor field)
  | [], _, _, h, _, _ => by simp [valueDecoders] at h
  | (name, value) :: rest, key, decode, h, descriptor, field => by
    rw [valueDecoders, List.lookup_cons] at h
    split at h
    · cases h
      exact steady_decodeValue value descriptor field
    · exact steady_valueDecoders rest key decode h descriptor field

end

/-! ### References -/

theorem answer_target_eq_ok {field : MappedField} {target : Descriptor} :
    answer (catalog.target field) = .ok target ↔
      ∃ name, field.target? = some name ∧ catalog.Describes name target := by
  rw [Catalog.target]
  cases field.target? with
  | none => simp
  | some name => simp [answer_describe_eq_ok]

theorem answer_keys_eq_ok {field : MappedField} {stored : Value} {keys : List Key} :
    answer (catalog.keys field stored) = .ok keys ↔ ∃ target,
      (∃ name, field.target? = some name ∧ catalog.Describes name target) ∧
        keysFor field target stored = .ok keys := by
  rw [keys_eq, (steady_target field).answer_bind_eq_ok fun _ _ => steady_ofExcept _]
  simp only [answer_target_eq_ok, answer_ofExcept]

def propertyOfKeys (field : MappedField) (keys : List Key) : Property :=
  if field.isMultiple then .references (keys.map .key)
  else (keys.head?.map Property.ofKey).getD .null

/-- Reading a value that is not null is looking for its keys. -/
theorem decodeKeys_eq {field : MappedField} {stored : Value} (present : stored.isNull = false) :
    catalog.decodeKeys field stored = propertyOfKeys field <$> catalog.keys field stored := by
  rw [map_eq_pure_bind]
  simp only [decodeKeys, propertyOfKeys, present, Bool.false_eq_true, if_false]
  congr 1
  funext keys
  split
  · rfl
  · cases keys <;> rfl

/-- A value that is not null is read as the references with its keys. -/
theorem answer_decodeKeys_eq_ok {field : MappedField} {stored : Value} {property : Property}
    (present : stored.isNull = false) :
    answer (catalog.decodeKeys field stored) = .ok property ↔
      ∃ keys, answer (catalog.keys field stored) = .ok keys ∧
        property = propertyOfKeys field keys := by
  rw [decodeKeys_eq present, answer_map, Result.map_eq_ok]
  simp only [eq_comm]

/-! ### The class of a document -/

/-- The class that a document is read as, if it is asked for as `requested`. -/
def ReadAs (catalog : Catalog) (requested : ClassName) (doc : Document)
    (descriptor : Descriptor) : Prop :=
  match (catalog.storedClassName? doc).filter (· ≠ requested) with
  | none => catalog.Describes requested descriptor
  | some stored =>
    catalog.Describes stored descriptor ∧ descriptor.isAssignableTo requested = true

theorem answer_concreteClass_eq_ok {requested : ClassName} {doc : Document}
    {descriptor : Descriptor} :
    answer (catalog.concreteClass requested doc) = .ok descriptor ↔
      catalog.ReadAs requested doc descriptor := by
  rw [concreteClass, ReadAs]
  cases (catalog.storedClassName? doc).filter (· ≠ requested) with
  | none => exact answer_describe_eq_ok
  | some stored =>
    have steady : ∀ found : Descriptor, catalog.Steady (if found.isAssignableTo requested
        then pure found
        else throw (.invalidDocument requested (.notAssignable stored requested))) := by
      intro found
      split
      · exact steady_pure _
      · exact steady_throw _
    rw [(steady_describe stored).answer_bind_eq_ok fun found _ => steady found]
    simp only [answer_describe_eq_ok]
    constructor
    · rintro ⟨found, described, given⟩
      split at given
      · cases given
        exact ⟨described, ‹_›⟩
      · cases given
    · rintro ⟨described, assignable⟩
      exact ⟨descriptor, described, by simp [assignable]⟩

theorem ReadAs.describes {requested : ClassName} {doc : Document} {descriptor : Descriptor}
    (h : catalog.ReadAs requested doc descriptor) :
    ∃ name, catalog.Describes name descriptor := by
  rw [ReadAs] at h
  split at h
  · exact ⟨_, h⟩
  · exact ⟨_, h.1⟩

/-- A class that a document is read under is described. -/
theorem ReadAs.exists_describes {requested : ClassName} {doc : Document} {descriptor : Descriptor}
    (h : catalog.ReadAs requested doc descriptor) (named : catalog.registry.Named) :
    ∃ target, catalog.Describes requested target := by
  rw [ReadAs] at h
  split at h
  · exact ⟨_, h⟩
  · exact h.1.of_ancestor (h.1.reaches_of_isAssignableTo named h.2)

/-! ### The properties of an object -/

/-- What a document holds for a field, if it holds anything. -/
def readingOf (catalog : Catalog) (descriptor : Descriptor) (doc : Document)
    (field : MappedField) : Except MapError (Option Property) :=
  match Document.get? doc field.storedName with
  | none => .ok none
  | some stored => do
    return some (← answer
      (catalog.readProperty descriptor field stored (catalog.decodeValue stored)))

section Reading

variable {descriptor : Descriptor} {doc : Document} {field : MappedField} {value : Value}

theorem readingOf_of_none (found : Document.get? doc field.storedName = none) :
    catalog.readingOf descriptor doc field = .ok none := by
  simp [readingOf, found]

theorem readingOf_of_null (found : Document.get? doc field.storedName = some .null) :
    catalog.readingOf descriptor doc field = .ok (some .null) := by
  simp [readingOf, found, readProperty, Value.isNull]

/-- A value that is not null is read by the declaration of its field. -/
theorem readingOf_of_some (found : Document.get? doc field.storedName = some value)
    (set : value.isNull = false) :
    catalog.readingOf descriptor doc field = (answer
      (if field.isReference then catalog.decodeKeys field value
        else catalog.decodeValue value descriptor field)).map some := by
  simp only [readingOf, found, readProperty, set, Bool.false_eq_true, if_false]
  generalize answer (if field.isReference then catalog.decodeKeys field value
    else catalog.decodeValue value descriptor field) = result
  cases result <;> rfl

end Reading

/-- Decoding is a sequence of updates of the properties. -/
theorem answer_readEntity (descriptor : Descriptor) (doc : Document) (entity : Entity) :
    answer (catalog.readEntity descriptor doc (catalog.valueDecoders doc) entity) =
      descriptor.fields.foldlM (fun current field => do
        let reading ← catalog.readingOf descriptor doc field
        return reading.elim current (current.set field.name)) entity := by
  rw [readEntity, (Steady.gives_foldlM fun _ field _ => steady_readField fun key decode found =>
    steady_valueDecoders doc key decode found descriptor field).answer_eq]
  congr 1
  funext current field
  rw [readField, lookup_valueDecoders, readingOf]
  cases Document.get? doc field.storedName with
  | none => rfl
  | some stored =>
    have steady : catalog.Steady
        (catalog.readProperty descriptor field stored (catalog.decodeValue stored)) :=
      steady_readProperty (steady_decodeValue stored descriptor field)
    simp only [Option.map_some, steady.answer_bind fun _ _ => steady_pure _]
    cases answer (catalog.readProperty descriptor field stored (catalog.decodeValue stored)) <;> rfl

/-- An object is read if its class can be told and its fields can be read. -/
theorem answer_readObject_eq_ok {requested : ClassName} {doc : Document} {entity : Entity} :
    answer (catalog.readObject requested doc (catalog.valueDecoders doc)) = .ok entity ↔
      ∃ descriptor, catalog.ReadAs requested doc descriptor ∧
        answer (catalog.readEntity descriptor doc (catalog.valueDecoders doc)
          (.empty descriptor.className)) = .ok entity := by
  rw [readObject, (steady_concreteClass requested doc).answer_bind_eq_ok fun _ _ =>
    steady_readEntity (steady_valueDecoders doc)]
  simp only [answer_concreteClass_eq_ok]

/-- Whether a document can be read depends on nothing but its class and each of its fields. -/
theorem exists_answer_readObject_iff {requested : ClassName} {doc : Document} :
    (∃ entity, answer (catalog.readObject requested doc (catalog.valueDecoders doc)) =
        .ok entity) ↔
      ∃ descriptor, catalog.ReadAs requested doc descriptor ∧
        ∀ field ∈ descriptor.fields, ∃ reading,
          catalog.readingOf descriptor doc field = .ok reading := by
  simp only [answer_readObject_eq_ok, answer_readEntity]
  constructor
  · rintro ⟨entity, descriptor, isClass, done⟩
    exact ⟨descriptor, isClass, exists_foldlM_updates_iff.mp ⟨entity, done⟩⟩
  · rintro ⟨descriptor, isClass, each⟩
    obtain ⟨entity, done⟩ := exists_foldlM_updates_iff.mpr each
    exact ⟨entity, descriptor, isClass, done⟩

/-- The properties of an object that was read from a document. -/
theorem readEntity_properties {descriptor : Descriptor} {doc : Document} {entity : Entity}
    (done : answer (catalog.readEntity descriptor doc (catalog.valueDecoders doc)
      (.empty descriptor.className)) = .ok entity)
    (names : (descriptor.fields.map MappedField.name).Nodup) :
    entity.className = descriptor.className ∧
      (∀ field ∈ descriptor.fields,
        catalog.readingOf descriptor doc field = .ok (entity.get? field.name)) ∧
      ∀ name property, entity.get? name = some property →
        ∃ field ∈ descriptor.fields, field.name = name := by
  rw [answer_readEntity] at done
  obtain ⟨readings, others⟩ := read_foldlM_updates Entity.get?_set_self
    (fun entity _ _ property apart => Entity.get?_set_of_ne entity apart property) done names
  refine ⟨?_, fun field member => ?_, fun name property found => ?_⟩
  · obtain ⟨_, -, rfl⟩ := foldlM_updates_eq_ok.mp done
    exact Entity.className_applyAll _ _
  · obtain ⟨reading, given, found⟩ := readings field member
    rw [given, found, Entity.get?_empty]
    cases reading <;> rfl
  · by_contra absent
    have unset := others name fun member => by
      obtain ⟨field, inClass, same⟩ := List.mem_map.mp member
      exact absent ⟨field, inClass, same⟩
    rw [found, Entity.get?_empty] at unset
    cases unset

/-! ### The value of a field -/

/-- Whether a value of a field is read as one object, or as many. Any other value stays as it is. -/
def readsObjects (field : MappedField) : Value → Bool
  | .document _ => match field.type with
    | .object _ => true
    | _ => false
  | .array _ => field.isMultiple && field.target?.isSome
  | _ => false

theorem decodeValue_of_plain {field : MappedField} {value : Value}
    (plain : readsObjects field value = false) (descriptor : Descriptor) :
    catalog.decodeValue value descriptor field = readPlain value descriptor field := by
  cases value with
  | document entries =>
    simp only [decodeValue]
    split
    next isObject => simp [readsObjects, isObject] at plain
    · rfl
  | array items =>
    simp only [decodeValue]
    split
    next isMultiple isObject => simp [readsObjects, isMultiple, isObject] at plain
    · rfl
  | _ => rfl

theorem answer_readPlain_eq_ok {value : Value} {descriptor : Descriptor} {field : MappedField}
    {property : Property} :
    answer (readPlain value descriptor field) = .ok property ↔
      field.type.fits value = true ∧ property = .value value := by
  rw [readPlain]
  split
  next fits =>
    simp only [answer_pure, Except.ok.injEq, fits, true_and]
    exact eq_comm
  next misfit => simp [misfit]

/-- A document in a field of a class is read as an object. -/
theorem answer_decodeValue_document {field : MappedField} {target : ClassName}
    (isObject : field.type = .object target) (descriptor : Descriptor) (entries : Document) :
    answer (catalog.decodeValue (.document entries) descriptor field) =
      (answer (catalog.readObject target entries (catalog.valueDecoders entries))).map
        .embedded := by
  simp only [decodeValue]
  split
  next name isObject' =>
    obtain rfl := FieldType.object.inj (isObject.symm.trans isObject')
    rw [(steady_readObject (steady_valueDecoders entries)).answer_bind fun _ _ => steady_pure _]
    cases answer (catalog.readObject target entries (catalog.valueDecoders entries)) <;> rfl
  next other => exact absurd isObject (other target)

/-- Items of an array are read as objects if all of them are documents that can be read. -/
theorem answer_decodeObjects_eq_ok {target : ClassName} {fault : MapError} {items : List Value}
    {entities : List Entity} :
    answer (catalog.decodeObjects target fault items) = .ok entities ↔
      List.Forall₂ (fun item entity => ∃ entries, item = .document entries ∧
        answer (catalog.readObject target entries (catalog.valueDecoders entries)) = .ok entity)
        items entities := by
  induction items generalizing entities with
  | nil => cases entities <;> simp [decodeObjects]
  | cons item rest ih =>
    cases item with
    | document entries =>
      rw [decodeObjects, (steady_readObject (steady_valueDecoders entries)).answer_bind_eq_ok
        fun _ _ => (steady_decodeObjects target fault rest).bind fun _ _ => steady_pure _]
      simp only [(steady_decodeObjects target fault rest).answer_bind_eq_ok
        fun _ _ => steady_pure _, ih, answer_pure, Except.ok.injEq]
      constructor
      · rintro ⟨entity, first, entities, others, rfl⟩
        exact .cons ⟨entries, rfl, first⟩ others
      · rintro (_ | ⟨⟨_, same, first⟩, others⟩)
        cases same
        exact ⟨_, first, _, others, rfl⟩
    | _ =>
      apply iff_of_false (by simp [decodeObjects])
      rintro (_ | ⟨⟨_, same, -⟩, -⟩)
      cases same

/-- An array in a field of objects is read as these objects. -/
theorem answer_decodeValue_array {field : MappedField} {target : ClassName}
    (multiple : field.isMultiple = true) (isObject : field.target? = some target)
    (descriptor : Descriptor) (items : List Value) :
    ∃ fault, answer (catalog.decodeValue (.array items) descriptor field) =
      (answer (catalog.decodeObjects target fault items)).map .embeddedList := by
  refine ⟨.invalidDocument descriptor.className
    (.misfit field.storedName (Value.array items).kindName field.type), ?_⟩
  rw [decodeValue]
  simp only [multiple, isObject]
  rw [(steady_decodeObjects _ _ items).answer_bind fun _ _ => steady_pure _]
  cases answer (catalog.decodeObjects target _ items) <;> rfl

/-! ### Whole documents -/

theorem decodeDocument_eq (requested : ClassName) (doc : Document) :
    catalog.decodeDocument requested doc =
      catalog.readObject requested doc (catalog.valueDecoders doc) := rfl

theorem steady_decodeInto (descriptor : Descriptor) (entity : Entity) (doc : Document) :
    catalog.Steady (catalog.decodeInto descriptor entity doc) :=
  steady_readEntity (steady_valueDecoders doc)

theorem steady_decodeDocument (requested : ClassName) (doc : Document) :
    catalog.Steady (catalog.decodeDocument requested doc) :=
  steady_readObject (steady_valueDecoders doc)

/-- Once the class of a document is told, it does not matter what it was asked for as. -/
theorem answer_decodeDocument_of_readAs {requested : ClassName} {doc : Document}
    {descriptor : Descriptor} (isClass : catalog.ReadAs requested doc descriptor) :
    answer (catalog.decodeDocument requested doc) =
      answer (catalog.decodeInto descriptor (.empty descriptor.className) doc) := by
  rw [decodeDocument, (steady_concreteClass requested doc).answer_bind fun _ _ =>
    steady_decodeInto _ _ _, answer_concreteClass_eq_ok.mpr isClass, Result.ok_bind]

end DocMapper.Catalog
