import DocMapper.Proofs.Conversion.Reading
import DocMapper.Proofs.Hook.Plain

/-!
# Which documents can be read

`Legible` says of a document what it must look like to be read as an object of a class: the class it
announces, the shape of what is stored for each field, and the same for the documents inside it. It
is exactly the condition under which decoding succeeds. Encoding does not look at the declared type
of a field that holds embedded objects, so it writes documents that are not legible.
-/

namespace DocMapper

namespace MappedField

/-- Whether a value has the form in which the field stores a reference. -/
def IsLink (field : MappedField) (value : Value) : Prop :=
  field.pointerOptions.idOnly = true ∨ ∃ pointer, Pointer.ofValue value = .ok pointer

end MappedField

namespace Catalog

variable {catalog : Catalog}

/-- Whether a stored value can be read as the references of a field. -/
def IsLinks (catalog : Catalog) (field : MappedField) (stored : Value) : Prop :=
  (∃ name target, field.target? = some name ∧ catalog.Describes name target) ∧
    if field.isMultiple then ∃ items, stored = .array items ∧ ∀ item ∈ items, field.IsLink item
    else field.IsLink stored

/-- The documents that can be read as objects of a class. -/
inductive Legible (catalog : Catalog) : ClassName → Document → Prop
  | intro {requested : ClassName} {doc : Document} {descriptor : Descriptor}
      (isClass : catalog.ReadAs requested doc descriptor)
      (links : ∀ field ∈ descriptor.fields, ∀ value,
        Document.get? doc field.storedName = some value → value.isNull = false →
          field.isReference = true → catalog.IsLinks field value)
      (plain : ∀ field ∈ descriptor.fields, ∀ value,
        Document.get? doc field.storedName = some value → value.isNull = false →
          field.isReference = false → readsObjects field value = false →
            field.type.fits value = true)
      (object : ∀ field ∈ descriptor.fields, ∀ entries target,
        Document.get? doc field.storedName = some (.document entries) →
          field.isReference = false → field.type = .object target → Legible catalog target entries)
      (documents : ∀ field ∈ descriptor.fields, ∀ items target,
        Document.get? doc field.storedName = some (.array items) → field.isReference = false →
          field.isMultiple = true → field.target? = some target →
            ∀ item ∈ items, ∃ entries, item = .document entries)
      (objects : ∀ field ∈ descriptor.fields, ∀ items target,
        Document.get? doc field.storedName = some (.array items) → field.isReference = false →
          field.isMultiple = true → field.target? = some target →
            ∀ entries, .document entries ∈ items → Legible catalog target entries) :
      Legible catalog requested doc

/-! ### References -/

theorem exists_keyFor_iff {field : MappedField} {target : Descriptor} {stored : Value} :
    (∃ key, keyFor field target stored = .ok key) ↔ field.IsLink stored := by
  rw [keyFor, MappedField.IsLink]
  cases field.pointerOptions.idOnly <;> cases Pointer.ofValue stored <;> simp

theorem exists_keysFor_iff {field : MappedField} {target : Descriptor} {stored : Value} :
    (∃ keys, keysFor field target stored = .ok keys) ↔
      if field.isMultiple then ∃ items, stored = .array items ∧ ∀ item ∈ items, field.IsLink item
      else field.IsLink stored := by
  simp only [keysFor]
  split
  · cases stored with
    | array items =>
      simp only [Result.mapM_eq_ok, Result.exists_forall₂_iff, exists_keyFor_iff,
        Value.array.injEq, exists_eq_left']
    | _ => simp
  · rw [← @exists_keyFor_iff field target]
    cases keyFor field target stored <;> simp

/-- References can be read exactly if their class is described and the value has their form. -/
theorem exists_answer_keys_iff {field : MappedField} {stored : Value} :
    (∃ keys, answer (catalog.keys field stored) = .ok keys) ↔ catalog.IsLinks field stored := by
  simp only [answer_keys_eq_ok, IsLinks]
  constructor
  · rintro ⟨keys, target, ⟨name, named, described⟩, made⟩
    exact ⟨⟨name, target, named, described⟩, exists_keysFor_iff.mp ⟨keys, made⟩⟩
  · rintro ⟨⟨name, target, named, described⟩, formed⟩
    obtain ⟨keys, made⟩ := (@exists_keysFor_iff field target stored).mpr formed
    exact ⟨keys, target, ⟨name, named, described⟩, made⟩

/-! ### Fields -/

/-- A value can be read into a plain field exactly if it fits the field as it stands, or is made of
documents that can be read as objects of the field. -/
theorem exists_answer_decodeValue_iff {descriptor : Descriptor} {field : MappedField}
    {value : Value} :
    (∃ property, answer (catalog.decodeValue value descriptor field) = .ok property) ↔
      (readsObjects field value = false → field.type.fits value = true) ∧
      (∀ entries target, value = .document entries → field.type = .object target →
        ∃ entity, answer (catalog.readObject target entries (catalog.valueDecoders entries)) =
          .ok entity) ∧
      ∀ items target, value = .array items → field.isMultiple = true →
        field.target? = some target → ∀ item ∈ items, ∃ entries, item = .document entries ∧
          ∃ entity, answer (catalog.readObject target entries (catalog.valueDecoders entries)) =
            .ok entity := by
  cases reads : readsObjects field value with
  | false =>
    have single : ∀ entries target, value = .document entries → field.type ≠ .object target := by
      rintro entries target rfl isObject
      simp [readsObjects, isObject] at reads
    have many : ∀ items target, value = .array items → field.isMultiple = true →
        field.target? ≠ some target := by
      rintro items target rfl multiple isObject
      simp [readsObjects, multiple, isObject] at reads
    rw [decodeValue_of_plain reads]
    simp only [answer_readPlain_eq_ok, exists_and_left, exists_eq, and_true, true_implies]
    constructor
    · intro fits
      exact ⟨fits, fun entries target isDocument isObject =>
        absurd isObject (single entries target isDocument),
        fun items target isArray multiple isObject =>
          absurd isObject (many items target isArray multiple)⟩
    · exact fun h => h.1
  | true =>
    cases value with
    | document entries =>
      obtain ⟨target, isObject⟩ : ∃ target, field.type = .object target := by
        cases type : field.type <;> simp [readsObjects, type] at reads ⊢
      rw [answer_decodeValue_document isObject, Result.exists_map_eq_ok_iff]
      simp [isObject]
    | array items =>
      obtain ⟨multiple, target, isObject⟩ : field.isMultiple = true ∧
          ∃ target, field.target? = some target := by
        simpa [readsObjects, Option.isSome_iff_exists] using reads
      obtain ⟨fault, same⟩ :=
        @answer_decodeValue_array catalog field target multiple isObject descriptor items
      rw [same, Result.exists_map_eq_ok_iff]
      simp only [answer_decodeObjects_eq_ok, Result.exists_forall₂_iff]
      constructor
      · intro each
        refine ⟨by simp, by simp, ?_⟩
        rintro _ _ ⟨⟩ - isObject' item member
        obtain rfl := Option.some.inj (isObject.symm.trans isObject')
        obtain ⟨entity, entries, isDocument, read⟩ := each item member
        exact ⟨entries, isDocument, entity, read⟩
      · rintro ⟨-, -, each⟩ item member
        obtain ⟨entries, isDocument, entity, read⟩ :=
          each items target rfl multiple isObject item member
        exact ⟨entity, entries, isDocument, read⟩
    | _ => simp [readsObjects] at reads

/-- A field of a document can be read unless a value that is not null stands against it. -/
theorem exists_readingOf_iff {descriptor : Descriptor} {doc : Document} {field : MappedField} :
    (∃ reading, catalog.readingOf descriptor doc field = .ok reading) ↔
      ∀ value, Document.get? doc field.storedName = some value → value.isNull = false →
        (field.isReference = true → catalog.IsLinks field value) ∧
        (field.isReference = false → ∃ property,
          answer (catalog.decodeValue value descriptor field) = .ok property) := by
  rw [readingOf]
  cases Document.get? doc field.storedName with
  | none => simp
  | some value =>
    simp only [Option.some.injEq, forall_eq']
    rw [readProperty]
    cases isNull : value.isNull with
    | true => simp
    | false =>
      cases reference : field.isReference with
      | true =>
        have keys := @answer_decodeKeys_eq_ok catalog field value
        simp [← exists_answer_keys_iff, Result.bind_eq_ok, keys isNull]
      | false => simp [Result.bind_eq_ok]

/-! ### Documents -/

/-- A document is read as an object of a class exactly if it is legible. The induction is on the
document in one direction and on its legibility in the other. -/
theorem exists_answer_readObject_iff_legible {requested : ClassName} {doc : Document} :
    (∃ entity, answer (catalog.readObject requested doc (catalog.valueDecoders doc)) =
      .ok entity) ↔ catalog.Legible requested doc := by
  constructor
  · induction size : sizeOf doc using Nat.strongRecOn generalizing requested doc with
    | ind n ih =>
      intro read
      obtain ⟨descriptor, isClass, each⟩ := exists_answer_readObject_iff.mp read
      have fields : ∀ field ∈ descriptor.fields, ∀ value,
          Document.get? doc field.storedName = some value → value.isNull = false →
          (field.isReference = true → catalog.IsLinks field value) ∧
          (field.isReference = false → _) := fun field member value found present => by
        have := exists_readingOf_iff.mp (each field member) value found present
        rwa [exists_answer_decodeValue_iff] at this
      refine .intro isClass ?_ ?_ ?_ ?_ ?_
      · exact fun field member value found present => (fields field member value found present).1
      · exact fun field member value found present noReference =>
          ((fields field member value found present).2 noReference).1
      · intro field member entries target found noReference isObject
        have smaller := sizeOf_lt_of_get? found
        simp only [Value.document.sizeOf_spec] at smaller
        exact ih _ (by omega) rfl
          (((fields field member _ found rfl).2 noReference).2.1 entries target rfl isObject)
      · intro field member items target found noReference multiple isObject item inItems
        obtain ⟨entries, isDocument, -⟩ := ((fields field member _ found rfl).2 noReference).2.2
          items target rfl multiple isObject item inItems
        exact ⟨entries, isDocument⟩
      · intro field member items target found noReference multiple isObject entries inItems
        obtain ⟨_, same, read⟩ := ((fields field member _ found rfl).2 noReference).2.2
          items target rfl multiple isObject _ inItems
        cases same
        have smaller := sizeOf_lt_of_get? found
        have inside := List.sizeOf_lt_of_mem inItems
        simp only [Value.document.sizeOf_spec, Value.array.sizeOf_spec] at smaller inside
        exact ih _ (by omega) rfl read
  · intro legible
    induction legible with
    | intro isClass links plain _ documents _ objectRead objectsRead =>
      refine exists_answer_readObject_iff.mpr ⟨_, isClass, fun field member => ?_⟩
      refine exists_readingOf_iff.mpr fun value found present => ⟨?_, fun noReference => ?_⟩
      · exact links field member value found present
      · refine exists_answer_decodeValue_iff.mpr ⟨?_, ?_, ?_⟩
        · exact plain field member value found present noReference
        · rintro entries target rfl isObject
          exact objectRead field member entries target found noReference isObject
        · rintro items target rfl multiple isObject item inItems
          obtain ⟨entries, rfl⟩ :=
            documents field member items target found noReference multiple isObject item inItems
          exact ⟨entries, rfl, objectsRead field member items target found noReference multiple
            isObject entries inItems⟩

end Catalog

end DocMapper
