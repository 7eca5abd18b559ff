import DocMapper.Proofs.Conversion.Encoded
import DocMapper.Proofs.Value.Keys

/-!
# The order of a document

The keys of a document stand in the order in which they were written: the identifier, the name of
the class, then the fields in the order of the class. `keysOf` are the keys that documents of a
class may have, and `layout` are those that the document of one object has.
-/

namespace DocMapper

namespace Catalog

/-- The keys of a document of a class, in their order. -/
def keysOf (catalog : Catalog) (descriptor : Descriptor) : List String :=
  (if descriptor.idField?.isSome then [idField] else []) ++
    (if descriptor.storesClassName then [catalog.options.classNameKey] else []) ++
      (descriptor.fields.filter (!·.isId)).map MappedField.storedName

/-- Whether a field of an object shows in a document: it can be written and is not left out. -/
def isWritten (catalog : Catalog) (object : Entity) (field : MappedField) : Bool :=
  match answer (catalog.propertyValue field ((object.get? field.name).getD .null)) with
  | .ok value => catalog.options.keeps value
  | .error _ => false

/-- The keys of the document of an object, in their order: the identifier if the object has an
identity, the key of the class name if it is stored, and the fields that are not left out. -/
def layout (catalog : Catalog) (descriptor : Descriptor) (object : Entity) : List String :=
  (if (descriptor.idValue? object).isSome then [idField] else []) ++
    (if descriptor.storesClassName then [catalog.options.classNameKey] else []) ++
      ((descriptor.fields.filter (!·.isId)).filter (catalog.isWritten object)).map
        MappedField.storedName

end Catalog

/-! ### The order of entries -/

namespace Document

variable {keys : List String} {doc other : Document} {key : String} {value : Value}

/-- Updates under new keys come last, in their order; a key without a value does not come at all. -/
theorem keys_applyAll {updates : List (String × Option Value)}
    (distinct : (Document.keys doc ++ updates.map Prod.fst).Nodup) :
    Document.keys (applyAll Document.insert updates doc) =
      Document.keys doc ++ (updates.filter (·.2.isSome)).map Prod.fst := by
  induction updates generalizing doc with
  | nil => simp [applyAll]
  | cons update rest ih =>
    obtain ⟨key, value⟩ := update
    rw [List.map_cons, List.append_cons] at distinct
    obtain ⟨start, -, -⟩ := List.nodup_append.mp distinct
    cases value with
    | none =>
      have without : (Document.keys doc ++ rest.map Prod.fst).Nodup :=
        distinct.sublist ((List.sublist_append_left _ _).append (List.Sublist.refl _))
      simpa [applyAll] using ih without
    | some value =>
      have fresh : key ∉ Document.keys doc := fun member =>
        (List.nodup_append.mp start).2.2 key member key (List.mem_singleton_self _) rfl
      have inserted : Document.keys (Document.insert doc key value) = Document.keys doc ++ [key] :=
        keys_insert_of_not_mem fresh
      have later : (Document.keys (Document.insert doc key value) ++ rest.map Prod.fst).Nodup := by
        rwa [inserted]
      simpa [applyAll, inserted] using ih later

/-- Documents with the same values under the same keys are the same if both have their entries in
one order. -/
theorem eq_of_sublist (distinct : keys.Nodup) (arranged : (Document.keys doc).Sublist keys)
    (arranged' : (Document.keys other).Sublist keys)
    (same : ∀ key ∈ keys, Document.get? doc key = Document.get? other key) : doc = other := by
  induction keys generalizing doc other with
  | nil =>
    rw [List.sublist_nil, Document.keys, List.map_eq_nil_iff] at arranged arranged'
    rw [arranged, arranged']
  | cons key rest ih =>
    obtain ⟨fresh, distinct⟩ := List.nodup_cons.mp distinct
    -- Either the key is the first of a document, or the document does not have it.
    have split : ∀ doc : Document, (Document.keys doc).Sublist (key :: rest) →
        (Document.get? doc key = none ∧ (Document.keys doc).Sublist rest) ∨
          ∃ value tail, doc = (key, value) :: tail ∧ (Document.keys tail).Sublist rest := by
      intro doc arranged
      rcases List.sublist_cons_iff.mp arranged with later | ⟨tail, isKeys, later⟩
      · exact .inl ⟨get?_eq_none_of_not_mem fun member => fresh (later.subset member), later⟩
      · obtain ⟨⟨name, value⟩, tail, rfl, rfl, rfl⟩ := List.map_eq_cons_iff.mp isKeys
        exact .inr ⟨value, tail, rfl, later⟩
    have first := same key List.mem_cons_self
    rcases split doc arranged with ⟨absent, later⟩ | ⟨value, tail, rfl, later⟩ <;>
      rcases split other arranged' with ⟨absent', later'⟩ | ⟨value', tail', rfl, later'⟩
    · exact ih distinct later later' fun name member => same name (List.mem_cons_of_mem _ member)
    · rw [absent] at first
      simp [Document.get?] at first
    · rw [absent'] at first
      simp [Document.get?] at first
    · obtain rfl : value = value' := by simpa [Document.get?] using first
      rw [ih distinct later later' fun name member => ?_]
      have differs : (name == key) = false := by
        simpa using fun isKey : name = key => fresh (isKey ▸ member)
      simpa [Document.get?, List.lookup_cons, differs] using
        same name (List.mem_cons_of_mem _ member)

end Document

namespace Catalog

variable {catalog : Catalog} {name : ClassName} {descriptor : Descriptor} {doc : Document}
  {object : Entity}

/-- The identifier is stored as a field is, so the class name is not stored in its place. -/
theorem idField_ne_classNameKey {idOwner : MappedField}
    (described : catalog.Describes name descriptor)
    (apart : ∀ field ∈ descriptor.fields, field.storedName ≠ catalog.options.classNameKey)
    (isId : descriptor.idField? = some idOwner) : idField ≠ catalog.options.classNameKey := by
  obtain ⟨member, marked⟩ := Descriptor.idField?_spec isId
  exact described.storedName_of_isId member marked ▸ apart idOwner member

theorem nodup_keysOf (described : catalog.Describes name descriptor)
    (apart : ∀ field ∈ descriptor.fields, field.storedName ≠ catalog.options.classNameKey) :
    (catalog.keysOf descriptor).Nodup := by
  have distinct : ((descriptor.fields.filter (!·.isId)).map MappedField.storedName).Nodup :=
    described.nodup_storedNames.sublist (List.filter_sublist.map _)
  have noName : catalog.options.classNameKey ∉
      (descriptor.fields.filter (!·.isId)).map MappedField.storedName := by
    intro member
    obtain ⟨field, kept, same⟩ := List.mem_map.mp member
    exact apart field (List.mem_filter.mp kept).1 same
  cases isId : descriptor.idField? with
  | none =>
    cases stores : descriptor.storesClassName <;> simp [keysOf, isId, stores, distinct]
    simpa using noName
  | some idOwner =>
    obtain ⟨member, marked⟩ := Descriptor.idField?_spec isId
    have isStored := described.storedName_of_isId member marked
    have noId : idField ∉ (descriptor.fields.filter (!·.isId)).map MappedField.storedName := by
      intro inOthers
      obtain ⟨field, kept, same⟩ := List.mem_map.mp inOthers
      obtain ⟨member', unmarked⟩ := List.mem_filter.mp kept
      rw [described.eq_of_storedName member' member (same.trans isStored.symm), marked] at unmarked
      cases unmarked
    have differs := idField_ne_classNameKey described apart isId
    cases stores : descriptor.storesClassName <;>
      simp [keysOf, isId, stores, distinct, differs] <;> simp_all

/-- What identifies an entity stands in front: its identity, then the name of its class. -/
theorem keys_writeIdentity (described : catalog.Describes name descriptor)
    (apart : ∀ field ∈ descriptor.fields, field.storedName ≠ catalog.options.classNameKey) :
    Document.keys (catalog.writeIdentity descriptor object []) =
      (if (descriptor.idValue? object).isSome then [idField] else []) ++
        if descriptor.storesClassName then [catalog.options.classNameKey] else [] := by
  rw [writeIdentity]
  cases set : descriptor.idValue? object with
  | none => cases descriptor.storesClassName <;> rfl
  | some id =>
    obtain ⟨idOwner, isId⟩ := exists_idField?_of_idValue? set
    have differs := idField_ne_classNameKey described apart isId
    cases descriptor.storesClassName with
    | false => rfl
    | true =>
      exact Document.keys_insert_of_not_mem fun member =>
        differs (List.mem_singleton.mp member).symm

/-- Only objects of a class with an identity field have an identity. -/
private theorem idKey_sublist (object : Entity) :
    (if (descriptor.idValue? object).isSome then [idField] else []).Sublist
      (if descriptor.idField?.isSome then [idField] else []) := by
  cases set : descriptor.idValue? object with
  | none => exact List.nil_sublist _
  | some id =>
    obtain ⟨idOwner, isId⟩ := exists_idField?_of_idValue? set
    rw [isId]
    exact List.Sublist.refl _

/-- The document of an object has no keys but those of its class, in the same order. -/
theorem layout_sublist_keysOf (object : Entity) :
    (catalog.layout descriptor object).Sublist (catalog.keysOf descriptor) :=
  ((idKey_sublist object).append (List.Sublist.refl _)).append (List.filter_sublist.map _)

theorem isWritten_eq {field : MappedField} {entry : Option Value}
    (given : catalog.entryOf object field = .ok entry) :
    catalog.isWritten object field = entry.isSome := by
  obtain ⟨value, isValue, rfl⟩ := entryOf_eq_ok.mp given
  simp only [isWritten, isValue]
  cases catalog.options.keeps value <;> rfl

/-- The fields that have an entry are those that are written. -/
private theorem keys_of_entries {fields : List MappedField} {entries : List (Option Value)}
    (given : List.Forall₂ (fun field entry => catalog.entryOf object field = .ok entry)
      fields entries) :
    (((fields.map MappedField.storedName).zip entries).filter (·.2.isSome)).map Prod.fst =
      (fields.filter (catalog.isWritten object)).map MappedField.storedName := by
  induction given with
  | nil => rfl
  | cons here _ ih =>
    have written := isWritten_eq here
    rw [List.map_cons, List.zip_cons_cons, List.filter_cons, List.filter_cons, written]
    split <;> simp [ih]

/-- An object is written in its layout. -/
theorem keys_eq_layout (described : catalog.Describes name descriptor)
    (apart : ∀ field ∈ descriptor.fields, field.storedName ≠ catalog.options.classNameKey)
    (encoded : answer (catalog.encodeInto descriptor object []) = .ok doc) :
    Document.keys doc = catalog.layout descriptor object := by
  rw [answer_encodeInto] at encoded
  obtain ⟨entries, given, rfl⟩ := foldlM_updates_eq_ok.mp encoded
  have names : (((descriptor.fields.filter (!·.isId)).map MappedField.storedName).zip entries).map
      Prod.fst = (descriptor.fields.filter (!·.isId)).map MappedField.storedName :=
    List.map_fst_zip (by simp [given.length_eq])
  rw [Document.keys_applyAll, keys_writeIdentity described apart, keys_of_entries given, layout]
  rw [keys_writeIdentity described apart, names]
  exact (nodup_keysOf described apart).sublist
    (((idKey_sublist object).append (List.Sublist.refl _)).append (List.Sublist.refl _))

theorem sublist_keysOf (described : catalog.Describes name descriptor)
    (apart : ∀ field ∈ descriptor.fields, field.storedName ≠ catalog.options.classNameKey)
    (encoded : answer (catalog.encodeInto descriptor object []) = .ok doc) :
    (Document.keys doc).Sublist (catalog.keysOf descriptor) :=
  keys_eq_layout described apart encoded ▸ layout_sublist_keysOf object

end Catalog

end DocMapper
