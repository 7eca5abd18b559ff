import DocMapper.Proofs.Conversion.Reading
import DocMapper.Proofs.Discovery.Alike

/-!
# Reading does not look at lazy marks

For alike catalogs a document is of alike classes, a stored value of a field means the same, and so
every document is read as the same object or can be read for neither.
-/

namespace DocMapper.Catalog

variable {catalog other : Catalog} {field field' : MappedField} {value : Value}
  {property : Property} {requested : ClassName} {doc : Document} {descriptor : Descriptor}
  {entity : Entity}

theorem ReadAs.exists_alike (isClass : catalog.ReadAs requested doc descriptor)
    (alike : catalog.Alike other) (named : catalog.registry.Named) :
    ∃ descriptor', other.ReadAs requested doc descriptor' ∧ descriptor.Alike descriptor' := by
  have sameName : other.storedClassName? doc = catalog.storedClassName? doc := by
    rw [storedClassName?, storedClassName?, alike.options]
  rw [ReadAs] at isClass
  simp only [ReadAs, sameName]
  split at isClass
  · exact isClass.exists_alike alike
  · obtain ⟨described, assignable⟩ := isClass
    obtain ⟨descriptor', described', same⟩ := described.exists_alike alike
    exact ⟨descriptor',
      ⟨described', described.isAssignableTo_of_alike named alike described' assignable⟩, same⟩

/-! ### Keys -/

theorem keyFor_of_alike (same : field.Alike field') {target target' : Descriptor}
    (sameTarget : target.Alike target') (stored : Value) :
    keyFor field' target' stored = keyFor field target stored := by
  rw [keyFor, keyFor, same.idOnly, sameTarget.className, sameTarget.collection]

theorem keysFor_of_alike (same : field.Alike field') {target target' : Descriptor}
    (sameTarget : target.Alike target') (stored : Value) :
    keysFor field' target' stored = keysFor field target stored := by
  have each : keyFor field' target' = keyFor field target :=
    funext fun stored => keyFor_of_alike same sameTarget stored
  simp only [keysFor, each, same.isMultiple, same.declaredBy, same.storedName, same.type]

theorem answer_keys_of_alike (alike : catalog.Alike other) (same : field.Alike field')
    {keys : List Key} (linked : answer (catalog.keys field value) = .ok keys) :
    answer (other.keys field' value) = .ok keys := by
  obtain ⟨target, ⟨name, named, described⟩, given⟩ := answer_keys_eq_ok.mp linked
  obtain ⟨target', described', sameTarget⟩ := described.exists_alike alike
  exact answer_keys_eq_ok.mpr ⟨target', ⟨name, same.target?.trans named, described'⟩,
    (keysFor_of_alike same sameTarget value).trans given⟩

theorem answer_keys_iff_of_alike (alike : catalog.Alike other) (same : field.Alike field')
    {keys : List Key} : answer (catalog.keys field value) = .ok keys ↔
      answer (other.keys field' value) = .ok keys :=
  ⟨answer_keys_of_alike alike same, answer_keys_of_alike alike.symm same.symm⟩

/-! ### Values and documents -/

theorem propertyOfKeys_of_alike (same : field.Alike field') (keys : List Key) :
    propertyOfKeys field' keys = propertyOfKeys field keys := by
  rw [propertyOfKeys, propertyOfKeys, same.isMultiple]

theorem readsObjects_of_alike (same : field.Alike field') (value : Value) :
    readsObjects field' value = readsObjects field value := by
  cases value <;> simp [readsObjects, same.type, same.isMultiple, same.target?]

/-- A stored value means the same, as long as the documents inside are read as the same objects. -/
theorem Means.of_alike (means : catalog.Means field value property) (alike : catalog.Alike other)
    (same : field.Alike field')
    (each : ∀ target entries part, Nests field value target entries →
      answer (catalog.decodeDocument target entries) = .ok part →
        answer (other.decodeDocument target entries) = .ok part) :
    other.Means field' value property := by
  cases means with
  | null => exact .null
  | links isReference set linked =>
    rw [← propertyOfKeys_of_alike same]
    exact .links (same.isReference.trans isReference) set (answer_keys_of_alike alike same linked)
  | plain noReference set asItStands fits =>
    exact .plain (same.isReference.trans noReference) set
      ((readsObjects_of_alike same _).trans asItStands) (same.type ▸ fits)
  | object noReference isObject read =>
    exact .object (same.isReference.trans noReference) (same.type.trans isObject)
      (each _ _ _ (.object noReference isObject) read)
  | objects noReference multiple isObject read =>
    refine .objects (same.isReference.trans noReference) (same.isMultiple.trans multiple)
      (same.target?.trans isObject) ?_
    have members := (List.forall₂_and_left _ _).mpr ⟨fun item (member : item ∈ _) => member, read⟩
    refine members.imp ?_
    rintro _ _ ⟨member, entries, rfl, read⟩
    exact ⟨entries, rfl, each _ _ _ (.objects noReference multiple isObject member) read⟩

/-- What can be read is read as the same object. The induction is on the document. -/
theorem answer_decodeDocument_of_alike (alike : catalog.Alike other)
    (named : catalog.registry.Named)
    (read : answer (catalog.decodeDocument requested doc) = .ok entity) :
    answer (other.decodeDocument requested doc) = .ok entity := by
  induction size : sizeOf doc using Nat.strongRecOn generalizing requested doc entity with
  | ind n ih =>
    obtain ⟨descriptor, isClass⟩ := exists_readAs read
    obtain ⟨descriptor', isClass', same⟩ := isClass.exists_alike alike named
    rw [answer_decodeDocument_of_readAs isClass, decodeInto, answer_readEntity,
      foldlM_updates_eq_ok] at read
    rw [answer_decodeDocument_of_readAs isClass', decodeInto, answer_readEntity,
      foldlM_updates_eq_ok]
    obtain ⟨readings, all, rfl⟩ := read
    have sameNames : descriptor'.fields.map MappedField.name =
        descriptor.fields.map MappedField.name := same.map_fields fun _ _ alike => alike.name
    refine ⟨readings, ?_, by rw [sameNames, same.className]⟩
    have fields : List.Forall₂ (fun field' field => MappedField.Alike field field')
        descriptor'.fields descriptor.fields := same.fields.flip
    refine (Result.forall₂_exists_iff.mpr ⟨_, fields, all⟩).imp ?_
    rintro field' reading ⟨field, sameField, given⟩
    rw [readingOf_eq_ok] at given ⊢
    rw [sameField.storedName]
    cases found : Document.get? doc field.storedName with
    | none =>
      rw [found] at given
      cases given with
      | none => exact .none
    | some value =>
      rw [found] at given
      cases given with
      | some means =>
        exact .some (means.of_alike alike sameField fun _ _ _ nests read =>
          ih _ (size ▸ nests.sizeOf_lt found) read rfl)

theorem answer_decodeDocument_iff_of_alike (alike : catalog.Alike other)
    (named : catalog.registry.Named) :
    answer (catalog.decodeDocument requested doc) = .ok entity ↔
      answer (other.decodeDocument requested doc) = .ok entity :=
  ⟨answer_decodeDocument_of_alike alike named,
    answer_decodeDocument_of_alike alike.symm (alike.registry.named named)⟩

end DocMapper.Catalog
