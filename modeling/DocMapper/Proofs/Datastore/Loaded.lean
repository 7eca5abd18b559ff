import DocMapper.Datastore.Basic
import DocMapper.Proofs.Conversion.Reading

/-!
# Loaded entities

A loaded entity is what its document is decoded as, with followed references in place of the keys in
the eager fields (`Loaded`). So it differs from the decoded one in these fields only, and holds no
key in them.
-/

namespace DocMapper

/-- Whether the reference was followed, be it to find that nothing is there. -/
def Reference.isFollowed : Reference → Bool
  | .key _ => false
  | .resolved _ | .missing _ => true

/-- Whether the property is what following references leaves: null, or references that were
followed. -/
def Property.isFollowed : Property → Bool
  | .null => true
  | .reference ref => ref.isFollowed
  | .references refs => refs.all Reference.isFollowed
  | .value _ | .embedded _ | .embeddedList _ => false

namespace Mapper

/-- What following the references of a field sets in an entity: followed references, if the document
has anything for the field. -/
def Replaces (doc : Document) (field : MappedField) (followed : Option Property) : Prop :=
  followed.isSome = (Document.get? doc field.storedName).isSome ∧
    ∀ property ∈ followed, property.isFollowed = true

/-- The entity is what a document is decoded as, with followed references in its eager fields. -/
inductive Loaded (mapper : Mapper) (requested : ClassName) (doc : Document) : Entity → Prop
  | intro {descriptor : Descriptor} {decoded : Entity} {followed : List (Option Property)}
      (isClass : mapper.catalog.ReadAs requested doc descriptor)
      (decodes : Catalog.answer (mapper.catalog.decodeDocument requested doc) = .ok decoded)
      (follows : List.Forall₂ (Replaces doc) (descriptor.fields.filter isEager) followed) :
      Loaded mapper requested doc (applyAll Entity.set
        (((descriptor.fields.filter isEager).map MappedField.name).zip followed) decoded)

variable {mapper : Mapper} {requested : ClassName} {doc : Document} {entity : Entity}
  {descriptor : Descriptor} {field : MappedField}

theorem isReference_of_isEager (eager : isEager field = true) : field.isReference = true := by
  rw [isEager, MappedField.referenceOptions?] at eager
  rw [MappedField.isReference, MappedField.has]
  cases found : field.annotation? .reference with
  | none => simp [found] at eager
  | some _ => rfl

/-! ### The fields of a loaded entity -/

namespace Loaded

theorem readAs (loaded : mapper.Loaded requested doc entity) :
    ∃ descriptor, mapper.catalog.ReadAs requested doc descriptor ∧
      entity.className = descriptor.className := by
  cases loaded with
  | @intro descriptor decoded _ isClass decodes _ =>
    refine ⟨descriptor, isClass, ?_⟩
    rw [Catalog.answer_decodeDocument_of_readAs isClass] at decodes
    rw [Catalog.decodeInto, Catalog.answer_readEntity] at decodes
    obtain ⟨_, -, rfl⟩ := foldlM_updates_eq_ok.mp decodes
    simp only [Entity.className_applyAll]
    rfl

/-- What the document has for an eager field was followed, even if another field shares its
name. -/
theorem get?_of_contains (loaded : mapper.Loaded requested doc entity)
    (isClass : mapper.catalog.ReadAs requested doc descriptor) (member : field ∈ descriptor.fields)
    (eager : isEager field = true) (present : Document.contains doc field.storedName = true) :
    ∃ property, entity.get? field.name = some property ∧ property.isFollowed = true := by
  cases loaded with
  | @intro _ decoded followed isClass' decodes replaces =>
    obtain rfl := isClass.unique isClass'
    refine exists_read_applyAll Entity.get?_set_self
      (fun entity _ _ property apart => Entity.get?_set_of_ne entity apart property) decoded ?_
      (.inr ?_)
    · rintro ⟨name, value⟩ inUpdates - property rfl
      obtain ⟨other, -, replaced⟩ :=
        Result.exists_of_mem_right replaces (List.of_mem_zip inUpdates).2
      exact replaced.2 property rfl
    · obtain ⟨i, bound, here⟩ := List.getElem_of_mem (List.mem_filter.mpr ⟨member, eager⟩)
      have bound' : i < followed.length := replaces.length_eq ▸ bound
      have replaced := (List.forall₂_iff_get.mp replaces).2 i bound bound'
      refine ⟨(field.name, followed[i]), List.mem_iff_getElem.mpr
        ⟨i, by rw [List.length_zip, List.length_map]; omega, by simp [here]⟩, rfl, ?_⟩
      simp only [List.get_eq_getElem, here] at replaced
      exact replaced.1.trans present

section

variable (loaded : mapper.Loaded requested doc entity)
  (isClass : mapper.catalog.ReadAs requested doc descriptor)
  (names : (descriptor.fields.map MappedField.name).Nodup)

include loaded isClass names

/-- Loading differs from decoding in the eager fields only, and leaves no key there. -/
theorem exists_decoded : ∃ decoded, mapper.catalog.Shows descriptor doc decoded ∧
    Catalog.answer (mapper.catalog.decodeDocument requested doc) = .ok decoded ∧
    (∀ field ∈ descriptor.fields, isEager field = true →
      ∀ property, entity.get? field.name = some property → property.isFollowed = true) ∧
    ∀ name, (∀ field ∈ descriptor.fields, field.name = name → isEager field = false) →
      entity.get? name = decoded.get? name := by
  cases loaded with
  | @intro _ decoded followed isClass' decodes replaces =>
    obtain rfl := isClass.unique isClass'
    have shows := isClass.shows names decodes
    have once : ((descriptor.fields.filter isEager).map MappedField.name).Nodup :=
      names.sublist (List.filter_sublist.map _)
    obtain ⟨eagerOnes, others⟩ := read_applyAll_zip Entity.get?_set_self
      (fun entity _ _ property apart => Entity.get?_set_of_ne entity apart property) decoded
      replaces once
    refine ⟨decoded, shows, decodes, fun field member eager property held => ?_,
      fun name lazy => ?_⟩
    · obtain ⟨value, ⟨present, isFollowed⟩, found⟩ :=
        eagerOnes field (List.mem_filter.mpr ⟨member, eager⟩)
      rw [held] at found
      cases value with
      | some followed =>
        obtain rfl : property = followed := by simpa using found
        exact isFollowed _ rfl
      | none =>
        -- Nothing is stored for the field, so nothing was decoded for it.
        have shown := shows.field field member
        cases stored : Document.get? doc field.storedName with
        | some _ =>
          rw [stored] at present
          cases present
        | none =>
          rw [stored] at shown
          generalize decoded.get? field.name = reading at shown found
          cases shown
          cases found
    · apply others
      intro member
      obtain ⟨field, inEager, same⟩ := List.mem_map.mp member
      obtain ⟨member, eager⟩ := List.mem_filter.mp inEager
      simp [lazy field member same] at eager

end

end Loaded

end Mapper

end DocMapper
