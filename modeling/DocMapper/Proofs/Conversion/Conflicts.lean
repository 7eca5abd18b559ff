import DocMapper.Mapping.Encode
import DocMapper.Proofs.Ending

/-!
# Conversions report no conflict

Only a save compares versions. Describing a class, reading an identity off an entity and encoding
fail for reasons of their own, so a conflict that a save reports is never one that came up on the
way.
-/

namespace DocMapper

def MapError.isConflict : MapError → Bool
  | .concurrentModification .. => true
  | _ => false

/-- The operation never reports a conflict. -/
abbrev Peaceful {σ α : Type} (act : Run MapError σ α) : Prop :=
  Run.Raises act fun error => error.isConflict = false

namespace Catalog

variable {catalog : Catalog}

/-! ### Describing -/

theorem isConflict_of_handlers {schema : TypeSchema} {error : MapError}
    (failed : catalog.registry.handlers schema = .error error) : error.isConflict = false := by
  have fails : schema.listenerNames.mapM (catalog.registry.listenerHandlers schema) =
      .error error := by
    rw [Registry.handlers] at failed
    cases listeners : schema.listenerNames.mapM (catalog.registry.listenerHandlers schema) with
    | ok contributed => simp [listeners] at failed
    | error other => simpa [listeners] using failed
  obtain ⟨listener, -, failed⟩ := Result.exists_of_mapM_eq_error fails
  rw [Registry.listenerHandlers] at failed
  repeat' split at failed
  all_goals cases failed
  all_goals rfl

theorem isConflict_of_check {descriptor : Descriptor} {error : MapError}
    (failed : catalog.check descriptor = .error error) : error.isConflict = false := by
  rw [check] at failed
  split at failed <;> cases failed
  rfl

theorem peaceful_asSupertype {α : Type} {name : ClassName} {act : MapM α}
    (peaceful : Peaceful act) : Peaceful (asSupertype name act) := by
  refine peaceful.mapError fun error isAmong => ?_
  cases error <;> first | rfl | exact isAmong

theorem peaceful_describeType {schema : TypeSchema} {describeSuper : ClassName → MapM Descriptor}
    (supers : ∀ super, Peaceful (describeSuper super)) :
    Peaceful (catalog.describeType schema describeSuper) := by
  rw [describeType]
  split
  · exact .throw_bind (by rfl) _
  · refine (Run.Raises.optionMapM fun super => peaceful_asSupertype (supers super)).bind
      fun superclass => ?_
    refine (Run.Raises.mapM fun super => peaceful_asSupertype (supers super)).bind
      fun interfaces => ?_
    refine (Run.Raises.ofExcept fun error => isConflict_of_handlers).bind fun handlers => ?_
    exact .ofExcept fun error => isConflict_of_check

theorem peaceful_describeFrom {path : List ClassName} {name : ClassName} :
    Peaceful (catalog.describeFrom path name) := by
  induction hn : catalog.registry.unseen path using Nat.strongRecOn generalizing path name with
  | ind n ih =>
    rw [describeFrom]
    refine Run.Raises.get.bind fun memory => ?_
    split
    · exact .pure _
    split
    next fresh =>
      split
      · exact .throw rfl
      next schema registered =>
        have fewer := Registry.unseen_cons_lt registered fresh
        refine (peaceful_describeType fun super => ih _ (hn ▸ fewer) rfl).bind fun descriptor => ?_
        exact (Run.Raises.modify _).bind fun _ => .pure _
    · exact .throw rfl

theorem peaceful_describe (name : ClassName) : Peaceful (catalog.describe name) :=
  peaceful_describeFrom

theorem peaceful_idOf (entity : Entity) : Peaceful (catalog.idOf entity) := by
  refine (peaceful_describe _).bind fun descriptor => ?_
  split
  · exact .throw_bind (by rfl) _
  · exact .pure _

/-! ### Encoding -/

theorem peaceful_entityPointer (field : MappedField) (entity : Entity) :
    Peaceful (catalog.entityPointer field entity) := by
  refine (peaceful_describe _).bind fun target => (peaceful_idOf entity).bind fun id => ?_
  cases id with
  | some id => exact .pure _
  | none => exact .throw rfl

theorem peaceful_referencePointer (field : MappedField) (ref : Reference) :
    Peaceful (catalog.referencePointer field ref) := by
  cases ref with
  | resolved entity => exact peaceful_entityPointer field entity
  | key key => exact .pure _
  | missing key => exact .pure _

theorem peaceful_encodeReference (field : MappedField) (property : Property) :
    Peaceful (catalog.encodeReference field property) := by
  simp only [encodeReference]
  cases shapeFault? field property with
  | some fault => exact .throw_bind (by rfl) _
  | none =>
    cases property with
    | null => exact .pure _
    | value v => exact .throw rfl
    | embedded entity => exact peaceful_entityPointer field entity
    | embeddedList entities =>
      exact (Run.Raises.mapM fun entity => peaceful_entityPointer field entity).bind
        fun _ => .pure _
    | reference ref => exact peaceful_referencePointer field ref
    | references refs =>
      exact (Run.Raises.mapM fun ref => peaceful_referencePointer field ref).bind fun _ => .pure _

theorem peaceful_writeEntity {descriptor : Descriptor} {entity : Entity}
    {encoders : List (String × PropertyEncoder)} {doc : Document}
    (each : ∀ name encode, encoders.lookup name = some encode → ∀ field,
      Peaceful (encode field)) :
    Peaceful (catalog.writeEntity descriptor entity encoders doc) := by
  refine Run.Raises.foldlM fun doc field => Run.Raises.bind ?_ fun value => .pure _
  rw [fieldValue]
  split
  · exact peaceful_encodeReference _ _
  · split
    next encode found => exact each _ _ found field
    · exact .pure _

mutual

theorem peaceful_encodeEmbedded : ∀ entity : Entity, Peaceful (catalog.encodeEmbedded entity)
  | .mk className properties =>
    (peaceful_describe className).bind fun _ =>
      (peaceful_writeEntity (peaceful_propertyEncoders properties)).bind fun _ => .pure _

theorem peaceful_encodeEmbeddedList :
    ∀ entities : List Entity, Peaceful (catalog.encodeEmbeddedList entities)
  | [] => .pure _
  | entity :: rest =>
    (peaceful_encodeEmbedded entity).bind fun _ =>
      (peaceful_encodeEmbeddedList rest).bind fun _ => .pure _

theorem peaceful_encodeProperty :
    ∀ (property : Property) (field : MappedField), Peaceful (catalog.encodeProperty property field)
  | .null, _ => .pure _
  | .value v, field => by
    rw [encodeProperty]
    split
    · exact .pure _
    · exact .throw rfl
  | .embedded entity, _ => peaceful_encodeEmbedded entity
  | .embeddedList entities, _ => (peaceful_encodeEmbeddedList entities).bind fun _ => .pure _
  | .reference _, _ => .throw rfl
  | .references _, _ => .throw rfl

theorem peaceful_propertyEncoders :
    ∀ (properties : List (String × Property)) (name : String) (encode : PropertyEncoder),
      (catalog.propertyEncoders properties).lookup name = some encode →
        ∀ field, Peaceful (encode field)
  | [], _, _, h, _ => by simp [propertyEncoders] at h
  | (key, property) :: rest, name, encode, h, field => by
    rw [propertyEncoders, List.lookup_cons] at h
    split at h
    · cases h
      exact peaceful_encodeProperty property field
    · exact peaceful_propertyEncoders rest name encode h field

end

theorem peaceful_encodeInto (descriptor : Descriptor) (entity : Entity) (doc : Document) :
    Peaceful (catalog.encodeInto descriptor entity doc) :=
  peaceful_writeEntity (peaceful_propertyEncoders entity.properties)

end Catalog

end DocMapper
