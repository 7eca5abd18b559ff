import DocMapper.Proofs.Conversion.RoundTrip
import DocMapper.Proofs.Datastore.Loading

/-!
# Saving without hooks

What a save does, step by step: the entity gets an identity if it has none, its version is compared
with the stored one and counted up, and it is written under its class. `Saved` puts the steps
together, and a save on a mapper without hooks either does all of them or leaves the documents as
they are. A version that is not the stored one is always refused.
-/

namespace DocMapper.Mapper

variable {mapper : Mapper} {world : World} {entity : Entity} {descriptor : Descriptor}

/-- The entity at hand has an identity: its own, or one that was issued for it. -/
inductive Identified (descriptor : Descriptor) (entity : Entity) : Value → Entity → Prop
  | own {id : Value} (set : descriptor.idValue? entity = some id) :
      Identified descriptor entity id entity
  | issued {field : MappedField} (unset : descriptor.idValue? entity = none)
      (isId : descriptor.idField? = some field) (type : field.type = .scalar .objectId)
      (oid : ObjectId) :
      Identified descriptor entity (.id oid) (entity.set field.name (.value (.id oid)))

/-- The version of the entity at hand was the stored one, and is counted up. -/
inductive Advanced (descriptor : Descriptor) (collections : Collections) (id : Value)
    (entity : Entity) : Entity → Prop
  | unversioned (unversioned : descriptor.versionField? = none) :
      Advanced descriptor collections id entity entity
  | counted {field : MappedField} {found : Option Document}
      (isVersion : descriptor.versionField? = some field)
      (searched : collections.findFirst descriptor.collection (.idEq id) = .ok found)
      (current : found.bind (storedVersion field) = carriedVersion field entity) :
      Advanced descriptor collections id entity
        (entity.set field.name (.value (.integer ((carriedVersion field entity).getD 0 + 1))))

/-- The version of an entity was counted up in vain and is what it was. -/
inductive PutBack (descriptor : Descriptor) (entity : Entity) : Entity → Prop
  | unversioned (unversioned : descriptor.versionField? = none) : PutBack descriptor entity entity
  | restored {field : MappedField} {version : Int64}
      (isVersion : descriptor.versionField? = some field) :
      PutBack descriptor entity (restoreVersion field (carriedVersion field entity)
        (entity.set field.name (.value (.integer version))))

/-- What a failing save leaves of an entity: it may have an identity that it did not have. -/
inductive Unsaved (mapper : Mapper) (entity : Entity) : Entity → Prop
  | untouched : Unsaved mapper entity entity
  | identified {descriptor : Descriptor} {id : Value} {named : Entity}
      (described : mapper.catalog.Describes entity.className descriptor)
      (identified : Identified descriptor entity id named) : Unsaved mapper entity named
  | unwritten {descriptor : Descriptor} {id : Value} {named left : Entity}
      (described : mapper.catalog.Describes entity.className descriptor)
      (identified : Identified descriptor entity id named)
      (back : PutBack descriptor named left) : Unsaved mapper entity left

/-- The entity was given an identity and its next version, and was written. -/
inductive Saved (mapper : Mapper) (before : World) (entity : Entity) :
    Key → World → Entity → Prop
  | intro {descriptor : Descriptor} {id : Value} {named left : Entity} {doc : Document}
      {after : World} (described : mapper.catalog.Describes entity.className descriptor)
      (isEntity : descriptor.isEntity = true)
      (identified : Identified descriptor entity id named)
      (advanced : Advanced descriptor before.store.collections id named left)
      (encoded : Catalog.answer (mapper.catalog.document left) = .ok doc)
      (stored : before.store.collections.save descriptor.collection doc =
        .ok after.store.collections)
      (ready : after.Ready mapper.catalog) :
      Saved mapper before entity ⟨descriptor.className, descriptor.collection, id⟩ after left

/-! ### The identity -/

theorem outcome_idOf (ready : world.Ready mapper.catalog)
    (described : mapper.catalog.Describes entity.className descriptor) {field : MappedField}
    (isId : descriptor.idField? = some field) {id : Option Value}
    (held : descriptor.idValue? entity = id) :
    ∃ after, world.Keeps mapper.catalog after ∧
      (World.onMemory (mapper.catalog.idOf entity)).outcome world = (.ok id, after) := by
  have answered : Catalog.answer (mapper.catalog.idOf entity) = .ok id :=
    Catalog.answer_idOf_eq_ok.mpr ⟨descriptor, described, by rw [isId]; rfl, held⟩
  exact World.outcome_onMemory_of_ok ((Catalog.steady_idOf entity).gives answered) ready

theorem outcome_ensureId_of_set (ready : world.Ready mapper.catalog)
    (described : mapper.catalog.Describes entity.className descriptor) {id : Value}
    (set : descriptor.idValue? entity = some id) :
    ∃ after, world.Keeps mapper.catalog after ∧
      (mapper.ensureId descriptor).outcome (world, entity) = (.ok id, (after, entity)) := by
  obtain ⟨field, isId⟩ := Catalog.exists_idField?_of_idValue? set
  obtain ⟨after, keeps, ran⟩ := outcome_idOf ready described isId set
  refine ⟨after, keeps, ?_⟩
  simp only [ensureId, isId]
  rw [Run.outcome_bind_of_ok (Run.outcome_get _),
    Run.outcome_bind_of_ok (Run.outcome_onFirst_eq entity ran), Run.outcome_pure]

/-- Giving an identity changes no document, and it leaves the entity alone unless it issues one. -/
theorem outcome_ensureId (ready : world.Ready mapper.catalog)
    (described : mapper.catalog.Describes entity.className descriptor) :
    ∃ after, world.Keeps mapper.catalog after ∧
      ((∃ id left, (mapper.ensureId descriptor).outcome (world, entity) =
          (.ok id, (after, left)) ∧ Identified descriptor entity id left) ∨
        ∃ error, (mapper.ensureId descriptor).outcome (world, entity) =
          (.error error, (after, entity))) := by
  cases set : descriptor.idValue? entity with
  | some id =>
    obtain ⟨after, keeps, ran⟩ := outcome_ensureId_of_set ready described set
    exact ⟨after, keeps, .inl ⟨id, entity, ran, .own set⟩⟩
  | none =>
    cases isId : descriptor.idField? with
    | none =>
      refine ⟨world, .refl ready, .inr ⟨.mapping (.noIdField descriptor.className), ?_⟩⟩
      simp only [ensureId, isId]
      exact Run.outcome_throw _ _
    | some field =>
      obtain ⟨after, keeps, ran⟩ := outcome_idOf ready described isId set
      by_cases type : field.type = .scalar .objectId
      · refine ⟨{ after with issued := after.issued + 1 }, ⟨⟨keeps.ready.sound,
          keeps.ready.faultless⟩, keeps.collections⟩, .inl ⟨_, _, ?_, .issued set isId type
            (after.series.member (after.issued + 1))⟩⟩
        simp only [ensureId, isId]
        rw [Run.outcome_bind_of_ok (Run.outcome_get _),
          Run.outcome_bind_of_ok (Run.outcome_onFirst_eq entity ran)]
        simp only [type, if_true]
        rfl
      · refine ⟨after, keeps, .inr
          ⟨.mapping (.idNotGenerated descriptor.className field.name), ?_⟩⟩
        simp only [ensureId, isId]
        rw [Run.outcome_bind_of_ok (Run.outcome_get _),
          Run.outcome_bind_of_ok (Run.outcome_onFirst_eq entity ran)]
        simp only [type, if_false]
        exact Run.outcome_throw _ _

/-! ### The version -/

section

variable {field : MappedField} {id : Value} {found : Option Document}

theorem outcome_advanceVersion_of_current (ready : world.Ready mapper.catalog)
    (isVersion : descriptor.versionField? = some field)
    (searched : world.store.collections.findFirst descriptor.collection (.idEq id) = .ok found)
    (current : found.bind (storedVersion field) = carriedVersion field entity) :
    ∃ after, world.Keeps mapper.catalog after ∧
      (advanceVersion descriptor id).outcome (world, entity) =
        (.ok (restoreVersion field (carriedVersion field entity)), (after, entity.set field.name
          (.value (.integer ((carriedVersion field entity).getD 0 + 1))))) := by
  obtain ⟨after, keeps, ran⟩ := World.outcome_findFirst_of_ok ready searched
  refine ⟨after, keeps, ?_⟩
  simp only [advanceVersion, isVersion]
  rw [Run.outcome_bind_of_ok (Run.outcome_get _),
    Run.outcome_bind_of_ok (Run.outcome_onFirst_eq entity ran), if_pos current]
  rfl

theorem outcome_advanceVersion_of_stale (ready : world.Ready mapper.catalog)
    (isVersion : descriptor.versionField? = some field)
    (searched : world.store.collections.findFirst descriptor.collection (.idEq id) = .ok found)
    (stale : found.bind (storedVersion field) ≠ carriedVersion field entity) :
    ∃ after, world.Keeps mapper.catalog after ∧
      (advanceVersion descriptor id).outcome (world, entity) =
        (.error (.concurrentModification descriptor.className id
          ((found.bind (storedVersion field)).getD 0) ((carriedVersion field entity).getD 0)),
          (after, entity)) := by
  obtain ⟨after, keeps, ran⟩ := World.outcome_findFirst_of_ok ready searched
  refine ⟨after, keeps, ?_⟩
  simp only [advanceVersion, isVersion]
  rw [Run.outcome_bind_of_ok (Run.outcome_get _),
    Run.outcome_bind_of_ok (Run.outcome_onFirst_eq entity ran), if_neg stale, Run.outcome_throw]

/-- A version cannot be compared with what is stored if nothing can be found there. -/
theorem outcome_advanceVersion_of_unsearchable (ready : world.Ready mapper.catalog)
    (isVersion : descriptor.versionField? = some field) {error : StoreError}
    (searched : world.store.collections.findFirst descriptor.collection (.idEq id) =
      .error error) :
    ∃ after, world.Keeps mapper.catalog after ∧
      (advanceVersion descriptor id).outcome (world, entity) =
        (.error (.store error), (after, entity)) := by
  obtain ⟨after, keeps, ran⟩ := World.outcome_findFirst ready descriptor.collection (.idEq id)
  rw [searched] at ran
  have failed : (World.onStore (Store.findFirst descriptor.collection (.idEq id))).outcome
      world = (.error (.store error), after) := ran
  refine ⟨after, keeps, ?_⟩
  simp only [advanceVersion, isVersion]
  rw [Run.outcome_bind_of_ok (Run.outcome_get _),
    Run.outcome_bind_of_error (Run.outcome_onFirst_eq entity failed)]

/-- Counting the version up changes no document, and a failure leaves the entity alone. -/
theorem outcome_advanceVersion (ready : world.Ready mapper.catalog) (id : Value) :
    ∃ after, world.Keeps mapper.catalog after ∧
      ((∃ restore left, (advanceVersion descriptor id).outcome (world, entity) =
          (.ok restore, (after, left)) ∧
            Advanced descriptor world.store.collections id entity left ∧
              PutBack descriptor entity (restore left)) ∨
        ∃ error, (advanceVersion descriptor id).outcome (world, entity) =
          (.error error, (after, entity))) := by
  cases isVersion : descriptor.versionField? with
  | none =>
    refine ⟨world, .refl ready, .inl ⟨fun entity => entity, entity, ?_,
      .unversioned isVersion, .unversioned isVersion⟩⟩
    simp only [advanceVersion, isVersion]
    exact Run.outcome_pure _ _
  | some field =>
    cases searched : world.store.collections.findFirst descriptor.collection (.idEq id) with
    | error error =>
      obtain ⟨after, keeps, ran⟩ :=
        outcome_advanceVersion_of_unsearchable ready isVersion searched
      exact ⟨after, keeps, .inr ⟨_, ran⟩⟩
    | ok found =>
      by_cases current : found.bind (storedVersion field) = carriedVersion field entity
      · obtain ⟨after, keeps, ran⟩ :=
          outcome_advanceVersion_of_current ready isVersion searched current
        exact ⟨after, keeps, .inl ⟨_, _, ran, .counted isVersion searched current,
          .restored isVersion⟩⟩
      · obtain ⟨after, keeps, ran⟩ :=
          outcome_advanceVersion_of_stale ready isVersion searched current
        exact ⟨after, keeps, .inr ⟨_, ran⟩⟩

end

/-- A save whose version is refused fails likewise, and changes no document. -/
theorem outcome_save_of_refused (ready : world.Ready mapper.catalog)
    (described : mapper.catalog.Describes entity.className descriptor)
    (isEntity : descriptor.isEntity = true) {id : Value}
    (set : descriptor.idValue? entity = some id) {error : MapError}
    (refused : ∀ middle, world.Keeps mapper.catalog middle →
      ∃ after, middle.Keeps mapper.catalog after ∧
        (advanceVersion descriptor id).outcome (middle, entity) =
          (.error error, (after, entity))) :
    ∃ after, world.Keeps mapper.catalog after ∧
      mapper.save.outcome (world, entity) = (.error error, (after, entity)) := by
  obtain ⟨first, keeps, asked⟩ := outcome_entityClass ready described isEntity
  obtain ⟨second, keeps', idRan⟩ := outcome_ensureId_of_set keeps.ready described set
  obtain ⟨third, keeps'', versionRan⟩ := refused second (keeps.trans keeps')
  refine ⟨third, (keeps.trans keeps').trans keeps'', ?_⟩
  rw [save, Run.outcome_bind_of_ok (Run.outcome_get _),
    Run.outcome_bind_of_ok (Run.outcome_onFirst_eq entity asked), Run.outcome_bind_of_ok idRan,
    Run.outcome_bind_of_error versionRan]

/-- A save of a version fails if its collection cannot be searched, and changes no document. -/
theorem outcome_save_of_unsearchable (ready : world.Ready mapper.catalog)
    (described : mapper.catalog.Describes entity.className descriptor)
    (isEntity : descriptor.isEntity = true) {id : Value}
    (set : descriptor.idValue? entity = some id) {field : MappedField}
    (isVersion : descriptor.versionField? = some field) {error : StoreError}
    (searched : world.store.collections.findFirst descriptor.collection (.idEq id) =
      .error error) :
    ∃ after, world.Keeps mapper.catalog after ∧
      mapper.save.outcome (world, entity) = (.error (.store error), (after, entity)) := by
  refine outcome_save_of_refused ready described isEntity set fun middle keeps => ?_
  rw [← keeps.collections] at searched
  exact outcome_advanceVersion_of_unsearchable keeps.ready isVersion searched

/-! ### Writing -/

namespace Plain

/-- Writing puts the document of the entity into its collection or changes no document; it leaves
the entity alone. -/
theorem outcome_write (plain : mapper.Plain) (ready : world.Ready mapper.catalog) :
    ∃ after, ((∃ doc, (mapper.write descriptor).outcome (world, entity) =
          (.ok doc, (after, entity)) ∧ after.Ready mapper.catalog ∧
            Catalog.answer (mapper.catalog.document entity) = .ok doc ∧
              world.store.collections.save descriptor.collection doc =
                .ok after.store.collections) ∨
        ∃ error, (mapper.write descriptor).outcome (world, entity) =
          (.error error, (after, entity)) ∧ world.Keeps mapper.catalog after) := by
  obtain ⟨memory, learns, ran⟩ := plain.outcome_toDocument ready.sound entity
  have ready' : World.Ready mapper.catalog { world with memory } :=
    ⟨learns.sound, ready.faultless⟩
  have converted : (World.onEntity mapper.toDocument).outcome (world, entity) =
      (Catalog.answer (mapper.catalog.document entity), ({ world with memory }, entity)) := by
    rw [World.onEntity, Run.outcome_zoom, ran]
  rw [write]
  cases encoded : Catalog.answer (mapper.catalog.document entity) with
  | error error =>
    rw [encoded] at converted
    exact ⟨_, .inr ⟨error, Run.outcome_bind_of_error converted, ready', rfl⟩⟩
  | ok doc =>
    rw [encoded] at converted
    rw [Run.outcome_bind_of_ok converted]
    cases stored : world.store.collections.save descriptor.collection doc with
    | error error =>
      obtain ⟨after, keeps, refused⟩ := @World.outcome_onStore_call_error mapper.catalog
        { world with memory } Unit
        (.save descriptor.collection ((Document.get? doc idField).getD .null))
        (fun c => return ((), ← c.save descriptor.collection doc)) error ready' (by simp [stored])
      exact ⟨after, .inr ⟨_, Run.outcome_bind_of_error (Run.outcome_onFirst_eq entity refused),
        keeps.ready, keeps.collections⟩⟩
    | ok collections =>
      obtain ⟨after, ready', same, saved⟩ := @World.outcome_onStore_call mapper.catalog
        { world with memory } Unit
        (.save descriptor.collection ((Document.get? doc idField).getD .null))
        (fun c => return ((), ← c.save descriptor.collection doc)) () collections ready'
        (by simp [stored])
      refine ⟨after, .inl ⟨doc, ?_, ready', rfl, by rw [same, stored]⟩⟩
      exact (Run.outcome_bind_of_ok (Run.outcome_onFirst_eq entity saved)).trans
        (Run.outcome_pure _ _)

/-- Writing that puts the entity back on a failure leaves it alone when it succeeds. -/
theorem outcome_write_onError (plain : mapper.Plain) (ready : world.Ready mapper.catalog)
    (restore : Entity → Entity) :
    ∃ after, ((∃ doc, ((mapper.write descriptor).onError fun state =>
          (state.1, restore state.2)).outcome (world, entity) = (.ok doc, (after, entity)) ∧
            after.Ready mapper.catalog ∧ Catalog.answer (mapper.catalog.document entity) = .ok doc ∧
              world.store.collections.save descriptor.collection doc =
                .ok after.store.collections) ∨
        ∃ error, ((mapper.write descriptor).onError fun state =>
          (state.1, restore state.2)).outcome (world, entity) =
            (.error error, (after, restore entity)) ∧ world.Keeps mapper.catalog after) := by
  obtain ⟨after, ⟨doc, ran, ready', encoded, stored⟩ | ⟨error, ran, keeps⟩⟩ :=
    @outcome_write mapper world entity descriptor plain ready
  · refine ⟨after, .inl ⟨doc, ?_, ready', encoded, stored⟩⟩
    rw [Run.outcome_onError, ran]
  · refine ⟨after, .inr ⟨error, ?_, keeps⟩⟩
    rw [Run.outcome_onError, ran]

/-- A save does all that it is meant to do, or changes no document and puts the entity back. -/
theorem outcome_save (plain : mapper.Plain) (ready : world.Ready mapper.catalog)
    {result : Except MapError Key} {after : World} {left : Entity}
    (ran : mapper.save.outcome (world, entity) = (result, (after, left))) :
    (∃ key, result = .ok key ∧ mapper.Saved world entity key after left) ∨
      ∃ error, result = .error error ∧ world.Keeps mapper.catalog after ∧
        mapper.Unsaved entity left := by
  obtain ⟨first, keeps, asked⟩ :=
    World.outcome_onMemory (steady_entityClass mapper entity.className) ready
  rw [save, Run.outcome_bind_of_ok (Run.outcome_get _)] at ran
  have classRan := Run.outcome_onFirst_eq entity asked
  cases isClass : Catalog.answer (mapper.entityClass entity.className) with
  | error error =>
    rw [isClass] at classRan
    rw [Run.outcome_bind_of_error classRan] at ran
    cases ran
    exact .inr ⟨error, rfl, keeps, .untouched⟩
  | ok descriptor =>
    rw [isClass] at classRan
    obtain ⟨described, isEntity⟩ := answer_entityClass_eq_ok.mp isClass
    rw [Run.outcome_bind_of_ok classRan] at ran
    obtain ⟨second, keeps', ⟨id, named, idRan, identified⟩ | ⟨error, idRan⟩⟩ :=
      outcome_ensureId keeps.ready described
    swap
    · rw [Run.outcome_bind_of_error idRan] at ran
      cases ran
      exact .inr ⟨error, rfl, keeps.trans keeps', .untouched⟩
    rw [Run.outcome_bind_of_ok idRan] at ran
    obtain ⟨third, keeps'', ⟨restore, counted, versionRan, advanced, back⟩ | ⟨error, versionRan⟩⟩ :=
      @outcome_advanceVersion mapper second named descriptor keeps'.ready id
    swap
    · rw [Run.outcome_bind_of_error versionRan] at ran
      cases ran
      exact .inr ⟨error, rfl, (keeps.trans keeps').trans keeps'', .identified described identified⟩
    rw [Run.outcome_bind_of_ok versionRan] at ran
    have same := (keeps.trans keeps').trans keeps''
    obtain ⟨fourth, ⟨doc, writeRan, ready', encoded, stored⟩ | ⟨error, writeRan, keeps'''⟩⟩ :=
      @outcome_write_onError mapper third counted descriptor plain keeps''.ready restore
    swap
    · rw [Run.outcome_bind_of_error writeRan] at ran
      cases ran
      exact .inr ⟨error, rfl, same.trans keeps''', .unwritten described identified back⟩
    have dispatched : (World.onEntity (mapper.dispatch descriptor .postPersist doc)).outcome
        (fourth, counted) = (.ok doc, (fourth, counted)) := by
      rw [plain.dispatch_eq described]
      rfl
    rw [Run.outcome_bind_of_ok writeRan, Run.outcome_bind_of_ok dispatched,
      Run.outcome_pure] at ran
    cases ran
    rw [(keeps.trans keeps').collections] at advanced
    rw [same.collections] at stored
    exact .inl ⟨_, rfl, .intro described isEntity identified advanced encoded stored ready'⟩

/-- A save of a version that is not the stored one is refused, and changes no document. -/
theorem outcome_save_of_stale (plain : mapper.Plain) (ready : world.Ready mapper.catalog)
    (described : mapper.catalog.Describes entity.className descriptor)
    (isEntity : descriptor.isEntity = true) {id : Value}
    (set : descriptor.idValue? entity = some id) {field : MappedField}
    (isVersion : descriptor.versionField? = some field) {found : Option Document}
    (searched : world.store.collections.findFirst descriptor.collection (.idEq id) = .ok found)
    (stale : found.bind (storedVersion field) ≠ carriedVersion field entity) :
    ∃ after, world.Keeps mapper.catalog after ∧ mapper.save.outcome (world, entity) =
      (.error (.concurrentModification entity.className id
        ((found.bind (storedVersion field)).getD 0) ((carriedVersion field entity).getD 0)),
        (after, entity)) := by
  rw [← described.className_eq plain.named]
  refine outcome_save_of_refused ready described isEntity set fun middle keeps => ?_
  rw [← keeps.collections] at searched
  exact outcome_advanceVersion_of_stale keeps.ready isVersion searched stale

end Plain

/-! ### What a save leaves behind -/

section

variable {name : ClassName} {field : MappedField} {doc : Document} {id : Value}
  {collections : Collections} {named left : Entity} {before after : World} {key : Key}

/-- The identity of an entity is the one that its document is stored under. -/
theorem idOf?_document (described : mapper.catalog.Describes entity.className descriptor)
    (isId : descriptor.idField? = some field)
    (apart : mapper.catalog.options.classNameKey ≠ idField)
    (encoded : Catalog.answer (mapper.catalog.document entity) = .ok doc) :
    Collections.idOf? doc = descriptor.idValue? entity := by
  obtain ⟨member, marked⟩ := Descriptor.idField?_spec isId
  have isStored := described.storedName_of_isId member marked
  have found := (described.written_document encoded).get?_id described (isStored ▸ apart.symm)
    member marked
  rw [isStored] at found
  rw [Collections.idOf?, found, Catalog.idValue?_eq isId]
  cases entity.value? field.name with
  | none => rfl
  | some value => cases set : value.isNull <;> simp [Option.filter, set]

/-- A version is stored as it is, wherever it is stored. -/
theorem storedVersion_document (described : mapper.catalog.Describes entity.className descriptor)
    (isVersion : descriptor.versionField? = some field) (noId : field.isId = false) {n : Int64}
    (held : entity.get? field.name = some (.value (.integer n)))
    (encoded : Catalog.answer (mapper.catalog.document entity) = .ok doc) :
    storedVersion field doc = some n := by
  obtain ⟨member, -⟩ := Descriptor.versionField?_spec isVersion
  obtain ⟨value, isValue, found⟩ := (described.written_document encoded).field field member noId
  rw [held] at isValue
  obtain rfl := described.eq_of_propertyValue_version isVersion isValue
  have kept : mapper.catalog.options.keeps (.integer n) = true := rfl
  rw [kept, if_pos rfl] at found
  rw [storedVersion, found]
  rfl

theorem Identified.className_eq (identified : Identified descriptor entity id named) :
    named.className = entity.className := by
  cases identified <;> rfl

theorem Advanced.className_eq (advanced : Advanced descriptor collections id entity left) :
    left.className = entity.className := by
  cases advanced <;> rfl

theorem Identified.get?_of_ne (identified : Identified descriptor entity id named) {name : String}
    (apart : ∀ field, descriptor.idField? = some field → name ≠ field.name) :
    named.get? name = entity.get? name := by
  cases identified with
  | own set => rfl
  | issued unset isId type oid => exact Entity.get?_set_of_ne entity (apart _ isId) _

theorem Advanced.get?_of_ne (advanced : Advanced descriptor collections id entity left)
    {name : String} (apart : ∀ field, descriptor.versionField? = some field → name ≠ field.name) :
    left.get? name = entity.get? name := by
  cases advanced with
  | unversioned unversioned => rfl
  | counted isVersion searched current => exact Entity.get?_set_of_ne entity (apart _ isVersion) _

theorem Identified.idValue?_eq (identified : Identified descriptor entity id named) :
    descriptor.idValue? named = some id := by
  cases identified with
  | own set => exact set
  | issued unset isId type oid =>
    rw [Catalog.idValue?_eq isId, Entity.value?, Entity.get?_set_self]
    rfl

theorem Identified.carriedVersion_eq (identified : Identified descriptor entity id named)
    (described : mapper.catalog.Describes entity.className descriptor)
    (names : (descriptor.fields.map MappedField.name).Nodup)
    (isVersion : descriptor.versionField? = some field) :
    carriedVersion field named = carriedVersion field entity := by
  cases identified with
  | own set => rfl
  | @issued idField unset isId type oid =>
    obtain ⟨member, marked⟩ := Descriptor.versionField?_spec isVersion
    have differs : field.name ≠ idField.name := by
      intro same
      rw [← List.inj_on_of_nodup_map names member (Descriptor.idField?_spec isId).1 same,
        described.type_of_isVersion member marked] at type
      cases type
    rw [carriedVersion, Entity.value?, Entity.get?_set_of_ne entity differs]
    rfl

/-- Counting the version up leaves the identity alone, unless they are one field. -/
theorem Advanced.idValue?_eq (advanced : Advanced descriptor collections id entity left)
    (names : (descriptor.fields.map MappedField.name).Nodup)
    (noId : ∀ field, descriptor.versionField? = some field → field.isId = false) :
    descriptor.idValue? left = descriptor.idValue? entity := by
  cases advanced with
  | unversioned unversioned => rfl
  | @counted field found isVersion searched current =>
    cases isId : descriptor.idField? with
    | none => simp [Descriptor.idValue?, isId]
    | some idField =>
      obtain ⟨member, marked⟩ := Descriptor.idField?_spec isId
      have member' := (Descriptor.versionField?_spec isVersion).1
      have differs : idField.name ≠ field.name := by
        intro same
        rw [List.inj_on_of_nodup_map names member member' same, noId field isVersion] at marked
        cases marked
      rw [Catalog.idValue?_eq isId, Catalog.idValue?_eq isId, Entity.value?,
        Entity.get?_set_of_ne entity differs]
      rfl

/-- The version that is put in an entity is the one that it carries. -/
theorem carriedVersion_restoreVersion (field : MappedField) (version : Option Int64)
    (entity : Entity) : carriedVersion field (restoreVersion field version entity) = version := by
  cases version with
  | none => simp [restoreVersion, carriedVersion, Entity.value?]
  | some n =>
    rw [restoreVersion, carriedVersion, Entity.value?, Entity.get?_set_self]
    rfl

theorem className_restoreVersion (field : MappedField) (version : Option Int64) (entity : Entity) :
    (restoreVersion field version entity).className = entity.className := by
  cases version <;> rfl

theorem Unsaved.className_eq (unsaved : mapper.Unsaved entity left) :
    left.className = entity.className := by
  cases unsaved with
  | untouched => rfl
  | identified _ identified => exact identified.className_eq
  | unwritten _ identified back =>
    cases back with
    | unversioned => exact identified.className_eq
    | restored => exact (className_restoreVersion _ _ _).trans identified.className_eq

theorem Unsaved.carriedVersion_eq (unsaved : mapper.Unsaved entity left)
    (described : mapper.catalog.Describes entity.className descriptor)
    (names : (descriptor.fields.map MappedField.name).Nodup)
    (isVersion : descriptor.versionField? = some field) :
    carriedVersion field left = carriedVersion field entity := by
  cases unsaved with
  | untouched => rfl
  | identified described' identified =>
    obtain rfl := described.unique described'
    exact identified.carriedVersion_eq described names isVersion
  | unwritten described' identified back =>
    obtain rfl := described.unique described'
    have carried := identified.carriedVersion_eq described names isVersion
    cases back with
    | unversioned => exact carried
    | restored isVersion' =>
      obtain rfl := Option.some.inj (isVersion.symm.trans isVersion')
      rw [carriedVersion_restoreVersion, carried]

/-- A save puts the document of what it leaves into the collection of the class. -/
theorem Saved.wrote (saved : mapper.Saved before entity key after left)
    (described : mapper.catalog.Describes entity.className descriptor)
    (apart : mapper.catalog.options.classNameKey ≠ idField) :
    left.className = entity.className ∧ ∃ doc stored,
      Catalog.answer (mapper.catalog.document left) = .ok doc ∧
        Collections.idOf? doc = some stored ∧ descriptor.idValue? left = some stored ∧
          after.store.collections = Assoc.insert descriptor.collection
            (Collections.put ⟨stored, Cbor.write doc⟩
              (before.store.collections.documents descriptor.collection))
            before.store.collections := by
  cases saved with
  | @intro _ id named _ doc _ described' isEntity identified advanced encoded stored ready =>
    obtain rfl := described.unique described'
    obtain ⟨stored, identity, same⟩ := Collections.save_eq_ok.mp stored
    have sameClass := advanced.className_eq.trans identified.className_eq
    obtain ⟨field, isId⟩ := Catalog.exists_idField?_of_idValue? identified.idValue?_eq
    have isStored := idOf?_document (sameClass.symm ▸ described) isId apart encoded
    exact ⟨sameClass, doc, stored, encoded, identity, isStored.symm.trans identity, same⟩

theorem Saved.current (saved : mapper.Saved before entity key after left)
    (described : mapper.catalog.Describes entity.className descriptor)
    (names : (descriptor.fields.map MappedField.name).Nodup)
    (isVersion : descriptor.versionField? = some field) :
    ∃ found, before.store.collections.findFirst descriptor.collection (.idEq key.id) = .ok found ∧
      found.bind (storedVersion field) = carriedVersion field entity := by
  cases saved with
  | intro described' isEntity identified advanced encoded stored ready =>
    obtain rfl := described.unique described'
    cases advanced with
    | unversioned unversioned => simp [isVersion] at unversioned
    | counted isVersion' searched current =>
      obtain rfl := Option.some.inj (isVersion.symm.trans isVersion')
      exact ⟨_, searched, current.trans
        (identified.carriedVersion_eq described names isVersion)⟩

/-- The second entity is the first with an identity, its own if it had one, and its next version. -/
structure Follows (descriptor : Descriptor) (entity left : Entity) (id : Value) : Prop where
  sameClass : left.className = entity.className
  identity : descriptor.idValue? left = some id
  own : ∀ own, descriptor.idValue? entity = some own → id = own
  version : ∀ field, descriptor.versionField? = some field →
    left.get? field.name = some (.value (.integer ((carriedVersion field entity).getD 0 + 1)))
  rest : ∀ name,
    (∀ field, descriptor.idField? = some field ∨ descriptor.versionField? = some field →
      name ≠ field.name) → left.get? name = entity.get? name

theorem Saved.follows (saved : mapper.Saved before entity key after left)
    (described : mapper.catalog.Describes entity.className descriptor)
    (names : (descriptor.fields.map MappedField.name).Nodup)
    (noId : ∀ field, descriptor.versionField? = some field → field.isId = false) :
    Follows descriptor entity left key.id := by
  cases saved with
  | @intro _ id named _ doc _ described' isEntity identified advanced encoded stored ready =>
    obtain rfl := described.unique described'
    refine ⟨advanced.className_eq.trans identified.className_eq,
      (advanced.idValue?_eq names noId).trans identified.idValue?_eq, ?_, ?_, ?_⟩
    · intro own set
      cases identified with
      | own set' => exact Option.some.inj (set'.symm.trans set)
      | issued unset => simp [set] at unset
    · intro field isVersion
      cases advanced with
      | unversioned unversioned => simp [isVersion] at unversioned
      | counted isVersion' searched current =>
        obtain rfl := Option.some.inj (isVersion.symm.trans isVersion')
        rw [Entity.get?_set_self, identified.carriedVersion_eq described names isVersion]
    · intro name apart
      exact (advanced.get?_of_ne fun field isVersion => apart field (.inr isVersion)).trans
        (identified.get?_of_ne fun field isId => apart field (.inl isId))

end

end DocMapper.Mapper
