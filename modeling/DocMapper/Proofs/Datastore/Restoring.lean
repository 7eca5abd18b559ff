import DocMapper.Proofs.Datastore.Discreet
import DocMapper.Proofs.Datastore.Loading
import DocMapper.Proofs.Datastore.Locking
import DocMapper.Proofs.Datastore.Steps
import DocMapper.Proofs.Store.Contents

/-!
# Failing saves

A save may fail before the version is compared, while hooks run, while the entity is encoded, at
the store, and after the document was written. With discreet hooks none of this makes the entity
stale: if it carries the version that is stored under its identity, it does so afterwards, and the
save does not report a conflict.

What a save does to an entity and to the collections is followed step by step. Up to the write the
collections are those from before, so an entity whose version is put back is what it was; from the
write on, the entity and the document under its identity show the same version.
-/

namespace DocMapper

/-- The entity has an identity, or it can be given one. -/
def Descriptor.Identifiable (descriptor : Descriptor) (entity : Entity) : Prop :=
  descriptor.idValue? entity = none →
    ∃ owner, descriptor.idField? = some owner ∧ owner.type = .scalar .objectId

/-- Asked for the document under an identity, the store answers, and what it finds has this
version. -/
structure Store.Confirms (store : Store) (descriptor : Descriptor) (field : MappedField)
    (id : Value) (version : Option Int64) : Prop where
  answers : store.faults.head?.join = none
  searched : ∃ found, store.collections.findFirst descriptor.collection (.idEq id) = .ok found ∧
    found.bind (Mapper.storedVersion field) = version

namespace World

/-- The identity under which an entity is saved: its own, or the next one that is issued. -/
def identityOf (world : World) (descriptor : Descriptor) (entity : Entity) : Value :=
  (descriptor.idValue? entity).getD (.id (world.series.member (world.issued + 1)))

/-- The version that the entity carries is the one that is stored under its identity; a version that
is absent counts as one. -/
def Current (world : World) (descriptor : Descriptor) (field : MappedField) (entity : Entity) :
    Prop :=
  Mapper.carriedVersion field entity =
    world.versionAt descriptor field (world.identityOf descriptor entity)

instance (world : World) (descriptor : Descriptor) (field : MappedField) (entity : Entity) :
    Decidable (world.Current descriptor field entity) :=
  inferInstanceAs (Decidable (_ = _))

variable {world : World}

theorem ends_findFirst {name : String} {filter : Filter} {good : Option Document → World → Prop}
    {bad : MapError → World → Prop}
    (answered : ∀ found store, store.collections = world.store.collections →
      world.store.faults.head?.join = none →
      world.store.collections.findFirst name filter = .ok found → good found { world with store })
    (refused : ∀ error store, store.collections = world.store.collections →
      (world.store.faults.head?.join = none →
        world.store.collections.findFirst name filter = .error error) →
      bad (.store error) { world with store }) :
    (onStore (Store.findFirst name filter)).Ends world good bad := by
  apply ends_call
  · intro found collections clear replied
    obtain ⟨result, searched, same⟩ := Result.bind_eq_ok.mp replied
    obtain ⟨rfl, unchanged⟩ := Prod.mk.inj (Except.ok.inj same)
    exact answered result _ unchanged.symm clear searched
  · rintro error (awaits | ⟨-, replied⟩)
    · refine refused error _ rfl fun clear => ?_
      rw [awaits] at clear
      cases clear
    · refine refused error _ rfl fun _ => ?_
      cases searched : world.store.collections.findFirst name filter <;>
        rw [searched] at replied <;> cases replied
      rfl

theorem ends_save {name : String} {doc : Document} {good : Unit → World → Prop}
    {bad : MapError → World → Prop}
    (answered : ∀ store, world.store.collections.save name doc = .ok store.collections →
      good () { world with store })
    (refused : ∀ error store, store.collections = world.store.collections →
      bad (.store error) { world with store }) :
    (onStore (Store.save name doc)).Ends world good bad := by
  refine ends_call (fun _ collections _ replied => ?_) fun error _ => refused error _ rfl
  obtain ⟨after, saved, same⟩ := Result.bind_eq_ok.mp replied
  obtain rfl : after = collections := (Prod.mk.inj (Except.ok.inj same)).2
  exact answered _ saved

end World

namespace Mapper

variable {mapper : Mapper} {descriptor : Descriptor} {field : MappedField} {world after : World}
  {entity left : Entity} {name : ClassName} {id : Value} {version : Option Int64}
  {collections : Collections}

/-! ### Identity and version of an entity -/

/-- Where the version is put, and what becomes of the identity if it is the same field. -/
theorem marks_restoreVersion (described : mapper.catalog.Describes name descriptor)
    (isVersion : descriptor.versionField? = some field)
    (names : (descriptor.fields.map MappedField.name).Nodup) (version : Option Int64)
    (entity : Entity) :
    descriptor.marks field (restoreVersion field version entity) =
      (if field.isId then version.map .integer else descriptor.idValue? entity, version) := by
  obtain ⟨member, -⟩ := Descriptor.versionField?_spec isVersion
  rw [Descriptor.marks, carriedVersion_restoreVersion]
  congr 1
  cases isId : field.isId with
  | true =>
    rw [Catalog.idValue?_eq (described.idField?_eq member isId)]
    cases version with
    | none => simp [restoreVersion, Entity.value?]
    | some n => simp [restoreVersion, Entity.value?, Property.asValue?, Value.isNull, Option.filter]
  | false =>
    cases owner : descriptor.idField? with
    | none => simp [Descriptor.idValue?, owner]
    | some idField =>
      obtain ⟨ownerMember, ownerIsId⟩ := Descriptor.idField?_spec owner
      have differs : idField.name ≠ field.name := by
        intro same
        rw [List.inj_on_of_nodup_map names ownerMember member same, isId] at ownerIsId
        cases ownerIsId
      rw [Catalog.idValue?_eq owner, Catalog.idValue?_eq owner, Entity.value?, Entity.value?]
      cases version with
      | none => simp [restoreVersion, Entity.get?_unset_of_ne _ differs]
      | some n => simp [restoreVersion, Entity.get?_set_of_ne _ differs]

/-- The collections are these, descriptors that are kept are correct, and the entity has this
identity and this version. -/
structure Holding (mapper : Mapper) (descriptor : Descriptor) (field : MappedField)
    (collections : Collections) (marks : Option Value × Option Int64) (state : World × Entity) :
    Prop where
  marked : mapper.Marked descriptor field marks (state.1.memory, state.2)
  collections : state.1.store.collections = collections

theorem Holding.current (holding : mapper.Holding descriptor field world.store.collections
      (some id, version) (after, left))
    (same : version = world.versionAt descriptor field id) :
    after.Current descriptor field left := by
  obtain ⟨identity, carried⟩ := Prod.mk.inj holding.marked.marks
  rw [World.Current, carried, World.identityOf, identity, Option.getD_some, same]
  refine (versionAt_congr ?_ id).symm
  rw [holding.collections]

/-- A version that is the identity as well is stored under itself, so none is stored under an
identifier. -/
theorem versionAt_of_isId (described : mapper.catalog.Describes name descriptor)
    (member : field ∈ descriptor.fields) (isId : field.isId = true) (world : World)
    (oid : ObjectId) : world.versionAt descriptor field (.id oid) = none := by
  rw [World.versionAt]
  cases searched : world.store.collections.findFirst descriptor.collection (.idEq (.id oid)) with
  | error error => rfl
  | ok found =>
    cases found with
    | none => rfl
    | some doc =>
      have own := Collections.get?_of_findFirst searched
      change storedVersion field doc = none
      rw [storedVersion, described.storedName_of_isId member isId, own]
      rfl

/-! ### The steps of a save -/

theorem peaceful_entityClass (name : ClassName) : Peaceful (mapper.entityClass name) := by
  refine (Catalog.peaceful_describe name).bind fun descriptor => ?_
  split
  · exact .pure _
  · exact .throw (by rfl)

/-- Asking for the class of an entity touches neither the store nor the entity. -/
theorem ends_entityClass (sound : world.memory.Sound mapper.catalog) :
    (World.onMemory (mapper.entityClass name)).onFirst.Ends (world, entity)
      (fun descriptor after => mapper.catalog.Describes name descriptor ∧
        ∃ memory, memory.Sound mapper.catalog ∧ after = ({ world with memory }, entity))
      fun error after => error.isConflict = false ∧
        ∃ memory, after = ({ world with memory }, entity) := by
  rw [Run.ends_onFirst, World.ends_onMemory]
  refine ((steady_entityClass mapper _).ends (peaceful_entityClass _) sound).mono ?_
    fun _ memory ends => ⟨ends.1, memory, rfl⟩
  rintro descriptor memory ⟨answered, sound⟩
  exact ⟨(answer_entityClass_eq_ok.mp answered).1, memory, sound, rfl⟩

/-- Whether or not it has one, the entity gets the identity under which it is saved, unless it
cannot be given one. -/
theorem ends_ensureId (described : mapper.catalog.Describes entity.className descriptor)
    (sound : world.memory.Sound mapper.catalog) :
    (mapper.ensureId descriptor).Ends (world, entity)
      (fun id after => id = world.identityOf descriptor entity ∧
        Identified descriptor entity id after.2 ∧ after.1.memory.Sound mapper.catalog ∧
        after.1.store = world.store)
      fun error after => error.isConflict = false ∧ ¬ descriptor.Identifiable entity ∧
        ∃ memory, after = ({ world with memory }, entity) := by
  rw [ensureId]
  cases isId : descriptor.idField? with
  | none =>
    refine ⟨rfl, fun identifiable => ?_, world.memory, rfl⟩
    obtain ⟨owner, isOwner, -⟩ := identifiable (by simp [Descriptor.idValue?, isId])
    rw [isId] at isOwner
    cases isOwner
  | some owner =>
    have held : Catalog.answer (mapper.catalog.idOf entity) = .ok (descriptor.idValue? entity) :=
      Catalog.answer_idOf_eq_ok.mpr ⟨descriptor, described, by rw [isId]; rfl, rfl⟩
    rw [Run.ends_bind, Run.ends_get, Run.ends_bind, Run.ends_onFirst, World.ends_onMemory]
    refine ((Catalog.steady_idOf entity).ends_of_sound sound).mono ?_ ?_
    swap
    · rintro error memory ⟨failed, -⟩
      cases failed.symm.trans held
    rintro _ memory ⟨answered, sound⟩
    obtain rfl := Except.ok.inj (held.symm.trans answered)
    cases isHeld : descriptor.idValue? entity with
    | some id => exact ⟨by rw [World.identityOf, isHeld, Option.getD_some], .own isHeld, sound, rfl⟩
    | none =>
      dsimp only
      split
      next type =>
        exact ⟨by rw [World.identityOf, isHeld]; rfl, .issued isHeld isId type _, sound, rfl⟩
      next type =>
        refine ⟨rfl, fun identifiable => ?_, memory, rfl⟩
        obtain ⟨found, isFound, takes⟩ := identifiable isHeld
        obtain rfl := Option.some.inj (isId.symm.trans isFound)
        exact type takes

/-- The version is counted up if it is confirmed, and what is given takes that back. If it is not
confirmed, nothing changes. -/
theorem ends_advanceVersion (id : Value) :
    (advanceVersion descriptor id).Ends (world, entity)
      (fun restore after => (Advanced descriptor world.store.collections id entity after.2 ∧
        after.1.memory = world.memory ∧ after.1.store.collections = world.store.collections) ∧
        PutBack descriptor entity (restore after.2) ∧
        ∀ field, descriptor.versionField? = some field →
          world.store.Confirms descriptor field id (carriedVersion field entity))
      fun _ after => after.1.store.collections = world.store.collections ∧ after.2 = entity ∧
        ∀ field, descriptor.versionField? = some field →
          ¬ world.store.Confirms descriptor field id (carriedVersion field entity) := by
  rw [advanceVersion]
  split
  next unversioned =>
    exact ⟨⟨.unversioned unversioned, rfl, rfl⟩, .unversioned unversioned, by simp [unversioned]⟩
  next field isVersion =>
    have own : ∀ other, descriptor.versionField? = some other → other = field := fun other same =>
      Option.some.inj (same.symm.trans isVersion)
    rw [Run.ends_bind, Run.ends_get, Run.ends_bind, Run.ends_onFirst]
    apply World.ends_findFirst
    · intro found store same clear searched
      dsimp only
      split
      next current =>
        refine ⟨⟨.counted isVersion searched current, rfl, same⟩, .restored isVersion, ?_⟩
        intro other isOther
        obtain rfl := own other isOther
        exact ⟨clear, found, searched, current⟩
      next stale =>
        refine ⟨same, rfl, fun other isOther confirms => stale ?_⟩
        obtain rfl := own other isOther
        obtain ⟨found', searched', current⟩ := confirms.searched
        obtain rfl := Except.ok.inj (searched.symm.trans searched')
        exact current
    · intro error store same failed
      refine ⟨same, rfl, fun other _ confirms => ?_⟩
      obtain ⟨found, searched, -⟩ := confirms.searched
      cases (failed confirms.answers).symm.trans searched

/-- The version of an entity that carries the stored one is counted up. -/
theorem ends_advanceVersion_of_current (described : mapper.catalog.Describes name descriptor)
    (isVersion : descriptor.versionField? = some field)
    (names : (descriptor.fields.map MappedField.name).Nodup)
    (holding : mapper.Holding descriptor field collections (some id, version) (world, entity))
    (current : version = world.versionAt descriptor field id) :
    (advanceVersion descriptor id).Ends (world, entity)
      (fun restore after => restore = restoreVersion field version ∧
        after.2.className = entity.className ∧
        ∃ next, mapper.Holding descriptor field collections
          (some (if field.isId then .integer next else id), some next) after)
      fun error after => error.isConflict = false ∧
        mapper.Holding descriptor field collections (some id, version) after := by
  obtain ⟨⟨sound, marks⟩, same⟩ := holding
  obtain ⟨identity, carried⟩ := Prod.mk.inj marks
  simp only [advanceVersion, isVersion]
  rw [Run.ends_bind, Run.ends_get, Run.ends_bind, Run.ends_onFirst]
  refine World.ends_findFirst (fun found store unchanged _ searched => ?_)
    fun error store unchanged _ => ⟨rfl, ⟨sound, marks⟩, unchanged.trans same⟩
  have isCurrent : found.bind (storedVersion field) = carriedVersion field entity := by
    rw [carried, current, World.versionAt, searched]
    rfl
  rw [if_pos isCurrent, carried]
  refine ⟨rfl, rfl, version.getD 0 + 1, ⟨sound, ?_⟩, unchanged.trans same⟩
  refine (marks_restoreVersion described isVersion names (some _) entity).trans ?_
  rw [identity]
  cases field.isId <;> rfl

/-- A document is written that shows the identity and the version of the entity, or nothing is. -/
theorem ends_write {next : Int64} (described : mapper.catalog.Describes entity.className descriptor)
    (isVersion : descriptor.versionField? = some field)
    (apart : mapper.catalog.options.classNameKey ≠ idField)
    (prePersist : mapper.Discreet descriptor field .prePersist)
    (preSave : mapper.Discreet descriptor field .preSave)
    (holding : mapper.Holding descriptor field collections (some id, some next) (world, entity)) :
    (mapper.write descriptor).Ends (world, entity)
      (fun doc after => field.documentMarks doc = (some id, some next) ∧
        mapper.Marked descriptor field (some id, some next) (after.1.memory, after.2) ∧
        collections.save descriptor.collection doc = .ok after.1.store.collections)
      fun error after => error.isConflict = false ∧
        mapper.Holding descriptor field collections (some id, some next) after := by
  rw [write, Run.ends_bind, World.ends_onEntity]
  refine (ends_toDocument described isVersion apart prePersist preSave holding.marked).mono ?_
    fun _ _ ends => ⟨ends.1, ends.2, holding.collections⟩
  rintro doc ⟨memory, left⟩ ⟨shows, marked⟩
  rw [Run.ends_bind, Run.ends_onFirst]
  refine World.ends_save (fun store saved => ⟨shows, marked, ?_⟩)
    fun _ store unchanged => ⟨rfl, marked, unchanged.trans holding.collections⟩
  rw [← holding.collections]
  exact saved

/-- An entity whose version is put back after nothing was written is as current as it was. Where the
version is the identity as well, that is put back with it, or both are gone. -/
theorem current_restoreVersion {next : Int64}
    (described : mapper.catalog.Describes name descriptor)
    (isVersion : descriptor.versionField? = some field)
    (names : (descriptor.fields.map MappedField.name).Nodup)
    (marks : descriptor.marks field entity = (some id, version))
    (known : version = world.versionAt descriptor field id)
    (holding : mapper.Holding descriptor field world.store.collections
      (some (if field.isId then .integer next else id), some next) (after, left)) :
    after.Current descriptor field (restoreVersion field version left) := by
  obtain ⟨identity, carried⟩ := Prod.mk.inj marks
  obtain ⟨⟨sound, counted⟩, same⟩ := holding
  have back := marks_restoreVersion described isVersion names version left
  have member := (Descriptor.versionField?_spec isVersion).1
  have unchanged : ∀ restored, descriptor.marks field restored = (some id, version) →
      after.Current descriptor field restored := fun restored marks =>
    Holding.current ⟨⟨sound, marks⟩, same⟩ known
  cases isId : field.isId with
  | false =>
    rw [isId, if_neg Bool.false_ne_true] at counted back
    rw [(Prod.mk.inj counted).1] at back
    exact unchanged _ back
  | true =>
    rw [isId, if_pos rfl] at back
    cases version with
    | none =>
      obtain ⟨gone, unset⟩ := Prod.mk.inj back
      rw [World.Current, unset, World.identityOf, gone]
      exact (versionAt_of_isId described member isId after _).symm
    | some n =>
      rw [idValue?_of_isId described member isId carried] at identity
      exact unchanged _ (back.trans (by rw [← identity]; rfl))

/-- What a save leaves: an entity that carries the stored version, or one whose document was
written. -/
inductive Settled (descriptor : Descriptor) (field : MappedField) (before : World)
    (state : World × Entity) : Prop
  | current (current : state.1.Current descriptor field state.2)
  | written {id : Value} {next : Int64} {doc : Document}
      (marks : descriptor.marks field state.2 = (some id, some next))
      (shows : field.documentMarks doc = (some id, some next))
      (stored : before.store.collections.save descriptor.collection doc =
        .ok state.1.store.collections)

theorem ends_save (described : mapper.catalog.Describes entity.className descriptor)
    (isVersion : descriptor.versionField? = some field)
    (names : (descriptor.fields.map MappedField.name).Nodup)
    (apart : mapper.catalog.options.classNameKey ≠ idField)
    (prePersist : mapper.Discreet descriptor field .prePersist)
    (preSave : mapper.Discreet descriptor field .preSave)
    (postPersist : mapper.Discreet descriptor field .postPersist)
    (sound : world.memory.Sound mapper.catalog) (current : world.Current descriptor field entity) :
    mapper.save.Ends (world, entity) (fun _ after => Settled descriptor field world after)
      fun error after => error.isConflict = false ∧ Settled descriptor field world after := by
  rw [save, Run.ends_bind, Run.ends_get]
  refine (ends_entityClass sound).bind ?_ ?_
  swap
  · rintro error _ ⟨peaceful, memory, rfl⟩
    exact ⟨peaceful, .current current⟩
  rintro found _ ⟨described', memory, sound, rfl⟩
  obtain rfl := described.unique described'
  refine (ends_ensureId described sound).bind ?_ ?_
  swap
  · rintro error _ ⟨peaceful, -, memory, rfl⟩
    exact ⟨peaceful, .current current⟩
  rintro id ⟨first, named⟩ ⟨isIdentity, identified, sound, sameStore⟩
  have holding : mapper.Holding descriptor field world.store.collections
      (some id, carriedVersion field entity) (first, named) :=
    ⟨⟨sound, Prod.ext identified.idValue?_eq
      (identified.carriedVersion_eq described names isVersion)⟩, by rw [sameStore]⟩
  have known : carriedVersion field entity = world.versionAt descriptor field id := by
    rw [isIdentity]
    exact current
  have knownFirst : carriedVersion field entity = first.versionAt descriptor field id := by
    rw [known]
    refine (versionAt_congr ?_ id).symm
    rw [holding.collections]
  refine (ends_advanceVersion_of_current described isVersion names holding knownFirst).bind ?_
    fun _ _ ends => ⟨ends.1, .current (ends.2.current known)⟩
  rintro restore ⟨second, counted⟩ ⟨rfl, isClass', next, advanced⟩
  have describedCounted : mapper.catalog.Describes counted.className descriptor := by
    rw [isClass', identified.className_eq]
    exact described
  rw [Run.ends_bind, Run.ends_onError]
  refine (ends_write describedCounted isVersion apart prePersist preSave advanced).mono ?_ ?_
  · rintro doc ⟨third, written⟩ ⟨shows, marked, stored⟩
    rw [Run.ends_bind, World.ends_onEntity]
    refine (ends_dispatch postPersist marked doc).mono ?_ ?_
    · rintro _ left ⟨-, marked⟩
      exact .written marked.marks shows stored
    · rintro _ left ⟨peaceful, marked⟩
      exact ⟨peaceful, .written marked.marks shows stored⟩
  · rintro error ⟨third, left⟩ ⟨peaceful, unwritten⟩
    exact ⟨peaceful, .current (current_restoreVersion described isVersion names
      holding.marked.marks known unwritten)⟩

/-- A document that was written shows the version of its entity where it can be read. -/
theorem Settled.isCurrent (settled : Settled descriptor field world (after, left))
    (labelled : Collections.Labelled (world.store.collections.documents descriptor.collection))
    (within : Collections.Within (after.store.collections.documents descriptor.collection)) :
    after.Current descriptor field left := by
  cases settled with
  | current current => exact current
  | @written id next doc marks shows stored =>
    obtain ⟨identity, carried⟩ := Prod.mk.inj marks
    obtain ⟨identified, version⟩ := Prod.mk.inj shows
    obtain ⟨_, isStored, intact, found⟩ := labelled.of_save stored within
    obtain rfl := Option.some.inj (identified.symm.trans isStored)
    rw [World.Current, World.identityOf, identity, carried, Option.getD_some, versionAt_eq intact,
      found, Option.bind_some, version]

/-- No save makes an entity stale. If the entity carries the version that is stored under its
identity, it does so after a save as well, however that ends: with a key, or with an error of a
hook, of encoding or of the store, before the document was written or after. And the save does not
report a conflict. The hooks of the save may fail at any time but leave identity and version alone,
failures may await any call to the store, and documents nest no deeper than they can be read. -/
theorem save_keeps_current (described : mapper.catalog.Describes entity.className descriptor)
    (isVersion : descriptor.versionField? = some field)
    (names : (descriptor.fields.map MappedField.name).Nodup)
    (apart : mapper.catalog.options.classNameKey ≠ idField)
    (discreet : ∀ event ∈ [Event.prePersist, .preSave, .postPersist],
      mapper.Discreet descriptor field event)
    (sound : world.memory.Sound mapper.catalog)
    (labelled : Collections.Labelled (world.store.collections.documents descriptor.collection))
    {result : Except MapError Key}
    (ran : mapper.save.outcome (world, entity) = (result, (after, left)))
    (within : Collections.Within (after.store.collections.documents descriptor.collection))
    (current : world.Current descriptor field entity) :
    (∀ name id stored expected,
      result ≠ .error (.concurrentModification name id stored expected)) ∧
    after.Current descriptor field left := by
  have ends := ends_save described isVersion names apart (discreet _ (by simp))
    (discreet _ (by simp)) (discreet _ (by simp)) sound current
  cases result with
  | ok key =>
    exact ⟨by simp, ((Run.ends_of_ok ran).mp ends).isCurrent labelled within⟩
  | error error =>
    obtain ⟨peaceful, settled⟩ := (Run.ends_of_error ran).mp ends
    refine ⟨?_, settled.isCurrent labelled within⟩
    rintro name id stored expected ⟨rfl⟩
    cases peaceful

end Mapper

namespace Samples

/-- An interceptor that fails when a document was written, and changes nothing. -/
def complaining : Interceptor := fun event entity doc =>
  .finish entity doc (if event = .postPersist then some "full" else none)

theorem discreet_complaining (descriptor : Descriptor) (field : MappedField) (event : Event) :
    Interceptor.Discreet descriptor field event complaining :=
  fun _ _ => ⟨rfl, fun _ => rfl⟩

/-- A note is written, and then the save fails all the same. The note is left with version 1, which
is the one that is stored. -/
theorem save_keeps_current_jotted :
    let mapper : Mapper := { catalog := { registry := notebook }, interceptors := [complaining] }
    let descriptor := Catalog.assemble { registry := notebook } note none [] []
    let ended := mapper.save.outcome ({}, jotted)
    ended.1.toOption = none ∧ Mapper.carriedVersion noteVersion ended.2.2 = some 1 ∧
      ended.2.1.Current descriptor noteVersion ended.2.2 := by
  intro mapper descriptor ended
  have docs : ended.2.1.store.collections.documents descriptor.collection =
      [⟨.id (IdSeries.member {} 1), Cbor.write [("_id", .id (IdSeries.member {} 1)),
        ("className", .text "Note"), ("version", .integer 1), ("text", .text "hello")]⟩] := by
    decide +kernel
  have within :
      Collections.Within (ended.2.1.store.collections.documents descriptor.collection) := by
    rw [docs]
    rintro _ (_ | ⟨_, ⟨⟩⟩)
    exact ⟨_, ⟨by decide, by decide +kernel⟩, rfl⟩
  have labelled : Collections.Labelled
      (({} : World).store.collections.documents descriptor.collection) :=
    ⟨List.nodup_nil, by simp [Collections.documents]⟩
  have discreet : ∀ event ∈ [Event.prePersist, .preSave, .postPersist],
      mapper.Discreet descriptor noteVersion event := by
    refine fun event _ => ⟨?_, ?_⟩
    · simp [descriptor, Descriptor.handlersFor, Catalog.assemble]
    · rintro _ (_ | ⟨_, ⟨⟩⟩)
      exact discreet_complaining _ _ _
  have current : ({} : World).Current descriptor noteVersion jotted := by decide +kernel
  exact ⟨by decide +kernel, by decide +kernel, (Mapper.save_keeps_current describes_note (by decide)
    (by decide) (by decide) discreet (Memory.sound_empty _) labelled rfl within current).2⟩

end Samples

end DocMapper
