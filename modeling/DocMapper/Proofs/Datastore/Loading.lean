import Mathlib.Data.List.ReduceOption
import DocMapper.Proofs.Datastore.Loaded
import DocMapper.Proofs.Datastore.Ready
import DocMapper.Proofs.Hook.Plain
import DocMapper.Proofs.Store.Intact

/-!
# Loading without hooks

A mapper without hooks reads a document as decoding reads it. Loading then only looks at documents,
however many references it follows, and what it gives is what decoding makes of the document, with
followed references in place of the keys in the eager fields. Where no reference is
followed, the entity under an identity is what decoding makes of the document under it.
-/

namespace DocMapper

namespace Mapper

variable {mapper : Mapper} {name : ClassName} {descriptor : Descriptor} {world : World}

/-! ### Any mapper -/

theorem steady_entityClass (mapper : Mapper) (name : ClassName) :
    mapper.catalog.Steady (mapper.entityClass name) := by
  apply (Catalog.steady_describe name).bind
  intro descriptor _
  split
  · exact Catalog.steady_pure _
  · exact Catalog.steady_throw _

/-- An entity class is a class whose type has documents of its own. -/
theorem answer_entityClass_eq_ok :
    Catalog.answer (mapper.entityClass name) = .ok descriptor ↔
      mapper.catalog.Describes name descriptor ∧ descriptor.isEntity = true := by
  have steady : ∀ found : Descriptor, mapper.catalog.Steady
      (if found.isEntity then pure found
        else throw (.mapping (.notAnEntity name)) : MapM Descriptor) := by
    intro found
    split
    · exact Catalog.steady_pure _
    · exact Catalog.steady_throw _
  rw [entityClass, (Catalog.steady_describe name).answer_bind_eq_ok fun found _ => steady found]
  simp only [Catalog.answer_describe_eq_ok]
  constructor
  · rintro ⟨found, described, given⟩
    split at given
    · cases given
      exact ⟨described, ‹_›⟩
    · cases given
  · rintro ⟨described, isEntity⟩
    exact ⟨descriptor, described, by simp [isEntity]⟩

theorem outcome_entityClass (ready : world.Ready mapper.catalog)
    (described : mapper.catalog.Describes name descriptor) (isEntity : descriptor.isEntity = true) :
    ∃ after, world.Keeps mapper.catalog after ∧
      (World.onMemory (mapper.entityClass name)).outcome world = (.ok descriptor, after) :=
  World.outcome_onMemory_of_ok ((steady_entityClass mapper name).gives
    (answer_entityClass_eq_ok.mpr ⟨described, isEntity⟩)) ready

/-- A search in an intact collection for an identity finds the document under it. -/
theorem outcome_findFirst_idEq {before : World} (keeps : before.Keeps mapper.catalog world)
    {collection : String}
    (intact : Collections.Intact (before.store.collections.documents collection))
    {identity : Value} {found : Option Document}
    (isFound : Collections.documentAt? (before.store.collections.documents collection) identity =
      found) :
    ∃ after, before.Keeps mapper.catalog after ∧
      (World.onStore (Store.findFirst collection (.idEq identity))).outcome world =
        (.ok found, after) := by
  have searched : world.store.collections.findFirst collection (.idEq identity) = .ok found := by
    rw [keeps.collections, Collections.findFirst_idEq intact, isFound]
  obtain ⟨after, keeps', ran⟩ := World.outcome_findFirst_of_ok keeps.ready searched
  exact ⟨after, keeps.trans keeps', ran⟩

theorem looks_remember (mapper : Mapper) (place : Pointer) (result : Option Entity) :
    Looks mapper.catalog Prod.fst (remember place result) fun _ => True :=
  Looks.modify fun _ => rfl

theorem looks_rememberAbsent (mapper : Mapper) (batch : Batch) (id : Value) :
    Looks mapper.catalog Prod.fst (rememberAbsent batch id) fun _ => True := by
  apply Looks.get.bind
  intro state _
  split
  · exact .pure trivial
  · exact looks_remember mapper _ _

@[simp] theorem outcome_withFreshCache {α : Type} (act : ResolveM α) (world : World) :
    (withFreshCache act).outcome world =
      ((act.outcome (world, [])).1, (act.outcome (world, [])).2.1) := by
  rw [withFreshCache, Run.outcome_bind, Run.outcome_withCompanion]
  rcases act.outcome (world, []) with ⟨_ | _, _⟩ <;> rfl

theorem outcome_withFreshCache_eq {α : Type} {act : ResolveM α} {world after : World}
    {result : Except MapError α} (ran : (withFreshCache act).outcome world = (result, after)) :
    ∃ cache, act.outcome (world, []) = (result, (after, cache)) := by
  rw [outcome_withFreshCache] at ran
  cases ran
  exact ⟨_, rfl⟩

theorem looks_withFreshCache {α : Type} {act : ResolveM α} {said : α → Prop}
    (looks : Looks mapper.catalog Prod.fst act said) :
    Looks mapper.catalog id (withFreshCache act) said :=
  looks.withCompanion.bind fun _ holds => .pure holds

theorem steady_holdsInstance (mapper : Mapper) (name : ClassName) (doc : Document) :
    mapper.catalog.Steady (mapper.holdsInstance name doc) := by
  rw [holdsInstance]
  split
  · exact Catalog.steady_pure _
  · exact (Catalog.steady_describe _).bind fun _ _ => Catalog.steady_pure _

/-- Nothing is loaded for a class without documents of its own. -/
theorem outcome_get_of_noEntity (ready : world.Ready mapper.catalog)
    (described : mapper.catalog.Describes name descriptor) (noEntity : descriptor.isEntity = false)
    (identity : Value) :
    ∃ error after, (mapper.get name identity).outcome world = (.error error, after) := by
  obtain ⟨after, -, ran⟩ := World.outcome_onMemory (steady_entityClass mapper name) ready
  cases answered : Catalog.answer (mapper.entityClass name) with
  | error error =>
    rw [answered] at ran
    exact ⟨error, after, by rw [get, Run.outcome_bind_of_error ran]⟩
  | ok found =>
    obtain ⟨described', isEntity⟩ := answer_entityClass_eq_ok.mp answered
    obtain rfl := described.unique described'
    simp [isEntity] at noEntity

/-- Asking for an entity loads the first document with the identity. -/
theorem outcome_get_of_found (ready : world.Ready mapper.catalog)
    (described : mapper.catalog.Describes name descriptor) (isEntity : descriptor.isEntity = true)
    {identity : Value} {doc : Document}
    (found : world.store.collections.findFirst descriptor.collection (.idEq identity) =
      .ok (some doc)) :
    ∃ after, world.Keeps mapper.catalog after ∧ (mapper.get name identity).outcome world =
      (some <$> withFreshCache (mapper.loadResolved name doc)).outcome after := by
  obtain ⟨first, keeps, ran⟩ := outcome_entityClass ready described isEntity
  rw [← keeps.collections] at found
  obtain ⟨second, keeps', ran'⟩ := World.outcome_findFirst_of_ok keeps.ready found
  refine ⟨second, keeps.trans keeps', ?_⟩
  rw [get, Run.outcome_bind_of_ok ran, loadAt, Run.outcome_bind_of_ok ran', map_eq_pure_bind]

theorem outcome_get_of_none (ready : world.Ready mapper.catalog)
    (described : mapper.catalog.Describes name descriptor) (isEntity : descriptor.isEntity = true)
    (intact : Collections.Intact (world.store.collections.documents descriptor.collection))
    {identity : Value}
    (absent : Collections.documentAt? (world.store.collections.documents descriptor.collection)
      identity = none) :
    ∃ after, world.Keeps mapper.catalog after ∧
      (mapper.get name identity).outcome world = (.ok none, after) := by
  obtain ⟨first, keeps, ran⟩ := outcome_entityClass ready described isEntity
  obtain ⟨second, keeps', ran'⟩ := outcome_findFirst_idEq keeps intact absent
  refine ⟨second, keeps', ?_⟩
  rw [get, Run.outcome_bind_of_ok ran, loadAt, Run.outcome_bind_of_ok ran', Run.outcome_pure]

/-- The number of entities of a class is the number of documents in its collection. -/
theorem outcome_count (ready : world.Ready mapper.catalog)
    (described : mapper.catalog.Describes name descriptor) (isEntity : descriptor.isEntity = true) :
    ∃ after, world.Keeps mapper.catalog after ∧ (mapper.count name).outcome world =
      (.ok (world.store.collections.documents descriptor.collection).length, after) := by
  obtain ⟨first, keeps, ran⟩ := outcome_entityClass ready described isEntity
  obtain ⟨second, keeps', ran'⟩ := World.outcome_count keeps.ready descriptor.collection
  rw [keeps.collections] at ran'
  exact ⟨second, keeps.trans keeps', by rw [count, Run.outcome_bind_of_ok ran, ran']; rfl⟩

/-- Deleting an identity leaves the documents with other identities. -/
theorem outcome_delete (ready : world.Ready mapper.catalog)
    (described : mapper.catalog.Describes name descriptor) (isEntity : descriptor.isEntity = true)
    (identity : Value) :
    ∃ after, after.Ready mapper.catalog ∧
      after.store.collections =
        (world.store.collections.delete descriptor.collection identity).2 ∧
      (mapper.delete name identity).outcome world =
        (.ok (world.store.collections.delete descriptor.collection identity).1, after) := by
  obtain ⟨first, keeps, ran⟩ := outcome_entityClass ready described isEntity
  obtain ⟨second, ready', same, ran'⟩ := @World.outcome_onStore_call mapper.catalog first Bool
    (.delete descriptor.collection identity)
    (fun c => .ok (c.delete descriptor.collection identity)) _ _ keeps.ready rfl
  rw [keeps.collections] at same ran'
  exact ⟨second, ready', same, by rw [delete, Run.outcome_bind_of_ok ran]; exact ran'⟩

namespace Plain

/-! ### Reading a document -/

/-- Loading into an entity gives what decoding gives, and the document as it is. -/
theorem gives_load (plain : mapper.Plain) (described : mapper.catalog.Describes name descriptor)
    (entity : Entity) (doc : Document) :
    mapper.catalog.Gives (Run.withCompanion entity (mapper.load descriptor doc))
      ((Catalog.answer (mapper.catalog.decodeInto descriptor entity doc)).map (doc, ·)) := by
  intro memory sound
  obtain ⟨after, learns, ran⟩ :=
    (Catalog.steady_decodeInto descriptor entity doc).outcome sound
  refine ⟨after, learns, ?_⟩
  have first := Run.outcome_onFirst_eq entity ran
  rw [Run.outcome_withCompanion, load, plain.dispatch_eq described, pure_bind,
    Run.outcome_bind_of_ok (Run.outcome_get _)]
  cases read : Catalog.answer (mapper.catalog.decodeInto descriptor entity doc) with
  | error error =>
    rw [read] at first
    rw [Run.outcome_bind_of_error first]
    rfl
  | ok entity =>
    rw [read] at first
    rw [Run.outcome_bind_of_ok first]
    rfl

/-- A dispatch gives the document as it is, and leaves the entity alone. -/
theorem gives_dispatch (plain : mapper.Plain) (described : mapper.catalog.Describes name descriptor)
    (event : Event) (entity : Entity) (doc : Document) :
    mapper.catalog.Gives (Run.withCompanion entity (mapper.dispatch descriptor event doc))
      (.ok (doc, entity)) := by
  rw [plain.dispatch_eq described]
  exact Catalog.gives_pure (doc, entity)

theorem gives_fromDocument (plain : mapper.Plain) (requested : ClassName) (doc : Document) :
    mapper.catalog.Gives (mapper.fromDocument requested doc)
      (Catalog.answer (mapper.catalog.decodeDocument requested doc)) := by
  have steadyClass := @Catalog.steady_concreteClass mapper.catalog requested doc
  have decoded := steadyClass.answer_bind fun found _ =>
    Catalog.steady_decodeInto found (.empty found.className) doc
  rw [show mapper.catalog.decodeDocument requested doc = mapper.catalog.concreteClass requested doc
    >>= fun found => mapper.catalog.decodeInto found (.empty found.className) doc from rfl, decoded,
    fromDocument]
  cases isClass : Catalog.answer (mapper.catalog.concreteClass requested doc) with
  | error error =>
    rw [Catalog.Steady, isClass] at steadyClass
    exact steadyClass.bind_error
  | ok found =>
    rw [Catalog.Steady, isClass] at steadyClass
    obtain ⟨_, described⟩ := (Catalog.answer_concreteClass_eq_ok.mp isClass).describes
    have loads := plain.gives_load described (.empty found.className) doc
    apply steadyClass.bind
    simp only [plain.dispatch_eq described, bind_pure, Result.ok_bind]
    cases read : Catalog.answer
        (mapper.catalog.decodeInto found (.empty found.className) doc) with
    | error error =>
      rw [read] at loads
      exact loads.bind_error
    | ok entity =>
      rw [read] at loads
      exact loads.bind (Catalog.gives_pure entity)

theorem steady_fromDocument (plain : mapper.Plain) (requested : ClassName) (doc : Document) :
    mapper.catalog.Steady (mapper.fromDocument requested doc) :=
  (plain.gives_fromDocument requested doc).steady

/-! ### Resolving references -/

theorem looks_fromDocument (plain : mapper.Plain) (requested : ClassName) (doc : Document) :
    Looks mapper.catalog Prod.fst
      (Run.onFirst (World.onMemory (mapper.fromDocument requested doc)) : ResolveM Entity)
      fun _ => True :=
  (Looks.onMemory (plain.steady_fromDocument requested doc)).onFirst.weaken fun _ _ => trivial

theorem looks_resolveKey (plain : mapper.Plain) (key : Key) :
    Looks mapper.catalog Prod.fst (mapper.resolveKey key) fun _ => True := by
  apply Looks.get.bind
  intro state _
  split
  · exact .pure trivial
  · apply (Looks.findFirst _ _).onFirst.bind
    intro found _
    have reads : Looks mapper.catalog Prod.fst (found.mapM fun doc => (Run.onFirst
        (World.onMemory (mapper.fromDocument key.className doc)) : ResolveM Entity))
        fun _ => True := by
      cases found with
      | none => exact .pure trivial
      | some doc =>
        rw [Option.mapM_some, map_eq_pure_bind]
        exact (plain.looks_fromDocument _ _).bind fun _ _ => .pure trivial
    exact reads.bind fun _ _ => (looks_remember mapper _ _).bind fun _ _ => .pure trivial

theorem looks_rememberFound (plain : mapper.Plain) (batch : Batch) (doc : Document) :
    Looks mapper.catalog Prod.fst (mapper.rememberFound batch doc) fun _ => True := by
  rw [rememberFound]
  split
  · exact .pure trivial
  · exact (plain.looks_fromDocument _ _).bind fun _ _ => looks_remember mapper _ _

theorem looks_fetch (plain : mapper.Plain) (batch : Batch) :
    Looks mapper.catalog Prod.fst (mapper.fetch batch) fun _ => True := by
  apply (Looks.find _ _).onFirst.bind
  intro docs _
  refine (Looks.forM fun doc _ => plain.looks_rememberFound batch doc).bind fun _ _ => ?_
  exact Looks.forM fun id _ => looks_rememberAbsent mapper batch id

/-- What a key becomes when its place was looked up is no key any more. -/
theorem isFollowed_of_linkTo {field : MappedField} {key : Key} {found : Option Entity}
    {ref : Reference} (linked : mapper.linkTo field key found = .ok (some ref)) :
    ref.isFollowed = true := by
  cases found with
  | some entity =>
    cases linked
    rfl
  | none =>
    rw [linkTo, dangling] at linked
    split at linked
    · cases linked
      rfl
    · cases linked
    · cases linked

theorem isFollowed_of_links {field : MappedField} {cache : EntityCache} {keys : List Key}
    {refs : List Reference} (linked : mapper.links field cache keys = .ok refs) :
    refs.all Reference.isFollowed = true := by
  obtain ⟨found, each, given⟩ := Result.bind_eq_ok.mp linked
  obtain rfl := Except.ok.inj given
  refine List.all_eq_true.mpr fun ref member => ?_
  obtain ⟨key, -, linked⟩ :=
    Result.exists_of_mem_results each (List.reduceOption_mem_iff.mp member)
  exact isFollowed_of_linkTo linked

theorem looks_resolve (plain : mapper.Plain) (field : MappedField) (stored : Value) :
    Looks mapper.catalog Prod.fst (mapper.resolve field stored) fun property =>
      property.isFollowed = true := by
  rw [resolve]
  split
  · exact .pure rfl
  apply Looks.bind (Looks.onMemory (Catalog.steady_keys field stored)).onFirst
  intro keys _
  split
  · apply Looks.get.bind
    intro state _
    refine (Looks.forM fun batch _ => plain.looks_fetch batch).bind fun _ _ => ?_
    apply Looks.get.bind
    intro state' _
    exact (Looks.ofExcept fun _ linked => isFollowed_of_links linked).bind fun _ all => .pure all
  · split
    · exact .pure rfl
    · apply (plain.looks_resolveKey _).bind
      intro entity _
      refine Looks.bind (Looks.ofExcept fun _ linked => linked) fun ref linked => ?_
      cases ref with
      | none => exact .pure rfl
      | some ref => exact .pure (isFollowed_of_linkTo linked)

/-! ### Loading entities -/

theorem looks_loadReference (plain : mapper.Plain) (doc : Document) (entity : Entity)
    (field : MappedField) :
    Looks mapper.catalog Prod.fst (mapper.loadReference doc entity field) fun next =>
      ∃ followed, Replaces doc field followed ∧
        next = followed.elim entity (entity.set field.name) := by
  rw [loadReference]
  cases found : Document.get? doc field.storedName with
  | none => exact .pure ⟨none, ⟨by rw [found]; rfl, by simp⟩, rfl⟩
  | some stored =>
    refine (plain.looks_resolve field stored).bind fun property isFollowed => ?_
    exact .pure ⟨some property, ⟨by rw [found]; rfl, by simpa using isFollowed⟩, rfl⟩

theorem looks_loadResolved (plain : mapper.Plain) (requested : ClassName) (doc : Document) :
    Looks mapper.catalog Prod.fst (mapper.loadResolved requested doc)
      (mapper.Loaded requested doc) := by
  refine Looks.bind (Looks.onMemory (Catalog.steady_concreteClass requested doc)).onFirst
    fun descriptor answered => ?_
  have isClass := Catalog.answer_concreteClass_eq_ok.mp answered
  obtain ⟨_, described⟩ := isClass.describes
  have loads := plain.gives_load described (.empty descriptor.className) doc
  refine Looks.bind (Looks.onMemory loads.steady).onFirst fun loaded given => ?_
  rw [loads.answer_eq] at given
  obtain ⟨decoded, decodes, rfl⟩ := Result.map_eq_ok.mp given
  refine Looks.bind (Looks.foldlM_updates fun entity field _ =>
    plain.looks_loadReference doc entity field) fun entity followed => ?_
  have quiet := plain.gives_dispatch described .postLoad entity doc
  refine Looks.bind (Looks.onMemory quiet.steady).onFirst fun last left => ?_
  rw [quiet.answer_eq] at left
  obtain rfl := Except.ok.inj left
  obtain ⟨followed, follows, rfl⟩ := followed
  exact .pure (.intro isClass ((Catalog.answer_decodeDocument_of_readAs isClass).trans decodes)
    follows)

theorem looks_loadAt (plain : mapper.Plain) (name : ClassName) (collection : String)
    (identity : Value) :
    Looks mapper.catalog id (mapper.loadAt name collection identity) fun _ => True := by
  apply (Looks.findFirst _ _).bind
  intro found _
  cases found with
  | none => exact .pure trivial
  | some doc =>
    exact (looks_withFreshCache (plain.looks_loadResolved name doc)).bind fun _ _ => .pure trivial

/-- Asking for an entity leaves the documents as they are. -/
theorem looks_get (plain : mapper.Plain) (name : ClassName) (identity : Value) :
    Looks mapper.catalog id (mapper.get name identity) fun _ => True :=
  (Looks.onMemory (steady_entityClass mapper name)).bind fun descriptor _ =>
    plain.looks_loadAt name descriptor.collection identity

theorem looks_loadFound (plain : mapper.Plain) (name : ClassName) (doc : Document) :
    Looks mapper.catalog Prod.fst (mapper.loadFound name doc) fun found =>
      ∀ entity ∈ found, mapper.Loaded name doc entity := by
  refine Looks.bind (Looks.onMemory (steady_holdsInstance mapper name doc)).onFirst
    fun holds _ => ?_
  cases holds with
  | true =>
    exact (plain.looks_loadResolved name doc).bind fun _ loaded => .pure (by simpa using loaded)
  | false => exact .pure (by simp)

/-- Searching for entities leaves the documents as they are. -/
theorem looks_find (plain : mapper.Plain) (name : ClassName) (filter : Filter) :
    Looks mapper.catalog id (mapper.find name filter) fun _ => True := by
  apply (Looks.onMemory (steady_entityClass mapper name)).bind
  intro descriptor _
  apply (Looks.find _ _).bind
  intro docs _
  exact (looks_withFreshCache (Looks.mapM fun doc _ => plain.looks_loadFound name doc)).bind
    fun _ _ => .pure trivial

/-- An entity at a place was loaded from the first document there. -/
theorem loaded_of_loadAt (plain : mapper.Plain) (ready : world.Ready mapper.catalog)
    {collection : String} {identity : Value} {entity : Entity} {after : World}
    (ran : (mapper.loadAt name collection identity).outcome world = (.ok (some entity), after)) :
    ∃ doc, world.store.collections.findFirst collection (.idEq identity) = .ok (some doc) ∧
      mapper.Loaded name doc entity := by
  obtain ⟨middle, keeps, searched⟩ := World.outcome_findFirst ready collection (.idEq identity)
  rw [loadAt] at ran
  cases found : world.store.collections.findFirst collection (.idEq identity) with
  | error error =>
    rw [found] at searched
    rw [Run.outcome_bind_of_error searched] at ran
    cases ran
  | ok found? =>
    rw [found] at searched
    rw [Run.outcome_bind_of_ok searched] at ran
    cases found? with
    | none => cases ran
    | some doc =>
      have looks : Looks mapper.catalog id
          (do return some (← withFreshCache (mapper.loadResolved name doc)))
          fun result => ∀ entity ∈ result, mapper.Loaded name doc entity :=
        (looks_withFreshCache (plain.looks_loadResolved name doc)).bind fun _ loaded =>
          .pure (by simpa using loaded)
      exact ⟨doc, rfl, (looks middle keeps.ready).2 _ (congrArg Prod.fst ran) entity rfl⟩

/-- An entity under an identity was loaded from the first document with the identity. -/
theorem loaded_of_get (plain : mapper.Plain) (ready : world.Ready mapper.catalog) {identity : Value}
    {entity : Entity} {after : World}
    (ran : (mapper.get name identity).outcome world = (.ok (some entity), after)) :
    ∃ home doc, mapper.catalog.Describes name home ∧
      world.store.collections.findFirst home.collection (.idEq identity) = .ok (some doc) ∧
        mapper.Loaded name doc entity := by
  obtain ⟨middle, keeps, asked⟩ := World.outcome_onMemory (steady_entityClass mapper name) ready
  rw [get] at ran
  cases isClass : Catalog.answer (mapper.entityClass name) with
  | error error =>
    rw [isClass] at asked
    rw [Run.outcome_bind_of_error asked] at ran
    cases ran
  | ok home =>
    rw [isClass] at asked
    rw [Run.outcome_bind_of_ok asked] at ran
    obtain ⟨doc, found, loaded⟩ := plain.loaded_of_loadAt keeps.ready ran
    rw [keeps.collections] at found
    exact ⟨home, doc, (answer_entityClass_eq_ok.mp isClass).1, found, loaded⟩

/-- Entities that a search gives were loaded from documents that it found. -/
theorem loaded_of_find (plain : mapper.Plain) (ready : world.Ready mapper.catalog) {filter : Filter}
    {entities : List Entity} {after : World}
    (ran : (mapper.find name filter).outcome world = (.ok entities, after)) :
    ∃ home docs, mapper.catalog.Describes name home ∧
      world.store.collections.find home.collection filter = .ok docs ∧
        ∀ entity ∈ entities, ∃ doc ∈ docs, mapper.Loaded name doc entity := by
  obtain ⟨first, keeps, asked⟩ := World.outcome_onMemory (steady_entityClass mapper name) ready
  rw [find] at ran
  cases isClass : Catalog.answer (mapper.entityClass name) with
  | error error =>
    rw [isClass] at asked
    rw [Run.outcome_bind_of_error asked] at ran
    cases ran
  | ok home =>
    rw [isClass] at asked
    rw [Run.outcome_bind_of_ok asked] at ran
    obtain ⟨second, keeps', searched⟩ := World.outcome_find keeps.ready home.collection filter
    rw [keeps.collections] at searched
    cases found : world.store.collections.find home.collection filter with
    | error error =>
      rw [found] at searched
      rw [Run.outcome_bind_of_error searched] at ran
      cases ran
    | ok docs =>
      rw [found] at searched
      rw [Run.outcome_bind_of_ok searched] at ran
      have looks : Looks mapper.catalog id
          (do return (← withFreshCache (docs.mapM (mapper.loadFound name))).reduceOption)
          fun entities => ∀ entity ∈ entities, ∃ doc ∈ docs, mapper.Loaded name doc entity :=
        (looks_withFreshCache (Looks.mapM fun doc _ => plain.looks_loadFound name doc)).bind
          fun results pairs => .pure fun entity member => by
            obtain ⟨doc, inDocs, loaded⟩ :=
              Result.exists_of_mem_right pairs (List.reduceOption_mem_iff.mp member)
            exact ⟨doc, inDocs, loaded entity rfl⟩
      exact ⟨home, docs, (answer_entityClass_eq_ok.mp isClass).1, found,
        (looks second keeps'.ready).2 _ (congrArg Prod.fst ran)⟩

/-! ### Entities without references -/

section

variable {requested : ClassName} {doc : Document} {entity : Entity}

/-- Loading follows the eager references of what the document is decoded as. -/
theorem outcome_loadResolved_of_read (plain : mapper.Plain) (ready : world.Ready mapper.catalog)
    (cache : EntityCache) (isClass : mapper.catalog.ReadAs requested doc descriptor)
    (read : Catalog.answer (mapper.catalog.decodeDocument requested doc) = .ok entity) :
    ∃ after, world.Keeps mapper.catalog after ∧
      (mapper.loadResolved requested doc).outcome (world, cache) =
        ((descriptor.fields.filter isEager).foldlM (mapper.loadReference doc) entity).outcome
          (after, cache) := by
  obtain ⟨_, described⟩ := isClass.describes
  have answered := Catalog.answer_concreteClass_eq_ok.mpr isClass
  rw [Catalog.answer_decodeDocument_of_readAs isClass] at read
  have loads := plain.gives_load described (.empty descriptor.className) doc
  rw [read] at loads
  obtain ⟨first, keeps, classRan⟩ := World.outcome_onMemory_of_ok
    ((Catalog.steady_concreteClass requested doc).gives answered) ready
  obtain ⟨second, keeps', loadRan⟩ := World.outcome_onMemory_of_ok loads keeps.ready
  have quiet : ∀ entity, (Run.onFirst (World.onMemory (Run.withCompanion entity
      (mapper.dispatch descriptor .postLoad doc))) : ResolveM (Document × Entity)) =
        pure (doc, entity) := by
    intro entity
    rw [plain.dispatch_eq described]
    rfl
  refine ⟨second, keeps.trans keeps', ?_⟩
  rw [loadResolved, Run.outcome_bind_of_ok (Run.outcome_onFirst_eq cache classRan),
    Run.outcome_bind_of_ok (Run.outcome_onFirst_eq cache loadRan)]
  simp only [quiet, pure_bind, bind_pure]

/-- A document that cannot be decoded cannot be loaded. -/
theorem outcome_loadResolved_of_error (plain : mapper.Plain) (ready : world.Ready mapper.catalog)
    (cache : EntityCache) (isClass : mapper.catalog.ReadAs requested doc descriptor)
    {error : MapError}
    (unread : Catalog.answer (mapper.catalog.decodeDocument requested doc) = .error error) :
    ∃ after, world.Keeps mapper.catalog after ∧
      (mapper.loadResolved requested doc).outcome (world, cache) =
        (.error error, after, cache) := by
  obtain ⟨_, described⟩ := isClass.describes
  have answered := Catalog.answer_concreteClass_eq_ok.mpr isClass
  rw [Catalog.answer_decodeDocument_of_readAs isClass] at unread
  have loads := plain.gives_load described (.empty descriptor.className) doc
  obtain ⟨first, keeps, classRan⟩ := World.outcome_onMemory_of_ok
    ((Catalog.steady_concreteClass requested doc).gives answered) ready
  obtain ⟨second, keeps', loadRan⟩ := World.outcome_onMemory loads.steady keeps.ready
  rw [loads.answer_eq, unread] at loadRan
  refine ⟨second, keeps.trans keeps', ?_⟩
  rw [loadResolved, Run.outcome_bind_of_ok (Run.outcome_onFirst_eq cache classRan)]
  exact Run.outcome_bind_of_error (Run.outcome_onFirst_eq cache loadRan)

/-- Where no reference is followed, loading is decoding. -/
theorem outcome_loadResolved (plain : mapper.Plain) (ready : world.Ready mapper.catalog)
    (cache : EntityCache) (isClass : mapper.catalog.ReadAs requested doc descriptor)
    (unlinked : descriptor.fields.filter isEager = [])
    (read : Catalog.answer (mapper.catalog.decodeDocument requested doc) = .ok entity) :
    ∃ after, world.Keeps mapper.catalog after ∧
      (mapper.loadResolved requested doc).outcome (world, cache) =
        (.ok entity, (after, cache)) := by
  obtain ⟨after, keeps, ran⟩ := plain.outcome_loadResolved_of_read ready cache isClass read
  exact ⟨after, keeps, by rw [ran, unlinked, List.foldlM_nil, Run.outcome_pure]⟩

/-- The entity under an identity is what its document is decoded as. -/
theorem outcome_get_of_some (plain : mapper.Plain) (ready : world.Ready mapper.catalog)
    (described : mapper.catalog.Describes name descriptor) (isEntity : descriptor.isEntity = true)
    (intact : Collections.Intact (world.store.collections.documents descriptor.collection))
    {identity : Value}
    (found : Collections.documentAt? (world.store.collections.documents descriptor.collection)
      identity = some doc)
    (isClass : mapper.catalog.ReadAs name doc descriptor)
    (unlinked : descriptor.fields.filter isEager = [])
    (read : Catalog.answer (mapper.catalog.decodeDocument name doc) = .ok entity) :
    ∃ after, world.Keeps mapper.catalog after ∧
      (mapper.get name identity).outcome world = (.ok (some entity), after) := by
  have searched := Collections.findFirst_idEq intact identity
  rw [found] at searched
  obtain ⟨first, keeps, ran⟩ := outcome_get_of_found ready described isEntity searched
  obtain ⟨second, keeps', ran'⟩ := plain.outcome_loadResolved keeps.ready [] isClass unlinked read
  refine ⟨second, keeps.trans keeps', ?_⟩
  rw [ran, Run.outcome_map, outcome_withFreshCache, ran']
  rfl

end

end Plain

end Mapper

end DocMapper
