import DocMapper.Proofs.Datastore.Retracing

/-!
# Loaded entities are saved with the pointers that they were loaded with

Loading resolves the eager references of a document one field after the other with one cache, and a
search does so for all that it finds. What is written for a field when the entity is saved is
therefore decided by what all of these calls find at its places (`LoadedWith.retraced`); the other
references are kept as keys. Saving touches no reference but to write it.
-/

namespace DocMapper

namespace Mapper

variable {mapper : Mapper} {world : World} {collections : Collections} {field : MappedField}
  {key : Key} {calls : List ReferenceCall} {call : ReferenceCall} {state : World × EntityCache}
  {property : Property}

/-- The calls that loading a document makes: one for each eager field that it holds anything for. -/
def eagerCalls (mapper : Mapper) (requested : ClassName) (doc : Document) : List ReferenceCall :=
  match Catalog.answer (mapper.catalog.concreteClass requested doc) with
  | .ok descriptor => (descriptor.fields.filter isEager).filterMap fun field =>
      (Document.get? doc field.storedName).map (⟨field, ·⟩)
  | .error _ => []

theorem mem_eagerCalls {requested : ClassName} {doc : Document} {descriptor : Descriptor}
    (isClass : mapper.catalog.ReadAs requested doc descriptor) :
    call ∈ mapper.eagerCalls requested doc ↔ call.field ∈ descriptor.fields ∧
      isEager call.field = true ∧ Document.get? doc call.field.storedName = some call.stored := by
  obtain ⟨field, stored⟩ := call
  rw [eagerCalls, Catalog.answer_concreteClass_eq_ok.mpr isClass]
  simp [and_assoc]

/-! ### Loading the references of a document -/

theorem Noted.of_keeps (noted : mapper.Noted world calls state) {after : World}
    (keeps : World.Keeps mapper.catalog state.1 after) :
    mapper.Noted world calls (after, state.2) :=
  ⟨noted.keeps.trans keeps, noted.noted⟩

/-- Loading the references of a field sets it to what its call gives, and nothing else. -/
theorem Noted.loadReference (noted : mapper.Noted world calls state) (plain : mapper.Plain)
    (labelled : ∀ name, Collections.Labelled (world.store.collections.documents name))
    {doc : Document} {entity next : Entity} {after : World × EntityCache}
    (among : ∀ stored, Document.get? doc field.storedName = some stored → ⟨field, stored⟩ ∈ calls)
    (ran : (mapper.loadReference doc entity field).outcome state = (.ok next, after)) :
    mapper.Noted world calls after ∧ next.className = entity.className ∧
      (∀ name, name ≠ field.name → next.get? name = entity.get? name) ∧
      ∀ stored, Document.get? doc field.storedName = some stored → ∃ property,
        (mapper.answerCall ⟨field, stored⟩ state).1 = .ok property ∧
          next.get? field.name = some property := by
  rw [Mapper.loadReference] at ran
  cases found : Document.get? doc field.storedName with
  | none =>
    rw [found] at ran
    cases ran
    exact ⟨noted, rfl, fun _ _ => rfl, by simp⟩
  | some stored =>
    rw [found] at ran
    obtain ⟨property, middle, resolves, ran⟩ := Run.outcome_bind_eq_ok.mp ran
    cases ran
    have answers : mapper.answerCall ⟨field, stored⟩ state = (.ok property, after) := resolves
    have again := noted.again plain labelled (among stored found)
    rw [answers] at again
    refine ⟨again, rfl, fun name apart => Entity.get?_set_of_ne entity apart property, ?_⟩
    rintro _ ⟨rfl⟩
    exact ⟨property, by rw [answers], Entity.get?_set_self entity field.name property⟩

theorem Noted.loadReferences (noted : mapper.Noted world calls state) (plain : mapper.Plain)
    (labelled : ∀ name, Collections.Labelled (world.store.collections.documents name))
    {doc : Document} {fields : List MappedField} {entity loaded : Entity}
    {after : World × EntityCache} (names : (fields.map MappedField.name).Nodup)
    (among : ∀ field ∈ fields, ∀ stored, Document.get? doc field.storedName = some stored →
      ⟨field, stored⟩ ∈ calls)
    (ran : (fields.foldlM (mapper.loadReference doc) entity).outcome state = (.ok loaded, after)) :
    mapper.Noted world calls after ∧ loaded.className = entity.className ∧
      (∀ name ∉ fields.map MappedField.name, loaded.get? name = entity.get? name) ∧
      ∀ field ∈ fields, ∀ stored, Document.get? doc field.storedName = some stored →
        ∃ before property, mapper.Noted world calls before ∧
          (mapper.answerCall ⟨field, stored⟩ before).1 = .ok property ∧
            loaded.get? field.name = some property := by
  induction fields generalizing entity state with
  | nil =>
    cases ran
    exact ⟨noted, rfl, fun _ _ => rfl, by simp⟩
  | cons field rest ih =>
    obtain ⟨fresh, names⟩ := List.nodup_cons.mp names
    rw [List.foldlM_cons] at ran
    obtain ⟨next, middle, first, ran⟩ := Run.outcome_bind_eq_ok.mp ran
    obtain ⟨between, sameClass, others, own⟩ :=
      noted.loadReference plain labelled (among field List.mem_cons_self) first
    obtain ⟨last, sameClass', others', each⟩ := ih between names
      (fun field member => among field (List.mem_cons_of_mem _ member)) ran
    refine ⟨last, sameClass'.trans sameClass, fun name absent => ?_, fun other member => ?_⟩
    · obtain ⟨apart, absent⟩ := not_or.mp (mt List.mem_cons.mpr absent)
      exact (others' name absent).trans (others name apart)
    · rcases List.mem_cons.mp member with rfl | member
      · intro stored found
        obtain ⟨property, answers, held⟩ := own stored found
        exact ⟨state, property, noted, answers, (others' _ fresh).trans held⟩
      · exact each other member

/-- What is written for the reference fields of an entity is what its document holds for them, where
that is canonical and, if the field is eager, the calls retrace its places. -/
structure Retraced (mapper : Mapper) (collections : Collections) (calls : List ReferenceCall)
    (descriptor : Descriptor) (doc : Document) (entity : Entity) : Prop where
  className : entity.className = descriptor.className
  field : ∀ field ∈ descriptor.fields, field.isReference = true → ∀ stored,
    Document.get? doc field.storedName = some stored →
      Catalog.StoresLinks field stored →
        (isEager field = true → mapper.Retraces collections calls ⟨field, stored⟩) →
          Catalog.answer (mapper.catalog.encodeReference field
            ((entity.get? field.name).getD .null)) = .ok stored

/-- Keys that were read from a canonical value are written as the value. -/
theorem encodeReference_of_means {stored : Value} (isReference : field.isReference = true)
    (means : mapper.catalog.Means field stored property)
    (stores : Catalog.StoresLinks field stored) :
    Catalog.answer (mapper.catalog.encodeReference field property) = .ok stored := by
  cases means with
  | null => rfl
  | links _ set linked => exact (Catalog.answer_encodeReference_keys_iff set linked).mpr stores
  | plain noReference => simp [isReference] at noReference
  | object noReference => simp [isReference] at noReference
  | objects noReference => simp [isReference] at noReference

/-- A loaded entity is written as its document says where it retraces its places. -/
theorem Noted.loadResolved (noted : mapper.Noted world calls state) (plain : mapper.Plain)
    (labelled : ∀ name, Collections.Labelled (world.store.collections.documents name))
    (distinct : mapper.catalog.Distinct) (policy : mapper.catalog.options.dangling = .keep)
    {requested : ClassName} {doc : Document} {loaded : Entity} {after : World × EntityCache}
    (among : ∀ call ∈ mapper.eagerCalls requested doc, call ∈ calls)
    (ran : (mapper.loadResolved requested doc).outcome state = (.ok loaded, after)) :
    mapper.Noted world calls after ∧ ∃ descriptor, mapper.catalog.ReadAs requested doc descriptor ∧
      mapper.Retraced world.store.collections calls descriptor doc loaded := by
  obtain ⟨descriptor, isClass, -⟩ :=
    ((plain.looks_loadResolved requested doc state noted.keeps.ready).2 loaded
      (by rw [ran])).readAs
  obtain ⟨name, described⟩ := isClass.describes
  have names := distinct name descriptor described
  cases read : Catalog.answer (mapper.catalog.decodeDocument requested doc) with
  | error error =>
    obtain ⟨middle, -, fails⟩ :=
      plain.outcome_loadResolved_of_error noted.keeps.ready state.2 isClass read
    rw [fails] at ran
    cases ran
  | ok decoded =>
    obtain ⟨middle, keeps, follows⟩ :=
      plain.outcome_loadResolved_of_read noted.keeps.ready state.2 isClass read
    have shows := isClass.shows names read
    rw [follows] at ran
    obtain ⟨last, sameClass, others, eager⟩ := (noted.of_keeps keeps).loadReferences plain labelled
      (names.sublist (List.filter_sublist.map _)) (fun field member stored found => among _ <| by
        obtain ⟨member, isEager⟩ := List.mem_filter.mp member
        exact (mem_eagerCalls isClass).mpr ⟨member, isEager, found⟩) ran
    refine ⟨last, descriptor, isClass, sameClass.trans shows.className, ?_⟩
    intro field member isReference stored found stores retraces
    cases isEager : isEager field with
    | true =>
      obtain ⟨before, property, noted, answers, held⟩ :=
        eager field (List.mem_filter.mpr ⟨member, isEager⟩) stored found
      rw [held, Option.getD_some]
      exact noted.encodes plain labelled distinct policy
        (among _ ((mem_eagerCalls isClass).mpr ⟨member, isEager, found⟩)) stores
        (retraces isEager) answers
    | false =>
      have lazy : field.name ∉ (descriptor.fields.filter Mapper.isEager).map MappedField.name := by
        intro inEager
        obtain ⟨other, inFields, same⟩ := List.mem_map.mp inEager
        obtain ⟨member', eager⟩ := List.mem_filter.mp inFields
        rw [List.inj_on_of_nodup_map names member' member same, isEager] at eager
        cases eager
      rw [others field.name lazy]
      have shown := shows.field field member
      rw [found] at shown
      generalize decoded.get? field.name = held at shown
      cases shown with
      | some means => exact encodeReference_of_means isReference means stores

theorem Noted.fresh {before : World} (keeps : World.Keeps mapper.catalog world before)
    (calls : List ReferenceCall) : mapper.Noted world calls (before, []) :=
  ⟨keeps, fun _ _ known => by cases known⟩

/-! ### Entities that were loaded -/

/-- An entity of a class was loaded, with what the documents lead to: its own document alone where
it was asked for, all that were found where it was searched for. -/
inductive LoadedWith (mapper : Mapper) (world : World) (name : ClassName) :
    List Document → Entity → Prop
  | get {home : Descriptor} {id : Value} {doc : Document} {entity : Entity} {after : World}
      (described : mapper.catalog.Describes name home)
      (found : world.store.collections.findFirst home.collection (.idEq id) = .ok (some doc))
      (ran : (mapper.get name id).outcome world = (.ok (some entity), after)) :
      LoadedWith mapper world name [doc] entity
  | getByKey {key : Key} {doc : Document} {entity : Entity} {after : World}
      (isClass : key.className = name)
      (found : world.store.collections.findFirst key.collection (.idEq key.id) = .ok (some doc))
      (ran : (mapper.getByKey key).outcome world = (.ok (some entity), after)) :
      LoadedWith mapper world name [doc] entity
  | find {home : Descriptor} {filter : Filter} {docs : List Document} {entities : List Entity}
      {entity : Entity} {after : World} (described : mapper.catalog.Describes name home)
      (found : world.store.collections.find home.collection filter = .ok docs)
      (ran : (mapper.find name filter).outcome world = (.ok entities, after))
      (member : entity ∈ entities) : LoadedWith mapper world name docs entity

section

variable {name : ClassName} {doc : Document} {docs : List Document} {descriptor : Descriptor}
  {entity left : Entity} {before after later : World}

/-- What is loaded from a place is the first document there. -/
theorem Plain.retraced_of_loadAt (plain : mapper.Plain)
    (labelled : ∀ name, Collections.Labelled (world.store.collections.documents name))
    (distinct : mapper.catalog.Distinct) (policy : mapper.catalog.options.dangling = .keep)
    (keeps : World.Keeps mapper.catalog world before) {collection : String} {id : Value}
    (found : world.store.collections.findFirst collection (.idEq id) = .ok (some doc))
    (ran : (mapper.loadAt name collection id).outcome before = (.ok (some entity), after)) :
    ∃ descriptor, mapper.catalog.ReadAs name doc descriptor ∧
      mapper.Retraced world.store.collections (mapper.eagerCalls name doc) descriptor doc
        entity := by
  rw [← keeps.collections] at found
  obtain ⟨middle, keeps', searched⟩ := World.outcome_findFirst_of_ok keeps.ready found
  rw [loadAt, Run.outcome_bind_of_ok searched] at ran
  obtain ⟨loaded, last, loads, ran⟩ := Run.outcome_bind_eq_ok.mp ran
  cases ran
  obtain ⟨cache, loads⟩ := outcome_withFreshCache_eq loads
  exact ((Noted.fresh (keeps.trans keeps') _).loadResolved plain labelled distinct policy
    (fun _ member => member) loads).2

theorem Noted.loadFound (noted : mapper.Noted world calls state) (plain : mapper.Plain)
    (labelled : ∀ name, Collections.Labelled (world.store.collections.documents name))
    (distinct : mapper.catalog.Distinct) (policy : mapper.catalog.options.dangling = .keep)
    (among : ∀ call ∈ mapper.eagerCalls name doc, call ∈ calls) {result : Option Entity}
    {last : World × EntityCache}
    (ran : (mapper.loadFound name doc).outcome state = (.ok result, last)) :
    mapper.Noted world calls last ∧ ∀ entity ∈ result, ∃ descriptor,
      mapper.catalog.ReadAs name doc descriptor ∧
        mapper.Retraced world.store.collections calls descriptor doc entity := by
  obtain ⟨middle, keeps, asked⟩ :=
    World.outcome_onMemory (steady_holdsInstance mapper name doc) noted.keeps.ready
  rw [Mapper.loadFound] at ran
  obtain ⟨holds, _, told, ran⟩ := Run.outcome_bind_eq_ok.mp ran
  rw [Run.outcome_onFirst_eq state.2 asked] at told
  obtain ⟨-, rfl⟩ := Prod.mk.inj told
  cases holds with
  | false =>
    cases ran
    exact ⟨noted.of_keeps keeps, nofun⟩
  | true =>
    obtain ⟨loaded, _, loads, ran⟩ := Run.outcome_bind_eq_ok.mp ran
    cases ran
    obtain ⟨later, retraced⟩ :=
      (noted.of_keeps keeps).loadResolved plain labelled distinct policy among loads
    exact ⟨later, by simpa using retraced⟩

/-- A loaded entity is written as its document says where what was loaded with it retraces its
places. -/
theorem LoadedWith.retraced (loads : mapper.LoadedWith world name docs entity)
    (plain : mapper.Plain) (ready : world.Ready mapper.catalog)
    (labelled : ∀ name, Collections.Labelled (world.store.collections.documents name))
    (distinct : mapper.catalog.Distinct) (policy : mapper.catalog.options.dangling = .keep) :
    ∃ doc ∈ docs, ∃ descriptor, mapper.catalog.ReadAs name doc descriptor ∧
      mapper.Retraced world.store.collections (docs.flatMap (mapper.eagerCalls name)) descriptor
        doc entity := by
  cases loads with
  | @get home id doc _ after described found ran =>
    refine ⟨doc, List.mem_singleton_self doc, ?_⟩
    rw [List.flatMap_singleton]
    obtain ⟨middle, keeps, asked⟩ :=
      World.outcome_onMemory (steady_entityClass mapper name) ready
    rw [Mapper.get] at ran
    obtain ⟨other, _, isClass, ran⟩ := Run.outcome_bind_eq_ok.mp ran
    rw [asked] at isClass
    obtain ⟨answered, rfl⟩ := Prod.mk.inj isClass
    obtain rfl := described.unique (answer_entityClass_eq_ok.mp answered).1
    exact plain.retraced_of_loadAt labelled distinct policy keeps found ran
  | @getByKey key doc _ after isClass found ran =>
    refine ⟨doc, List.mem_singleton_self doc, ?_⟩
    rw [List.flatMap_singleton, ← isClass]
    exact plain.retraced_of_loadAt labelled distinct policy (.refl ready) found ran
  | @find home filter docs entities _ after described found ran member =>
    obtain ⟨first, keeps, asked⟩ :=
      World.outcome_onMemory (steady_entityClass mapper name) ready
    obtain ⟨second, keeps', searched⟩ := World.outcome_find keeps.ready home.collection filter
    rw [Mapper.find] at ran
    obtain ⟨other, _, isClass, ran⟩ := Run.outcome_bind_eq_ok.mp ran
    rw [asked] at isClass
    obtain ⟨answered, rfl⟩ := Prod.mk.inj isClass
    obtain rfl := described.unique (answer_entityClass_eq_ok.mp answered).1
    rw [keeps.collections, found] at searched
    rw [Run.outcome_bind_of_ok searched] at ran
    obtain ⟨results, last, loads, ran⟩ := Run.outcome_bind_eq_ok.mp ran
    cases ran
    obtain ⟨cache, loads⟩ := outcome_withFreshCache_eq loads
    have each : ∀ doc ∈ docs, ∀ (state : World × EntityCache) result last,
        mapper.Noted world (docs.flatMap (mapper.eagerCalls name)) state →
          (mapper.loadFound name doc).outcome state = (.ok result, last) → _ :=
      fun doc inDocs _ _ _ noted ran => noted.loadFound plain labelled distinct policy
        (fun call isCall => List.mem_flatMap.mpr ⟨doc, inDocs, isCall⟩) ran
    have pairs := Run.forall₂_of_outcome_mapM each (.fresh (keeps.trans keeps') _) loads
    obtain ⟨doc, inDocs, each⟩ :=
      Result.exists_of_mem_right pairs (List.reduceOption_mem_iff.mp member)
    exact ⟨doc, inDocs, each entity rfl⟩

/-! ### Saving -/

/-- The second document holds what the first one holds for the reference fields of a class, where
that is canonical and kept by the options and, if the field is eager, the calls retrace its places.
-/
def LeavesPointers (mapper : Mapper) (collections : Collections) (calls : List ReferenceCall)
    (descriptor : Descriptor) (doc written : Document) : Prop :=
  ∀ field ∈ descriptor.fields, field.isReference = true → ∀ stored,
    Document.get? doc field.storedName = some stored → Catalog.StoresLinks field stored →
      (isEager field = true → mapper.Retraces collections calls ⟨field, stored⟩) →
        mapper.catalog.options.keeps stored = true →
          Document.get? written field.storedName = some stored

/-- Saving such an entity writes what its document held for those fields. -/
theorem Retraced.saved (retraced : mapper.Retraced collections calls descriptor doc entity)
    (isClass : mapper.catalog.ReadAs name doc descriptor) (plain : mapper.Plain)
    (distinct : mapper.catalog.Distinct) (ready : later.Ready mapper.catalog)
    (ran : mapper.save.outcome (later, entity) = (.ok key, (after, left))) :
    ∃ written, later.store.collections.save key.collection written = .ok after.store.collections ∧
      mapper.LeavesPointers collections calls descriptor doc written := by
  obtain ⟨_, same, saved⟩ | ⟨_, fails, -⟩ := plain.outcome_save ready ran
  swap
  · cases fails
  cases same
  obtain ⟨class', described⟩ := isClass.describes
  have own : mapper.catalog.Describes entity.className descriptor := by
    rw [retraced.className, described.className_eq plain.named]
    exact described
  have names := distinct _ descriptor own
  cases saved with
  | @intro _ id named _ written _ described' isEntity identified advanced encoded wrote ready' =>
    obtain rfl := own.unique described'
    refine ⟨written, wrote, fun field member isReference stored found stores retraces kept => ?_⟩
    have sameClass := advanced.className_eq.trans identified.className_eq
    have noId : field.isId = false := by
      by_contra isId
      rw [Bool.not_eq_false] at isId
      rw [own.isReference_of_isId member isId] at isReference
      cases isReference
    obtain ⟨value, given, held⟩ :=
      ((sameClass.symm ▸ own).written_document encoded).field field member noId
    -- Neither the identity nor the version is in a reference field.
    have untouched : left.get? field.name = entity.get? field.name := by
      refine (advanced.get?_of_ne fun other isVersion same => ?_).trans
        (identified.get?_of_ne fun other isId same => ?_)
      · obtain ⟨member', marked⟩ := Descriptor.versionField?_spec isVersion
        rw [List.inj_on_of_nodup_map names member member' same,
          own.isReference_of_isVersion member' marked] at isReference
        cases isReference
      · obtain ⟨member', marked⟩ := Descriptor.idField?_spec isId
        rw [List.inj_on_of_nodup_map names member member' same,
          own.isReference_of_isId member' marked] at isReference
        cases isReference
    rw [untouched, Catalog.propertyValue, if_pos isReference,
      retraced.field field member isReference stored found stores retraces] at given
    obtain rfl := Except.ok.inj given
    rw [held, if_pos kept]

/-- Resolving a canonical value and writing back what it was resolved to gives the value again
exactly if every document that it leads to is at home in its place; references that lead nowhere are
written back as they were. With a cache that calls share, what the other calls find at the places
counts as well. So an entity that was loaded and is saved as it is leaves its pointers as they were,
as far as what was loaded with it is at home. -/
theorem Plain.resolve_retraces (plain : mapper.Plain) (ready : world.Ready mapper.catalog)
    (reached : Collections.Reached world.store.collections) (distinct : mapper.catalog.Distinct)
    (policy : mapper.catalog.options.dangling = .keep) :
    (∀ field stored property, Catalog.StoresLinks field stored →
      ((mapper.resolve field stored).outcome (world, [])).1 = .ok property →
        (Catalog.answer (mapper.catalog.encodeReference field property) = .ok stored ↔
          ∀ key, mapper.Asks ⟨field, stored⟩ key → ∀ doc, world.store.collections.findFirst
            key.collection (.idEq key.id) = .ok (some doc) →
              mapper.catalog.AtHome field key doc)) ∧
    (∀ earlier call property, Catalog.StoresLinks call.field call.stored →
      (mapper.answerCall call (mapper.afterCalls earlier (world, []))).1 = .ok property →
        mapper.Retraces world.store.collections (earlier ++ [call]) call →
          Catalog.answer (mapper.catalog.encodeReference call.field property) =
            .ok call.stored) ∧
    ∀ name docs entity, mapper.LoadedWith world name docs entity →
      ∃ doc ∈ docs, ∃ descriptor, mapper.catalog.ReadAs name doc descriptor ∧
        ∀ later key after left, later.Ready mapper.catalog →
          mapper.save.outcome (later, entity) = (.ok key, (after, left)) →
            ∃ written, later.store.collections.save key.collection written =
                .ok after.store.collections ∧
              mapper.LeavesPointers world.store.collections
                (docs.flatMap (mapper.eagerCalls name)) descriptor doc written := by
  refine ⟨fun field stored property stores resolved => ?_,
    fun earlier call property stores answers retraces => ?_, fun name docs entity loads => ?_⟩
  · exact @Plain.encodes_resolved_iff mapper world ⟨field, stored⟩ property plain ready
      reached.labelled distinct policy stores resolved
  · have noted : mapper.Noted world (earlier ++ [call])
        (mapper.afterCalls earlier (world, [])) :=
      ((Noted.start ready).afterCalls plain reached.labelled earlier).mono (by simp +contextual)
    exact noted.encodes plain reached.labelled distinct policy (by simp) stores retraces answers
  · obtain ⟨doc, inDocs, descriptor, isClass, retraced⟩ :=
      loads.retraced plain ready reached.labelled distinct policy
    exact ⟨doc, inDocs, descriptor, isClass, fun later key after left ready' saves =>
      retraced.saved isClass plain distinct ready' saves⟩

end

end Mapper

namespace Samples

def signers : Value :=
  .array [Pointer.toValue ⟨"authors", .integer 1⟩, Pointer.toValue ⟨"authors", .integer 9⟩]

def signedRow : Document :=
  [("_id", .integer 1), ("className", .text "Book"), ("version", .integer 1),
    ("authors", signers)]

def signedWorld : World where
  store := { collections := (people.serve (.save "books" signedRow)).2 }

theorem reached_signedWorld : Collections.Reached signedWorld.store.collections :=
  .serve reached_people (by decide +kernel)

/-- The author whom the signers lead to is at home among the authors. -/
theorem atHome_signers {key : Key} {doc : Document}
    (asks : Mapper.Asks { catalog := { registry := library } } ⟨bookAuthors, signers⟩ key)
    (found : signedWorld.store.collections.findFirst key.collection (.idEq key.id) =
      .ok (some doc)) : Catalog.AtHome ⟨library, {}⟩ bookAuthors key doc := by
  obtain ⟨-, keys, isKeys, member⟩ := asks
  have given : Catalog.answer (Catalog.keys ⟨library, {}⟩ bookAuthors signers) =
      .ok [⟨author.name, "authors", .integer 1⟩, ⟨author.name, "authors", .integer 9⟩] :=
    Result.eq_ok_of_toOption (by decide +kernel)
  obtain rfl := Except.ok.inj (given.symm.trans isKeys)
  rcases List.mem_pair.mp member with rfl | rfl
  · have isAda : signedWorld.store.collections.findFirst "authors" (.idEq (.integer 1)) =
        .ok (some (authorRow 1 "Ada")) := by decide +kernel
    obtain rfl := Option.some.inj (Except.ok.inj (isAda.symm.trans found))
    exact ⟨_, _, describes_author {}, rfl, rfl, .inr rfl⟩
  · have isNobody : signedWorld.store.collections.findFirst "authors" (.idEq (.integer 9)) =
        .ok none := by decide +kernel
    cases isNobody.symm.trans found

theorem storesLinks_signers : Catalog.StoresLinks bookAuthors signers := by
  rintro link (_ | ⟨_, _ | ⟨_, ⟨⟩⟩⟩)
  · exact .inr ⟨⟨"authors", .integer 1⟩, rfl⟩
  · exact .inr ⟨⟨"authors", .integer 9⟩, rfl⟩

theorem eq_of_mem_eagerCalls {call : ReferenceCall}
    (isCall : call ∈ Mapper.eagerCalls { catalog := { registry := library } } book.name signedRow) :
    call = ⟨bookAuthors, signers⟩ := by
  have isClass : Catalog.ReadAs ⟨library, {}⟩ book.name signedRow _ := describes_book
  obtain ⟨member, eager, held⟩ := (Mapper.mem_eagerCalls isClass).mp isCall
  obtain ⟨field, stored⟩ := call
  have only : (Catalog.assemble ⟨library, {}⟩ book none [] []).fields.filter (fun field =>
      Mapper.isEager field && (Document.get? signedRow field.storedName).isSome) =
        [bookAuthors] := by decide
  have present : (Document.get? signedRow field.storedName).isSome = true := by simp [held]
  have isOne : field ∈ [bookAuthors] := by
    rw [← only, List.mem_filter, Bool.and_eq_true]
    exact ⟨member, eager, present⟩
  obtain rfl := List.mem_singleton.mp isOne
  obtain rfl : signers = stored := Option.some.inj held
  rfl

/-- The signers are resolved, one of them to nobody, and written back as they were. They stay as
they are when the book is loaded and saved as it is. -/
theorem resolve_retraces_signers :
    let mapper : Mapper := { catalog := { registry := library } }
    (∃ property, ((mapper.resolve bookAuthors signers).outcome (signedWorld, [])).1 =
        .ok property ∧
      Catalog.answer (mapper.catalog.encodeReference bookAuthors property) = .ok signers) ∧
    ∃ entity loaded key after left written,
      (mapper.get book.name (.integer 1)).outcome signedWorld = (.ok (some entity), loaded) ∧
      mapper.save.outcome (loaded, entity) = (.ok key, (after, left)) ∧
      loaded.store.collections.save key.collection written = .ok after.store.collections ∧
      Document.get? written "authors" = some signers := by
  intro mapper
  have ready : signedWorld.Ready mapper.catalog := ⟨Memory.sound_empty _, rfl⟩
  obtain ⟨alone, -, saves⟩ := Mapper.Plain.resolve_retraces (plain_library {}) ready
    reached_signedWorld regular_library.distinct rfl
  refine ⟨?_, ?_⟩
  · have resolves : ((mapper.resolve bookAuthors signers).outcome
        (signedWorld, [])).1.toOption.isSome = true := by decide +kernel
    obtain ⟨property, resolved⟩ := Option.isSome_iff_exists.mp resolves
    have resolved := Result.eq_ok_of_toOption resolved
    exact ⟨property, resolved, (alone _ _ _ storesLinks_signers resolved).mpr
      fun key asks doc found => atHome_signers asks found⟩
  · let loading := (mapper.get book.name (.integer 1)).outcome signedWorld
    let saving (entity : Entity) := mapper.save.outcome (loading.2, entity)
    have saved : (loading.1.toOption.join.bind fun entity => (saving entity).1.toOption) =
        some ⟨book.name, "books", .integer 1⟩ := by decide +kernel
    obtain ⟨entity, found, saved⟩ := Option.bind_eq_some_iff.mp saved
    have ran := Run.outcome_eq_of_toOption (Option.join_eq_some_iff.mp found)
    have isRow : signedWorld.store.collections.findFirst "books" (.idEq (.integer 1)) =
        .ok (some signedRow) := by decide +kernel
    obtain ⟨doc, inDocs, descriptor, isClass, leaves⟩ := saves book.name [signedRow] entity
      (.get describes_book isRow ran)
    obtain rfl := List.mem_singleton.mp inDocs
    have isBook : mapper.catalog.ReadAs book.name signedRow _ := describes_book
    obtain rfl := isClass.unique isBook
    have ready' : loading.2.Ready mapper.catalog :=
      ((plain_library {}).looks_get book.name (.integer 1) signedWorld ready).1.ready
    obtain ⟨written, wrote, held⟩ :=
      leaves loading.2 _ _ _ ready' (Run.outcome_eq_of_toOption saved)
    refine ⟨entity, _, _, _, _, written, ran, Run.outcome_eq_of_toOption saved, wrote, ?_⟩
    refine held bookAuthors (by decide) rfl signers rfl storesLinks_signers (fun _ => ?_) rfl
    intro key _ asker inCalls other asks _ doc found
    rw [List.flatMap_singleton] at inCalls
    obtain rfl := eq_of_mem_eagerCalls inCalls
    exact atHome_signers asks found

def sticker : TypeSchema := entity "Sticker" "stickers" [plain "word" text]

def device : TypeSchema := entity "Device" "devices" [marked "id" integer .id]

/-- Devices with a number of their own, under the name that the identity has. -/
def serialDevice : TypeSchema :=
  { entity "SerialDevice" "devices" [plain "id" integer] with superclass := some device.name }

def parcel : TypeSchema :=
  entity "Parcel" "parcels" [
    marked "id" integer .id,
    marked "sticker" (object "Sticker") (.reference {}),
    marked "device" (object "Device") (.reference {})]

def parcels : Registry := .ofTypes [sticker, device, serialDevice, parcel]

/-- A reference field of a parcel. -/
def parcelField (name kind : String) : MappedField :=
  .ofSchema parcel.name (marked name (object kind) (.reference {}))

def warehouse : Collections :=
  (Collections.serve (Collections.serve [] (.save "stickers" [("_id", .integer 1),
    ("className", .text "Sticker")])).2 (.save "devices" [("_id", .integer 1),
      ("className", .text "SerialDevice"), ("id", .integer 7)])).2

/-- What a stored value is written as again, if it can be, once it was resolved. -/
def rewritten (registry : Registry) (field : MappedField) (collections : Collections)
    (stored : Value) : Option (Option Value) := do
  let mapper : Mapper := { catalog := { registry } }
  let world : World := { store := { collections } }
  let property ← ((mapper.resolve field stored).outcome (world, [])).1.toOption
  return (Catalog.answer (mapper.catalog.encodeReference field property)).toOption

/-- An author who is kept with the guests is written back as one among the authors. What has no
identity cannot be written back, and where a field has the name of the identity, its value is
written back in place of the identity. -/
theorem resolved_elsewhere :
    (Mapper.Plain { catalog := { registry := library } } ∧ Collections.Reached people ∧
      Catalog.StoresLinks bookAuthors (.array [Pointer.toValue ⟨"guests", .integer 2⟩]) ∧
      rewritten library bookAuthors people (.array [Pointer.toValue ⟨"guests", .integer 2⟩]) =
        some (some (.array [Pointer.toValue ⟨"authors", .integer 2⟩]))) ∧
    Mapper.Plain { catalog := { registry := parcels } } ∧ Collections.Reached warehouse ∧
    (∀ field ∈ [parcelField "sticker" "Sticker", parcelField "device" "Device"],
      ∀ pointer : Pointer, Catalog.StoresLinks field pointer.toValue) ∧
    rewritten parcels (parcelField "sticker" "Sticker") warehouse
        (Pointer.toValue ⟨"stickers", .integer 1⟩) = some none ∧
    rewritten parcels (parcelField "device" "Device") warehouse
        (Pointer.toValue ⟨"devices", .integer 1⟩) =
      some (some (Pointer.toValue ⟨"devices", .integer 7⟩)) := by
  refine ⟨⟨plain_library {}, reached_people, ?_, by decide +kernel⟩,
    ⟨Registry.named_ofTypes _, .of_methods_eq_nil rfl, rfl⟩,
    .serve (.serve .empty (by decide +kernel)) (by decide +kernel), ?_, by decide +kernel,
    by decide +kernel⟩
  · rintro link (_ | ⟨_, ⟨⟩⟩)
    exact .inr ⟨_, rfl⟩
  · rintro field - pointer link isLink
    exact .inr ⟨pointer, List.mem_singleton.mp isLink⟩

end Samples

end DocMapper
