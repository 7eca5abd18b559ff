import DocMapper.Proofs.Conversion.Canonical
import DocMapper.Proofs.Datastore.Following

/-!
# Resolved references retrace their pointers

A resolved reference has no memory of the pointer that it came from: what is stored for it again is
made from the class and the identity of the entity. `AtHome` says of the document at a place when
that is the same pointer: the class that the document is read as has an identity to take its
identifier for, and keeps its documents in that place. References that lead nowhere are kept as
keys, and are written back as they were in any case.

`Noted.exists_asked` follows the references of a call to the documents that they were made from.
With nothing known these are the documents at the places of the call; with a cache that calls share,
each of them may have been read for another call, as an object of another class.
-/

namespace DocMapper

theorem MappedField.pointerTo_inj {field : MappedField} {collection other : String}
    {id id' : Value} : field.pointerTo collection id = field.pointerTo other id' ↔
      id = id' ∧ (field.pointerOptions.idOnly = true ∨ collection = other) := by
  rw [pointerTo, pointerTo]
  cases field.pointerOptions.idOnly with
  | true => simp
  | false =>
    simp only [Bool.false_eq_true, if_false, false_or]
    constructor
    · intro same
      have read := congrArg Pointer.ofValue same
      simp only [Pointer.ofValue_toValue, Except.ok.injEq, Pointer.mk.injEq] at read
      exact ⟨read.2, read.1⟩
    · rintro ⟨rfl, rfl⟩
      rfl

namespace Catalog

variable {catalog : Catalog} {field : MappedField} {key : Key} {doc : Document} {entity : Entity}
  {descriptor : Descriptor} {value : Value} {keys : List Key}

/-- A stored value of a field is canonical: each link in it is stored as the field stores links. -/
def StoresLinks (field : MappedField) (value : Value) : Prop :=
  ∀ link ∈ linksOf field value, field.StoresLink link

/-- The document at the place of a key is at home there for a field: the class that it is read as
takes its identifier for a plain identity, and keeps its documents in the collection of the place,
unless the field stores identifiers alone. -/
def AtHome (catalog : Catalog) (field : MappedField) (key : Key) (doc : Document) : Prop :=
  ∃ descriptor owner, catalog.ReadAs key.className doc descriptor ∧
    descriptor.idField? = some owner ∧ readsObjects owner key.id = false ∧
      (field.pointerOptions.idOnly = true ∨ descriptor.collection = key.collection)

/-- The identity of an object is the identifier of its document, unless that is read as objects. -/
theorem Shows.idValue?_eq_some_iff (shows : catalog.Shows descriptor doc entity) {name : ClassName}
    (described : catalog.Describes name descriptor) {owner : MappedField}
    (isOwner : descriptor.idField? = some owner) {id other : Value}
    (identified : Collections.idOf? doc = some id) :
    descriptor.idValue? entity = some other ↔ other = id ∧ readsObjects owner id = false := by
  obtain ⟨member, isId⟩ := Descriptor.idField?_spec isOwner
  obtain ⟨held, present⟩ := Collections.idOf?_eq_some.mp identified
  have shown := shows.field owner member
  rw [described.storedName_of_isId member isId, held] at shown
  rw [Catalog.idValue?_eq isOwner, Entity.value?]
  generalize entity.get? owner.name = property at shown
  cases shown with
  | some means =>
    cases means with
    | null => exact absurd rfl present
    | links isReference => simp [described.isReference_of_isId member isId] at isReference
    | plain _ set asItStands => simp [Property.asValue?, Option.filter, set, asItStands, eq_comm]
    | object _ isObject => simp [Property.asValue?, readsObjects, isObject]
    | objects _ multiple isObject => simp [Property.asValue?, readsObjects, multiple, isObject]

/-- An object is pointed at in the place that its document was found in exactly if the document is
at home there. -/
theorem answer_entityPointer_iff_atHome (named : catalog.registry.Named)
    (distinct : catalog.Distinct) (identified : Collections.idOf? doc = some key.id)
    (read : answer (catalog.decodeDocument key.className doc) = .ok entity) :
    answer (catalog.entityPointer field entity) = .ok (field.pointerTo key.collection key.id) ↔
      catalog.AtHome field key doc := by
  obtain ⟨descriptor, isClass⟩ := exists_readAs read
  obtain ⟨name, described⟩ := isClass.describes
  have shows := isClass.shows (distinct name descriptor described) read
  have own : catalog.Describes entity.className descriptor := by
    rw [shows.className, described.className_eq named]
    exact described
  rw [answer_entityPointer_eq_ok]
  constructor
  · rintro ⟨_, id, described', identity, same⟩
    obtain rfl := own.unique described'
    obtain ⟨rfl, home⟩ := MappedField.pointerTo_inj.mp same
    obtain ⟨owner, isOwner⟩ := exists_idField?_of_idValue? identity
    obtain ⟨-, plain⟩ := (shows.idValue?_eq_some_iff described isOwner identified).mp identity
    exact ⟨descriptor, owner, isClass, isOwner, plain, home.imp_right Eq.symm⟩
  · rintro ⟨_, owner, isClass', isOwner, plain, home⟩
    obtain rfl := isClass.unique isClass'
    refine ⟨descriptor, key.id, own, ?_, ?_⟩
    · exact (shows.idValue?_eq_some_iff described isOwner identified).mpr ⟨rfl, plain⟩
    · exact MappedField.pointerTo_inj.mpr ⟨rfl, home.imp_right Eq.symm⟩

/-- What a field holds for references. -/
def gathered (field : MappedField) (refs : List Reference) : Property :=
  if field.isMultiple then .references refs else refs.head?.elim .null .reference

/-- References for the keys of a canonical value are written as the value exactly if each of them is
written as the pointer of its key. -/
theorem answer_encodeReference_gathered_iff (set : value.isNull = false)
    (linked : answer (catalog.keys field value) = .ok keys)
    (stores : StoresLinks field value) (ref : Key → Reference) :
    answer (catalog.encodeReference field (gathered field (keys.map ref))) = .ok value ↔
      ∀ key ∈ keys, answer (catalog.referencePointer field (ref key)) =
        .ok (field.pointerTo key.collection key.id) := by
  obtain ⟨target, -, given⟩ := answer_keys_eq_ok.mp linked
  rw [gathered]
  cases multiple : field.isMultiple with
  | false =>
    obtain ⟨key, made, rfl⟩ := (keysFor_eq_ok_of_single multiple).mp given
    rw [StoresLinks, linksOf_of_single multiple set] at stores
    have same := (pointerTo_eq_iff made).mpr (stores value (List.mem_singleton_self value))
    simp [encodeReference, shapeFault?, multiple, same]
  | true =>
    obtain ⟨items, rfl, made⟩ := (keysFor_eq_ok_of_multiple multiple).mp given
    have pairs : List.Forall₂ (fun item key => field.StoresLink item ∧
        keyFor field target item = .ok key) items keys :=
      (List.forall₂_and_left _ _).mpr ⟨by simpa [StoresLinks, linksOf, multiple] using stores,
        Result.mapM_eq_ok.mp made⟩
    have each : answer ((keys.map ref).mapM (catalog.referencePointer field)) = .ok items ↔
        ∀ key ∈ keys, answer (catalog.referencePointer field (ref key)) =
          .ok (field.pointerTo key.collection key.id) := by
      rw [Steady.answer_mapM_eq_ok fun ref _ => steady_referencePointer field ref,
        List.forall₂_map_left_iff]
      have written : List.Forall₂ (fun item key =>
            answer (catalog.referencePointer field (ref key)) = .ok item) items keys ↔
          ∀ key ∈ keys, answer (catalog.referencePointer field (ref key)) =
            .ok (field.pointerTo key.collection key.id) :=
        Result.forall₂_iff_forall pairs.flip fun key _ item made => by
          rw [(pointerTo_eq_iff made.2).mpr made.1]
      exact ⟨fun each => written.mp each.flip, fun all => (written.mpr all).flip⟩
    simpa [encodeReference, shapeFault?, multiple, Result.map_eq_ok] using each

end Catalog

namespace Mapper

variable {mapper : Mapper} {world : World} {collections : Collections} {field : MappedField}
  {key other : Key} {found : Option Entity} {calls more : List ReferenceCall}
  {call : ReferenceCall} {state : World × EntityCache} {keys : List Key} {property : Property}

/-- The reference that a key becomes where dangling references are kept. -/
def kept (key : Key) (found : Option Entity) : Reference :=
  found.elim (.missing key) .resolved

theorem linkTo_eq_kept (policy : mapper.catalog.options.dangling = .keep) (field : MappedField)
    (key : Key) (found : Option Entity) :
    mapper.linkTo field key found = .ok (some (kept key found)) := by
  cases found with
  | some entity => rfl
  | none => rw [linkTo, dangling, policy]; rfl

theorem links_eq_kept (policy : mapper.catalog.options.dangling = .keep) (field : MappedField)
    (cache : EntityCache) (keys : List Key) : mapper.links field cache keys =
      .ok (keys.map fun key => kept key (cache.entity? key.pointer)) := by
  have each : keys.mapM (fun key => mapper.linkTo field key (cache.entity? key.pointer)) =
      .ok (keys.map fun key => some (kept key (cache.entity? key.pointer))) :=
    Result.mapM_eq_ok.mpr (List.forall₂_map_right_iff.mpr
      (List.forall₂_same.mpr fun _ _ => linkTo_eq_kept policy field _ _))
  rw [links, each]
  simp [List.reduceOption]

/-- A key is written back as its pointer exactly if whatever was found at its place, be it for
another key, is at home there. -/
theorem answer_referencePointer_kept_iff (named : mapper.catalog.registry.Named)
    (distinct : mapper.catalog.Distinct)
    (labelled : ∀ name, Collections.Labelled (collections.documents name))
    (same : other.pointer = key.pointer) (looked : mapper.lookUp collections other = .ok found) :
    Catalog.answer (mapper.catalog.referencePointer field (kept key found)) =
        .ok (field.pointerTo key.collection key.id) ↔
      ∀ doc, collections.findFirst other.collection (.idEq other.id) = .ok (some doc) →
        mapper.catalog.AtHome field other doc := by
  obtain ⟨here, isId⟩ := Pointer.mk.inj same
  rw [← here, ← isId]
  obtain ⟨doc?, searched, read⟩ := Result.bind_eq_ok.mp looked
  rw [Result.mapError_eq_ok] at searched
  rw [searched]
  cases doc? with
  | none =>
    obtain rfl : none = found := Except.ok.inj read
    refine iff_of_true ?_ (by simp)
    simp [kept, Catalog.referencePointer, here, isId]
  | some doc =>
    rw [Option.mapM_some, map_eq_pure_bind] at read
    obtain ⟨entity, decoded, same⟩ := Result.bind_eq_ok.mp read
    obtain rfl := Except.ok.inj same
    have identified := (labelled _).idOf?_of_findFirst searched
    have home := @Catalog.answer_entityPointer_iff_atHome mapper.catalog field other doc entity
      named distinct identified decoded
    simpa [kept, Catalog.referencePointer] using home

/-! ### What a call gives -/

theorem Noted.mono (noted : mapper.Noted world calls state) (sub : ∀ call ∈ calls, call ∈ more) :
    mapper.Noted world more state :=
  ⟨noted.keeps, fun place found here =>
    (noted.noted place found here).imp fun _ noted => ⟨sub _ noted.1, noted.2⟩⟩

/-- A call that is among those that are noted adds none. -/
theorem Noted.again (noted : mapper.Noted world calls state) (plain : mapper.Plain)
    (labelled : ∀ name, Collections.Labelled (world.store.collections.documents name))
    (member : call ∈ calls) : mapper.Noted world calls (mapper.answerCall call state).2 :=
  (noted.answerCall plain labelled call).mono (by simpa [or_imp, forall_and] using member)

/-- A call that succeeds gives a reference for each of its keys, by what a look-up at the place
gives for one of the calls. -/
theorem Noted.exists_found (noted : mapper.Noted world calls state) (plain : mapper.Plain)
    (labelled : ∀ name, Collections.Labelled (world.store.collections.documents name))
    (policy : mapper.catalog.options.dangling = .keep) (member : call ∈ calls)
    (present : call.stored.isNull = false)
    (isKeys : Catalog.answer (mapper.catalog.keys call.field call.stored) = .ok keys)
    (ran : (mapper.answerCall call state).1 = .ok property) :
    ∃ found : Key → Option Entity,
      (∀ key ∈ keys, ∃ asker ∈ calls, ∃ other, mapper.Asks asker other ∧
        other.pointer = key.pointer ∧
          mapper.lookUp world.store.collections other = .ok (found key)) ∧
      property = Catalog.gathered call.field (keys.map fun key => kept key (found key)) := by
  have later := noted.again plain labelled member
  rw [Mapper.answerCall] at ran later
  cases multiple : call.field.isMultiple with
  | false =>
    obtain ⟨key, rfl⟩ := Catalog.exists_of_keys_of_single multiple isKeys
    obtain ⟨after, -, ends⟩ :=
      plain.outcome_resolve_of_single state noted.keeps present multiple isKeys
    rw [ends] at ran
    obtain ⟨found, looked, linked⟩ := Result.bind_eq_ok.mp ran
    rw [linkTo_eq_kept policy] at linked
    cases linked
    refine ⟨fun _ => found, ?_, by simp [Catalog.gathered, multiple]⟩
    simp only [List.mem_singleton, forall_eq]
    cases known : state.2.get? key.pointer with
    | some result =>
      obtain rfl : result = found := by simpa [known] using looked
      exact noted.noted key.pointer result known
    | none =>
      refine ⟨call, member, key, ⟨present, [key], isKeys, List.mem_singleton_self key⟩, rfl, ?_⟩
      simpa [known] using looked
  | true =>
    obtain ⟨after, -, known, ends⟩ :=
      plain.outcome_resolve_of_multiple labelled state noted.keeps present multiple isKeys
    rw [ends] at ran later
    obtain ⟨_, fetched, linked⟩ := Result.bind_eq_ok.mp ran
    refine ⟨fun key => after.2.entity? key.pointer, fun key inKeys => ?_, ?_⟩
    · obtain ⟨found, here⟩ := Option.isSome_iff_exists.mp (known fetched key inKeys)
      have isFound : after.2.entity? key.pointer = found := by
        rw [EntityCache.entity?, here, Option.join_some]
      dsimp only
      rw [isFound]
      exact later.noted key.pointer found here
    · rw [links_eq_kept policy] at linked
      cases linked
      simp [Catalog.gathered, multiple]

/-- Whether a successful call is written back as its value is decided at the places that it asks
for, each of which was looked up for one of the calls. -/
theorem Noted.exists_asked (noted : mapper.Noted world calls state) (plain : mapper.Plain)
    (labelled : ∀ name, Collections.Labelled (world.store.collections.documents name))
    (distinct : mapper.catalog.Distinct) (policy : mapper.catalog.options.dangling = .keep)
    (member : call ∈ calls)
    (stores : Catalog.StoresLinks call.field call.stored)
    (ran : (mapper.answerCall call state).1 = .ok property) :
    ∃ asked : Key → Key,
      (∀ key, mapper.Asks call key → (asked key).pointer = key.pointer ∧
        ∃ asker ∈ calls, mapper.Asks asker (asked key)) ∧
      (Catalog.answer (mapper.catalog.encodeReference call.field property) = .ok call.stored ↔
        ∀ key, mapper.Asks call key → ∀ doc, world.store.collections.findFirst
          (asked key).collection (.idEq (asked key).id) = .ok (some doc) →
            mapper.catalog.AtHome call.field (asked key) doc) := by
  cases present : call.stored.isNull with
  | true =>
    have asksNothing : ∀ key, ¬ mapper.Asks call key := fun key asks => by
      rw [asks.1] at present
      cases present
    rw [Mapper.answerCall, resolve, if_pos present] at ran
    cases ran
    refine ⟨id, fun key asks => absurd asks (asksNothing key), iff_of_true ?_ fun key asks =>
      absurd asks (asksNothing key)⟩
    rw [(Value.isNull_iff _).mp present]
    rfl
  | false =>
    cases isKeys : Catalog.answer (mapper.catalog.keys call.field call.stored) with
    | error error =>
      obtain ⟨after, -, fails⟩ := outcome_resolve_of_error state noted.keeps present isKeys
      rw [Mapper.answerCall, fails] at ran
      cases ran
    | ok keys =>
      have asks : ∀ key, mapper.Asks call key ↔ key ∈ keys := by
        intro key
        rw [Asks, isKeys]
        simp [present]
      obtain ⟨found, looked, rfl⟩ :=
        noted.exists_found plain labelled policy member present isKeys ran
      choose! asker inCalls asked wasAsked same isFound using looked
      refine ⟨asked, fun key inKeys => ?_, ?_⟩
      · have inKeys := (asks key).mp inKeys
        exact ⟨same key inKeys, asker key inKeys, inCalls key inKeys, wasAsked key inKeys⟩
      · rw [Catalog.answer_encodeReference_gathered_iff present isKeys stores]
        refine forall_congr' fun key => ?_
        rw [asks]
        refine forall_congr' fun inKeys => ?_
        exact answer_referencePointer_kept_iff plain.named distinct labelled (same key inKeys)
          (isFound key inKeys)

/-- Whatever the calls find at the places that a call asks for is at home there for its field. -/
def Retraces (mapper : Mapper) (collections : Collections) (calls : List ReferenceCall)
    (call : ReferenceCall) : Prop :=
  ∀ key, mapper.Asks call key → ∀ asker ∈ calls, ∀ other, mapper.Asks asker other →
    other.pointer = key.pointer → ∀ doc,
      collections.findFirst other.collection (.idEq other.id) = .ok (some doc) →
        mapper.catalog.AtHome call.field other doc

/-- With nothing known, a call finds what it asks for itself. -/
theorem Plain.encodes_resolved_iff (plain : mapper.Plain) (ready : world.Ready mapper.catalog)
    (labelled : ∀ name, Collections.Labelled (world.store.collections.documents name))
    (distinct : mapper.catalog.Distinct) (policy : mapper.catalog.options.dangling = .keep)
    (stores : Catalog.StoresLinks call.field call.stored)
    (ran : (mapper.answerCall call (world, [])).1 = .ok property) :
    Catalog.answer (mapper.catalog.encodeReference call.field property) = .ok call.stored ↔
      ∀ key, mapper.Asks call key → ∀ doc, world.store.collections.findFirst
        key.collection (.idEq key.id) = .ok (some doc) →
          mapper.catalog.AtHome call.field key doc := by
  have noted : mapper.Noted world [call] (world, []) := (Noted.start ready).mono (by simp)
  obtain ⟨asked, places, written⟩ := noted.exists_asked plain labelled distinct policy
    (List.mem_singleton_self call) stores ran
  rw [written]
  refine forall_congr' fun key => forall_congr' fun asks => ?_
  obtain ⟨same, _, isCall, wasAsked⟩ := places key asks
  obtain rfl := List.mem_singleton.mp isCall
  have sameClass : (asked key).className = key.className :=
    Option.some.inj ((wasAsked.target plain.named).symm.trans (asks.target plain.named))
  rw [Key.eq_of_pointer_eq sameClass same]

/-- Where the calls retrace the places of one of them, it is written back as its value. -/
theorem Noted.encodes (noted : mapper.Noted world calls state) (plain : mapper.Plain)
    (labelled : ∀ name, Collections.Labelled (world.store.collections.documents name))
    (distinct : mapper.catalog.Distinct) (policy : mapper.catalog.options.dangling = .keep)
    (member : call ∈ calls)
    (stores : Catalog.StoresLinks call.field call.stored)
    (retraces : mapper.Retraces world.store.collections calls call)
    (ran : (mapper.answerCall call state).1 = .ok property) :
    Catalog.answer (mapper.catalog.encodeReference call.field property) = .ok call.stored := by
  obtain ⟨asked, places, written⟩ :=
    noted.exists_asked plain labelled distinct policy member stores ran
  refine written.mpr fun key asks => ?_
  obtain ⟨same, asker, inCalls, wasAsked⟩ := places key asks
  exact retraces key asks asker inCalls (asked key) wasAsked same

end Mapper

end DocMapper
