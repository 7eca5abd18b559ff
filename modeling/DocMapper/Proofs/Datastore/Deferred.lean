import DocMapper.Proofs.Datastore.Batching
import DocMapper.Proofs.Datastore.Twins

/-!
# Loading references later

Loading follows the eager references of an entity from the stored values. The same entity can be had
in two steps: it is loaded with references that are all lazy, so that it holds keys, and then its
fields are resolved one by one with a fresh cache. The keys are written again to be resolved, and
what is written stands for the same keys as the stored value, even where it is not the same value.
-/

namespace DocMapper

/-! ### Keys that are written again -/

namespace Catalog

variable {catalog : Catalog} {field : MappedField} {target : Descriptor} {value : Value}
  {property : Property} {key : Key} {keys : List Key}

theorem keyFor_pointerTo_of_keyFor (made : keyFor field target value = .ok key) :
    keyFor field target (field.pointerTo key.collection key.id) = .ok key := by
  obtain ⟨place, rfl, given⟩ := keyFor_eq_ok.mp made
  rw [keyFor_pointerTo]
  cases bare : field.pointerOptions.idOnly with
  | true =>
    obtain rfl : place = ⟨target.collection, value⟩ := by simpa [bare] using given
    rfl
  | false => rfl

/-- Keys that were read are written as a value that stands for them. -/
theorem exists_encodeReference_of_keys (set : value.isNull = false)
    (linked : answer (catalog.keys field value) = .ok keys) :
    ∃ stored, answer (catalog.encodeReference field (propertyOfKeys field keys)) = .ok stored ∧
      stored.isNull = false ∧ answer (catalog.keys field stored) = .ok keys := by
  obtain ⟨target, described, given⟩ := answer_keys_eq_ok.mp linked
  cases multiple : field.isMultiple with
  | false =>
    obtain ⟨key, made, rfl⟩ := (keysFor_eq_ok_of_single multiple).mp given
    refine ⟨field.pointerTo key.collection key.id, ?_, ?_, ?_⟩
    · simp [propertyOfKeys, multiple, encodeReference, shapeFault?, Property.ofKey,
        referencePointer]
    · rw [MappedField.pointerTo]
      cases bare : field.pointerOptions.idOnly with
      | false => rfl
      | true =>
        obtain ⟨place, rfl, isPlace⟩ := keyFor_eq_ok.mp made
        obtain rfl : place = ⟨target.collection, value⟩ := by simpa [bare] using isPlace
        exact set
    · exact answer_keys_eq_ok.mpr ⟨target, described, (keysFor_eq_ok_of_single multiple).mpr
        ⟨key, keyFor_pointerTo_of_keyFor made, rfl⟩⟩
  | true =>
    obtain ⟨items, rfl, made⟩ := (keysFor_eq_ok_of_multiple multiple).mp given
    let pointers := keys.map fun key => field.pointerTo key.collection key.id
    have written : answer (((keys.map Reference.key).mapM (catalog.referencePointer field))) =
        .ok pointers := by
      rw [Steady.answer_mapM_eq_ok fun ref _ => steady_referencePointer field ref,
        List.forall₂_map_left_iff, List.forall₂_map_right_iff, List.forall₂_same]
      exact fun _ _ => rfl
    have again : pointers.mapM (keyFor field target) = .ok keys := by
      rw [Result.mapM_eq_ok, List.forall₂_map_left_iff, List.forall₂_same]
      intro key member
      obtain ⟨item, -, made⟩ := Result.exists_of_mem_results made member
      exact keyFor_pointerTo_of_keyFor made
    refine ⟨.array pointers, ?_, rfl, answer_keys_eq_ok.mpr ⟨target, described,
      (keysFor_eq_ok_of_multiple multiple).mpr ⟨pointers, rfl, again⟩⟩⟩
    simpa [propertyOfKeys, multiple, encodeReference, shapeFault?, Result.map_eq_ok] using written

/-- What was read for a reference field is written as a value that is null if the stored one was,
and stands for the same keys. -/
theorem Means.exists_encodeReference (means : catalog.Means field value property)
    (isReference : field.isReference = true) :
    ∃ stored, answer (catalog.encodeReference field property) = .ok stored ∧
      stored.isNull = value.isNull ∧ (value.isNull = false → ∀ keys,
        answer (catalog.keys field value) = .ok keys ↔
          answer (catalog.keys field stored) = .ok keys) := by
  cases means with
  | null => exact ⟨.null, by simp [encodeReference, shapeFault?], rfl, by simp [Value.isNull]⟩
  | links _ set linked =>
    obtain ⟨stored, written, set', linked'⟩ := exists_encodeReference_of_keys set linked
    refine ⟨stored, written, set'.trans set.symm, fun _ keys => ?_⟩
    rw [linked, linked']
  | plain noReference => simp [noReference] at isReference
  | object noReference => simp [noReference] at isReference
  | objects noReference => simp [noReference] at isReference

end Catalog

namespace Mapper

/-! ### One field after the other -/

section

variable {mapper mapper' : Mapper} {field : MappedField} {doc : Document} {value : Value}
  {property : Property} {descriptor descriptor' : Descriptor} {entity : Entity}

/-- Resolving a field of a loaded entity does what loading does with its stored value. -/
theorem mirrors_resolveField (plain : mapper.Plain) (plain' : mapper'.Plain)
    (alike : mapper.catalog.Alike mapper'.catalog) (same : descriptor.Alike descriptor')
    (described' : mapper'.catalog.Describes entity.className descriptor')
    (names : (descriptor.fields.map MappedField.name).Nodup) (member : field ∈ descriptor.fields)
    (isReference : field.isReference = true) (means : mapper.catalog.Means field value property)
    (held : entity.get? field.name = some property)
    {next : Property → ResolveM Entity} {next' : Entity → ResolveM Entity}
    (rest : ∀ resolved, Mirrors mapper.catalog mapper'.catalog (next resolved)
      (next' (entity.set field.name resolved))) :
    Mirrors mapper.catalog mapper'.catalog (mapper.resolve field value >>= next)
      (mapper'.resolveField entity field.name >>= next') := by
  obtain ⟨field', member', sameField⟩ := Result.exists_of_mem_left same.fields member
  have isReference' := sameField.isReference.trans isReference
  have names' : (descriptor'.fields.map MappedField.name).Nodup := by
    rwa [same.map_fields fun _ _ alike => alike.name]
  have found : (descriptor'.field? field.name).filter MappedField.isReference = some field' := by
    rw [← sameField.name, Descriptor.field?_eq names' member', Option.filter_some, isReference']
    rfl
  have means' : mapper'.catalog.Means field' value property := by
    refine means.of_alike alike sameField fun _ _ _ nests => ?_
    cases nests <;> simp_all
  obtain ⟨stored, written, sameNull, sameKeys⟩ := means'.exists_encodeReference isReference'
  have given := (Catalog.steady_describe entity.className).gives
    (Catalog.answer_describe_eq_ok.mpr described')
  rw [resolveField, bind_assoc]
  refine .onMemory_right given ?_
  simp only [found, held, bind_assoc, pure_bind]
  refine .onMemory_right ((Catalog.steady_encodeReference field' property).gives written) ?_
  refine (mirrors_resolve plain plain' alike sameField sameNull fun set keys => ?_).bind rest
  rw [← sameKeys set, Catalog.answer_keys_iff_of_alike alike sameField]

/-- Following the references of some fields in turn does what resolving those of them does for which
the document has anything. The induction is on the fields, of which none sets another. -/
theorem mirrors_resolveFields (plain : mapper.Plain) (plain' : mapper'.Plain)
    (alike : mapper.catalog.Alike mapper'.catalog) (same : descriptor.Alike descriptor')
    (names : (descriptor.fields.map MappedField.name).Nodup) {fields : List MappedField}
    (once : (fields.map MappedField.name).Nodup)
    (references : ∀ field ∈ fields, field ∈ descriptor.fields ∧ field.isReference = true)
    (described' : mapper'.catalog.Describes entity.className descriptor')
    (shown : ∀ field ∈ fields, Option.Rel (mapper.catalog.Means field)
      (Document.get? doc field.storedName) (entity.get? field.name)) :
    Mirrors mapper.catalog mapper'.catalog (fields.foldlM (mapper.loadReference doc) entity)
      (((fields.filter fun field => Document.contains doc field.storedName).map
        MappedField.name).foldlM mapper'.resolveField entity) := by
  induction fields generalizing entity with
  | nil => exact .pure _
  | cons field rest ih =>
    obtain ⟨apart, once⟩ := List.nodup_cons.mp once
    obtain ⟨member, isReference⟩ := references field List.mem_cons_self
    have shownHere := shown field List.mem_cons_self
    have shownLater := fun other inRest => shown other (List.mem_cons_of_mem _ inRest)
    have referencesLater := fun other inRest => references other (List.mem_cons_of_mem field inRest)
    rw [List.foldlM_cons, List.filter_cons, Document.contains]
    cases found : Document.get? doc field.storedName with
    | none =>
      have skips : mapper.loadReference doc entity field = pure entity := by
        rw [loadReference, found]
      rw [skips, pure_bind]
      exact ih once referencesLater described' shownLater
    | some value =>
      rw [found] at shownHere
      generalize held : entity.get? field.name = reading at shownHere
      cases shownHere with
      | some means =>
        have follows : mapper.loadReference doc entity field = (do
            return entity.set field.name (← mapper.resolve field value)) := by
          rw [loadReference, found]
        rw [follows, bind_assoc]
        simp only [Option.isSome_some, if_true, List.map_cons, List.foldlM_cons, pure_bind]
        refine mirrors_resolveField plain plain' alike same described' names member isReference
          means held fun resolved => ?_
        have describedNext : mapper'.catalog.Describes (entity.set field.name resolved).className
            descriptor' := described'
        refine ih once referencesLater describedNext fun other inRest => ?_
        have differs : other.name ≠ field.name := fun sameName =>
          apart (sameName ▸ List.mem_map_of_mem inRest)
        rw [Entity.get?_set_of_ne entity differs resolved]
        exact shownLater other inRest

end

/-! ### Loading in two steps -/

/-- The names of the eager fields of a class for which a document has anything, in their order. -/
def eagerNames (descriptor : Descriptor) (doc : Document) : List String :=
  ((descriptor.fields.filter isEager).filter fun field =>
    Document.contains doc field.storedName).map MappedField.name

/-- The entity of a class with an identity, with some of its fields resolved after it was loaded.
All of them share one cache. -/
def getThenResolve (mapper : Mapper) (name : ClassName) (id : Value) (fields : List String) :
    WorldM (Option Entity) := do
  match ← mapper.get name id with
  | none => return none
  | some entity => return some (← withFreshCache (fields.foldlM mapper.resolveField entity))

section

variable {mapper mapper' : Mapper} {world world' : World} {name : ClassName} {identity : Value}
  {home descriptor : Descriptor} {doc : Document}

theorem outcome_getThenResolve_of_some {entity : Entity} {after : World}
    (loaded : (mapper.get name identity).outcome world = (.ok (some entity), after))
    (fields : List String) :
    (mapper.getThenResolve name identity fields).outcome world =
      (some <$> withFreshCache (fields.foldlM mapper.resolveField entity)).outcome after := by
  rw [getThenResolve, Run.outcome_bind_of_ok loaded, map_eq_pure_bind]

theorem outcome_getThenResolve_of_error {error : MapError} {after : World}
    (refused : (mapper.get name identity).outcome world = (.error error, after))
    (fields : List String) :
    (mapper.getThenResolve name identity fields).outcome world = (.error error, after) := by
  rw [getThenResolve, Run.outcome_bind_of_error refused]

/-- Following the eager references of a decoded entity does what resolving its eager fields does,
those without an entry left out. -/
theorem mirrors_resolveEager (plain : mapper.Plain) (plain' : mapper'.Plain)
    (alike : mapper.catalog.Alike mapper'.catalog)
    (isClass : mapper.catalog.ReadAs name doc descriptor)
    (names : (descriptor.fields.map MappedField.name).Nodup) {entity : Entity}
    (read : Catalog.answer (mapper.catalog.decodeDocument name doc) = .ok entity) :
    Mirrors mapper.catalog mapper'.catalog
      ((descriptor.fields.filter isEager).foldlM (mapper.loadReference doc) entity)
      ((eagerNames descriptor doc).foldlM mapper'.resolveField entity) := by
  obtain ⟨descriptor', isClass', same⟩ := isClass.exists_alike alike plain.named
  obtain ⟨_, described'⟩ := isClass'.describes
  have shows := isClass.shows names read
  refine mirrors_resolveFields plain plain' alike same names
    (names.sublist (List.filter_sublist.map _)) ?_ ?_ ?_
  · intro field inEager
    obtain ⟨member, eager⟩ := List.mem_filter.mp inEager
    exact ⟨member, isReference_of_isEager eager⟩
  · rwa [shows.className, ← same.className, described'.className_eq plain'.named]
  · exact fun field inEager => shows.field field (List.mem_filter.mp inEager).1

/-- Loading an entity with its eager references followed gives what loading it with lazy references
gives once its fields are resolved, and succeeds exactly if that does. -/
theorem Plain.get_iff_getThenResolve (plain : mapper.Plain) (plain' : mapper'.Plain)
    (alike : mapper.catalog.Alike mapper'.catalog)
    (twins : World.Twins mapper.catalog mapper'.catalog world world')
    (described : mapper.catalog.Describes name home)
    (found : world.store.collections.findFirst home.collection (.idEq identity) = .ok (some doc))
    (isClass : mapper.catalog.ReadAs name doc descriptor)
    (names : (descriptor.fields.map MappedField.name).Nodup)
    (lazy : ∀ descriptor', mapper'.catalog.ReadAs name doc descriptor' →
      ∀ field ∈ descriptor'.fields, isEager field = false) (loaded : Option Entity) :
    ((mapper.get name identity).outcome world).1 = .ok loaded ↔
      ((mapper'.getThenResolve name identity (eagerNames descriptor doc)).outcome world').1 =
        .ok loaded := by
  obtain ⟨home', describedHome, sameHome⟩ := described.exists_alike alike
  obtain ⟨descriptor', isClass', -⟩ := isClass.exists_alike alike plain.named
  cases isEntity : home.isEntity with
  | false =>
    obtain ⟨_, _, ran⟩ := outcome_get_of_noEntity twins.ready described isEntity identity
    obtain ⟨_, _, ran'⟩ := outcome_get_of_noEntity twins.readyOther describedHome
      (sameHome.isEntity.trans isEntity) identity
    rw [ran, outcome_getThenResolve_of_error ran']
    simp
  | true =>
    have found' : world'.store.collections.findFirst home'.collection (.idEq identity) =
        .ok (some doc) := by
      rw [twins.collections, sameHome.collection, found]
    obtain ⟨first, keeps, ran⟩ := outcome_get_of_found twins.ready described isEntity found
    obtain ⟨first', keeps', ran'⟩ := outcome_get_of_found twins.readyOther describedHome
      (sameHome.isEntity.trans isEntity) found'
    rw [Run.outcome_map, outcome_withFreshCache] at ran ran'
    cases read : Catalog.answer (mapper.catalog.decodeDocument name doc) with
    | error error =>
      obtain ⟨_, -, failed⟩ := plain.outcome_loadResolved_of_error keeps.ready [] isClass read
      cases read' : Catalog.answer (mapper'.catalog.decodeDocument name doc) with
      | ok entity =>
        rw [← Catalog.answer_decodeDocument_iff_of_alike alike plain.named, read] at read'
        cases read'
      | error error' =>
        obtain ⟨_, -, failed'⟩ :=
          plain'.outcome_loadResolved_of_error keeps'.ready [] isClass' read'
        rw [failed'] at ran'
        rw [ran, failed, outcome_getThenResolve_of_error ran']
        simp [Except.map]
    | ok entity =>
      have read' := Catalog.answer_decodeDocument_of_alike alike plain.named read
      have unlinked : descriptor'.fields.filter isEager = [] :=
        List.filter_eq_nil_iff.mpr (by simpa using lazy descriptor' isClass')
      obtain ⟨second, kept, follows⟩ :=
        plain.outcome_loadResolved_of_read keeps.ready [] isClass read
      obtain ⟨second', kept', ends⟩ :=
        plain'.outcome_loadResolved keeps'.ready [] isClass' unlinked read'
      have mirrors := mirrors_resolveEager plain plain' alike isClass names read
      have twins' := twins.keeps (keeps.trans kept) (keeps'.trans kept')
      rw [ends] at ran'
      rw [ran, follows, outcome_getThenResolve_of_some ran', Run.outcome_map,
        outcome_withFreshCache, Result.map_eq_ok, Result.map_eq_ok]
      simp only [mirrors.result_iff twins' []]

end

end Mapper

namespace Samples

/-- A book whose references are all lazy. -/
def deferredBook : TypeSchema :=
  entity "Book" "books" [
    marked "id" integer .id,
    marked "version" integer .version,
    plain "title" text,
    marked "editor" (object "Author") (.reference { idOnly := true, lazy := true }),
    marked "authors" (.list (object "Author")) (.reference { lazy := true }),
    marked "reviewers" (.list (object "Author")) (.reference { lazy := true })]

def deferredLibrary : Registry := .ofTypes [address, author, deferredBook]

theorem alike_deferredLibrary : Registry.Alike library deferredLibrary :=
  Registry.alike_ofTypes (.cons rfl (.cons rfl (.cons rfl .nil)))

/-- A stored book: its editor is known, and of its authors one is, one is not, and one is stored
with more than a pointer. -/
def bookRow : Document :=
  [("_id", .integer 1), ("className", .text "Book"), ("editor", .integer 1),
    ("authors", .array [Pointer.toValue ⟨"authors", .integer 1⟩,
      Pointer.toValue ⟨"authors", .integer 9⟩,
      .document [("$ref", .text "guests"), ("$id", .integer 2), ("since", .integer 1843)]])]

def bookWorld : World where
  store := { collections := (people.serve (.save "books" bookRow)).2 }

theorem describes_deferredBook : Catalog.Describes ⟨deferredLibrary, {}⟩ deferredBook.name
    (Catalog.assemble ⟨deferredLibrary, {}⟩ deferredBook none [] []) :=
  Catalog.describes_alone rfl (by decide) rfl rfl rfl rfl (by decide +kernel)

/-- The book is the same, whether its people are loaded with it or later. -/
theorem getThenResolve_book :
    let mapper : Mapper := { catalog := { registry := library } }
    let deferred : Mapper := { catalog := { registry := deferredLibrary } }
    ∃ entity, ((mapper.get book.name (.integer 1)).outcome bookWorld).1 = .ok (some entity) ∧
      ((deferred.getThenResolve book.name (.integer 1) ["editor", "authors"]).outcome
        bookWorld).1 = .ok (some entity) := by
  intro mapper deferred
  have loads : ((mapper.get book.name (.integer 1)).outcome bookWorld).1.toOption.join.isSome =
      true := by decide +kernel
  obtain ⟨entity, loads⟩ := Option.isSome_iff_exists.mp loads
  have loads := Result.eq_ok_of_toOption (Option.join_eq_some_iff.mp loads)
  have plain' : deferred.Plain := ⟨Registry.named_ofTypes _, .of_methods_eq_nil rfl, rfl⟩
  have twins : World.Twins mapper.catalog deferred.catalog bookWorld bookWorld :=
    ⟨⟨Memory.sound_empty _, rfl⟩, ⟨Memory.sound_empty _, rfl⟩, rfl⟩
  have found : bookWorld.store.collections.findFirst "books" (.idEq (.integer 1)) =
      .ok (some bookRow) := by decide +kernel
  have lazy : ∀ descriptor, deferred.catalog.ReadAs book.name bookRow descriptor →
      ∀ field ∈ descriptor.fields, Mapper.isEager field = false := by
    intro descriptor isClass
    obtain rfl := isClass.unique describes_deferredBook
    decide
  have same := Mapper.Plain.get_iff_getThenResolve (plain_library {}) plain'
    ⟨alike_deferredLibrary, rfl⟩ twins describes_book found describes_book (by decide) lazy
  exact ⟨entity, loads, (same (some entity)).mp loads⟩

end Samples

end DocMapper
