import Mathlib.Data.Option.Basic
import Mathlib.Data.Set.Card
import DocMapper.Proofs.Datastore.Saving

/-!
# A datastore keeps a ledger

Over classes that do not share their collections, a datastore is a map from a class and an identity
to an entity. `Ledger` is such a map; it notes what the calls of a run report. Whatever run of saves
and deletes has led to a world, loading gives back what the ledger says and counting counts it.

The invariant is `Kept`: the documents in the collection of a class are those of the entities that
the ledger has under the class, each under its identity.
-/

namespace DocMapper

/-- The entity that was saved last under an identity of a class, unless it was deleted since. -/
abbrev Ledger := ClassName → Value → Option Entity

def Ledger.note (ledger : Ledger) (name : ClassName) (id : Value) (entity : Option Entity) :
    Ledger :=
  fun name' id' => if name' = name ∧ id' = id then entity else ledger name' id'

/-- A call that may change what is stored. -/
inductive Change where
  | save (entity : Entity)
  | delete (name : ClassName) (id : Value)

namespace Mapper

/-- Makes a call, and notes in the ledger what it reports: what a save leaves of its entity, under
the key that it gives, and the identity that a delete was asked for. -/
def make (mapper : Mapper) (state : World × Ledger) : Change → World × Ledger
  | .save entity =>
    match mapper.save.outcome (state.1, entity) with
    | (.ok key, (world, left)) => (world, state.2.note key.className key.id (some left))
    | (.error _, (world, _)) => (world, state.2)
  | .delete name id =>
    match (mapper.delete name id).outcome state.1 with
    | (.ok _, world) => (world, state.2.note name id none)
    | (.error _, world) => (world, state.2)

/-- The mapper has no hooks, and the classes are entity classes without references, each with a
collection of its own. -/
structure Shelves (mapper : Mapper) (classes : Set ClassName) : Prop where
  plain : mapper.Plain
  entities : ∀ name ∈ classes, ∃ descriptor, mapper.catalog.Describes name descriptor ∧
    descriptor.isEntity = true ∧ ∀ field ∈ descriptor.fields, field.isReference = false
  apart : ∀ name ∈ classes, ∀ other ∈ classes, ∀ descriptor descriptor',
    mapper.catalog.Describes name descriptor → mapper.catalog.Describes other descriptor' →
      descriptor.collection = descriptor'.collection → name = other

/-- What a run may call: a save of a well-typed entity whose document can be read again, and any
delete. -/
def Admits (mapper : Mapper) (classes : Set ClassName) (world : World) : Change → Prop
  | .save entity => entity.className ∈ classes ∧ mapper.catalog.WellTyped entity ∧
      ∀ doc, Catalog.answer (mapper.catalog.document (mapper.save.outcome (world, entity)).2.2) =
        .ok doc → Cbor.Storable doc
  | .delete name _ => name ∈ classes

/-- The worlds, with their ledgers, that runs lead to from a store without documents. -/
inductive Reached (mapper : Mapper) (classes : Set ClassName) : World × Ledger → Prop
  | start {world : World} (ready : world.Ready mapper.catalog)
      (empty : world.store.collections = []) : Reached mapper classes (world, fun _ _ => none)
  | next {state : World × Ledger} {change : Change} (reached : Reached mapper classes state)
      (admitted : mapper.Admits classes state.1 change) :
      Reached mapper classes (mapper.make state change)

/-- The document is that of an entity of a class, whose version is not its identity. -/
structure Records (mapper : Mapper) (descriptor : Descriptor) (entity : Entity) (doc : Document) :
    Prop where
  described : mapper.catalog.Describes entity.className descriptor
  typed : mapper.catalog.WellTyped entity
  encoded : Catalog.answer (mapper.catalog.document entity) = .ok doc
  noId : ∀ field, descriptor.versionField? = some field → field.isId = false

/-- The collection of every class holds the documents of the entities in the ledger. -/
structure Kept (mapper : Mapper) (classes : Set ClassName) (state : World × Ledger) : Prop where
  ready : state.1.Ready mapper.catalog
  intact : ∀ name ∈ classes, ∀ descriptor, mapper.catalog.Describes name descriptor →
    Collections.Intact (state.1.store.collections.documents descriptor.collection)
  records : ∀ name ∈ classes, ∀ descriptor, mapper.catalog.Describes name descriptor → ∀ id,
    Option.Rel (mapper.Records descriptor) (state.2 name id) (Collections.documentAt?
      (state.1.store.collections.documents descriptor.collection) id)

/-! ### Well-typed entities stay well-typed -/

section

variable {mapper : Mapper} {entity named left : Entity} {descriptor : Descriptor} {id : Value}
  {field : MappedField} {collections : Collections}

theorem accepts_idValue? (typed : mapper.catalog.WellTyped entity)
    (described : mapper.catalog.Describes entity.className descriptor)
    (isId : descriptor.idField? = some field) (set : descriptor.idValue? entity = some id) :
    ∃ kind, field.type = .scalar kind ∧ kind.accepts id = true := by
  obtain ⟨member, marked⟩ := Descriptor.idField?_spec isId
  rw [Catalog.idValue?_eq isId, Option.filter_eq_some_iff] at set
  obtain ⟨held, present⟩ := set
  obtain ⟨property, given, isValue⟩ := Option.bind_eq_some_iff.mp held
  cases typed.suits described member given with
  | null isNull =>
    cases property <;> simp_all [Property.asValue?, Property.isNull]
  | @id value kind isId type accepted =>
    cases isValue
    exact ⟨kind, type, accepted⟩
  | plain noId => simp [marked] at noId
  | _ => cases isValue

theorem classNameKey_ne_idField (typed : mapper.catalog.WellTyped entity)
    (described : mapper.catalog.Describes entity.className descriptor)
    (isId : descriptor.idField? = some field) :
    mapper.catalog.options.classNameKey ≠ idField := by
  obtain ⟨member, marked⟩ := Descriptor.idField?_spec isId
  rw [← described.storedName_of_isId member marked]
  exact (typed.apart described field member).symm

theorem Identified.wellTyped (identified : Identified descriptor entity id named)
    (described : mapper.catalog.Describes entity.className descriptor)
    (typed : mapper.catalog.WellTyped entity) : mapper.catalog.WellTyped named := by
  cases identified with
  | own set => exact typed
  | issued unset isId type oid =>
    obtain ⟨member, marked⟩ := Descriptor.idField?_spec isId
    exact typed.set described member (.id marked type rfl) rfl

theorem Advanced.wellTyped (advanced : Advanced descriptor collections id entity left)
    (described : mapper.catalog.Describes entity.className descriptor)
    (noId : ∀ field, descriptor.versionField? = some field → field.isId = false)
    (typed : mapper.catalog.WellTyped entity) : mapper.catalog.WellTyped left := by
  cases advanced with
  | unversioned unversioned => exact typed
  | @counted field found isVersion searched current =>
    obtain ⟨member, marked⟩ := Descriptor.versionField?_spec isVersion
    have type := described.type_of_isVersion member marked
    refine typed.set described member (.plain (noId field isVersion)
      (described.isReference_of_isVersion member marked) ?_ ?_) rfl
    · simp [MappedField.target?, type, FieldType.className?, FieldType.element]
    · rw [type]
      rfl

end

/-! ### One call -/

namespace Kept

variable {mapper : Mapper} {classes : Set ClassName} {state : World × Ledger} {world : World}
  {name : ClassName} {descriptor : Descriptor}

/-- What leaves the documents alone keeps the ledger right. -/
theorem of_keeps (kept : mapper.Kept classes state)
    (keeps : state.1.Keeps mapper.catalog world) : mapper.Kept classes (world, state.2) := by
  obtain ⟨ready, intact, records⟩ := kept
  refine ⟨keeps.ready, ?_, ?_⟩
  · rw [keeps.collections]
    exact intact
  · rw [keeps.collections]
    exact records

/-- A change of one collection keeps the ledger right if the ledger follows it. -/
theorem update (shelves : mapper.Shelves classes) (kept : mapper.Kept classes state)
    (member : name ∈ classes) (described : mapper.catalog.Describes name descriptor)
    (ready : world.Ready mapper.catalog) {id : Value} {entity : Option Entity}
    (elsewhere : ∀ other, other ≠ descriptor.collection →
      world.store.collections.documents other = state.1.store.collections.documents other)
    (intact : Collections.Intact (world.store.collections.documents descriptor.collection))
    (records : ∀ id', Option.Rel (mapper.Records descriptor)
      (if id' = id then entity else state.2 name id')
      (Collections.documentAt? (world.store.collections.documents descriptor.collection) id')) :
    mapper.Kept classes (world, state.2.note name id entity) := by
  have apart : ∀ other ∈ classes, ∀ found, mapper.catalog.Describes other found →
      other ≠ name → world.store.collections.documents found.collection =
        state.1.store.collections.documents found.collection := by
    intro other member' found described' differs
    refine elsewhere _ fun same => differs ?_
    exact shelves.apart other member' name member found descriptor described' described same
  refine ⟨ready, ?_, ?_⟩
  · intro other member' found described'
    by_cases same : other = name
    · subst same
      obtain rfl := described.unique described'
      exact intact
    · rw [apart other member' found described' same]
      exact kept.intact other member' found described'
  · intro other member' found described' id'
    by_cases same : other = name
    · subst same
      obtain rfl := described.unique described'
      simpa [Ledger.note] using records id'
    · rw [apart other member' found described' same]
      simpa [Ledger.note, same] using kept.records other member' found described' id'

/-- A class whose version is its identity has no entity that a save accepts: the first one would
have to carry a version that is stored already. -/
theorem isId_eq_false (kept : mapper.Kept classes state) {entity left : Entity} {key : Key}
    (member : entity.className ∈ classes) (typed : mapper.catalog.WellTyped entity)
    (described : mapper.catalog.Describes entity.className descriptor)
    (saved : mapper.Saved state.1 entity key world left) :
    ∀ field, descriptor.versionField? = some field → field.isId = false := by
  intro field isVersion
  by_contra marked
  have marked : field.isId = true := by simpa using marked
  obtain ⟨inClass, counts⟩ := Descriptor.versionField?_spec isVersion
  have type := described.type_of_isVersion inClass counts
  have isId := described.idField?_eq inClass marked
  cases saved with
  | @intro _ id named _ doc _ described' isEntity identified advanced encoded stored ready =>
    obtain rfl := described.unique described'
    cases identified with
    | issued unset isId' type' oid =>
      obtain rfl := Option.some.inj (isId.symm.trans isId')
      rw [type] at type'
      cases type'
    | own set =>
      obtain ⟨kind, type', accepted⟩ := accepts_idValue? typed described isId set
      obtain rfl : ScalarKind.integer = kind := FieldType.scalar.inj (type.symm.trans type')
      obtain ⟨n, rfl⟩ : ∃ n, id = .integer n := by
        cases id <;> simp [ScalarKind.accepts] at accepted
        exact ⟨_, rfl⟩
      have carried : carriedVersion field entity = some n := by
        rw [Catalog.idValue?_eq isId, Option.filter_eq_some_iff] at set
        rw [carriedVersion, set.1]
        rfl
      cases advanced with
      | unversioned unversioned => simp [isVersion] at unversioned
      | @counted field' found isVersion' searched current =>
        obtain rfl := Option.some.inj (isVersion.symm.trans isVersion')
        rw [Collections.findFirst_idEq (kept.intact _ member _ described)] at searched
        have recorded := kept.records _ member _ described (.integer n)
        rw [Except.ok.inj searched] at recorded
        generalize state.2 entity.className (.integer n) = noted at recorded
        cases found with
        | none => simp [carried] at current
        | some doc =>
          cases recorded with
          | some records => simp [records.noId field isVersion] at marked

theorem save (shelves : mapper.Shelves classes) (kept : mapper.Kept classes state)
    {entity : Entity} (admitted : mapper.Admits classes state.1 (.save entity)) :
    mapper.Kept classes (mapper.make state (.save entity)) := by
  obtain ⟨member, typed, storable⟩ := admitted
  rcases ran : mapper.save.outcome (state.1, entity) with ⟨result, world, left⟩
  rcases shelves.plain.outcome_save kept.ready ran with ⟨key, rfl, saved⟩ | ⟨error, rfl, keeps, -⟩
  swap
  · simp only [make, ran]
    exact kept.of_keeps keeps
  simp only [make, ran] at storable ⊢
  obtain ⟨descriptor, described, -, -⟩ := shelves.entities _ member
  have noId := kept.isId_eq_false member typed described saved
  have written := saved
  cases saved with
  | @intro _ id named _ doc _ described' isEntity identified advanced encoded _ ready =>
    obtain rfl := described.unique described'
    obtain ⟨field, isId⟩ := Catalog.exists_idField?_of_idValue? identified.idValue?_eq
    have key := classNameKey_ne_idField typed described isId
    obtain ⟨sameClass, doc', stored, encoded', identity, isStored, same⟩ :=
      written.wrote described key
    obtain rfl := Except.ok.inj (encoded.symm.trans encoded')
    have typedLeft := advanced.wellTyped (identified.className_eq.symm ▸ described) noId
      (identified.wellTyped described typed)
    have stands := advanced.idValue?_eq (typed.names described) noId
    obtain rfl : id = stored := Option.some.inj
      (identified.idValue?_eq.symm.trans (stands.symm.trans isStored))
    have holds := Collections.holds_write (storable doc encoded) identity
    rw [described.className_eq shelves.plain.named]
    have here : world.store.collections.documents descriptor.collection = Collections.put
        ⟨id, Cbor.write doc⟩ (state.1.store.collections.documents descriptor.collection) := by
      rw [same, Collections.documents_insert_self]
    refine kept.update shelves member described ready ?_ ?_ fun id' => ?_
    · intro other differs
      rw [same, Collections.documents_insert_of_ne differs]
    · rw [here]
      exact (kept.intact _ member _ described).put holds
    · rw [here, Collections.documentAt?_put holds]
      split
      · exact .some ⟨sameClass.symm ▸ described, typedLeft, encoded, noId⟩
      · exact kept.records _ member _ described id'

theorem delete (shelves : mapper.Shelves classes) (kept : mapper.Kept classes state)
    (member : name ∈ classes) (id : Value) :
    mapper.Kept classes (mapper.make state (.delete name id)) := by
  obtain ⟨descriptor, described, isEntity, -⟩ := shelves.entities name member
  obtain ⟨world, ready, same, ran⟩ := outcome_delete kept.ready described isEntity id
  simp only [make, ran]
  refine kept.update shelves member described ready ?_ ?_ fun id' => ?_
  · intro other differs
    rw [same, Collections.documents_delete_of_ne differs]
  · rw [same, Collections.documents_delete_self]
    exact (kept.intact _ member _ described).delete id
  · rw [same, Collections.documents_delete_self, Collections.documentAt?_delete]
    split
    · exact .none
    · exact kept.records _ member _ described id'

end Kept

/-! ### Runs -/

/-- Every run keeps the ledger right. -/
theorem Reached.kept {mapper : Mapper} {classes : Set ClassName} {state : World × Ledger}
    (shelves : mapper.Shelves classes) (reached : mapper.Reached classes state) :
    mapper.Kept classes state := by
  induction reached with
  | @start world ready empty =>
    have nothing : ∀ name, world.store.collections.documents name = [] := by
      intro name
      rw [empty]
      rfl
    refine ⟨ready, fun name _ descriptor _ => ?_, fun name _ descriptor _ id => ?_⟩
    · rw [nothing]
      exact ⟨.nil, by simp⟩
    · rw [nothing]
      exact .none
  | @next state change reached admitted ih =>
    cases change with
    | save entity => exact ih.save shelves admitted
    | delete name id => exact ih.delete shelves admitted id

namespace Shelves

variable {mapper : Mapper} {classes : Set ClassName} {state : World × Ledger} {name : ClassName}

/-- A class without references has nothing to resolve on loading. -/
theorem filter_isEager_eq_nil {fields : List MappedField}
    (unlinked : ∀ field ∈ fields, field.isReference = false) : fields.filter isEager = [] := by
  apply List.filter_eq_nil_iff.mpr
  intro field member
  have none : field.annotation? .reference = none := by
    simpa [MappedField.isReference, MappedField.has] using unlinked field member
  simp [isEager, MappedField.referenceOptions?, none]

theorem get_of_kept (shelves : mapper.Shelves classes) (kept : mapper.Kept classes state)
    (member : name ∈ classes) (id : Value) :
    ∃ result after, (mapper.get name id).outcome state.1 = (.ok result, after) ∧
      Option.Rel mapper.catalog.Restores (state.2 name id) result := by
  obtain ⟨descriptor, described, isEntity, unlinked⟩ := shelves.entities name member
  have intact := kept.intact name member descriptor described
  have recorded := kept.records name member descriptor described id
  generalize state.2 name id = noted at recorded ⊢
  cases found : Collections.documentAt?
      (state.1.store.collections.documents descriptor.collection) id with
  | none =>
    obtain ⟨after, -, ran⟩ := outcome_get_of_none kept.ready described isEntity intact found
    rw [found] at recorded
    cases recorded
    exact ⟨none, after, ran, .none⟩
  | some doc =>
    rw [found] at recorded
    cases recorded with
    | @some entity _ records =>
      obtain ⟨described', typed, encoded, -⟩ := records
      have isClass : entity.className = name :=
        (described'.className_eq shelves.plain.named).symm.trans
          (described.className_eq shelves.plain.named)
      subst isClass
      have stands := described.standsFor shelves.plain.named
      obtain ⟨restored, read, restores⟩ :=
        typed.roundTrips shelves.plain.named doc encoded entity.className stands
      have readAs := (described.written_document encoded).readAs shelves.plain.named described
        (typed.apart described) stands
      obtain ⟨after, -, ran⟩ := shelves.plain.outcome_get_of_some kept.ready described isEntity
        intact found readAs (filter_isEager_eq_nil unlinked) read
      exact ⟨some restored, after, ran, .some restores⟩

theorem count_of_kept (shelves : mapper.Shelves classes) (kept : mapper.Kept classes state)
    (member : name ∈ classes) :
    ∃ count after, (mapper.count name).outcome state.1 = (.ok count, after) ∧
      {id | state.2 name id ≠ none}.encard = count := by
  obtain ⟨descriptor, described, isEntity, -⟩ := shelves.entities name member
  obtain ⟨after, -, ran⟩ := outcome_count kept.ready described isEntity
  refine ⟨_, after, ran, ?_⟩
  have intact := kept.intact name member descriptor described
  have same : {id | state.2 name id ≠ none} = ((state.1.store.collections.documents
      descriptor.collection).map StoredDocument.id).toFinset := by
    ext id
    have agree : state.2 name id = none ↔ Collections.documentAt?
        (state.1.store.collections.documents descriptor.collection) id = none := by
      have recorded := kept.records name member descriptor described id
      generalize state.2 name id = noted at recorded ⊢
      generalize Collections.documentAt? _ id = found at recorded ⊢
      cases recorded <;> simp
    rw [Set.mem_ofPred_eq, Finset.mem_coe, List.mem_toFinset, ne_eq, agree,
      Collections.documentAt?_eq_none_iff intact, not_not]
  rw [same, Set.encard_coe_eq_coe_finsetCard, List.toFinset_card_of_nodup intact.apart,
    List.length_map]

end Shelves

/-- After any run, loading an entity gives what was saved last under its identity and not deleted
since, or nothing if there is nothing, and counting counts the identities that have an entity. What
the ledger has of a save is the saved entity with its identity and its next version. -/
theorem Shelves.refines {mapper : Mapper} {classes : Set ClassName} {state : World × Ledger}
    (shelves : mapper.Shelves classes) (reached : mapper.Reached classes state) {name : ClassName}
    (member : name ∈ classes) :
    (∀ id, ∃ result after, (mapper.get name id).outcome state.1 = (.ok result, after) ∧
      Option.Rel mapper.catalog.Restores (state.2 name id) result) ∧
    (∃ count after, (mapper.count name).outcome state.1 = (.ok count, after) ∧
      {id | state.2 name id ≠ none}.encard = count) ∧
    ∀ entity, entity.className = name → mapper.Admits classes state.1 (.save entity) →
      ∀ key world left, mapper.save.outcome (state.1, entity) = (.ok key, (world, left)) →
        key.className = name ∧ ∃ descriptor, mapper.catalog.Describes name descriptor ∧
          Follows descriptor entity left key.id := by
  have kept := reached.kept shelves
  refine ⟨shelves.get_of_kept kept member, shelves.count_of_kept kept member, ?_⟩
  rintro entity rfl ⟨-, typed, -⟩ key world left ran
  obtain ⟨descriptor, described, -, -⟩ := shelves.entities _ member
  rcases shelves.plain.outcome_save kept.ready ran with ⟨_, ⟨rfl⟩, saved⟩ | ⟨_, failed, -⟩
  · have noId := kept.isId_eq_false member typed described saved
    refine ⟨?_, descriptor, described, saved.follows described (typed.names described) noId⟩
    cases saved with
    | intro described' => exact described'.className_eq shelves.plain.named
  · cases failed

end Mapper

namespace Samples

def note : TypeSchema :=
  entity "Note" "notes" [
    marked "id" objectId .id,
    marked "version" integer .version,
    plain "text" text]

def tag : TypeSchema :=
  entity "Tag" "tags" [marked "id" text .id]

def notebook : Registry := .ofTypes [note, tag]

/-- A note that was never saved. -/
def jotted : Entity := .mk note.name [("text", .value (.text "hello"))]

def label : Entity := .mk tag.name [("id", .value (.text "lean"))]

theorem plain_notebook : Mapper.Plain { catalog := { registry := notebook } } where
  named := Registry.named_ofTypes _
  hookless := .of_methods_eq_nil rfl
  interceptors := rfl

theorem describes_note : Catalog.Describes { registry := notebook } note.name
    (Catalog.assemble { registry := notebook } note none [] []) :=
  Catalog.describes_alone rfl (by decide) rfl rfl rfl rfl rfl

theorem describes_tag : Catalog.Describes { registry := notebook } tag.name
    (Catalog.assemble { registry := notebook } tag none [] []) :=
  Catalog.describes_alone rfl (by decide) rfl rfl rfl rfl rfl

theorem wellTyped_jotted : Catalog.WellTyped { registry := notebook } jotted := by
  refine .of_properties describes_note (by decide) (by decide) ?_ (by
    simp [jotted, Entity.properties, Property.parts])
  simp only [jotted, Entity.properties, List.forall_mem_singleton]
  exact ⟨.ofSchema note.name (plain "text" text), by decide, rfl, .plain rfl rfl rfl rfl⟩

theorem wellTyped_label : Catalog.WellTyped { registry := notebook } label := by
  refine .of_properties describes_tag (by decide) (by decide) ?_ (by
    simp [label, Entity.properties, Property.parts])
  simp only [label, Entity.properties, List.forall_mem_singleton]
  exact ⟨.ofSchema tag.name (marked "id" text .id), by decide, rfl, .id rfl rfl rfl⟩

/-- Notes and tags are kept in collections of their own. -/
theorem shelves_notebook :
    Mapper.Shelves { catalog := { registry := notebook } } {note.name, tag.name} where
  plain := plain_notebook
  entities := by
    rintro name (rfl | rfl)
    · exact ⟨_, describes_note, rfl, by decide⟩
    · exact ⟨_, describes_tag, rfl, by decide⟩
  apart := by
    rintro name (rfl | rfl) other (rfl | rfl) descriptor descriptor' described described' same
    · rfl
    · obtain rfl := described.unique describes_note
      obtain rfl := described'.unique describes_tag
      exact absurd same (by decide)
    · obtain rfl := described.unique describes_tag
      obtain rfl := described'.unique describes_note
      exact absurd same (by decide)
    · rfl

/-- A document that is known can be stored if it is small. -/
theorem storable_of_document {catalog : Catalog} {entity : Entity} {doc : Document}
    (encoded : (Catalog.answer (catalog.document entity)).toOption = some doc)
    (levels : Document.levels doc ≤ Cbor.maxLevels)
    (size : (Cbor.write doc).length < Cbor.headLimit) :
    ∀ other, Catalog.answer (catalog.document entity) = .ok other → Cbor.Storable other := by
  intro other given
  rw [given] at encoded
  obtain rfl : other = doc := Option.some.inj encoded
  exact ⟨levels, size⟩

/-- A note and a tag are saved and the tag is deleted; the notes are what the ledger says. -/
theorem refines_notebook :
    let mapper : Mapper := { catalog := { registry := notebook } }
    let state := [Change.save jotted, .save label, .delete tag.name (.text "lean")].foldl
      mapper.make ({}, fun _ _ => none)
    (∀ id, ∃ result after, (mapper.get note.name id).outcome state.1 = (.ok result, after) ∧
      Option.Rel mapper.catalog.Restores (state.2 note.name id) result) ∧
    ∃ count after, (mapper.count note.name).outcome state.1 = (.ok count, after) ∧
      {id | state.2 note.name id ≠ none}.encard = count := by
  intro mapper state
  have start : mapper.Reached {note.name, tag.name} ({}, fun _ _ => none) :=
    .start ⟨Memory.sound_empty _, rfl⟩ rfl
  have noted := @Mapper.Reached.next _ _ _ (.save jotted) start ⟨.inl rfl, wellTyped_jotted,
    @storable_of_document _ _ [("_id", .id (IdSeries.member {} 1)), ("className", .text "Note"),
      ("version", .integer 1), ("text", .text "hello")]
      (by decide +kernel) (by decide) (by decide +kernel)⟩
  have tagged := @Mapper.Reached.next _ _ _ (.save label) noted ⟨.inr rfl, wellTyped_label,
    @storable_of_document _ _ [("_id", .text "lean"), ("className", .text "Tag")]
      (by decide +kernel) (by decide) (by decide +kernel)⟩
  have reached := @Mapper.Reached.next _ _ _ (.delete tag.name (.text "lean")) tagged
    (.inr rfl)
  obtain ⟨loads, counts, -⟩ := Mapper.Shelves.refines shelves_notebook reached (.inl rfl)
  exact ⟨loads, counts⟩

end Samples

end DocMapper
