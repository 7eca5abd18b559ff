import DocMapper.Proofs.Datastore.Restoring
import DocMapper.Proofs.Store.Searchable

/-!
# The key of a save

A save takes the identity of the entity before any hook runs and gives it in its key, while the
document that it writes is put together after the hooks and is stored under the identifier that it
carries by then. `Wrote` says what was written under which key, whatever the hooks do. So the key
leads to the document exactly if the document carries the identity in the key, as it does where the
hooks before the write leave identities alone, the class name is not written over the identifier,
and no version is counted in the place of the identity.
-/

namespace DocMapper

namespace Collections

variable {collections after : Collections} {name : String} {doc : Document} {id key : Value}

/-- The search for an identifier finds the document that was just saved exactly if the document
carries it and every document of the collection can be read. -/
theorem Reached.findFirst_save_iff (reached : Reached collections)
    (narrow : Document.widest doc < Cbor.headLimit) (identified : idOf? doc = some id)
    (saved : collections.save name doc = .ok after) :
    after.findFirst name (.idEq key) = .ok (some doc) ↔
      key = id ∧ ∀ stored ∈ after.documents name, ∃ doc, stored.load = .ok doc := by
  have reached' : Reached after := by
    have served : (collections.serve (.save name doc)).2 = after := by rw [Collections.serve, saved]
    rw [← served]
    exact .serve reached narrow
  obtain ⟨own, isOwn, rfl⟩ := save_eq_ok.mp saved
  obtain rfl := Option.some.inj (identified.symm.trans isOwn)
  constructor
  · intro found
    obtain ⟨docs, searched, -⟩ := Result.bind_eq_ok.mp found
    refine ⟨?_, exists_find_iff.mp ⟨docs, searched⟩⟩
    exact Option.some.inj
      ((get?_of_findFirst found).symm.trans (idOf?_eq_some.mp identified).1)
  · rintro ⟨rfl, readable⟩
    obtain ⟨loaded, reads⟩ := Result.exists_forall₂_iff.mpr readable
    have intact := (reached'.labelled name).intact (Result.mapM_eq_ok.mpr reads)
    rw [findFirst_idEq intact]
    rw [documents_insert_self] at readable intact ⊢
    obtain ⟨other, read⟩ := readable _ (mem_put_self _ _)
    obtain rfl := eq_of_load_write narrow read
    rw [documentAt?_put ⟨load_eq_ok.mp read, identified⟩, if_pos rfl]

end Collections

namespace Mapper

variable {mapper : Mapper} {descriptor : Descriptor} {world after : World} {entity left : Entity}
  {key : Key} {doc : Document} {id : Value}

/-- The document that saving the entity at hand would write, once the entity has an identity and its
next version and the hooks before the write have run. -/
def draft (mapper : Mapper) : SaveM Document := do
  let name := (← MonadState.get).2.className
  let descriptor ← (World.onMemory (mapper.entityClass name)).onFirst
  let id ← mapper.ensureId descriptor
  let _ ← advanceVersion descriptor id
  World.onEntity mapper.toDocument

/-- A document was written under an identifier of its own. The key names the class, its collection
and the identity that the entity had before any hook ran. -/
structure Wrote (mapper : Mapper) (descriptor : Descriptor) (world : World) (entity : Entity)
    (key : Key) (after : World) (doc : Document) (id : Value) : Prop where
  described : mapper.catalog.Describes entity.className descriptor
  drafted : ∃ drafted, mapper.draft.outcome (world, entity) = (.ok doc, drafted)
  identified : Collections.idOf? doc = some id
  key_eq : key =
    ⟨descriptor.className, descriptor.collection, world.identityOf descriptor entity⟩
  stored : world.store.collections.save key.collection doc = .ok after.store.collections

/-- What a class needs so that a save leads the identity of an entity to its document: the hooks
before the write preserve it, the class name is not written over the identifier, and no other field
and no version has the place of the identity. -/
structure LeadsIdentity (mapper : Mapper) (descriptor : Descriptor) : Prop where
  prePersist : mapper.Preserves descriptor.idValue? Collections.idOf? descriptor .prePersist
  preSave : mapper.Preserves descriptor.idValue? Collections.idOf? descriptor .preSave
  apart : mapper.catalog.options.classNameKey ≠ idField
  names : (descriptor.fields.map MappedField.name).Nodup
  noId : ∀ field, descriptor.versionField? = some field → field.isId = false

/-! ### What is written -/

/-- A save that gives a key has stored the document that it drafted. -/
theorem wrote_of_save (sound : world.memory.Sound mapper.catalog)
    (ran : mapper.save.outcome (world, entity) = (.ok key, (after, left))) :
    ∃ descriptor doc id, mapper.Wrote descriptor world entity key after doc id := by
  obtain ⟨_, _, got, ran⟩ := Run.outcome_bind_eq_ok.mp ran
  cases got
  obtain ⟨descriptor, first, asks, ran⟩ := Run.outcome_bind_eq_ok.mp ran
  obtain ⟨own, second, identifies, ran⟩ := Run.outcome_bind_eq_ok.mp ran
  obtain ⟨restore, third, advances, ran⟩ := Run.outcome_bind_eq_ok.mp ran
  obtain ⟨doc, fourth, writes, ran⟩ := Run.outcome_bind_eq_ok.mp ran
  obtain ⟨_, fifth, dispatches, ran⟩ := Run.outcome_bind_eq_ok.mp ran
  cases ran
  obtain ⟨described, memory, sound, rfl⟩ :=
    (Run.ends_of_ok asks).mp (ends_entityClass sound)
  obtain ⟨isIdentity, -, -, sameStore⟩ :=
    (Run.ends_of_ok identifies).mp (ends_ensureId described sound)
  obtain ⟨⟨-, -, unchanged⟩, -⟩ := (Run.ends_of_ok advances).mp (ends_advanceVersion own)
  obtain ⟨_, drafted, converts, writes⟩ :=
    Run.outcome_bind_eq_ok.mp (Run.outcome_onError_eq_ok.mp writes)
  obtain ⟨_, _, saves, writes⟩ := Run.outcome_bind_eq_ok.mp writes
  cases writes
  have dispatched : after.store = fourth.1.store :=
    (congrArg (fun ended => ended.2.1.store) dispatches).symm
  have converted : drafted.1.store = third.1.store :=
    (congrArg (fun ended => ended.2.1.store) converts).symm
  have same : drafted.1.store.collections = world.store.collections := by
    rw [converted, unchanged, sameStore]
  have stored : drafted.1.store.collections.save descriptor.collection doc =
      .ok fourth.1.store.collections := by
    have ends : (World.onStore (Store.save descriptor.collection doc)).onFirst.Ends drafted
        (fun _ ended => drafted.1.store.collections.save descriptor.collection doc =
          .ok ended.1.store.collections) fun _ _ => True := by
      refine Run.ends_onFirst.mpr (World.ends_save ?_ ?_)
      · exact fun store saved => saved
      · exact fun _ _ _ => trivial
    exact (Run.ends_of_ok saves).mp ends
  obtain ⟨id, identified, -⟩ := Collections.save_eq_ok.mp stored
  refine ⟨descriptor, doc, id, described, ⟨drafted, ?_⟩, identified, by rw [isIdentity]; rfl, ?_⟩
  · rw [draft, Run.outcome_bind_of_ok (Run.outcome_get _), Run.outcome_bind_of_ok asks,
      Run.outcome_bind_of_ok identifies, Run.outcome_bind_of_ok advances]
    exact converts
  · rw [dispatched, ← same]
    exact stored

/-- Where the class leads identities to documents, a drafted document carries the identity under
which the entity is saved. -/
theorem ends_draft (sound : world.memory.Sound mapper.catalog)
    (described : mapper.catalog.Describes entity.className descriptor)
    (leads : mapper.LeadsIdentity descriptor) :
    mapper.draft.Ends (world, entity)
      (fun doc _ => Collections.idOf? doc = some (world.identityOf descriptor entity))
      fun _ _ => True := by
  rw [draft, Run.ends_bind, Run.ends_get]
  refine (ends_entityClass sound).bind ?_ fun _ _ _ => trivial
  rintro found _ ⟨described', memory, sound, rfl⟩
  obtain rfl := described.unique described'
  refine (ends_ensureId described sound).bind ?_ fun _ _ _ => trivial
  rintro _ ⟨named, second⟩ ⟨rfl, identified, sound, -⟩
  refine (ends_advanceVersion _).bind ?_ fun _ _ _ => trivial
  rintro _ ⟨third, counted⟩ ⟨⟨advanced, sameMemory, -⟩, -⟩
  have identity := (advanced.idValue?_eq leads.names leads.noId).trans identified.idValue?_eq
  have described : mapper.catalog.Describes counted.className descriptor := by
    rw [advanced.className_eq, identified.className_eq]
    exact described
  rw [World.ends_onEntity]
  refine (Preserves.ends_toDocument described leads.prePersist leads.preSave
    (fun left start doc identity encoded => ?_) ⟨?_, identity⟩).mono (fun _ _ ends => ends.1)
    fun _ _ _ => trivial
  · exact idOf?_encodeInto described leads.apart identity encoded
  · rw [sameMemory]
    exact sound

/-- A save that gives a key has written a document of the class of the entity, and a look-up by the
key finds it exactly if the document carries the identity that is in the key and the collection can
be read. What the hooks do decides which identity the document carries; those that leave identities
alone, in a class whose identity has a place of its own, do not part it from the key. -/
theorem save_finds_iff (sound : world.memory.Sound mapper.catalog)
    (reached : Collections.Reached world.store.collections)
    (ran : mapper.save.outcome (world, entity) = (.ok key, (after, left))) :
    ∃ descriptor doc id, mapper.Wrote descriptor world entity key after doc id ∧
      (Document.widest doc < Cbor.headLimit →
        (after.store.collections.findFirst key.collection (.idEq key.id) = .ok (some doc) ↔
          key.id = id ∧ ∀ stored ∈ after.store.collections.documents key.collection,
            ∃ doc, stored.load = .ok doc)) ∧
      (mapper.LeadsIdentity descriptor → key.id = id) := by
  obtain ⟨descriptor, doc, id, wrote⟩ := wrote_of_save sound ran
  refine ⟨descriptor, doc, id, wrote, fun narrow =>
    reached.findFirst_save_iff narrow wrote.identified wrote.stored, fun leads => ?_⟩
  obtain ⟨drafted, drafts⟩ := wrote.drafted
  have carries := (Run.ends_of_ok drafts).mp (ends_draft sound wrote.described leads)
  rw [wrote.key_eq]
  exact Option.some.inj (carries.symm.trans wrote.identified)

end Mapper

namespace Samples

def page : TypeSchema :=
  entity "Page" "pages" [marked "id" integer .id]

def pageOne : Entity :=
  (Entity.empty page.name).set "id" (.value (.integer 1))

/-- An interceptor that stamps documents before they are written. -/
def stamping : Interceptor := fun event entity doc =>
  .finish entity (if event = .preSave then doc.insert "stamped" (.bool true) else doc) none

theorem preserves_stamping (descriptor : Descriptor) (event : Event) :
    Interceptor.Preserves descriptor.idValue? Collections.idOf? event stamping := by
  refine fun entity doc => ⟨rfl, fun _ => ?_⟩
  split
  · rw [Collections.idOf?, Document.get?_insert_of_ne doc (by decide), Collections.idOf?]
  · rfl

/-- The first page is stamped on its way, and is found by the key of its save. -/
theorem save_finds_iff_stamped :
    let mapper : Mapper :=
      { catalog := { registry := .ofTypes [page] }, interceptors := [stamping] }
    let ended := mapper.save.outcome ({}, pageOne)
    ended.1.toOption = some ⟨page.name, "pages", .integer 1⟩ ∧
    ended.2.1.store.collections.findFirst "pages" (.idEq (.integer 1)) =
      .ok (some [("_id", .integer 1), ("className", .text "Page"),
        ("stamped", .bool true)]) := by
  intro mapper ended
  have gives : ended.1.toOption = some ⟨page.name, "pages", .integer 1⟩ := by decide +kernel
  obtain ⟨descriptor, doc, id, wrote, finds, leads⟩ := Mapper.save_finds_iff
    (Memory.sound_empty _) .empty (Run.outcome_eq_of_toOption gives)
  have described : mapper.catalog.Describes page.name
      (mapper.catalog.assemble page none [] []) :=
    Catalog.describes_alone rfl (by decide) rfl rfl rfl rfl rfl
  obtain rfl := wrote.described.unique described
  have preserves : ∀ event, mapper.Preserves
      (mapper.catalog.assemble page none [] []).idValue? Collections.idOf?
      (mapper.catalog.assemble page none [] []) event := by
    refine fun event => ⟨by simp [Descriptor.handlersFor, Catalog.assemble], ?_⟩
    rintro _ (_ | ⟨_, ⟨⟩⟩)
    exact preserves_stamping _ event
  have same := leads ⟨preserves _, preserves _, by decide, by decide, by decide⟩
  have drafts : (mapper.draft.outcome ({}, pageOne)).1.toOption = some [("_id", .integer 1),
      ("className", .text "Page"), ("stamped", .bool true)] := by decide +kernel
  obtain ⟨drafted, ran⟩ := wrote.drafted
  rw [ran] at drafts
  cases drafts
  have searched : ended.2.1.store.collections.find "pages" (.idIn []) = .ok [] := by
    decide +kernel
  exact ⟨gives, (finds (by decide)).mpr ⟨same, Collections.exists_find_iff.mp ⟨[], searched⟩⟩⟩

/-- A method that gives its object the number 2. -/
def renumber : Method where
  declaredBy := page.name
  name := "renumber"
  events := [.prePersist]
  arity := .zero
  isStatic := false
  body call :=
    { entity := call.entity.map (·.set "id" (.value (.integer 2)))
      result := .ok none }

/-- A save that gives the key of page 1 and writes page 2, so that nothing is found by the key. -/
theorem page_saved_elsewhere :
    let mapper : Mapper :=
      { catalog := { registry := .ofTypes [{ page with methods := [renumber] }] } }
    let ended := mapper.save.outcome ({}, pageOne)
    ended.1.toOption = some ⟨page.name, "pages", .integer 1⟩ ∧
    ended.2.1.store.collections.findFirst "pages" (.idEq (.integer 1)) = .ok none ∧
    ended.2.1.store.collections.findFirst "pages" (.idEq (.integer 2)) =
      .ok (some [("_id", .integer 2), ("className", .text "Page")]) := by
  refine ⟨?_, ?_, ?_⟩
  all_goals decide +kernel

end Samples

end DocMapper
