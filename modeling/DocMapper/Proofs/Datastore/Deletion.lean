import Mathlib.Logic.Function.Basic
import DocMapper.Proofs.Datastore.Discreet
import DocMapper.Proofs.Datastore.Locking
import DocMapper.Proofs.Store.Contents

/-!
# Copies of deleted entities

Clients load, save and delete as they like, and keep the copies that they get. What was done to the
identities of one collection is kept beside the world, and every copy knows what had been done when
it was got from there.

A version says how often its identity was saved since it was last deleted, not by which of the
deletions in between. So a copy from before a deletion is refused afterwards, unless its identity
was saved anew exactly as many times as its version says.
-/

namespace DocMapper

inductive Deed where
  | saved (id : Value)
  | deleted (id : Value)
deriving DecidableEq

/-- How often an identity was saved since it was last deleted. What was done last comes first. -/
def Deed.renewals (id : Value) : List Deed → Nat
  | [] => 0
  | .saved other :: rest => if other = id then renewals id rest + 1 else renewals id rest
  | .deleted other :: rest => if other = id then 0 else renewals id rest

/-- An entity in the hands of a client, and what had been done in the collection of the class when
it was got from there, if it was. -/
structure Copy where
  entity : Entity
  seen : Option (List Deed) := none

/-- The world that clients share, their copies, and what was done in the collection of the class. -/
structure Scene (Client : Type) where
  world : World
  copies : Client → List Copy := fun _ => []
  deeds : List Deed := []

inductive Load where
  | get (name : ClassName) (id : Value)
  | getByKey (key : Key)
  | find (name : ClassName) (filter : Filter)

/-- What happens next. -/
inductive Move (Client : Type) where
  | make (client : Client) (entity : Entity)
  /-- A client changes the copy at a place among its own. -/
  | edit (client : Client) (place : Nat) (entity : Entity)
  | load (client : Client) (load : Load)
  /-- A client saves the copy at a place among its own. -/
  | save (client : Client) (place : Nat)
  | delete (name : ClassName) (id : Value)

/-- Versions of the class are kept under the stored name of the field, apart from the identity. -/
structure Descriptor.CountsIn (descriptor : Descriptor) (field : MappedField) : Prop where
  names : (descriptor.fields.map MappedField.name).Nodup
  counts : ∃ counter, descriptor.versionField? = some counter ∧ counter.isId = false ∧
    counter.storedName = field.storedName

namespace Mapper

def collectionOf? (mapper : Mapper) (name : ClassName) : Option String :=
  (Catalog.answer (mapper.catalog.describe name)).toOption.map Descriptor.collection

/-- Does what a client calls for, and gives the entities that it loads. -/
def runLoad (mapper : Mapper) : Load → WorldM (List Entity)
  | .get name id => Option.toList <$> mapper.get name id
  | .getByKey key => Option.toList <$> mapper.getByKey key
  | .find name filter => mapper.find name filter

def sourceOf? (mapper : Mapper) : Load → Option String
  | .get name _ => mapper.collectionOf? name
  | .getByKey key => some key.collection
  | .find name _ => mapper.collectionOf? name

section

variable {Client : Type} [DecidableEq Client]

/-- One move. A copy that is got from the collection of the class, or saved there, has seen what was
done there so far. A change of a copy leaves it what it was as long as class, identity and version
stay. -/
def play (mapper : Mapper) (descriptor : Descriptor) (field : MappedField) (scene : Scene Client) :
    Move Client → Scene Client
  | .make client entity =>
    { scene with
      copies := Function.update scene.copies client (scene.copies client ++ [{ entity }]) }
  | .edit client place entity =>
    match (scene.copies client)[place]? with
    | none => scene
    | some copy =>
      let same := entity.className = copy.entity.className ∧
        descriptor.marks field entity = descriptor.marks field copy.entity
      { scene with
        copies := Function.update scene.copies client ((scene.copies client).set place
          { entity, seen := if same then copy.seen else none }) }
  | .load client load =>
    let (result, world) := (mapper.runLoad load).outcome scene.world
    let seen :=
      if mapper.sourceOf? load = some descriptor.collection then some scene.deeds else none
    { scene with
      world
      copies := Function.update scene.copies client
        (scene.copies client ++ (result.toOption.getD []).map ({ entity := ·, seen })) }
  | .save client place =>
    match (scene.copies client)[place]? with
    | none => scene
    | some copy =>
      let (result, world, left) := mapper.save.outcome (scene.world, copy.entity)
      let (deeds, seen) := match result with
        | .ok key =>
          if key.collection = descriptor.collection then
            (.saved key.id :: scene.deeds, some (.saved key.id :: scene.deeds))
          else (scene.deeds, none)
        | .error _ => (scene.deeds, copy.seen)
      { world
        copies := Function.update scene.copies client
          ((scene.copies client).set place { entity := left, seen })
        deeds }
  | .delete name id =>
    let (result, world) := (mapper.delete name id).outcome scene.world
    { scene with
      world
      deeds :=
        if result.toOption.isSome ∧ mapper.collectionOf? name = some descriptor.collection then
          .deleted id :: scene.deeds
        else scene.deeds }

/-- What is saved into the collection of the class keeps its version where the class does, and has
no length that eight bytes cannot tell. -/
def Allows (mapper : Mapper) (descriptor : Descriptor) (field : MappedField)
    (scene : Scene Client) : Move Client → Prop
  | .save client place => ∀ copy, (scene.copies client)[place]? = some copy →
    ∀ other, mapper.catalog.Describes copy.entity.className other →
      other.collection = descriptor.collection → other.CountsIn field ∧
        ∀ doc, Catalog.answer (mapper.catalog.document
            (mapper.save.outcome (scene.world, copy.entity)).2.2) = .ok doc →
          Document.widest doc < Cbor.headLimit
  | _ => True

/-- What allowed moves lead to. In the beginning nobody has a copy, and every document in the
collection of the class that can be read has a version and is stored under its own identifier. -/
inductive Plays (mapper : Mapper) (descriptor : Descriptor) (field : MappedField)
    (allowed : Scene Client → Move Client → Prop) : Scene Client → Prop
  | start {world : World} (ready : world.Ready mapper.catalog)
      (labelled : Collections.Labelled
        (world.store.collections.documents descriptor.collection))
      (versioned : ∀ stored ∈ world.store.collections.documents descriptor.collection,
        ∀ doc, stored.load = .ok doc → (storedVersion field doc).isSome = true) :
      Plays mapper descriptor field allowed { world }
  | next {scene : Scene Client} (move : Move Client)
      (plays : Plays mapper descriptor field allowed scene) (may : allowed scene move) :
      Plays mapper descriptor field allowed (mapper.play descriptor field scene move)

end

end Mapper

/-- A client holds a copy of the class that was got before its identity was deleted. What was done
since then is given. -/
structure Scene.Holds {Client : Type} (scene : Scene Client) (descriptor : Descriptor)
    (copy : Copy) (id : Value) (later : List Deed) : Prop where
  held : ∃ client, copy ∈ scene.copies client
  isClass : copy.entity.className = descriptor.className
  identity : descriptor.idValue? copy.entity = some id
  seen : ∃ past, copy.seen = some past ∧ scene.deeds = later ++ past
  gone : .deleted id ∈ later

/-! ### Counting -/

namespace Deed

variable {id other : Value} {deeds later past : List Deed}

@[simp] theorem renewals_saved_self : renewals id (.saved id :: deeds) = renewals id deeds + 1 := by
  rw [renewals, if_pos rfl]

theorem renewals_saved_of_ne (apart : other ≠ id) :
    renewals id (.saved other :: deeds) = renewals id deeds := by
  rw [renewals, if_neg apart]

@[simp] theorem renewals_deleted_self : renewals id (.deleted id :: deeds) = 0 := by
  rw [renewals, if_pos rfl]

theorem renewals_deleted_of_ne (apart : other ≠ id) :
    renewals id (.deleted other :: deeds) = renewals id deeds := by
  rw [renewals, if_neg apart]

theorem renewals_append (gone : .deleted id ∈ later) :
    renewals id (later ++ past) = renewals id later := by
  induction later with
  | nil => simp at gone
  | cons deed rest ih =>
    rw [List.cons_append]
    cases deed with
    | saved other =>
      have gone' : .deleted id ∈ rest := by simpa using gone
      rw [renewals, renewals, ih gone']
    | deleted other =>
      rw [renewals, renewals]
      split
      next => rfl
      next apart =>
        have gone' : .deleted id ∈ rest := by simpa [Ne.symm apart] using gone
        exact ih gone'

end Deed

/-- The versions in a collection tell how often identities were saved since they were deleted. -/
structure Collections.Counted (field : MappedField) (docs : List StoredDocument)
    (deeds : List Deed) : Prop where
  labelled : Labelled docs
  versioned : ∀ stored ∈ docs, ∀ doc, stored.load = .ok doc →
    (Mapper.storedVersion field doc).isSome = true
  counted : ∀ stored ∈ docs, .deleted stored.id ∈ deeds →
    0 < Deed.renewals stored.id deeds ∧ ∀ doc, stored.load = .ok doc →
      Mapper.storedVersion field doc = some (Int64.ofNat (Deed.renewals stored.id deeds))
  absent : ∀ id, id ∉ docs.map StoredDocument.id → .deleted id ∈ deeds →
    Deed.renewals id deeds = 0

namespace Collections.Counted

variable {field : MappedField} {docs : List StoredDocument} {deeds : List Deed} {doc : Document}
  {id : Value} {carried : Option Int64}

/-- What an identity has after its deletion is counted up as the saves are. -/
theorem next_eq (counted : Counted field docs deeds) (intact : Intact docs)
    (gone : .deleted id ∈ deeds)
    (current : (documentAt? docs id).bind (Mapper.storedVersion field) = carried) :
    carried.getD 0 + 1 = Int64.ofNat (Deed.renewals id deeds + 1) := by
  rw [Int64.ofNat_add]
  cases found : documentAt? docs id with
  | none =>
    rw [found] at current
    obtain rfl : carried = none := current.symm
    rw [counted.absent id ((documentAt?_eq_none_iff intact).mp found) gone]
    rfl
  | some doc =>
    obtain ⟨stored, member, rfl, holds⟩ := exists_of_documentAt? intact found
    have version := (counted.counted stored member gone).2 doc (load_eq_ok.mpr holds.reads)
    rw [found, Option.bind_some, version] at current
    obtain rfl := current.symm
    rfl

theorem put (counted : Counted field docs deeds) (intact : Intact docs)
    (narrow : Document.widest doc < Cbor.headLimit) (identity : idOf? doc = some id)
    (current : (documentAt? docs id).bind (Mapper.storedVersion field) = carried)
    (next : Mapper.storedVersion field doc = some (carried.getD 0 + 1)) :
    Counted field (Collections.put ⟨id, Cbor.write doc⟩ docs) (.saved id :: deeds) := by
  have labelled := counted.labelled.put (holds_write_of_load narrow identity)
  -- Under the identity there is the new document, and what it reads as is what was written.
  have here : ∀ stored ∈ Collections.put ⟨id, Cbor.write doc⟩ docs, stored.id = id →
      ∀ other, stored.load = .ok other → other = doc := by
    intro stored member same other reads
    obtain rfl := List.inj_on_of_nodup_map labelled.apart member (mem_put_self _ docs) same
    exact eq_of_load_write narrow reads
  have elsewhere : ∀ stored ∈ Collections.put ⟨id, Cbor.write doc⟩ docs, stored.id ≠ id →
      stored ∈ docs := by
    intro stored member apart
    rcases mem_put member with rfl | member
    · exact absurd rfl apart
    · exact member
  refine ⟨labelled, ?_, ?_, ?_⟩
  · intro stored member other reads
    by_cases same : stored.id = id
    · rw [here stored member same other reads, next]
      rfl
    · exact counted.versioned stored (elsewhere stored member same) other reads
  · intro stored member gone
    have gone' : .deleted stored.id ∈ deeds := by simpa using gone
    by_cases same : stored.id = id
    · rw [same] at gone' ⊢
      rw [Deed.renewals_saved_self]
      refine ⟨Nat.succ_pos _, fun other reads => ?_⟩
      rw [here stored member same other reads, next, counted.next_eq intact gone' current]
    · rw [Deed.renewals_saved_of_ne (Ne.symm same)]
      exact counted.counted stored (elsewhere stored member same) gone'
  · intro other missing gone
    have gone' : .deleted other ∈ deeds := by simpa using gone
    rw [mem_ids_put, not_or] at missing
    rw [Deed.renewals_saved_of_ne (Ne.symm missing.1)]
    exact counted.absent other missing.2 gone'

theorem delete (counted : Counted field docs deeds) (id : Value) :
    Counted field (docs.filter (·.id != id)) (.deleted id :: deeds) := by
  have kept : ∀ stored ∈ docs.filter (·.id != id), stored ∈ docs ∧ stored.id ≠ id := by
    simp
  refine ⟨counted.labelled.delete id, fun stored member => ?_, fun stored member gone => ?_,
    fun other missing gone => ?_⟩
  · exact counted.versioned stored (kept stored member).1
  · obtain ⟨member, apart⟩ := kept stored member
    rw [Deed.renewals_deleted_of_ne (Ne.symm apart)]
    exact counted.counted stored member (by simpa [apart] using gone)
  · by_cases same : other = id
    · rw [same, Deed.renewals_deleted_self]
    · rw [Deed.renewals_deleted_of_ne (Ne.symm same)]
      refine counted.absent other (fun member => missing ?_) (by simpa [same] using gone)
      obtain ⟨stored, inDocs, rfl⟩ := List.mem_map.mp member
      exact List.mem_map_of_mem (List.mem_filter.mpr ⟨inDocs, by simpa using same⟩)

end Collections.Counted

namespace Mapper

variable {mapper : Mapper} {descriptor : Descriptor} {field : MappedField} {world after : World}
  {name requested : ClassName} {doc : Document} {entity : Entity}

/-! ### What calls do -/

theorem collectionOf?_eq_some {collection : String} :
    mapper.collectionOf? name = some collection ↔
      ∃ home, mapper.catalog.Describes name home ∧ home.collection = collection := by
  rw [collectionOf?, Option.map_eq_some_iff]
  simp only [← Catalog.answer_describe_eq_ok]
  cases Catalog.answer (mapper.catalog.describe name) <;> simp [Except.toOption]

theorem Loaded.carriedVersion_eq (guards : mapper.Guards descriptor field)
    (loaded : mapper.Loaded requested doc entity)
    (isClass : entity.className = descriptor.className) :
    carriedVersion field entity = storedVersion field doc := by
  obtain ⟨other, readAs, sameClass⟩ := loaded.readAs
  obtain ⟨_, described⟩ := readAs.describes
  obtain rfl : descriptor = other := by
    have named := described.className_eq guards.plain.named
    rw [← named, ← sameClass, isClass] at described
    exact guards.described.unique described
  obtain ⟨member, marked⟩ := Descriptor.versionField?_spec guards.isVersion
  have noReference := guards.described.isReference_of_isVersion member marked
  have type := guards.described.type_of_isVersion member marked
  obtain ⟨decoded, shows, -, -, others⟩ := loaded.exists_decoded readAs guards.names
  have lazy : ∀ other ∈ descriptor.fields, other.name = field.name → isEager other = false := by
    intro other inClass same
    rw [List.inj_on_of_nodup_map guards.names inClass member same]
    by_contra eager
    simp [isReference_of_isEager (by simpa using eager)] at noReference
  have shown := shows.field field member
  rw [carriedVersion, storedVersion, Entity.value?, others field.name lazy]
  generalize Document.get? doc field.storedName = stored at shown
  generalize decoded.get? field.name = held at shown
  cases shown with
  | none => rfl
  | some means =>
    cases means with
    | null => rfl
    | links isReference => simp [noReference] at isReference
    | plain => rfl
    | object _ isObject => simp [type] at isObject
    | objects _ _ isObject =>
      simp [MappedField.target?, FieldType.className?, FieldType.element, type] at isObject

namespace Plain

theorem looks_runLoad (plain : mapper.Plain) (load : Load) :
    Looks mapper.catalog id (mapper.runLoad load) fun _ => True := by
  cases load with
  | get name identity => exact (plain.looks_get name identity).map fun _ _ => trivial
  | getByKey key =>
    exact (plain.looks_loadAt key.className key.collection key.id).map fun _ _ => trivial
  | find name filter => exact plain.looks_find name filter

/-- What is loaded was stored in the collection that it is loaded from. -/
theorem loaded_of_runLoad (plain : mapper.Plain) (ready : world.Ready mapper.catalog) {load : Load}
    {entities : List Entity} (ran : (mapper.runLoad load).outcome world = (.ok entities, after))
    (member : entity ∈ entities) :
    ∃ requested doc collection, mapper.sourceOf? load = some collection ∧
      (∃ stored ∈ world.store.collections.documents collection, stored.load = .ok doc) ∧
        mapper.Loaded requested doc entity := by
  cases load with
  | get name identity =>
    rw [runLoad, Run.outcome_map] at ran
    obtain ⟨result, rfl⟩ := Prod.mk.inj ran
    obtain ⟨found, isFound, rfl⟩ := Result.map_eq_ok.mp result
    obtain rfl := Option.mem_toList.mp member
    obtain ⟨home, doc, described, found, loaded⟩ :=
      plain.loaded_of_get ready (Prod.ext isFound rfl)
    exact ⟨name, doc, home.collection, collectionOf?_eq_some.mpr ⟨home, described, rfl⟩,
      Collections.exists_of_findFirst found, loaded⟩
  | getByKey key =>
    rw [runLoad, Run.outcome_map] at ran
    obtain ⟨result, rfl⟩ := Prod.mk.inj ran
    obtain ⟨found, isFound, rfl⟩ := Result.map_eq_ok.mp result
    obtain rfl := Option.mem_toList.mp member
    obtain ⟨doc, found, loaded⟩ := plain.loaded_of_loadAt ready (Prod.ext isFound rfl)
    exact ⟨key.className, doc, key.collection, rfl, Collections.exists_of_findFirst found, loaded⟩
  | find name filter =>
    obtain ⟨home, docs, described, found, each⟩ := plain.loaded_of_find ready ran
    obtain ⟨doc, inDocs, loaded⟩ := each entity member
    exact ⟨name, doc, home.collection, collectionOf?_eq_some.mpr ⟨home, described, rfl⟩,
      Collections.exists_of_find found inDocs, loaded⟩

end Plain

/-- A save into a collection that counts is counted there. -/
theorem Saved.counted {home : Descriptor} {left : Entity} {key : Key} {deeds : List Deed}
    (saved : mapper.Saved world entity key after left)
    (described : mapper.catalog.Describes entity.className home)
    (apart : mapper.catalog.options.classNameKey ≠ idField) (counts : home.CountsIn field)
    (narrow : ∀ doc, Catalog.answer (mapper.catalog.document left) = .ok doc →
      Document.widest doc < Cbor.headLimit)
    (counted : Collections.Counted field (world.store.collections.documents home.collection)
      deeds) :
    Collections.Counted field (after.store.collections.documents home.collection)
      (.saved key.id :: deeds) := by
  obtain ⟨names, counter, isVersion, noId, sameName⟩ := counts
  obtain ⟨sameClass, doc, stored, encoded, identity, isStored, same⟩ := saved.wrote described apart
  have follows := saved.follows described names fun other isVersion' => by
    rwa [Option.some.inj (isVersion'.symm.trans isVersion)]
  obtain rfl : key.id = stored := Option.some.inj (follows.identity.symm.trans isStored)
  obtain ⟨found, searched, current⟩ := saved.current described names isVersion
  have version := storedVersion_document (sameClass.symm ▸ described) isVersion noId
    (follows.version counter isVersion) encoded
  obtain ⟨docs, reads, -⟩ := Result.bind_eq_ok.mp searched
  obtain ⟨loaded, reads, -⟩ := Result.bind_eq_ok.mp reads
  have intact := counted.labelled.intact reads
  rw [Collections.findFirst_idEq intact] at searched
  obtain rfl := Except.ok.inj searched
  have alike : storedVersion counter = storedVersion field := by
    funext doc
    rw [storedVersion, storedVersion, sameName]
  rw [alike] at current version
  rw [same, Collections.documents_insert_self]
  exact counted.put intact (narrow doc encoded) identity current version

theorem outcome_delete_cases (ready : world.Ready mapper.catalog) (name : ClassName) (id : Value) :
    (∃ home, mapper.catalog.Describes name home ∧ ∃ existed after, after.Ready mapper.catalog ∧
      after.store.collections = (world.store.collections.delete home.collection id).2 ∧
        (mapper.delete name id).outcome world = (.ok existed, after)) ∨
    ∃ error after, world.Keeps mapper.catalog after ∧
      (mapper.delete name id).outcome world = (.error error, after) := by
  cases isClass : Catalog.answer (mapper.entityClass name) with
  | ok home =>
    obtain ⟨described, isEntity⟩ := answer_entityClass_eq_ok.mp isClass
    obtain ⟨after, ready', same, ran⟩ := outcome_delete ready described isEntity id
    exact .inl ⟨home, described, _, after, ready', same, ran⟩
  | error error =>
    obtain ⟨after, keeps, asked⟩ := World.outcome_onMemory (steady_entityClass mapper name) ready
    rw [isClass] at asked
    exact .inr ⟨error, after, keeps, by rw [delete, Run.outcome_bind_of_error asked]⟩

/-! ### Moves -/

section

variable {Client : Type} [DecidableEq Client] {scene : Scene Client}

/-- A copy of the class that was got from its collection carries a version. -/
def Carries (descriptor : Descriptor) (field : MappedField) (copy : Copy) : Prop :=
  copy.seen.isSome = true → copy.entity.className = descriptor.className →
    (carriedVersion field copy.entity).isSome = true

/-- The versions in the collection count, and so do those of the copies. -/
structure Tracked (mapper : Mapper) (descriptor : Descriptor) (field : MappedField)
    (scene : Scene Client) : Prop where
  ready : scene.world.Ready mapper.catalog
  counted : Collections.Counted field
    (scene.world.store.collections.documents descriptor.collection) scene.deeds
  carries : ∀ client, ∀ copy ∈ scene.copies client, Carries descriptor field copy

namespace Tracked

/-- What holds of everybody's copies holds after one client has got others of which it holds. -/
theorem forall_update {copies : Client → List Copy} {said : Copy → Prop}
    (each : ∀ client, ∀ copy ∈ copies client, said copy) {client : Client} {own : List Copy}
    (others : ∀ copy ∈ own, said copy) :
    ∀ other, ∀ copy ∈ Function.update copies client own other, said copy := by
  intro other copy member
  by_cases same : other = client
  · subst same
    rw [Function.update_self] at member
    exact others copy member
  · rw [Function.update_of_ne same] at member
    exact each other copy member

theorem forall_set {copies : Client → List Copy} {said : Copy → Prop}
    (each : ∀ client, ∀ copy ∈ copies client, said copy) {client : Client} {place : Nat}
    {next : Copy} (holds : said next) :
    ∀ other, ∀ copy ∈ Function.update copies client ((copies client).set place next) other,
      said copy := by
  refine forall_update each fun found member => ?_
  rcases List.mem_or_eq_of_mem_set member with member | rfl
  · exact each client found member
  · exact holds

variable (tracked : mapper.Tracked descriptor field scene)

include tracked

theorem load (guards : mapper.Guards descriptor field) (client : Client) (load : Load) :
    mapper.Tracked descriptor field (mapper.play descriptor field scene (.load client load)) := by
  rcases ran : (mapper.runLoad load).outcome scene.world with ⟨result, world⟩
  have keeps := (guards.plain.looks_runLoad load scene.world tracked.ready).1
  simp only [id, ran] at keeps
  simp only [play, ran]
  refine ⟨keeps.ready, by rw [keeps.collections]; exact tracked.counted,
    forall_update tracked.carries fun copy member => ?_⟩
  rcases List.mem_append.mp member with member | member
  · exact tracked.carries client copy member
  · obtain ⟨entity, among, rfl⟩ := List.mem_map.mp member
    intro seen isClass
    cases result with
    | error error => simp [Except.toOption] at among
    | ok entities =>
      obtain ⟨requested, doc, collection, isSource, ⟨stored, inStore, reads⟩, loaded⟩ :=
        guards.plain.loaded_of_runLoad tracked.ready ran among
      have here : mapper.sourceOf? load = some descriptor.collection := by
        by_contra elsewhere
        simp [elsewhere] at seen
      obtain rfl := Option.some.inj (isSource.symm.trans here)
      rw [loaded.carriedVersion_eq guards isClass]
      exact tracked.counted.versioned stored inStore doc reads

theorem delete (name : ClassName) (id : Value) :
    mapper.Tracked descriptor field (mapper.play descriptor field scene (.delete name id)) := by
  rcases outcome_delete_cases tracked.ready name id with
    ⟨home, described, existed, after, ready, same, ran⟩ | ⟨error, after, keeps, ran⟩
  · simp only [play, ran, Except.toOption, Option.isSome_some, true_and]
    refine ⟨ready, ?_, tracked.carries⟩
    split
    next here =>
      obtain ⟨home', described', here⟩ := collectionOf?_eq_some.mp here
      obtain rfl := described.unique described'
      rw [same, here, Collections.documents_delete_self]
      exact tracked.counted.delete id
    next elsewhere =>
      have apart : descriptor.collection ≠ home.collection := fun here =>
        elsewhere (collectionOf?_eq_some.mpr ⟨home, described, here.symm⟩)
      rw [same, Collections.documents_delete_of_ne apart]
      exact tracked.counted
  · simp only [play, ran, Except.toOption, Option.isSome_none, Bool.false_eq_true, false_and,
      if_false]
    exact ⟨keeps.ready, by rw [keeps.collections]; exact tracked.counted, tracked.carries⟩

theorem save (guards : mapper.Guards descriptor field) {client : Client} {place : Nat}
    (may : mapper.Allows descriptor field scene (.save client place)) :
    mapper.Tracked descriptor field (mapper.play descriptor field scene (.save client place)) := by
  cases held : (scene.copies client)[place]? with
  | none => simpa only [play, held] using tracked
  | some copy =>
    rcases ran : mapper.save.outcome (scene.world, copy.entity) with ⟨result, world, left⟩
    simp only [play, held, ran]
    rcases guards.plain.outcome_save tracked.ready ran with
      ⟨key, rfl, saved⟩ | ⟨error, rfl, keeps, unsaved⟩
    · have written := saved
      cases saved with
      | @intro home id named _ doc _ described isEntity identified advanced encoded stored ready =>
        obtain ⟨_, -, same⟩ := Collections.save_eq_ok.mp stored
        by_cases here : home.collection = descriptor.collection
        · obtain ⟨counts, narrow⟩ := may copy held home described here
          rw [ran] at narrow
          simp only [here, if_true]
          refine ⟨ready, ?_, forall_set tracked.carries fun _ isClass => ?_⟩
          · rw [← here]
            exact written.counted described guards.apart counts narrow (here ▸ tracked.counted)
          · have isCopy := advanced.className_eq.trans identified.className_eq
            obtain rfl := guards.described.unique ((isCopy.symm.trans isClass) ▸ described)
            obtain ⟨names, counter, isVersion, noId, -⟩ := counts
            obtain rfl := Option.some.inj (guards.isVersion.symm.trans isVersion)
            have follows := written.follows described names fun other isVersion' => by
              rwa [Option.some.inj (isVersion'.symm.trans isVersion)]
            rw [carriedVersion_eq_some.mpr (follows.version field isVersion)]
            rfl
        · simp only [here, if_false]
          refine ⟨ready, ?_, forall_set tracked.carries fun seen => by cases seen⟩
          rw [same, Collections.documents_insert_of_ne (Ne.symm here)]
          exact tracked.counted
    · refine ⟨keeps.ready, by rw [keeps.collections]; exact tracked.counted,
        forall_set tracked.carries fun seen isClass => ?_⟩
      have sameClass : left.className = copy.entity.className := unsaved.className_eq
      have described : mapper.catalog.Describes copy.entity.className descriptor :=
        (sameClass.symm.trans isClass) ▸ guards.described
      rw [unsaved.carriedVersion_eq described guards.names guards.isVersion]
      exact tracked.carries client copy (List.mem_of_getElem? held) seen
        (sameClass.symm.trans isClass)

/-- Every move keeps the count. -/
theorem play (guards : mapper.Guards descriptor field) (move : Move Client)
    (may : mapper.Allows descriptor field scene move) :
    mapper.Tracked descriptor field (mapper.play descriptor field scene move) := by
  cases move with
  | make client entity =>
    refine ⟨tracked.ready, tracked.counted, forall_update tracked.carries fun copy member => ?_⟩
    rcases List.mem_append.mp member with member | member
    · exact tracked.carries client copy member
    · obtain rfl := List.mem_singleton.mp member
      exact nofun
  | edit client place entity =>
    cases held : (scene.copies client)[place]? with
    | none => simpa only [Mapper.play, held] using tracked
    | some copy =>
      simp only [Mapper.play, held]
      refine ⟨tracked.ready, tracked.counted, forall_set tracked.carries fun seen isClass => ?_⟩
      split at seen
      next same =>
        obtain ⟨sameClass, sameMarks⟩ := same
        rw [show carriedVersion field entity = carriedVersion field copy.entity from
          congrArg Prod.snd sameMarks]
        exact tracked.carries client copy (List.mem_of_getElem? held) seen
          (sameClass.symm.trans isClass)
      next => cases seen
  | load client load => exact tracked.load guards client load
  | save client place => exact tracked.save guards may
  | delete name id => exact tracked.delete name id

end Tracked

/-- Every run keeps the count. -/
theorem Plays.tracked (guards : mapper.Guards descriptor field)
    (plays : mapper.Plays descriptor field (mapper.Allows descriptor field) scene) :
    mapper.Tracked descriptor field scene := by
  induction plays with
  | start ready labelled versioned =>
    exact ⟨ready, ⟨labelled, versioned, nofun, nofun⟩, nofun⟩
  | @next scene move _ may ih => exact ih.play guards move may

/-- A copy from before the deletion of its identity can only be saved afterwards if the identity was
saved anew since its last deletion, exactly as many times as the version of the copy says. Otherwise
the save fails and changes neither a document nor the copy; where the collection can be searched,
the version is refused. -/
theorem Guards.refuses_deleted (guards : mapper.Guards descriptor field)
    (plays : mapper.Plays descriptor field (mapper.Allows descriptor field) scene) {copy : Copy}
    {id : Value} {later : List Deed} (holds : scene.Holds descriptor copy id later) :
    ∃ version, carriedVersion field copy.entity = some version ∧
      (¬ (0 < Deed.renewals id later ∧ version = Int64.ofNat (Deed.renewals id later)) →
        ∃ error after, after.store.collections = scene.world.store.collections ∧
          mapper.save.outcome (scene.world, copy.entity) = (.error error, (after, copy.entity)) ∧
            ∀ found, scene.world.store.collections.findFirst descriptor.collection (.idEq id) =
              .ok found → error = .concurrentModification descriptor.className id
                ((found.bind (storedVersion field)).getD 0) version) := by
  obtain ⟨⟨client, held⟩, isClass, set, ⟨past, seen, since⟩, gone⟩ := holds
  have tracked := plays.tracked guards
  obtain ⟨version, carried⟩ := Option.isSome_iff_exists.mp
    (tracked.carries client copy held (by rw [seen]; rfl) isClass)
  refine ⟨version, carried, fun differs => ?_⟩
  have described : mapper.catalog.Describes copy.entity.className descriptor :=
    isClass ▸ guards.described
  cases searched : scene.world.store.collections.findFirst descriptor.collection (.idEq id) with
  | error error =>
    obtain ⟨after, keeps, ran⟩ := outcome_save_of_unsearchable tracked.ready described
      guards.isEntity set guards.isVersion searched
    exact ⟨_, after, keeps.collections, ran, nofun⟩
  | ok found =>
    have stale : found.bind (storedVersion field) ≠ carriedVersion field copy.entity := by
      rw [carried]
      intro current
      obtain ⟨doc, rfl, stored⟩ := Option.bind_eq_some_iff.mp current
      obtain ⟨docs, reads, -⟩ := Result.bind_eq_ok.mp searched
      obtain ⟨loaded, reads, -⟩ := Result.bind_eq_ok.mp reads
      have intact := tracked.counted.labelled.intact reads
      rw [Collections.findFirst_idEq intact] at searched
      obtain ⟨row, inStore, rfl, holds⟩ :=
        Collections.exists_of_documentAt? intact (Except.ok.inj searched)
      have gone' : .deleted row.id ∈ scene.deeds := since ▸ List.mem_append_left past gone
      obtain ⟨renewed, counted⟩ := tracked.counted.counted row inStore gone'
      have counts := counted doc (Collections.load_eq_ok.mpr holds.reads)
      rw [since, Deed.renewals_append gone] at renewed counts
      exact differs ⟨renewed, Option.some.inj (stored.symm.trans counts)⟩
    obtain ⟨after, keeps, ran⟩ := guards.plain.outcome_save_of_stale tracked.ready described
      guards.isEntity set guards.isVersion searched stale
    refine ⟨_, after, keeps.collections, ran, ?_⟩
    rintro _ ⟨⟩
    rw [carried, isClass]
    rfl

theorem Plays.run {allowed : Scene Client → Move Client → Prop}
    (plays : mapper.Plays descriptor field allowed scene)
    (may : ∀ scene move, allowed scene move) (moves : List (Move Client)) :
    mapper.Plays descriptor field allowed (moves.foldl (mapper.play descriptor field) scene) := by
  induction moves generalizing scene with
  | nil => exact plays
  | cons move rest ih => exact ih (.next move plays (may scene move))

end

/-- The mapper has no hooks, and the class is an entity class with a version and distinct names. -/
structure Versions (mapper : Mapper) (descriptor : Descriptor) (field : MappedField) : Prop where
  plain : mapper.Plain
  described : mapper.catalog.Describes descriptor.className descriptor
  isEntity : descriptor.isEntity = true
  isVersion : descriptor.versionField? = some field
  names : (descriptor.fields.map MappedField.name).Nodup

/-- Two clients come to a copy from before the deletion of its identity that can be saved all the
same. It is given how often the identity was saved anew, and the version of the copy. -/
def Outlives (mapper : Mapper) (descriptor : Descriptor) (field : MappedField)
    (allowed : Scene Bool → Move Bool → Prop) (renewals : Nat) (version : Option Int64) : Prop :=
  mapper.Versions descriptor field ∧ ∃ scene copy id later,
    mapper.Plays descriptor field allowed scene ∧ scene.Holds descriptor copy id later ∧
      Deed.renewals id later = renewals ∧ carriedVersion field copy.entity = version ∧
        ∃ key, (mapper.save.outcome (scene.world, copy.entity)).1 = .ok key

theorem Outlives.of_any {scene : Scene Bool} {allowed : Scene Bool → Move Bool → Prop}
    (versions : mapper.Versions descriptor field)
    (plays : mapper.Plays descriptor field allowed scene) {client : Bool} {place : Nat} {id : Value}
    {past later : List Deed} {version : Option Int64}
    (found : (scene.copies client)[place]?.any (fun copy =>
      copy.entity.className = descriptor.className ∧
        descriptor.marks field copy.entity = (some id, version) ∧ copy.seen = some past ∧
          (mapper.save.outcome (scene.world, copy.entity)).1.toOption.isSome) = true)
    (since : scene.deeds = later ++ past) (gone : .deleted id ∈ later) :
    mapper.Outlives descriptor field allowed (Deed.renewals id later) version := by
  obtain ⟨copy, held, facts⟩ := (Option.any_eq_true _ _).mp found
  obtain ⟨isClass, marks, seen, saves⟩ := of_decide_eq_true facts
  obtain ⟨set, carried⟩ := Prod.mk.inj marks
  obtain ⟨key, saves⟩ := Option.isSome_iff_exists.mp saves
  exact ⟨versions, scene, copy, id, later, plays,
    ⟨⟨client, List.mem_of_getElem? held⟩, isClass, set, ⟨past, seen, since⟩, gone⟩, rfl, carried,
    key, Result.eq_ok_of_toOption saves⟩

end Mapper

namespace Samples

def noteMapper : Mapper := { catalog := { registry := notebook } }

def noteClass : Descriptor := noteMapper.catalog.assemble note none [] []

def seventh : Value := .id (IdSeries.member {} 7)

def firstRow : Document :=
  [("_id", seventh), ("className", .text "Note"), ("version", .integer 1), ("text", .text "hello")]

/-- A client saves a note, and the note is deleted. -/
def noteDeleted : Scene Bool :=
  [Move.make true numbered, .save true 0, .delete note.name seventh].foldl
    (noteMapper.play noteClass noteVersion) { world := {} }

def noteRenewed : Scene Bool :=
  [Move.make false numbered, .save false 0].foldl (noteMapper.play noteClass noteVersion)
    noteDeleted

/-- Notes keep their versions where notes do, and a note that is stored for the first time is
small. -/
theorem allows_note {scene : Scene Bool} {client : Bool} {place : Nat}
    (saved : ((scene.copies client)[place]?.bind fun copy =>
      if copy.entity.className = note.name then
        (Catalog.answer (noteMapper.catalog.document
          (noteMapper.save.outcome (scene.world, copy.entity)).2.2)).toOption
      else none) = some firstRow) :
    noteMapper.Allows noteClass noteVersion scene (.save client place) := by
  intro copy held other described _
  rw [held, Option.bind_some] at saved
  split at saved
  next isNote =>
    rw [isNote] at described
    obtain rfl := described.unique describes_note
    refine ⟨⟨by decide, noteVersion, by decide, by decide, rfl⟩, fun left encoded => ?_⟩
    rw [encoded] at saved
    obtain rfl : left = firstRow := Option.some.inj saved
    decide +kernel
  next => cases saved

theorem plays_deleted :
    noteMapper.Plays noteClass noteVersion (noteMapper.Allows noteClass noteVersion) noteDeleted :=
  .next (.delete note.name seventh)
    (.next (.save true 0)
      (.next (.make true numbered)
        (.start ⟨Memory.sound_empty _, rfl⟩ ⟨List.nodup_nil, nofun⟩ nofun) trivial)
      (allows_note (by decide +kernel))) trivial

theorem plays_renewed :
    noteMapper.Plays noteClass noteVersion (noteMapper.Allows noteClass noteVersion) noteRenewed :=
  .next (.save false 0)
    (.next (.make false numbered) plays_deleted trivial) (allows_note (by decide +kernel))

/-- A note is saved and deleted. The copy that was saved is refused as a copy of nothing. -/
theorem refuses_deleted_note :
    ∃ copy, noteDeleted.Holds noteClass copy seventh [.deleted seventh] ∧
      ∃ after, after.store.collections = noteDeleted.world.store.collections ∧
        noteMapper.save.outcome (noteDeleted.world, copy.entity) =
          (.error (.concurrentModification note.name seventh 0 1), (after, copy.entity)) := by
  have found : (noteDeleted.copies true)[0]?.any (fun copy =>
      copy.entity.className = noteClass.className ∧
        noteClass.marks noteVersion copy.entity = (some seventh, some 1) ∧
          copy.seen = some [.saved seventh]) = true := by decide +kernel
  obtain ⟨copy, held, facts⟩ := (Option.any_eq_true _ _).mp found
  obtain ⟨isClass, marks, seen⟩ := of_decide_eq_true facts
  obtain ⟨set, carried⟩ := Prod.mk.inj marks
  have holds : noteDeleted.Holds noteClass copy seventh [.deleted seventh] :=
    ⟨⟨true, List.mem_of_getElem? held⟩, isClass, set, ⟨_, seen, by decide +kernel⟩,
      List.mem_singleton_self _⟩
  obtain ⟨version, carried', refused⟩ :=
    Mapper.Guards.refuses_deleted guards_note plays_deleted holds
  obtain rfl : 1 = version := Option.some.inj (carried.symm.trans carried')
  obtain ⟨error, after, same, ran, isRefusal⟩ := refused (by decide +kernel)
  have nothing : noteDeleted.world.store.collections.findFirst noteClass.collection
      (.idEq seventh) = .ok none := Result.eq_ok_of_toOption (by decide +kernel)
  rw [isRefusal none nothing] at ran
  exact ⟨copy, holds, after, same, ran⟩

/-- A scrap of paper among the notes, with neither a class name nor a version. -/
def scrap : TypeSchema where
  name := ⟨"Scrap"⟩
  annotations := [.entity { collection := some "notes", noClassName := true }]
  fields := [marked "id" objectId .id, plain "text" text]

def clutter : Mapper := { catalog := { registry := .ofTypes [note, scrap] } }

def clock : Mapper := { catalog := { registry := .ofTypes [tick] } }

/-- A leaflet that is named by a text. -/
def leaflet : TypeSchema :=
  entity "Leaflet" "leaflets" [marked "id" text .id, marked "version" integer .version]

/-- The class name of a leaflet is stored in place of its identity. -/
def stand : Mapper where
  catalog := { registry := .ofTypes [leaflet], options := { classNameKey := "_id" } }

def titled (name : String) : Entity := .mk leaflet.name [("id", .value (.text name))]

/-- A copy survives the deletion of its identity if that was saved anew as often as its version
says. Without the conditions on what is saved, it may survive although its identity was not saved
anew at all: a class without a version leaves a copy without one, and where versions are the
identity or the class name is stored in its place, the saves of another identity count. -/
theorem outlives_deletion :
    (noteMapper.Guards noteClass noteVersion ∧ noteMapper.Outlives noteClass noteVersion
      (noteMapper.Allows noteClass noteVersion) 1 (some 1)) ∧
    clutter.Outlives (clutter.catalog.assemble note none [] []) noteVersion (fun _ _ => True)
      0 none ∧
    clock.Outlives (clock.catalog.assemble tick none [] []) tickNumber (fun _ _ => True)
      0 (some 1) ∧
    stand.Outlives (stand.catalog.assemble leaflet none [] [])
      (.ofSchema leaflet.name (marked "version" integer .version)) (fun _ _ => True)
      0 (some 1) := by
  have empty : ∀ (mapper : Mapper) (descriptor : Descriptor) (field : MappedField),
      mapper.Plays descriptor field (fun (_ : Scene Bool) _ => True) { world := {} } :=
    fun _ _ _ => .start ⟨Memory.sound_empty _, rfl⟩ ⟨List.nodup_nil, nofun⟩ nofun
  refine ⟨⟨guards_note, ?_⟩, ?_, ?_, ?_⟩
  · exact @Mapper.Outlives.of_any noteMapper noteClass noteVersion _ _
      ⟨plain_notebook, describes_note, rfl, by decide, by decide⟩ plays_renewed true 0 seventh
      [.saved seventh] [.saved seventh, .deleted seventh] _ (by decide +kernel) (by decide +kernel)
      (by decide)
  · exact @Mapper.Outlives.of_any _ _ _ _ _
      ⟨⟨Registry.named_ofTypes _, .of_methods_eq_nil rfl, rfl⟩,
        Catalog.describes_alone rfl (by decide) rfl rfl rfl rfl rfl, rfl, by decide, by decide⟩
      ((empty _ _ _).run (fun _ _ => trivial) [.make true (.mk scrap.name
        [("id", .value seventh)]), .save true 0, .load true (.get note.name seventh),
        .delete note.name seventh]) true 1 seventh
      [.saved seventh] [.deleted seventh] _ (by decide +kernel) (by decide +kernel) (by decide)
  · exact @Mapper.Outlives.of_any _ _ _ _ _
      ⟨guards_tick.plain, guards_tick.described, guards_tick.isEntity, guards_tick.isVersion,
        guards_tick.names⟩
      ((empty _ _ _).run (fun _ _ => trivial) [.make true (ticking "x"), .save true 0,
        .delete tick.name (.integer 1), .make true (ticking "y"), .save true 1]) true 0 (.integer 1)
      [.saved (.text "x")] [.saved (.text "y"), .deleted (.integer 1)] _ (by decide +kernel)
      (by decide +kernel) (by decide)
  · exact @Mapper.Outlives.of_any _ _ _ _ _
      ⟨⟨Registry.named_ofTypes _, .of_methods_eq_nil rfl, rfl⟩,
        Catalog.describes_alone rfl (by decide) rfl rfl rfl rfl rfl, rfl, by decide, by decide⟩
      ((empty _ _ _).run (fun _ _ => trivial) [.make true (titled "Leaflet"), .save true 0,
        .delete leaflet.name (.text "Leaflet"), .make true (titled "other"), .save true 1])
      true 0 (.text "Leaflet")
      [.saved (.text "Leaflet")] [.saved (.text "other"), .deleted (.text "Leaflet")] _
      (by decide +kernel) (by decide +kernel) (by decide)

end Samples

end DocMapper
