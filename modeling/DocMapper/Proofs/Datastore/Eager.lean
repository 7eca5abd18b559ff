import DocMapper.Proofs.Datastore.Loading
import DocMapper.Proofs.Store.Contents

/-!
# How far loading follows references

Loading follows the eager reference fields of the document it loads: each of them that the document
has anything for is null, resolved or known to lead nowhere. It does not go into the objects inside
the document. Their references are decoded to keys, eager or not, and nothing follows them later. So
no eager field is left with a key, at any depth, exactly if the documents inside hold nothing in
their eager fields (`Unlinked`).
-/

namespace DocMapper

/-! ### Objects inside the document -/

def Entity.HasPart (entity part : Entity) : Prop :=
  ∃ name property, entity.get? name = some property ∧ part ∈ property.parts

namespace Catalog

open Mapper (isEager)

variable {catalog : Catalog} {requested : ClassName} {doc : Document} {entity : Entity}
  {descriptor : Descriptor} {field : MappedField} {value : Value} {property : Property}

/-- No eager reference field is left with a key, in the object or in one inside it. -/
inductive Followed (catalog : Catalog) : Entity → Prop
  | intro {entity : Entity} {descriptor : Descriptor}
      (described : catalog.Describes entity.className descriptor)
      (eager : ∀ field ∈ descriptor.fields, isEager field = true → ∀ property,
        entity.get? field.name = some property → property.isFollowed = true)
      (parts : ∀ part, entity.HasPart part → Followed catalog part) :
      Followed catalog entity

/-- Every eager reference field of the document, and of the documents inside it, holds nothing. -/
inductive Unlinked (catalog : Catalog) : ClassName → Document → Prop
  | intro {requested : ClassName} {doc : Document} {descriptor : Descriptor}
      (isClass : catalog.ReadAs requested doc descriptor)
      (eager : ∀ field ∈ descriptor.fields, isEager field = true → ∀ value,
        Document.get? doc field.storedName = some value →
          value = .null ∨ field.isMultiple = true ∧ value = .array [])
      (nested : ∀ field ∈ descriptor.fields, ∀ value,
        Document.get? doc field.storedName = some value → ∀ target entries,
          Nests field value target entries → Unlinked catalog target entries) :
      Unlinked catalog requested doc

/-- The eager reference fields of the documents inside a document hold nothing. -/
def UnlinkedInside (catalog : Catalog) (descriptor : Descriptor) (doc : Document) : Prop :=
  ∀ field ∈ descriptor.fields, ∀ value, Document.get? doc field.storedName = some value →
    ∀ target entries, Nests field value target entries → catalog.Unlinked target entries

/-- Decoding leaves keys in a reference field unless there is nothing in it. -/
theorem Means.isFollowed_iff (means : catalog.Means field value property)
    (isReference : field.isReference = true) :
    property.isFollowed = true ↔ value = .null ∨ field.isMultiple = true ∧ value = .array [] := by
  cases means with
  | null => simp [Property.isFollowed]
  | plain noReference => simp [isReference] at noReference
  | object noReference => simp [isReference] at noReference
  | objects noReference => simp [isReference] at noReference
  | @links _ keys _ set linked =>
    have present : value ≠ .null := by
      rintro rfl
      cases set
    obtain ⟨target, -, made⟩ := answer_keys_eq_ok.mp linked
    simp only [keysFor] at made
    rw [propertyOfKeys]
    cases multiple : field.isMultiple with
    | false =>
      rw [multiple, if_neg (by simp), Result.bind_eq_ok] at made
      obtain ⟨key, -, given⟩ := made
      obtain rfl := Except.ok.inj given
      simp [Property.ofKey, Property.isFollowed, Reference.isFollowed, present]
    | true =>
      rw [multiple, if_pos rfl] at made
      cases value with
      | array items =>
        have pairs := Result.mapM_eq_ok.mp made
        cases pairs <;> simp [Property.isFollowed, Reference.isFollowed]
      | _ => cases made

/-- What is left where references were followed has no objects inside it. -/
theorem parts_of_isFollowed (isFollowed : property.isFollowed = true) : property.parts = [] := by
  cases property <;> first | rfl | cases isFollowed

/-- The objects in an entity are those that the documents inside its document were read as. -/
theorem Shows.hasPart (shows : catalog.Shows descriptor doc entity) {part : Entity}
    (inside : entity.HasPart part) : ∃ field ∈ descriptor.fields, ∃ value target entries,
      Document.get? doc field.storedName = some value ∧ Nests field value target entries ∧
        answer (catalog.decodeDocument target entries) = .ok part := by
  obtain ⟨name, property, held, inProperty⟩ := inside
  obtain ⟨field, member, rfl⟩ := shows.declared name property held
  have shown := shows.field field member
  rw [held] at shown
  cases found : Document.get? doc field.storedName with
  | none => simp [found] at shown
  | some value =>
    rw [found, Option.rel_some_some] at shown
    obtain ⟨target, entries, nests, read⟩ := shown.exists_nested inProperty
    exact ⟨field, member, value, target, entries, found, nests, read⟩

theorem Shows.exists_hasPart (shows : catalog.Shows descriptor doc entity)
    (member : field ∈ descriptor.fields) (found : Document.get? doc field.storedName = some value)
    {target : ClassName} {entries : Document} (nests : Nests field value target entries) :
    ∃ part, entity.HasPart part ∧ answer (catalog.decodeDocument target entries) = .ok part := by
  have shown := shows.field field member
  rw [found] at shown
  cases held : entity.get? field.name with
  | none => simp [held] at shown
  | some property =>
    rw [held, Option.rel_some_some] at shown
    obtain ⟨part, inProperty, read⟩ := shown.exists_part nests
    exact ⟨part, ⟨_, property, held, inProperty⟩, read⟩

/-- Nothing has to be followed in the objects inside exactly if the documents inside hold nothing to
follow, as long as this is so for each of them. -/
theorem Shows.followed_iff (shows : catalog.Shows descriptor doc entity)
    (each : ∀ field ∈ descriptor.fields, ∀ value, Document.get? doc field.storedName = some value →
      ∀ target entries part, Nests field value target entries →
        answer (catalog.decodeDocument target entries) = .ok part →
          (catalog.Followed part ↔ catalog.Unlinked target entries)) :
    (∀ part, entity.HasPart part → catalog.Followed part) ↔
      catalog.UnlinkedInside descriptor doc := by
  constructor
  · intro parts field member value found target entries nests
    obtain ⟨part, inside, read⟩ := shows.exists_hasPart member found nests
    exact (each field member value found target entries part nests read).mp (parts part inside)
  · intro nested part inside
    obtain ⟨field, member, value, target, entries, found, nests, read⟩ := shows.hasPart inside
    exact (each field member value found target entries part nests read).mpr
      (nested field member value found target entries nests)

/-- What decoding gives needs no following exactly if its document holds nothing to follow. The
induction is on the document. -/
theorem followed_iff_unlinked (named : catalog.registry.Named) (distinct : catalog.Distinct)
    (read : answer (catalog.decodeDocument requested doc) = .ok entity) :
    catalog.Followed entity ↔ catalog.Unlinked requested doc := by
  induction size : sizeOf doc using Nat.strongRecOn generalizing requested doc entity with
  | ind n ih =>
    obtain ⟨descriptor, isClass⟩ := exists_readAs read
    obtain ⟨name, described⟩ := isClass.describes
    have shows := isClass.shows (distinct name descriptor described) read
    have inside := shows.followed_iff fun field _ value found target entries part nests read =>
      ih _ (size ▸ nests.sizeOf_lt found) read rfl
    have sameClass : catalog.Describes entity.className descriptor := by
      rwa [shows.className, described.className_eq named]
    constructor
    · intro followed
      cases followed with
      | intro described' eager parts =>
        obtain rfl := sameClass.unique described'
        refine .intro isClass (fun field member isEager value found => ?_) (inside.mp parts)
        have shown := shows.field field member
        rw [found] at shown
        cases held : entity.get? field.name with
        | none => simp [held] at shown
        | some property =>
          rw [held, Option.rel_some_some] at shown
          exact (shown.isFollowed_iff (Mapper.isReference_of_isEager isEager)).mp
            (eager field member isEager property held)
    · intro unlinked
      cases unlinked with
      | intro isClass' eager nested =>
        obtain rfl := isClass.unique isClass'
        refine .intro sameClass (fun field member isEager property held => ?_) (inside.mpr nested)
        have shown := shows.field field member
        rw [held] at shown
        cases found : Document.get? doc field.storedName with
        | none => simp [found] at shown
        | some value =>
          rw [found, Option.rel_some_some] at shown
          exact (shown.isFollowed_iff (Mapper.isReference_of_isEager isEager)).mpr
            (eager field member isEager value found)

end Catalog

/-! ### Loading -/

namespace Mapper

/-- An entity that asking for a class, or searching it, gives. -/
inductive Loads (mapper : Mapper) (world : World) (name : ClassName) : Entity → Prop
  | get {id : Value} {entity : Entity} {after : World}
      (ran : (mapper.get name id).outcome world = (.ok (some entity), after)) :
      Loads mapper world name entity
  | find {filter : Filter} {entities : List Entity} {entity : Entity} {after : World}
      (ran : (mapper.find name filter).outcome world = (.ok entities, after))
      (member : entity ∈ entities) : Loads mapper world name entity

variable {mapper : Mapper} {world : World} {name requested : ClassName} {doc : Document}
  {entity : Entity} {descriptor : Descriptor}

/-- An entity is loaded from a document in the collection of the class. -/
theorem Plain.loaded_of_loads (plain : mapper.Plain) (ready : world.Ready mapper.catalog)
    (loads : mapper.Loads world name entity) :
    ∃ home doc, mapper.catalog.Describes name home ∧
      (∃ stored ∈ world.store.collections.documents home.collection, stored.load = .ok doc) ∧
        mapper.Loaded name doc entity := by
  cases loads with
  | get ran =>
    obtain ⟨home, doc, described, found, loaded⟩ := plain.loaded_of_get ready ran
    exact ⟨home, doc, described, Collections.exists_of_findFirst found, loaded⟩
  | find ran member =>
    obtain ⟨home, docs, described, found, each⟩ := plain.loaded_of_find ready ran
    obtain ⟨doc, inDocs, loaded⟩ := each entity member
    exact ⟨home, doc, described, Collections.exists_of_find found inDocs, loaded⟩

/-- After loading, no eager field is left with a key exactly if the documents inside the loaded one
hold nothing in theirs. -/
theorem Loaded.followed_iff (loaded : mapper.Loaded requested doc entity)
    (named : mapper.catalog.registry.Named) (distinct : mapper.catalog.Distinct)
    (isClass : mapper.catalog.ReadAs requested doc descriptor) :
    mapper.catalog.Followed entity ↔ mapper.catalog.UnlinkedInside descriptor doc := by
  obtain ⟨name, described⟩ := isClass.describes
  have names := distinct name descriptor described
  obtain ⟨decoded, shows, -, eager, others⟩ := loaded.exists_decoded isClass names
  have inside := shows.followed_iff fun _ _ _ _ target entries part _ read =>
    Catalog.followed_iff_unlinked named distinct read
  obtain ⟨_, isClass', sameClass⟩ := loaded.readAs
  obtain rfl := isClass.unique isClass'
  -- The objects inside the entity are those that were decoded: there are none in an eager field.
  have sameParts : ∀ part, entity.HasPart part ↔ decoded.HasPart part := by
    intro part
    constructor
    · rintro ⟨name, property, held, inProperty⟩
      by_cases lazy : ∀ field ∈ descriptor.fields, field.name = name → isEager field = false
      · exact ⟨name, property, others name lazy ▸ held, inProperty⟩
      · push Not at lazy
        obtain ⟨field, member, rfl, isEager⟩ := lazy
        have none := Catalog.parts_of_isFollowed
          (eager field member (by simpa using isEager) property held)
        simp [none] at inProperty
    · rintro ⟨name, property, held, inProperty⟩
      by_cases lazy : ∀ field ∈ descriptor.fields, field.name = name → isEager field = false
      · exact ⟨name, property, (others name lazy).trans held, inProperty⟩
      · push Not at lazy
        obtain ⟨field, member, rfl, isEager⟩ := lazy
        have isReference : field.isReference = true :=
          isReference_of_isEager (by simpa using isEager)
        have shown := shows.field field member
        rw [held] at shown
        cases found : Document.get? doc field.storedName with
        | none => simp [found] at shown
        | some value =>
          rw [found, Option.rel_some_some] at shown
          obtain ⟨_, _, nests, -⟩ := shown.exists_nested inProperty
          cases nests <;> simp_all
  simp only [← inside, ← sameParts]
  constructor
  · rintro ⟨-, -, parts⟩
    exact parts
  · refine .intro ?_ eager
    rwa [sameClass, described.className_eq named]

/-- Every eager field of a loaded document is null, resolved or known to lead nowhere, if the
document has anything for it. No eager field is left with a key at any depth exactly if the
documents inside hold nothing in theirs. -/
theorem Plain.loads_followed (plain : mapper.Plain) (ready : world.Ready mapper.catalog)
    (loads : mapper.Loads world name entity) :
    ∃ home doc descriptor, mapper.catalog.Describes name home ∧
      (∃ stored ∈ world.store.collections.documents home.collection, stored.load = .ok doc) ∧
      mapper.catalog.ReadAs name doc descriptor ∧ entity.className = descriptor.className ∧
      (∀ field ∈ descriptor.fields, isEager field = true →
        Document.contains doc field.storedName = true →
          ∃ property, entity.get? field.name = some property ∧ property.isFollowed = true) ∧
      (mapper.catalog.Distinct →
        (∀ field ∈ descriptor.fields, isEager field = true → ∀ property,
          entity.get? field.name = some property → property.isFollowed = true) ∧
        (mapper.catalog.Followed entity ↔ mapper.catalog.UnlinkedInside descriptor doc)) := by
  obtain ⟨home, doc, described, inStore, loaded⟩ := plain.loaded_of_loads ready loads
  obtain ⟨descriptor, isClass, sameClass⟩ := loaded.readAs
  refine ⟨home, doc, descriptor, described, inStore, isClass, sameClass, ?_, ?_⟩
  · exact fun field member eager present => loaded.get?_of_contains isClass member eager present
  · intro distinct
    obtain ⟨_, described'⟩ := isClass.describes
    obtain ⟨_, -, -, eager, -⟩ := loaded.exists_decoded isClass (distinct _ _ described')
    exact ⟨eager, loaded.followed_iff plain.named distinct isClass⟩

end Mapper

namespace Samples

/-- A chapter, which is stored in its book and names its author. -/
def chapter : TypeSchema where
  name := ⟨"Chapter"⟩
  annotations := [.embedded {}]
  fields := [marked "by" (object "Author") (.reference {})]

def anthology : TypeSchema :=
  entity "Anthology" "anthologies" [
    marked "id" integer .id,
    marked "editor" (object "Author") (.reference {}),
    marked "opening" (object "Chapter") .embedded]

def anthologies : Catalog where
  registry := .ofTypes [address, author, chapter, anthology]

/-- An anthology whose opening chapter has the given entries. -/
def anthologyRow (opening : Document) : Document :=
  [("_id", .integer 1), ("className", .text "Anthology"),
    ("editor", Pointer.toValue ⟨"authors", .integer 1⟩),
    ("opening", .document (("className", .text "Chapter") :: opening))]

def anthologyWorld (opening : Document) : World where
  store := { collections := (Collections.serve [] (.save "anthologies" (anthologyRow opening))).2 }

theorem plain_anthologies : Mapper.Plain { catalog := anthologies } where
  named := Registry.named_ofTypes _
  hookless := .of_methods_eq_nil rfl
  interceptors := rfl

theorem describes_chapter : anthologies.Describes chapter.name
    (anthologies.assemble chapter none [] []) :=
  Catalog.describes_alone rfl (by decide) rfl rfl rfl rfl rfl

theorem distinct_anthologies : anthologies.Distinct :=
  Catalog.distinct_of_alone (by decide) (by decide)

/-- The anthology is loaded if its opening chapter names nobody, and all of its references are
followed. -/
theorem loads_followed_anthology :
    ∃ entity, Mapper.Loads { catalog := anthologies } (anthologyWorld [("by", .null)])
        anthology.name entity ∧
      ∃ home doc descriptor, anthologies.Describes anthology.name home ∧
        (∃ stored ∈ (anthologyWorld [("by", .null)]).store.collections.documents home.collection,
          stored.load = .ok doc) ∧
        anthologies.ReadAs anthology.name doc descriptor ∧
        entity.className = descriptor.className ∧
        (∀ field ∈ descriptor.fields, Mapper.isEager field = true →
          Document.contains doc field.storedName = true →
            ∃ property, entity.get? field.name = some property ∧ property.isFollowed = true) ∧
        (∀ field ∈ descriptor.fields, Mapper.isEager field = true → ∀ property,
          entity.get? field.name = some property → property.isFollowed = true) ∧
        (anthologies.Followed entity ↔ anthologies.UnlinkedInside descriptor doc) := by
  have found : ((Mapper.get { catalog := anthologies } anthology.name (.integer 1)).outcome
      (anthologyWorld [("by", .null)])).1.toOption.join.isSome = true := by decide +kernel
  obtain ⟨entity, found⟩ := Option.isSome_iff_exists.mp found
  have loads : Mapper.Loads { catalog := anthologies } (anthologyWorld [("by", .null)])
      anthology.name entity :=
    .get (Run.outcome_eq_of_toOption (Option.join_eq_some_iff.mp found))
  obtain ⟨home, doc, descriptor, described, inStore, isClass, sameClass, present, distinct⟩ :=
    Mapper.Plain.loads_followed plain_anthologies ⟨Memory.sound_empty _, rfl⟩ loads
  exact ⟨entity, loads, home, doc, descriptor, described, inStore, isClass, sameClass, present,
    distinct distinct_anthologies⟩

/-- If its opening chapter names somebody, the anthology is loaded all the same, and the chapter is
left with a key in its eager field. -/
theorem anthology_not_followed :
    ∃ (mapper : Mapper) (world : World) (name : ClassName) (entity : Entity), mapper.Plain ∧
      world.Ready mapper.catalog ∧ mapper.catalog.Distinct ∧ mapper.Loads world name entity ∧
        ¬ mapper.catalog.Followed entity := by
  let world := anthologyWorld [("by", Pointer.toValue ⟨"authors", .integer 1⟩)]
  let chapters (entity : Entity) : Option (List (ClassName × Option Bool)) :=
    (entity.get? "opening").map fun property => property.parts.map fun part =>
      (part.className, (part.get? "by").map Property.isFollowed)
  have found : ((Mapper.get { catalog := anthologies } anthology.name (.integer 1)).outcome
      world).1.toOption.join.bind chapters = some [(chapter.name, some false)] := by
    decide +kernel
  obtain ⟨entity, found, left⟩ := Option.bind_eq_some_iff.mp found
  refine ⟨{ catalog := anthologies }, world, anthology.name, entity, plain_anthologies,
    ⟨Memory.sound_empty _, rfl⟩, distinct_anthologies,
    .get (Run.outcome_eq_of_toOption (Option.join_eq_some_iff.mp found)), ?_⟩
  obtain ⟨property, held, parts⟩ := Option.map_eq_some_iff.mp left
  obtain ⟨part, inProperty, isPart⟩ := List.map_eq_singleton_iff.mp parts
  obtain ⟨isClass, unfollowed⟩ := Prod.mk.inj isPart
  obtain ⟨link, heldLink, isKey⟩ := Option.map_eq_some_iff.mp unfollowed
  rintro ⟨-, -, followed⟩
  cases followed part ⟨_, property, held, by simp [inProperty]⟩ with
  | intro described eager =>
    rw [isClass] at described
    obtain rfl := described.unique describes_chapter
    have contrary := eager (.ofSchema chapter.name (marked "by" (object "Author") (.reference {})))
      (by decide) (by decide) link heldLink
    simp [isKey] at contrary

end Samples

end DocMapper
