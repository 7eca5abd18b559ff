import DocMapper.Datastore.Resolve
import DocMapper.Proofs.Conversion.Decoded
import DocMapper.Proofs.Store.Contents

/-!
# Look-ups

What a look-up gives where nothing is known yet: for one key the entity at its place, for a batch of
identifiers whether all documents under them can be read. A batch is read exactly if each of its
keys can be looked up on its own, and otherwise fails as one of them does. Identifiers whose keys
can be looked up may be left out of a batch without changing how it ends.
-/

namespace DocMapper

namespace Batch

def keys (batch : Batch) : List Key :=
  batch.ids.map fun id => ⟨batch.className, batch.collection, id⟩

theorem mem_keys {batch : Batch} {key : Key} : key ∈ batch.keys ↔
    key.className = batch.className ∧ key.collection = batch.collection ∧ key.id ∈ batch.ids := by
  obtain ⟨className, collection, id⟩ := key
  simp only [keys, List.mem_map, Key.mk.injEq]
  constructor
  · rintro ⟨_, member, rfl, rfl, rfl⟩
    exact ⟨rfl, rfl, member⟩
  · rintro ⟨rfl, rfl, member⟩
    exact ⟨id, member, rfl, rfl, rfl⟩

end Batch

namespace Mapper

def lookUp (mapper : Mapper) (collections : Collections) (key : Key) :
    Except MapError (Option Entity) := do
  let found ← (collections.findFirst key.collection (.idEq key.id)).mapError .store
  found.mapM fun doc => Catalog.answer (mapper.catalog.decodeDocument key.className doc)

/-- Whether a document can be read as an object of a class. -/
def readable (mapper : Mapper) (name : ClassName) (doc : Document) : Except MapError Unit :=
  (Catalog.answer (mapper.catalog.decodeDocument name doc)).map fun _ => ()

/-- Whether all documents of a batch can be read. -/
def readBatch (mapper : Mapper) (collections : Collections) (batch : Batch) :
    Except MapError Unit := do
  let docs ← (collections.find batch.collection (.idIn batch.ids)).mapError .store
  docs.forM (mapper.readable batch.className)

variable {mapper : Mapper} {collections : Collections} {key : Key} {batch : Batch}
  {loaded : List Document} {error : StoreError} {failure : MapError} {doc : Document}

/-! ### One key -/

theorem lookUp_of_unreadable (broken :
      (collections.documents key.collection).mapM StoredDocument.load = .error error) :
    mapper.lookUp collections key = .error (.store error) := by
  rw [lookUp, Collections.findFirst_of_unreadable broken]
  rfl

theorem lookUp_of_intact (intact : Collections.Intact (collections.documents key.collection)) :
    mapper.lookUp collections key =
      (Collections.documentAt? (collections.documents key.collection) key.id).mapM fun doc =>
        Catalog.answer (mapper.catalog.decodeDocument key.className doc) := by
  rw [lookUp, Collections.findFirst_idEq intact]
  rfl

theorem lookUp_of_none (intact : Collections.Intact (collections.documents key.collection))
    (absent : Collections.documentAt? (collections.documents key.collection) key.id = none) :
    mapper.lookUp collections key = .ok none := by
  rw [lookUp_of_intact intact, absent]
  rfl

theorem lookUp_of_some (intact : Collections.Intact (collections.documents key.collection))
    (found : Collections.documentAt? (collections.documents key.collection) key.id = some doc) :
    mapper.lookUp collections key =
      (Catalog.answer (mapper.catalog.decodeDocument key.className doc)).map some := by
  rw [lookUp_of_intact intact, found, Option.mapM_some]
  rfl

/-! ### A batch -/

theorem readable_eq_ok {name : ClassName} : mapper.readable name doc = .ok () ↔
    ∃ entity, Catalog.answer (mapper.catalog.decodeDocument name doc) = .ok entity := by
  rw [readable, Result.map_eq_ok]
  simp

theorem readable_eq_error {name : ClassName} : mapper.readable name doc = .error failure ↔
    Catalog.answer (mapper.catalog.decodeDocument name doc) = .error failure := by
  rw [readable]
  cases Catalog.answer (mapper.catalog.decodeDocument name doc) <;> simp [Except.map]

theorem readBatch_of_unreadable (broken :
      (collections.documents batch.collection).mapM StoredDocument.load = .error error) :
    mapper.readBatch collections batch = .error (.store error) := by
  rw [readBatch, Collections.find_of_unreadable broken]
  rfl

theorem readBatch_of_reads (reads :
      (collections.documents batch.collection).mapM StoredDocument.load = .ok loaded) :
    mapper.readBatch collections batch = (loaded.filter
      (Filter.accepts · (.idIn batch.ids))).forM (mapper.readable batch.className) := by
  rw [readBatch, Collections.find_of_reads reads]
  rfl

section

variable (labelled : Collections.Labelled (collections.documents batch.collection))

include labelled

theorem exists_of_readBatch_eq_error (asked : batch.ids ≠ [])
    (fails : mapper.readBatch collections batch = .error failure) :
    ∃ key ∈ batch.keys, mapper.lookUp collections key = .error failure := by
  cases reads : (collections.documents batch.collection).mapM StoredDocument.load with
  | error error =>
    obtain ⟨id, member⟩ := List.exists_mem_of_ne_nil _ asked
    rw [readBatch_of_unreadable reads] at fails
    cases fails
    exact ⟨⟨batch.className, batch.collection, id⟩, Batch.mem_keys.mpr ⟨rfl, rfl, member⟩,
      lookUp_of_unreadable reads⟩
  | ok loaded =>
    rw [readBatch_of_reads reads] at fails
    obtain ⟨doc, member, unread⟩ := Result.exists_of_forM_eq_error fails
    obtain ⟨id, isAsked, found⟩ := (Collections.mem_filter_idIn labelled reads _ _).mp member
    refine ⟨⟨batch.className, batch.collection, id⟩, Batch.mem_keys.mpr ⟨rfl, rfl, isAsked⟩, ?_⟩
    rw [lookUp_of_some (labelled.intact reads) found, readable_eq_error.mp unread]
    rfl

/-- A batch is read exactly if each of its keys can be looked up. -/
theorem readBatch_eq_ok (asked : batch.ids ≠ []) : mapper.readBatch collections batch = .ok () ↔
    ∀ key ∈ batch.keys, ∃ result, mapper.lookUp collections key = .ok result := by
  constructor
  · intro passes key member
    obtain ⟨isClass, here, isAsked⟩ := Batch.mem_keys.mp member
    cases reads : (collections.documents batch.collection).mapM StoredDocument.load with
    | error error =>
      rw [readBatch_of_unreadable reads] at passes
      cases passes
    | ok loaded =>
      have intact := labelled.intact reads
      rw [readBatch_of_reads reads, Result.forM_eq_ok] at passes
      rw [← here] at intact labelled reads
      cases found : Collections.documentAt? (collections.documents key.collection) key.id with
      | none => exact ⟨none, lookUp_of_none intact found⟩
      | some doc =>
        obtain ⟨entity, read⟩ := readable_eq_ok.mp
          (passes doc ((Collections.mem_filter_idIn labelled reads _ _).mpr ⟨_, isAsked, found⟩))
        rw [lookUp_of_some intact found, isClass, read]
        exact ⟨some entity, rfl⟩
  · intro each
    cases ends : mapper.readBatch collections batch with
    | ok => rfl
    | error failure =>
      obtain ⟨key, member, fails⟩ := exists_of_readBatch_eq_error labelled asked ends
      obtain ⟨result, found⟩ := each key member
      rw [found] at fails
      cases fails

/-- Identifiers whose keys can be looked up may be left out. -/
theorem readBatch_fewer {fewer : Batch} (sameClass : fewer.className = batch.className)
    (here : fewer.collection = batch.collection) (sub : ∀ id ∈ fewer.ids, id ∈ batch.ids)
    (rest : ∀ key ∈ batch.keys, key.id ∉ fewer.ids →
      ∃ result, mapper.lookUp collections key = .ok result) :
    mapper.readBatch collections fewer = mapper.readBatch collections batch := by
  cases reads : (collections.documents batch.collection).mapM StoredDocument.load with
  | error error => rw [readBatch_of_unreadable reads, readBatch_of_unreadable (here ▸ reads)]
  | ok loaded =>
    have intact := labelled.intact reads
    rw [readBatch_of_reads reads, readBatch_of_reads (here ▸ reads), sameClass,
      Collections.filter_idIn_of_subset sub]
    refine Result.forM_filter fun doc member dropped => ?_
    obtain ⟨id, isAsked, found⟩ := (Collections.mem_filter_idIn labelled reads _ _).mp member
    have absent : id ∉ fewer.ids := by
      intro inFewer
      have kept := (Collections.mem_filter_idIn labelled reads _ _).mpr ⟨id, inFewer, found⟩
      rw [(List.mem_filter.mp kept).2] at dropped
      cases dropped
    obtain ⟨result, passes⟩ := rest ⟨batch.className, batch.collection, id⟩
      (Batch.mem_keys.mpr ⟨rfl, rfl, isAsked⟩) absent
    rw [lookUp_of_some intact found, Result.map_eq_ok] at passes
    obtain ⟨entity, read, -⟩ := passes
    exact readable_eq_ok.mpr ⟨entity, read⟩

end

end Mapper

end DocMapper
