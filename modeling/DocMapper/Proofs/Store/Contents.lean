import DocMapper.Proofs.Cbor.Depth
import DocMapper.Proofs.Store.Archive
import DocMapper.Proofs.Store.Intact

/-!
# What a store can hold

Whatever is saved and deleted, the identifiers in a collection differ, and a document that can be
read is stored under its own. A document that nests too deeply is saved all the same; from then on
every search of its collection fails. So a collection is either intact or cannot be searched at all.
-/

namespace DocMapper

/-- A document that the request saves has no length that eight bytes cannot tell. -/
def StoreRequest.Narrow : StoreRequest → Prop
  | .save _ doc => Document.widest doc < Cbor.headLimit
  | _ => True

instance : DecidablePred StoreRequest.Narrow := fun request =>
  match request with
  | .save _ doc => inferInstanceAs (Decidable (Document.widest doc < Cbor.headLimit))
  | .find .. | .findFirst .. | .delete .. | .count _ | .names | .clear =>
    inferInstanceAs (Decidable True)

namespace Collections

/-- What requests make of a store that starts empty. -/
inductive Reached : Collections → Prop
  | empty : Reached []
  | serve {collections : Collections} {request : StoreRequest} :
      Reached collections → request.Narrow → Reached (collections.serve request).2

/-- Identifiers differ, and a document that can be read is stored under its own. -/
structure Labelled (docs : List StoredDocument) : Prop where
  apart : (docs.map StoredDocument.id).Nodup
  labelled : ∀ stored ∈ docs, ∀ doc, stored.load = .ok doc → stored.Holds doc

variable {docs : List StoredDocument} {stored : StoredDocument} {doc : Document} {id : Value}
  {collections : Collections} {name : String} {filter : Filter} {loaded : List Document}
  {error : StoreError}

/-! ### Every collection is labelled -/

theorem Labelled.put (labelled : Labelled docs)
    (holds : ∀ doc, stored.load = .ok doc → stored.Holds doc) :
    Labelled (Collections.put stored docs) := by
  refine ⟨nodup_put labelled.apart, fun item member => ?_⟩
  rcases mem_put member with rfl | member
  · exact holds
  · exact labelled.labelled item member

theorem Labelled.delete (labelled : Labelled docs) (id : Value) :
    Labelled (docs.filter (·.id != id)) :=
  ⟨labelled.apart.sublist (List.filter_sublist.map _), fun stored member =>
    labelled.labelled stored (List.mem_filter.mp member).1⟩

/-- If the document that a save writes can be read where it is, it is the one that was saved. -/
theorem eq_of_load_write (narrow : Document.widest doc < Cbor.headLimit) {other : Document}
    (reads : StoredDocument.load ⟨id, Cbor.write doc⟩ = .ok other) : other = doc := by
  have read := load_eq_ok.mp reads
  by_cases within : Document.levels doc ≤ Cbor.maxLevels
  · have written := Cbor.read?_write_of_levels_le narrow within []
    rw [List.append_nil, read] at written
    exact Option.some.inj written
  · have refused := Cbor.read?_write_of_lt_levels narrow (Nat.lt_of_not_le within) []
    rw [List.append_nil, read] at refused
    cases refused

theorem holds_write_of_load (narrow : Document.widest doc < Cbor.headLimit)
    (identified : idOf? doc = some id) (other : Document)
    (reads : StoredDocument.load ⟨id, Cbor.write doc⟩ = .ok other) :
    StoredDocument.Holds ⟨id, Cbor.write doc⟩ other := by
  obtain rfl := eq_of_load_write narrow reads
  exact ⟨load_eq_ok.mp reads, identified⟩

/-- Every request leaves the collections labelled. -/
theorem labelled_serve {request : StoreRequest}
    (labelled : ∀ name, Labelled (collections.documents name)) (narrow : request.Narrow)
    (name : String) : Labelled ((collections.serve request).2.documents name) := by
  cases request with
  | save target doc =>
    rw [serve]
    split
    next after saved =>
      obtain ⟨id, identified, rfl⟩ := save_eq_ok.mp saved
      by_cases same : name = target
      · subst same
        rw [documents_insert_self]
        exact (labelled name).put (holds_write_of_load narrow identified)
      · rw [documents_insert_of_ne same]
        exact labelled name
    · exact labelled name
  | delete target id =>
    by_cases same : name = target
    · subst same
      rw [serve, documents_delete_self]
      exact (labelled name).delete id
    · rw [serve, documents_delete_of_ne same]
      exact labelled name
  | find | findFirst =>
    rw [serve]
    split <;> exact labelled name
  | count | names => exact labelled name
  | clear => exact ⟨List.nodup_nil, by simp [serve, clear, documents]⟩

theorem Reached.labelled (reached : Reached collections) (name : String) :
    Labelled (collections.documents name) := by
  induction reached generalizing name with
  | empty => exact ⟨List.nodup_nil, by simp [documents]⟩
  | serve _ narrow ih => exact labelled_serve ih narrow name

/-! ### Documents within the levels -/

/-- Every document in the collection is the byte form of one that nests no deeper than the reader
follows. -/
def Within (docs : List StoredDocument) : Prop :=
  ∀ stored ∈ docs, ∃ doc, Cbor.Storable doc ∧ stored.bytes = Cbor.write doc

theorem Labelled.intact_of_within (labelled : Labelled docs) (within : Within docs) :
    Intact docs := by
  refine ⟨labelled.apart, fun stored member => ?_⟩
  obtain ⟨doc, storable, bytes⟩ := within stored member
  have read := Cbor.read?_write_of_levels_le storable.widest_lt storable.levels []
  rw [List.append_nil, ← bytes] at read
  exact ⟨doc, labelled.labelled stored member doc (load_eq_ok.mpr read)⟩

/-- A document that was put into a collection is the one under its identifier there. -/
theorem Labelled.put_within (labelled : Labelled docs) (identified : idOf? doc = some id)
    (within : Within (Collections.put ⟨id, Cbor.write doc⟩ docs)) :
    Intact (Collections.put ⟨id, Cbor.write doc⟩ docs) ∧
      documentAt? (Collections.put ⟨id, Cbor.write doc⟩ docs) id = some doc := by
  obtain ⟨other, storable, bytes⟩ := within ⟨id, Cbor.write doc⟩ (mem_put_self _ _)
  have written := storable.of_write_eq bytes
  refine ⟨(labelled.put (holds_write_of_load written.widest_lt identified)).intact_of_within
    within, ?_⟩
  rw [documentAt?_put (holds_write written identified), if_pos rfl]

/-- A document that was saved is the one under its identifier. -/
theorem Labelled.of_save {after : Collections} (labelled : Labelled (collections.documents name))
    (saved : collections.save name doc = .ok after) (within : Within (after.documents name)) :
    ∃ id, idOf? doc = some id ∧ Intact (after.documents name) ∧
      documentAt? (after.documents name) id = some doc := by
  obtain ⟨id, identified, rfl⟩ := save_eq_ok.mp saved
  rw [documents_insert_self] at within ⊢
  exact ⟨id, identified, labelled.put_within identified within⟩

/-! ### Searching -/

/-- A collection whose documents can all be read is intact. -/
theorem Labelled.intact (labelled : Labelled docs)
    (reads : docs.mapM StoredDocument.load = .ok loaded) : Intact docs := by
  refine ⟨labelled.apart, fun stored member => ?_⟩
  obtain ⟨doc, read⟩ := Result.exists_forall₂_iff.mp ⟨loaded, Result.mapM_eq_ok.mp reads⟩
    stored member
  exact ⟨doc, labelled.labelled stored member doc read⟩

theorem find_of_reads
    (reads : (collections.documents name).mapM StoredDocument.load = .ok loaded) :
    collections.find name filter = .ok (loaded.filter (filter.accepts ·)) := by
  rw [find, reads, Result.ok_bind, Result.pure_eq]

theorem exists_of_find {docs : List Document} (found : collections.find name filter = .ok docs)
    (member : doc ∈ docs) : ∃ stored ∈ collections.documents name, stored.load = .ok doc := by
  obtain ⟨loaded, reads, same⟩ := Result.bind_eq_ok.mp found
  obtain rfl := Except.ok.inj same
  exact Result.exists_of_mem_results reads (List.mem_filter.mp member).1

theorem exists_of_findFirst (found : collections.findFirst name filter = .ok (some doc)) :
    ∃ stored ∈ collections.documents name, stored.load = .ok doc := by
  obtain ⟨docs, searched, first⟩ := Result.bind_eq_ok.mp found
  exact exists_of_find searched (List.mem_of_head? (Except.ok.inj first))

theorem get?_of_findFirst (found : collections.findFirst name (.idEq id) = .ok (some doc)) :
    Document.get? doc idField = some id := by
  obtain ⟨docs, searched, first⟩ := Result.bind_eq_ok.mp found
  obtain ⟨loaded, -, same⟩ := Result.bind_eq_ok.mp searched
  obtain rfl := Except.ok.inj same
  have accepted := (List.mem_filter.mp (List.mem_of_head? (Except.ok.inj first))).2
  simpa [Filter.idEq, Filter.accepts] using accepted

/-- In a labelled collection, what a search for an identifier finds is saved under that. -/
theorem Labelled.idOf?_of_findFirst (labelled : Labelled (collections.documents name))
    (found : collections.findFirst name (.idEq id) = .ok (some doc)) : idOf? doc = some id := by
  obtain ⟨stored, member, read⟩ := exists_of_findFirst found
  obtain ⟨own, present⟩ := idOf?_eq_some.mp (labelled.labelled stored member doc read).identified
  obtain rfl := Option.some.inj (own.symm.trans (get?_of_findFirst found))
  exact idOf?_eq_some.mpr ⟨own, present⟩

/-- A collection with a document that cannot be read cannot be searched. -/
theorem find_of_unreadable
    (broken : (collections.documents name).mapM StoredDocument.load = .error error) :
    collections.find name filter = .error error := by
  rw [find, broken, Result.error_bind]

theorem findFirst_of_unreadable
    (broken : (collections.documents name).mapM StoredDocument.load = .error error) :
    collections.findFirst name filter = .error error := by
  rw [findFirst, find_of_unreadable broken, Result.error_bind]

/-- Every document is the one under its identifier. -/
theorem documentAt?_of_mem (intact : Intact docs) (member : stored ∈ docs)
    (read : stored.load = .ok doc) : documentAt? docs stored.id = some doc := by
  cases found : documentAt? docs stored.id with
  | none =>
    have absent := (documentAt?_eq_none_iff intact).mp found
    exact absurd (List.mem_map_of_mem member) absent
  | some other =>
    obtain ⟨item, inDocs, same, holds⟩ := exists_of_documentAt? intact found
    obtain rfl : item = stored := List.inj_on_of_nodup_map intact.apart inDocs member same
    exact (load_eq_ok.mp read).symm.trans holds.reads |>.symm

/-- A document with one of the identifiers satisfies the filter for them. -/
theorem accepts_idIn {ids : List Value} : Filter.accepts doc (.idIn ids) = true ↔
    ∃ id ∈ ids, Document.get? doc idField = some id := by
  rw [Filter.idIn, Filter.accepts]
  cases Document.get? doc idField <;> simp

/-- A search for fewer identifiers finds some of what a search for all of them finds. -/
theorem filter_idIn_of_subset {fewer ids : List Value} (sub : ∀ id ∈ fewer, id ∈ ids)
    (loaded : List Document) :
    loaded.filter (Filter.accepts · (.idIn fewer)) =
      (loaded.filter (Filter.accepts · (.idIn ids))).filter
        (Filter.accepts · (.idIn fewer)) := by
  rw [List.filter_filter]
  refine List.filter_congr fun doc _ => ?_
  rw [Bool.eq_iff_iff, Bool.and_eq_true, iff_self_and, accepts_idIn, accepts_idIn]
  rintro ⟨id, isAsked, own⟩
  exact ⟨id, sub id isAsked, own⟩

/-- A document carries the identifier that it is under. -/
theorem get?_of_documentAt? (intact : Intact docs) (found : documentAt? docs id = some doc) :
    Document.get? doc idField = some id := by
  obtain ⟨stored, -, rfl, holds⟩ := exists_of_documentAt? intact found
  exact (idOf?_eq_some.mp holds.identified).1

/-- A search for identifiers finds the documents under them. -/
theorem mem_filter_idIn (labelled : Labelled docs)
    (reads : docs.mapM StoredDocument.load = .ok loaded) (ids : List Value) (doc : Document) :
    doc ∈ loaded.filter (Filter.accepts · (.idIn ids)) ↔
      ∃ id ∈ ids, documentAt? docs id = some doc := by
  have intact := labelled.intact reads
  rw [List.mem_filter, accepts_idIn]
  constructor
  · rintro ⟨member, id, isAsked, own⟩
    obtain ⟨stored, inDocs, read⟩ := Result.exists_of_mem_results reads member
    obtain ⟨found, -⟩ := idOf?_eq_some.mp (labelled.labelled stored inDocs doc read).identified
    obtain rfl := Option.some.inj (own.symm.trans found)
    exact ⟨_, isAsked, documentAt?_of_mem intact inDocs read⟩
  · rintro ⟨id, isAsked, found⟩
    obtain ⟨stored, inDocs, -, holds⟩ := exists_of_documentAt? intact found
    exact ⟨Result.mem_results_of_mem reads inDocs (load_eq_ok.mpr holds.reads), id, isAsked,
      get?_of_documentAt? intact found⟩

end Collections

end DocMapper
