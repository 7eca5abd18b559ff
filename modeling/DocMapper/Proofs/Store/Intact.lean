import Mathlib.Data.List.Nodup
import DocMapper.Proofs.Cbor.RoundTrip
import DocMapper.Proofs.Outcome
import DocMapper.Store.Collections

/-!
# Intact collections

A collection is intact if its identifiers differ and each of its documents can be read and carries
the identifier that it is stored under. In an intact collection a search for an identifier finds the
document under it and nothing else. Saving a document that can be read again and deleting keep a
collection intact, and leave what is under every other identifier as it is.
-/

namespace DocMapper

/-- The document can be read where it is stored, and is stored under its own identifier. -/
structure StoredDocument.Holds (stored : StoredDocument) (doc : Document) : Prop where
  reads : Cbor.read? stored.bytes = some doc
  identified : Collections.idOf? doc = some stored.id

namespace Collections

/-- Identifiers differ, and every document is in order. -/
structure Intact (docs : List StoredDocument) : Prop where
  apart : (docs.map StoredDocument.id).Nodup
  held : ∀ stored ∈ docs, ∃ doc, stored.Holds doc

def documentAt? (docs : List StoredDocument) (id : Value) : Option Document :=
  (docs.find? (·.id = id)).bind fun stored => Cbor.read? stored.bytes

variable {docs : List StoredDocument} {stored : StoredDocument} {doc : Document} {id : Value}
  {collections after : Collections} {name other : String}

theorem idOf?_eq_some : idOf? doc = some id ↔ Document.get? doc idField = some id ∧ id ≠ .null := by
  rw [idOf?, Option.filter_eq_some_iff]
  cases id <;> simp [Value.isNull]

/-! ### Searching -/

theorem load_eq_ok : stored.load = .ok doc ↔ Cbor.read? stored.bytes = some doc := by
  rw [StoredDocument.load]
  cases Cbor.read? stored.bytes <;> simp

/-- Only the document under an identifier satisfies the filter for it. -/
theorem accepts_idEq (holds : stored.Holds doc) (id : Value) :
    Filter.accepts doc (.idEq id) = true ↔ stored.id = id := by
  obtain ⟨found, -⟩ := idOf?_eq_some.mp holds.identified
  simp [Filter.idEq, Filter.accepts, found]

theorem documentAt?_eq_none_iff (intact : Intact docs) :
    documentAt? docs id = none ↔ id ∉ docs.map StoredDocument.id := by
  rw [documentAt?]
  cases found : docs.find? (·.id = id) with
  | none =>
    have absent := List.find?_eq_none.mp found
    simpa using fun stored member same => absurd same (by simpa using absent stored member)
  | some stored =>
    have member := List.mem_of_find?_eq_some found
    have same : stored.id = id := by simpa using List.find?_some found
    obtain ⟨doc, holds⟩ := intact.held stored member
    simpa [holds.reads] using ⟨stored, member, same⟩

theorem exists_of_documentAt? (intact : Intact docs) (found : documentAt? docs id = some doc) :
    ∃ stored ∈ docs, stored.id = id ∧ stored.Holds doc := by
  obtain ⟨stored, here, reads⟩ := Option.bind_eq_some_iff.mp found
  have member := List.mem_of_find?_eq_some here
  obtain ⟨doc', holds⟩ := intact.held stored member
  obtain rfl := Option.some.inj (holds.reads.symm.trans reads)
  exact ⟨stored, member, by simpa using List.find?_some here, holds⟩

theorem Intact.tail {rest : List StoredDocument} (intact : Intact (stored :: rest)) :
    Intact rest :=
  ⟨(List.nodup_cons.mp intact.apart).2, fun other member =>
    intact.held other (List.mem_cons_of_mem _ member)⟩

/-- The documents that a filter for an identifier leaves are at most the one under it. -/
theorem filter_idEq (intact : Intact docs) (id : Value) {loaded : List Document}
    (reads : List.Forall₂ (fun stored doc => stored.load = .ok doc) docs loaded) :
    loaded.filter (fun doc => Filter.accepts doc (.idEq id)) = (documentAt? docs id).toList := by
  induction reads with
  | nil => rfl
  | @cons stored doc rest others first _ ih =>
    have later := ih intact.tail
    obtain ⟨doc', holds⟩ := intact.held stored List.mem_cons_self
    obtain rfl : doc' = doc := Option.some.inj (holds.reads.symm.trans (load_eq_ok.mp first))
    by_cases same : stored.id = id
    · have absent : documentAt? rest id = none :=
        (documentAt?_eq_none_iff intact.tail).mpr (same ▸ (List.nodup_cons.mp intact.apart).1)
      have here : documentAt? (stored :: rest) id = some doc' := by
        simp [documentAt?, same, holds.reads]
      rw [List.filter_cons, if_pos ((accepts_idEq holds id).mpr same), later, absent, here]
      rfl
    · have elsewhere : documentAt? (stored :: rest) id = documentAt? rest id := by
        simp [documentAt?, same]
      rw [List.filter_cons, if_neg (same ∘ (accepts_idEq holds id).mp), later, elsewhere]

/-- A search for an identifier finds the document under it. -/
theorem findFirst_idEq (intact : Intact (collections.documents name)) (id : Value) :
    collections.findFirst name (.idEq id) =
      .ok (documentAt? (collections.documents name) id) := by
  have each : ∀ stored ∈ collections.documents name, ∃ doc, stored.load = .ok doc :=
    fun stored member => (intact.held stored member).imp fun _ holds => load_eq_ok.mpr holds.reads
  obtain ⟨loaded, reads⟩ := Result.exists_forall₂_iff.mpr each
  rw [findFirst, find, Result.mapM_eq_ok.mpr reads]
  simp only [Result.ok_bind, Result.pure_eq, filter_idEq intact id reads]
  cases documentAt? (collections.documents name) id <;> rfl

/-! ### Saving -/

theorem documents_insert_self (collections : Collections) (name : String) :
    documents (Assoc.insert name docs collections) name = docs := by
  simp [documents]

theorem documents_insert_of_ne (apart : other ≠ name) (collections : Collections) :
    documents (Assoc.insert name docs collections) other = collections.documents other := by
  rw [documents, Assoc.lookup_insert_of_ne apart, documents]

/-- Saving succeeds for a document with an identifier, and puts it in its collection. -/
theorem save_eq_ok : collections.save name doc = .ok after ↔ ∃ id, idOf? doc = some id ∧
    after = Assoc.insert name (put ⟨id, Cbor.write doc⟩ (collections.documents name))
      collections := by
  rw [save]
  cases idOf? doc <;> simp [eq_comm]

theorem mem_put {item : StoredDocument} (member : item ∈ put stored docs) :
    item = stored ∨ item ∈ docs := by
  induction docs with
  | nil => exact .inl (by simpa [put] using member)
  | cons first rest ih =>
    rw [put] at member
    split at member
    · rcases List.mem_cons.mp member with rfl | member
      · exact .inl rfl
      · exact .inr (List.mem_cons_of_mem _ member)
    · rcases List.mem_cons.mp member with rfl | member
      · exact .inr List.mem_cons_self
      · exact (ih member).imp_right (List.mem_cons_of_mem _)

theorem mem_put_self (stored : StoredDocument) (docs : List StoredDocument) :
    stored ∈ put stored docs := by
  induction docs with
  | nil => exact List.mem_singleton_self stored
  | cons first rest ih =>
    rw [put]
    split
    · exact List.mem_cons_self
    · exact List.mem_cons_of_mem _ ih

theorem mem_ids_put : id ∈ (put stored docs).map StoredDocument.id ↔
    id = stored.id ∨ id ∈ docs.map StoredDocument.id := by
  induction docs with
  | nil => simp [put]
  | cons first rest ih =>
    rw [put]
    split
    next same => simp [same]
    next =>
      rw [List.map_cons, List.map_cons, List.mem_cons, List.mem_cons, ih]
      exact or_left_comm

/-- What is put under an identifier takes the place of what was there. -/
theorem find?_put (stored : StoredDocument) (docs : List StoredDocument) (id : Value) :
    (put stored docs).find? (·.id = id) =
      if id = stored.id then some stored else docs.find? (·.id = id) := by
  induction docs with
  | nil => by_cases same : id = stored.id <;> simp [put, same, eq_comm]
  | cons first rest ih =>
    by_cases here : first.id = stored.id <;> by_cases same : id = stored.id <;>
      by_cases hit : first.id = id <;> simp_all [put]

theorem nodup_put (apart : (docs.map StoredDocument.id).Nodup) :
    ((put stored docs).map StoredDocument.id).Nodup := by
  induction docs with
  | nil => simp [put]
  | cons first rest ih =>
    obtain ⟨fresh, later⟩ := List.nodup_cons.mp apart
    rw [put]
    split
    next same => simpa [← same] using apart
    next differs =>
      refine List.nodup_cons.mpr ⟨?_, ih later⟩
      intro member
      obtain ⟨item, inPut, same⟩ := List.mem_map.mp member
      rcases mem_put inPut with rfl | inRest
      · exact differs same.symm
      · exact fresh (List.mem_map.mpr ⟨item, inRest, same⟩)

/-- The document that a save writes can be read where it is, within the levels. -/
theorem holds_write_of_levels_le (narrow : Document.widest doc < Cbor.headLimit)
    (within : Document.levels doc ≤ Cbor.maxLevels) (identified : idOf? doc = some id) :
    StoredDocument.Holds ⟨id, Cbor.write doc⟩ doc :=
  ⟨by simpa using Cbor.read?_write_of_levels_le narrow within [], identified⟩

theorem holds_write (storable : Cbor.Storable doc) (identified : idOf? doc = some id) :
    StoredDocument.Holds ⟨id, Cbor.write doc⟩ doc :=
  holds_write_of_levels_le storable.widest_lt storable.levels identified

theorem Intact.put (intact : Intact docs) (holds : stored.Holds doc) :
    Intact (Collections.put stored docs) := by
  refine ⟨nodup_put intact.apart, fun item member => ?_⟩
  rcases mem_put member with rfl | member
  · exact ⟨doc, holds⟩
  · exact intact.held item member

theorem documentAt?_put (holds : stored.Holds doc) (id : Value) :
    documentAt? (put stored docs) id =
      if id = stored.id then some doc else documentAt? docs id := by
  rw [documentAt?, find?_put]
  split
  · exact holds.reads
  · rfl

/-! ### Deleting -/

/-- Deleting keeps the documents with other identifiers. -/
theorem documents_delete_self (collections : Collections) (name : String) (id : Value) :
    (collections.delete name id).2.documents name =
      (collections.documents name).filter (·.id != id) := by
  simp only [delete]
  split
  next empty => simp [List.isEmpty_iff.mp empty]
  · exact documents_insert_self collections name

theorem documents_delete_of_ne (apart : other ≠ name) (collections : Collections) (id : Value) :
    (collections.delete name id).2.documents other = collections.documents other := by
  simp only [delete]
  split
  · rfl
  · exact documents_insert_of_ne apart collections

theorem Intact.delete (intact : Intact docs) (id : Value) : Intact (docs.filter (·.id != id)) :=
  ⟨intact.apart.sublist (List.filter_sublist.map _), fun stored member =>
    intact.held stored (List.mem_filter.mp member).1⟩

theorem find?_delete (docs : List StoredDocument) (gone id : Value) :
    (docs.filter (·.id != gone)).find? (·.id = id) =
      if id = gone then none else docs.find? (·.id = id) := by
  induction docs with
  | nil => simp
  | cons first rest ih =>
    by_cases here : first.id = gone <;> by_cases hit : first.id = id <;>
      by_cases same : id = gone <;> simp_all

theorem documentAt?_delete (docs : List StoredDocument) (gone id : Value) :
    documentAt? (docs.filter (·.id != gone)) id =
      if id = gone then none else documentAt? docs id := by
  rw [documentAt?, find?_delete]
  split <;> rfl

end Collections

end DocMapper
