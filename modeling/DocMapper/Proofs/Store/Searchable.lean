import DocMapper.Proofs.Store.Contents

/-!
# Collections that can be searched

A search reads every document of its collection, so it succeeds for one filter exactly if it does
for all of them, and that is exactly if each document can be read. Saving accepts documents of any
depth while reading follows a limited number of levels. So a save keeps a collection searchable
exactly if its document is within the levels; one that nests deeper closes the collection to every
search.
-/

namespace DocMapper.Collections

variable {collections after : Collections} {name : String} {filter : Filter} {doc : Document}
  {docs : List StoredDocument} {found : List Document} {id : Value}

/-- A collection can be searched exactly if each of its documents can be read. -/
theorem exists_find_iff : (∃ found, collections.find name filter = .ok found) ↔
    ∀ stored ∈ collections.documents name, ∃ doc, stored.load = .ok doc := by
  simp only [← Result.exists_forall₂_iff, ← Result.mapM_eq_ok]
  constructor
  · rintro ⟨found, searched⟩
    obtain ⟨loaded, reads, -⟩ := Result.bind_eq_ok.mp searched
    exact ⟨loaded, reads⟩
  · rintro ⟨loaded, reads⟩
    exact ⟨_, find_of_reads reads⟩

/-- A search fails for no other reason than a document that cannot be read. -/
theorem eq_undecodable_of_find {error : StoreError}
    (fails : collections.find name filter = .error error) : error = .undecodable := by
  cases reads : (collections.documents name).mapM StoredDocument.load with
  | ok loaded =>
    rw [find_of_reads reads] at fails
    cases fails
  | error broken =>
    rw [find_of_unreadable reads] at fails
    cases fails
    obtain ⟨stored, -, unread⟩ := Result.exists_of_mapM_eq_error reads
    rw [StoredDocument.load] at unread
    split at unread <;> cases unread
    rfl

/-- A document that was written can be read exactly if it is within the levels. -/
theorem exists_load_write_iff (narrow : Document.widest doc < Cbor.headLimit) (id : Value) :
    (∃ other, StoredDocument.load ⟨id, Cbor.write doc⟩ = .ok other) ↔
      Document.levels doc ≤ Cbor.maxLevels := by
  simp only [load_eq_ok]
  constructor
  · rintro ⟨other, read⟩
    by_contra beyond
    have refused := Cbor.read?_write_of_lt_levels narrow (Nat.lt_of_not_le beyond) []
    rw [List.append_nil, read] at refused
    cases refused
  · intro within
    have written := Cbor.read?_write_of_levels_le narrow within []
    rw [List.append_nil] at written
    exact ⟨doc, written⟩

/-- Saving a document within the levels leaves every document of the collection readable, if each
was before. -/
theorem readable_save (narrow : Document.widest doc < Cbor.headLimit)
    (within : Document.levels doc ≤ Cbor.maxLevels)
    (readable : ∀ stored ∈ collections.documents name, ∃ doc, stored.load = .ok doc)
    (saved : collections.save name doc = .ok after) :
    ∀ stored ∈ after.documents name, ∃ doc, stored.load = .ok doc := by
  obtain ⟨id, -, rfl⟩ := save_eq_ok.mp saved
  rw [documents_insert_self]
  intro stored member
  rcases mem_put member with rfl | member
  · exact (exists_load_write_iff narrow id).mpr within
  · exact readable stored member

/-- After a document beyond the levels was saved, every search of the collection fails. -/
theorem find_save_of_lt_levels (narrow : Document.widest doc < Cbor.headLimit)
    (beyond : Cbor.maxLevels < Document.levels doc) (saved : collections.save name doc = .ok after)
    (filter : Filter) : after.find name filter = .error .undecodable := by
  obtain ⟨id, -, rfl⟩ := save_eq_ok.mp saved
  generalize ends : find (Assoc.insert name _ collections) name filter = result
  cases result with
  | error error => rw [eq_undecodable_of_find ends]
  | ok found =>
    have readable := exists_find_iff.mp ⟨found, ends⟩
    rw [documents_insert_self] at readable
    have own := readable _ (mem_put_self _ _)
    exact absurd ((exists_load_write_iff narrow id).mp own) (Nat.not_le_of_lt beyond)

/-- In an intact collection the search for an identifier finds the document under it and no
other. -/
theorem find_idEq (intact : Intact (collections.documents name)) (id : Value) :
    collections.find name (.idEq id) =
      .ok (documentAt? (collections.documents name) id).toList := by
  have each : ∀ stored ∈ collections.documents name, ∃ doc, stored.load = .ok doc :=
    fun stored member => (intact.held stored member).imp fun _ holds => load_eq_ok.mpr holds.reads
  obtain ⟨loaded, reads⟩ := Result.exists_forall₂_iff.mpr each
  rw [find_of_reads (Result.mapM_eq_ok.mpr reads), filter_idEq intact id reads]

/-- A save into a collection that can be searched leaves it searchable exactly if its document nests
no deeper than documents are read. The document is then what the search for its identifier finds;
otherwise every search fails from then on. -/
theorem Reached.searchable_save_iff (reached : Reached collections)
    (narrow : Document.widest doc < Cbor.headLimit)
    (searched : collections.find name filter = .ok found)
    (saved : collections.save name doc = .ok after) :
    ((∀ filter, ∃ found, after.find name filter = .ok found) ↔
      Document.levels doc ≤ Cbor.maxLevels) ∧
    (Document.levels doc ≤ Cbor.maxLevels →
      ∃ id, idOf? doc = some id ∧ after.find name (.idEq id) = .ok [doc]) ∧
    (Cbor.maxLevels < Document.levels doc →
      ∀ filter, after.find name filter = .error .undecodable) := by
  have readable := exists_find_iff.mp ⟨found, searched⟩
  refine ⟨⟨fun all => ?_, fun within filter =>
    exists_find_iff.mpr (readable_save narrow within readable saved)⟩, fun within => ?_,
    fun beyond => find_save_of_lt_levels narrow beyond saved⟩
  · by_contra beyond
    obtain ⟨found, searched⟩ := all (.idIn [])
    rw [find_save_of_lt_levels narrow (Nat.lt_of_not_le beyond) saved] at searched
    cases searched
  · obtain ⟨id, identified, rfl⟩ := save_eq_ok.mp saved
    have holds := holds_write_of_levels_le narrow within identified
    obtain ⟨loaded, reads⟩ := Result.exists_forall₂_iff.mpr readable
    have before := (reached.labelled name).intact (Result.mapM_eq_ok.mpr reads)
    have intact : Intact (documents (Assoc.insert name (put ⟨id, Cbor.write doc⟩
        (collections.documents name)) collections) name) := by
      rw [documents_insert_self]
      exact before.put holds
    refine ⟨id, identified, ?_⟩
    rw [find_idEq intact, documents_insert_self, documentAt?_put holds, if_pos rfl]
    rfl

end DocMapper.Collections

namespace DocMapper.Samples

/-- A note whose value stands in as many arrays as given. -/
def filed (n : Nat) : Document :=
  [("_id", .integer 1), ("k", wrapped n)]

theorem levels_filed (n : Nat) : Document.levels (filed n) = 2 * n + 3 := by
  simp only [Document.levels, filed, Value.entryLevels, levels_wrapped, Value.levels]
  omega

theorem widest_filed_lt (n : Nat) : Document.widest (filed n) < Cbor.headLimit := by
  have := widest_wrapped_le n
  have id : (Cbor.utf8 "_id").length = 3 := by decide +kernel
  have key : (Cbor.utf8 "k").length = 1 := by decide +kernel
  simp only [Document.widest, Document.size, filed, Value.widestEntry, id, key, Value.widest,
    List.length_cons, List.length_nil, Cbor.headLimit]
  omega

def shelf : Collections :=
  (Collections.serve [] (.save "notes" [("_id", .integer 2)])).2

theorem reached_shelf : Collections.Reached shelf :=
  .serve .empty (by decide +kernel)

theorem save_filed (n : Nat) : shelf.save "notes" (filed n) =
    .ok (Assoc.insert "notes" (Collections.put ⟨.integer 1, Cbor.write (filed n)⟩
      (shelf.documents "notes")) shelf) := rfl

/-- A note with 126 arrays is found where it was put; with one more, nothing on the shelf is found
any longer. -/
theorem searchable_save_iff_filed :
    ∃ shallow deep, shelf.save "notes" (filed 126) = .ok shallow ∧
      shelf.save "notes" (filed 127) = .ok deep ∧
      shallow.find "notes" (.idEq (.integer 1)) = .ok [filed 126] ∧
      deep.find "notes" (.idEq (.integer 2)) = .error .undecodable := by
  have searched : shelf.find "notes" (.idIn []) = .ok [] := by decide +kernel
  obtain ⟨-, finds, -⟩ :=
    reached_shelf.searchable_save_iff (widest_filed_lt 126) searched (save_filed 126)
  obtain ⟨-, -, closes⟩ :=
    reached_shelf.searchable_save_iff (widest_filed_lt 127) searched (save_filed 127)
  rw [levels_filed] at finds closes
  obtain ⟨id, identified, found⟩ := finds (by decide)
  obtain rfl : .integer 1 = id := Option.some.inj identified
  exact ⟨_, _, save_filed 126, save_filed 127, found, closes (by decide) _⟩

/-- A save that is accepted and after which the collection cannot be searched, though it could be
before. -/
theorem save_closes_shelf :
    shelf.find "notes" (.idEq (.integer 2)) = .ok [[("_id", .integer 2)]] ∧
    ∃ after, shelf.save "notes" (filed 127) = .ok after ∧
      after.find "notes" (.idEq (.integer 1)) = .error .undecodable ∧
      after.find "notes" (.idEq (.integer 2)) = .error .undecodable := by
  have beyond : Cbor.maxLevels < Document.levels (filed 127) := by
    rw [levels_filed]
    decide
  have closes :=
    Collections.find_save_of_lt_levels (widest_filed_lt 127) beyond (save_filed 127)
  exact ⟨by decide +kernel, _, save_filed 127, closes _, closes _⟩

end DocMapper.Samples
