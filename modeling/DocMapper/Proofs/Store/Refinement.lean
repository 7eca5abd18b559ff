import DocMapper.Proofs.Store.Archive
import DocMapper.Proofs.Store.Intact
import DocMapper.Proofs.Value.Keys

/-!
# A store answers as an archive does

Collections represent an archive if every collection holds the documents of a folder, in the same
order, each readable where it is and stored under its own identifier. Serving a request keeps the
representation and gives the reply of the archive; so a store that starts empty answers every run of
requests as an empty archive would.
-/

namespace DocMapper

theorem Filter.accepts_iff_matches (doc : Document) (filter : Filter) :
    filter.accepts doc = true ↔ filter.Matches doc := by
  cases filter with
  | eq field value => simp [accepts, Matches]
  | oneOf field values =>
    rw [accepts, Matches]
    cases Document.get? doc field <;> simp

namespace Collections

/-- The document that a folder has is stored, under the same identifier. -/
def Stores (stored : StoredDocument) (entry : Value × Document) : Prop :=
  stored.id = entry.1 ∧ stored.Holds entry.2

/-- Every collection holds the documents of a folder. -/
structure Represents (collections : Collections) (archive : Archive) : Prop where
  named : (collections.map Prod.fst).Nodup
  stored : ∀ name,
    List.Forall₂ Stores (collections.documents name) (archive.folder name).entries

variable {docs : List StoredDocument} {entries : List (Value × Document)} {folder : Folder}
  {collections after : Collections} {archive : Archive} {stored : StoredDocument} {doc : Document}
  {id : Value}

/-! ### One collection -/

theorem ids_eq (stores : List.Forall₂ Stores docs entries) :
    docs.map StoredDocument.id = entries.map Prod.fst := by
  induction stores with
  | nil => rfl
  | cons first _ ih => rw [List.map_cons, List.map_cons, first.1, ih]

/-- The documents of a collection are read as those of the folder. -/
theorem mapM_load_eq (stores : List.Forall₂ Stores docs entries) :
    docs.mapM StoredDocument.load = .ok (entries.map Prod.snd) := by
  rw [Result.mapM_eq_ok, List.forall₂_map_right_iff]
  exact stores.imp fun _ _ first => load_eq_ok.mpr first.2.reads

/-- Putting a document where its identifier is new puts it behind all others. -/
theorem put_eq_append (new : stored.id ∉ docs.map StoredDocument.id) :
    put stored docs = docs ++ [stored] := by
  induction docs with
  | nil => rfl
  | cons first rest ih =>
    rw [List.map_cons, List.mem_cons, not_or] at new
    obtain ⟨differs, later⟩ := new
    rw [put, if_neg fun same => differs same.symm, ih later, List.cons_append]

/-- Putting a document where its identifier is not new replaces the one that is there. -/
theorem put_eq_map (apart : (docs.map StoredDocument.id).Nodup)
    (old : stored.id ∈ docs.map StoredDocument.id) :
    put stored docs = docs.map fun other => if other.id = stored.id then stored else other := by
  induction docs with
  | nil => simp at old
  | cons first rest ih =>
    obtain ⟨fresh, later⟩ := List.nodup_cons.mp apart
    rw [put, List.map_cons]
    split
    next same =>
      have others : rest.map (fun other => if other.id = stored.id then stored else other) =
          rest := by
        refine (List.map_congr_left fun other member => if_neg fun again => fresh ?_).trans
          (List.map_id rest)
        exact List.mem_map.mpr ⟨other, member, again.trans same.symm⟩
      rw [others]
    next differs =>
      have inRest : stored.id ∈ rest.map StoredDocument.id :=
        (List.mem_cons.mp old).resolve_left fun same => differs same.symm
      rw [ih later inRest]

theorem stores_put (stores : List.Forall₂ Stores docs folder.entries)
    (holds : stored.Holds doc) (set : stored.id ≠ .null) :
    List.Forall₂ Stores (put stored docs) (folder.put doc set).entries := by
  have ids := ids_eq stores
  rw [Folder.put]
  split
  next new =>
    rw [put_eq_append (ids ▸ new)]
    exact List.rel_append stores (.cons ⟨rfl, holds⟩ .nil)
  next old =>
    rw [put_eq_map (ids ▸ folder.apart) (ids ▸ not_not.mp old)]
    refine List.forall₂_map_left_iff.mpr (List.forall₂_map_right_iff.mpr ?_)
    refine stores.imp fun other entry same => ?_
    rw [same.1]
    split
    · exact ⟨rfl, holds⟩
    · exact same

/-- Deleting an identifier removes its entry from the folder. -/
theorem stores_remove (stores : List.Forall₂ Stores docs entries) (id : Value) :
    List.Forall₂ Stores (docs.filter (·.id != id))
      (entries.filter fun entry => entry.1 ≠ id) := by
  induction stores with
  | nil => exact .nil
  | @cons other entry _ _ same _ ih =>
    have agree : (other.id != id) = decide (entry.1 ≠ id) := by
      rw [same.1, bne, Bool.beq_eq_decide_eq, decide_not]
    rw [List.filter_cons, List.filter_cons, agree]
    split
    · exact .cons same ih
    · exact ih

/-- Fewer documents are left after a deletion exactly if there was one to delete. -/
theorem length_filter_lt_iff (docs : List StoredDocument) (id : Value) :
    (docs.filter (·.id != id)).length < docs.length ↔ id ∈ docs.map StoredDocument.id := by
  rw [List.length_filter_lt_length_iff_exists, List.mem_map]
  simp

/-! ### Names -/

theorem mem_names (named : (collections.map Prod.fst).Nodup) {name : String} :
    name ∈ collections.names ↔ collections.documents name ≠ [] := by
  rw [names, List.mem_mergeSort, documents]
  simp only [List.mem_map, List.mem_filter, Prod.exists, exists_and_right, exists_eq_right,
    ← Assoc.lookup_eq_some_iff_mem named]
  cases List.lookup name collections <;> simp

theorem nodup_names (named : (collections.map Prod.fst).Nodup) : collections.names.Nodup :=
  (List.mergeSort_perm _ _).nodup_iff.mpr (named.sublist (List.filter_sublist.map _))

theorem pairwise_names (collections : Collections) : collections.names.Pairwise (· ≤ ·) := by
  refine (List.pairwise_mergeSort ?_ ?_ _).imp (by simp)
  · intro a b c
    simpa using le_trans
  · intro a b
    simpa using le_total a b

/-! ### Requests -/

namespace Represents

theorem empty : Represents [] {} :=
  ⟨List.nodup_nil, fun _ => .nil⟩

/-- A change of one collection goes with a change of its folder. -/
theorem update (represents : Represents collections archive) (name : String)
    (named : (after.map Prod.fst).Nodup)
    (self : List.Forall₂ Stores (after.documents name) folder.entries)
    (others : ∀ other ≠ name, after.documents other = collections.documents other) :
    Represents after (archive.update name folder) := by
  refine ⟨named, fun other => ?_⟩
  by_cases same : other = name
  · subst same
    rw [Archive.folder_update_self]
    exact self
  · rw [others other same, Archive.folder_update_of_ne _ same]
    exact represents.stored other

/-- Searching a collection finds what is in the folder. -/
theorem find_eq (represents : Represents collections archive) (name : String) (filter : Filter) :
    collections.find name filter = .ok ((archive.folder name).matching filter) := by
  rw [find, mapM_load_eq (represents.stored name), Result.ok_bind, Result.pure_eq,
    Folder.matching]
  congr 1
  refine List.filter_congr fun doc _ => ?_
  rw [Bool.eq_iff_iff, Filter.accepts_iff_matches, decide_eq_true_iff]

/-- The names of the collections that hold documents are those of the folders that are not
empty. -/
theorem names_eq (represents : Represents collections archive) :
    collections.names = archive.names := by
  have same : archive.finite.toFinset = collections.names.toFinset := by
    ext name
    have sizes := (represents.stored name).length_eq
    rw [Set.Finite.mem_toFinset, List.mem_toFinset, mem_names represents.named,
      ← List.length_pos_iff, sizes, List.length_pos_iff, Set.mem_ofPred_eq]
  rw [Archive.names, same]
  exact ((List.toFinset_sort (· ≤ ·) (nodup_names represents.named)).mpr
    (pairwise_names collections)).symm

/-- Saving a document that can be read again is answered alike. -/
theorem serve_save (represents : Represents collections archive) (name : String)
    (narrow : Document.widest doc < Cbor.headLimit)
    (within : Document.levels doc ≤ Cbor.maxLevels) :
    (collections.serve (.save name doc)).1 = (archive.serve (.save name doc)).1 ∧
      Represents (collections.serve (.save name doc)).2 (archive.serve (.save name doc)).2 := by
  cases found : Document.get? doc idField with
  | none => simp [serve, save, idOf?, Archive.serve, found, represents]
  | some id =>
    by_cases unset : id = .null
    · have unidentified : idOf? doc = none := by simp [idOf?, found, unset, Value.isNull]
      simp [serve, save, unidentified, Archive.serve, found, unset, represents]
    · have identified : idOf? doc = some id := idOf?_eq_some.mpr ⟨found, unset⟩
      have holds := holds_write_of_levels_le narrow within identified
      have kept := represents.update name
        (Assoc.nodup_keys_insert name (put ⟨id, Cbor.write doc⟩ (collections.documents name))
          represents.named)
        (by
          rw [documents_insert_self]
          exact stores_put (represents.stored name) holds unset)
        fun other apart => documents_insert_of_ne apart collections
      simpa [serve, save, identified, Archive.serve, found, unset] using kept

/-- Deleting is answered alike. -/
theorem serve_delete (represents : Represents collections archive) (name : String) (id : Value) :
    (collections.serve (.delete name id)).1 = (archive.serve (.delete name id)).1 ∧
      Represents (collections.serve (.delete name id)).2 (archive.serve (.delete name id)).2 := by
  have stores := represents.stored name
  constructor
  · simp only [Collections.serve, delete, Archive.serve, StoreReply.removed.injEq, decide_eq_decide]
    rw [length_filter_lt_iff, ids_eq stores]
  · refine represents.update name ?_ ?_ fun other apart =>
      documents_delete_of_ne apart collections id
    · simp only [Collections.serve, delete]
      split
      · exact represents.named
      · exact Assoc.nodup_keys_insert _ _ represents.named
    · rw [Collections.serve, documents_delete_self]
      exact stores_remove stores id

/-- Every request is answered alike, and what follows is represented again. -/
theorem serve (represents : Represents collections archive) {request : StoreRequest}
    (readable : request.Readable) :
    (collections.serve request).1 = (archive.serve request).1 ∧
      Represents (collections.serve request).2 (archive.serve request).2 := by
  cases request with
  | save name doc => exact represents.serve_save name readable.1 readable.2
  | find name filter =>
    simp [Collections.serve, Archive.serve, represents.find_eq, represents]
  | findFirst name filter =>
    simp [Collections.serve, Archive.serve, findFirst, represents.find_eq, Result.ok_bind,
      Result.pure_eq, represents]
  | delete name id => exact represents.serve_delete name id
  | count name =>
    simp [Collections.serve, Archive.serve, count, (represents.stored name).length_eq, represents]
  | names => simp [Collections.serve, Archive.serve, represents.names_eq, represents]
  | clear => exact ⟨rfl, empty⟩

/-- A run of requests is answered alike. -/
theorem replies_eq (represents : Represents collections archive) {requests : List StoreRequest}
    (readable : ∀ request ∈ requests, request.Readable) :
    replies Collections.serve collections requests = replies Archive.serve archive requests := by
  induction requests generalizing collections archive with
  | nil => rfl
  | cons request rest ih =>
    have step := represents.serve (readable request List.mem_cons_self)
    rw [replies, replies, step.1, ih step.2 fun later member =>
      readable later (List.mem_cons_of_mem _ member)]

end Represents

/-- A store that starts empty answers every run of requests as an empty archive does. -/
theorem replies_eq_archive {requests : List StoreRequest}
    (readable : ∀ request ∈ requests, request.Readable) :
    replies serve [] requests = replies Archive.serve {} requests :=
  Represents.empty.replies_eq readable

end Collections

namespace Samples

/-- A notebook is filled, searched, emptied and forgotten. -/
def notes : List StoreRequest :=
  [.save "notes" [("_id", .integer 1), ("text", .text "eins")],
    .save "notes" [("_id", .integer 2)],
    .save "notes" [("_id", .integer 1), ("text", .text "one")],
    .save "notes" [("_id", .null)],
    .find "notes" (.idIn [.integer 2, .integer 9, .integer 2, .integer 1]),
    .delete "notes" (.integer 2),
    .delete "notes" (.integer 2),
    .save "drafts" [("_id", .text "a")],
    .delete "drafts" (.text "a"),
    .names,
    .clear,
    .count "notes"]

/-- What an archive replies: the first document is replaced where it stands, and a search finds
every document once. -/
theorem replies_eq_archive_notes :
    (∀ request ∈ notes, request.Readable) ∧ replies Archive.serve {} notes =
      [.done, .done, .done, .refused (.missingId "notes"),
        .documents [[("_id", .integer 1), ("text", .text "one")], [("_id", .integer 2)]],
        .removed true, .removed false, .done, .removed true, .names ["notes"], .done,
        .number 0] := by
  have readable : ∀ request ∈ notes, request.Readable := by decide +kernel
  refine ⟨readable, ?_⟩
  rw [← Collections.replies_eq_archive readable]
  decide +kernel

end Samples

end DocMapper
