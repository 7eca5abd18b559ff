import Mathlib.Data.Finset.Sort
import Mathlib.Data.Set.Finite.Basic
import Mathlib.Data.String.Basic
import DocMapper.Proofs.Cbor.RoundTrip
import DocMapper.Store.Collections

/-!
# Archives

What a store is to its callers. An archive has a folder for every name, all but finitely many of
them empty. A folder is a list of documents, each under an identifier of its own that is not null;
nothing in it tells of bytes. Requests are what can be asked of a store, and replies are what it
answers.
-/

namespace DocMapper

inductive StoreRequest where
  | save (name : String) (doc : Document)
  | find (name : String) (filter : Filter)
  | findFirst (name : String) (filter : Filter)
  | delete (name : String) (id : Value)
  | count (name : String)
  | names
  | clear

/-- A document that the request saves nests no deeper than the reader follows, and has no length
that eight bytes cannot tell. -/
def StoreRequest.Readable : StoreRequest → Prop
  | .save _ doc => Document.widest doc < Cbor.headLimit ∧ Document.levels doc ≤ Cbor.maxLevels
  | _ => True

instance : DecidablePred StoreRequest.Readable := fun request =>
  match request with
  | .save .. => inferInstanceAs (Decidable (_ ∧ _))
  | .find .. | .findFirst .. | .delete .. | .count _ | .names | .clear =>
    inferInstanceAs (Decidable True)

inductive StoreReply where
  | done
  | refused (error : StoreError)
  | documents (docs : List Document)
  | document (doc : Option Document)
  | removed (any : Bool)
  | number (n : Nat)
  | names (names : List String)
deriving DecidableEq

/-- The replies to requests that are made one after the other. -/
def replies {σ : Type} (serve : σ → StoreRequest → StoreReply × σ) :
    σ → List StoreRequest → List StoreReply
  | _, [] => []
  | state, request :: rest =>
    (serve state request).1 :: replies serve (serve state request).2 rest

/-- The document has the value, or one of the values, that the filter asks for. -/
def Filter.Matches (doc : Document) : Filter → Prop
  | .eq field value => Document.get? doc field = some value
  | .oneOf field values => ∃ value ∈ values, Document.get? doc field = some value

instance (doc : Document) (filter : Filter) : Decidable (filter.Matches doc) :=
  match filter with
  | .eq field value => inferInstanceAs (Decidable (Document.get? doc field = some value))
  | .oneOf field values =>
    inferInstanceAs (Decidable (∃ value ∈ values, Document.get? doc field = some value))

/-- Documents in order, each under an identifier of its own. -/
structure Folder where
  entries : List (Value × Document) := []
  apart : (entries.map Prod.fst).Nodup := by simp
  set : ∀ entry ∈ entries, entry.1 ≠ .null := by simp

namespace Folder

variable (folder : Folder) {id : Value}

def replace (id : Value) (doc : Document) : Folder where
  entries := folder.entries.map fun entry => if entry.1 = id then (id, doc) else entry
  apart := by
    have same : (folder.entries.map fun entry => if entry.1 = id then (id, doc) else entry).map
        Prod.fst = folder.entries.map Prod.fst := by
      rw [List.map_map]
      refine List.map_congr_left fun entry _ => ?_
      rw [Function.comp_apply]
      split
      next here => exact here.symm
      · rfl
    rw [same]
    exact folder.apart
  set := by
    intro entry member
    obtain ⟨old, inFolder, rfl⟩ := List.mem_map.mp member
    split
    next here => exact here ▸ folder.set old inFolder
    · exact folder.set old inFolder

def append (doc : Document) (set : id ≠ .null) (new : id ∉ folder.entries.map Prod.fst) :
    Folder where
  entries := folder.entries ++ [(id, doc)]
  apart := by
    rw [List.map_append, List.map_singleton, List.nodup_append]
    refine ⟨folder.apart, List.nodup_singleton id, ?_⟩
    rintro other member _ inNew rfl
    obtain rfl : other = id := List.mem_singleton.mp inNew
    exact new member
  set := by
    intro entry member
    rcases List.mem_append.mp member with member | member
    · exact folder.set entry member
    · rw [List.mem_singleton.mp member]
      exact set

/-- Puts a document in place of the one under its identifier, or behind all others. -/
def put (doc : Document) (set : id ≠ .null) : Folder :=
  if new : id ∉ folder.entries.map Prod.fst then folder.append doc set new
  else folder.replace id doc

def remove (id : Value) : Folder where
  entries := folder.entries.filter fun entry => entry.1 ≠ id
  apart := folder.apart.sublist (List.filter_sublist.map _)
  set := fun entry member => folder.set entry (List.mem_filter.mp member).1

def matching (filter : Filter) : List Document :=
  (folder.entries.map Prod.snd).filter fun doc => filter.Matches doc

end Folder

/-- A folder for every name. -/
structure Archive where
  folder : String → Folder := fun _ => {}
  finite : {name | (folder name).entries ≠ []}.Finite := by simp

namespace Archive

variable (archive : Archive)

def update (name : String) (folder : Folder) : Archive where
  folder := Function.update archive.folder name folder
  finite := by
    refine (archive.finite.insert name).subset fun other filled => ?_
    by_cases same : other = name
    · exact .inl same
    · rw [Set.mem_ofPred_eq, Function.update_of_ne same] at filled
      exact .inr filled

@[simp]
theorem folder_update_self (name : String) (folder : Folder) :
    (archive.update name folder).folder name = folder :=
  Function.update_self ..

theorem folder_update_of_ne {name other : String} (apart : other ≠ name) (folder : Folder) :
    (archive.update name folder).folder other = archive.folder other :=
  Function.update_of_ne apart ..

/-- The names of the folders that are not empty, in order. -/
noncomputable def names : List String :=
  archive.finite.toFinset.sort

noncomputable def serve : StoreRequest → StoreReply × Archive
  | .save name doc =>
    match Document.get? doc idField with
    | none => (.refused (.missingId name), archive)
    | some id =>
      if set : id ≠ .null then (.done, archive.update name ((archive.folder name).put doc set))
      else (.refused (.missingId name), archive)
  | .find name filter => (.documents ((archive.folder name).matching filter), archive)
  | .findFirst name filter => (.document ((archive.folder name).matching filter).head?, archive)
  | .delete name id =>
    (.removed (id ∈ (archive.folder name).entries.map Prod.fst),
      archive.update name ((archive.folder name).remove id))
  | .count name => (.number (archive.folder name).entries.length, archive)
  | .names => (.names archive.names, archive)
  | .clear => (.done, {})

end Archive

namespace Collections

def serve (collections : Collections) : StoreRequest → StoreReply × Collections
  | .save name doc =>
    match collections.save name doc with
    | .ok after => (.done, after)
    | .error error => (.refused error, collections)
  | .find name filter =>
    match collections.find name filter with
    | .ok docs => (.documents docs, collections)
    | .error error => (.refused error, collections)
  | .findFirst name filter =>
    match collections.findFirst name filter with
    | .ok doc => (.document doc, collections)
    | .error error => (.refused error, collections)
  | .delete name id =>
    (.removed (collections.delete name id).1, (collections.delete name id).2)
  | .count name => (.number (collections.count name), collections)
  | .names => (.names collections.names, collections)
  | .clear => (.done, collections.clear)

end Collections

end DocMapper
