import DocMapper.Datastore.Basic
import DocMapper.Proofs.Datastore.Gathering
import DocMapper.Proofs.FirstOccurrences

/-!
# What references cost

A stored reference asks for one place or for many. What it costs is told by the places that are
known when its turn comes: a single place that is not known costs one call, and many cost one search
for each collection with a place that is not known, in the order in which such a place first
occurs. A place is known once it was asked for, so requests one after the other never ask for a
place twice. The batches of a cache are these searches.
-/

namespace DocMapper

/-! ### Calls -/

def StoreCall.places : StoreCall → List Pointer
  | .findFirst collection (.eq field id) => if field = idField then [⟨collection, id⟩] else []
  | .find collection (.oneOf field ids) => if field = idField then ids.map (⟨collection, ·⟩) else []
  | _ => []

@[simp] theorem StoreCall.places_findFirst (collection : String) (id : Value) :
    (findFirst collection (.idEq id)).places = [⟨collection, id⟩] := rfl

@[simp] theorem StoreCall.places_find (collection : String) (ids : List Value) :
    (find collection (.idIn ids)).places = ids.map (⟨collection, ·⟩) := rfl

/-- One search for each collection of the places, in the order of the first place in it, by the
identifiers of its places in their order. -/
def searches (places : List Pointer) : List StoreCall :=
  (places.map Pointer.collection).eraseDups.map fun collection =>
    .find collection (.idIn ((places.filter (·.collection = collection)).map Pointer.id))

/-- The places that are not known, each where it first occurs. -/
def unknownPlaces (known places : List Pointer) : List Pointer :=
  (places.filter (· ∉ known)).eraseDups

inductive Request where
  | one (place : Pointer)
  | many (places : List Pointer)

namespace Request

def places : Request → List Pointer
  | one place => [place]
  | many places => places

/-- What the request costs where some places are known. -/
def calls (known : List Pointer) : Request → List StoreCall
  | one place => if place ∈ known then [] else [.findFirst place.collection (.idEq place.id)]
  | many places => searches (unknownPlaces known places)

end Request

/-- What requests cost one after the other, each on what those before it made known. -/
def lookups (known : List Pointer) : List Request → List StoreCall
  | [] => []
  | request :: rest => request.calls known ++ lookups (known ++ request.places) rest

section

variable {known known' places : List Pointer} {place : Pointer} {request : Request}
  {requests : List Request}

theorem mem_unknownPlaces :
    place ∈ unknownPlaces known places ↔ place ∈ places ∧ place ∉ known := by
  simp [unknownPlaces, List.mem_eraseDups]

theorem unknownPlaces_cons_of_mem (isKnown : place ∈ known) :
    unknownPlaces known (place :: places) = unknownPlaces known places := by
  simp [unknownPlaces, isKnown]

theorem unknownPlaces_cons_of_not_mem {seen : List Pointer} (unknown : place ∉ known ++ seen) :
    unknownPlaces (known ++ seen) (place :: places) =
      place :: unknownPlaces (known ++ place :: seen) places := by
  rw [unknownPlaces, unknownPlaces, List.filter_cons, if_pos (decide_eq_true unknown),
    List.eraseDups_cons, List.filter_filter]
  congr 2
  refine List.filter_congr fun other _ => ?_
  by_cases same : other = place <;> simp [same]

/-- The searches of a collection ask for the places in it. -/
theorem places_searches (places : List Pointer) :
    (searches places).flatMap StoreCall.places =
      (places.map Pointer.collection).eraseDups.flatMap fun collection =>
        places.filter (·.collection = collection) := by
  rw [searches, List.flatMap_map]
  refine List.flatMap_congr fun collection _ => ?_
  rw [StoreCall.places_find, List.map_map]
  refine List.map_congr_left (fun place member => ?_) |>.trans (List.map_id _)
  obtain ⟨-, here⟩ := List.mem_filter.mp member
  rw [decide_eq_true_eq] at here
  subst here
  rfl

theorem mem_places_searches :
    place ∈ (searches places).flatMap StoreCall.places ↔ place ∈ places := by
  rw [places_searches]
  simp only [List.mem_flatMap, List.mem_eraseDups, List.mem_map, List.mem_filter,
    decide_eq_true_eq]
  exact ⟨fun ⟨_, _, member, _⟩ => member, fun member => ⟨_, ⟨place, member, rfl⟩, member, rfl⟩⟩

theorem nodup_places_searches (distinct : places.Nodup) :
    ((searches places).flatMap StoreCall.places).Nodup := by
  rw [places_searches, List.nodup_flatMap]
  refine ⟨fun collection _ => distinct.filter _, ?_⟩
  refine (nodup_eraseDups _).imp fun apart place member member' => apart ?_
  have here := (List.mem_filter.mp member).2
  have there := (List.mem_filter.mp member').2
  rw [decide_eq_true_eq] at here there
  exact here.symm.trans there

namespace Request

theorem mem_places_calls : place ∈ (request.calls known).flatMap StoreCall.places ↔
    place ∈ request.places ∧ place ∉ known := by
  cases request with
  | one only =>
    by_cases isKnown : only ∈ known
    · simp only [calls, isKnown, if_true, places, List.flatMap_nil, List.not_mem_nil,
        List.mem_singleton, false_iff, not_and, not_not]
      rintro rfl
      exact isKnown
    · simp only [calls, isKnown, if_false, places, List.flatMap_singleton,
        StoreCall.places_findFirst, List.mem_singleton]
      refine ⟨?_, And.left⟩
      rintro rfl
      exact ⟨rfl, isKnown⟩
  | many => rw [calls, mem_places_searches, mem_unknownPlaces, places]

theorem nodup_places_calls : ((request.calls known).flatMap StoreCall.places).Nodup := by
  cases request with
  | one place =>
    rw [calls]
    split <;> simp
  | many => exact nodup_places_searches (nodup_eraseDups _)

end Request

theorem lookups_append (known : List Pointer) (first second : List Request) :
    lookups known (first ++ second) =
      lookups known first ++ lookups (known ++ first.flatMap Request.places) second := by
  induction first generalizing known with
  | nil => simp [lookups]
  | cons request rest ih => simp [lookups, ih]

/-- Only places that are not known are asked for. -/
theorem not_mem_of_mem_places_lookups
    (member : place ∈ (lookups known requests).flatMap StoreCall.places) : place ∉ known := by
  induction requests generalizing known with
  | nil => simp [lookups] at member
  | cons request rest ih =>
    rw [lookups, List.flatMap_append, List.mem_append] at member
    rcases member with here | later
    · exact (Request.mem_places_calls.mp here).2
    · exact fun isKnown => ih later (List.mem_append_left _ isKnown)

/-- No place is asked for twice. -/
theorem nodup_places_lookups (known : List Pointer) (requests : List Request) :
    ((lookups known requests).flatMap StoreCall.places).Nodup := by
  induction requests generalizing known with
  | nil => simp [lookups]
  | cons request rest ih =>
    rw [lookups, List.flatMap_append, List.nodup_append']
    refine ⟨Request.nodup_places_calls, ih _, fun place here later => ?_⟩
    exact not_mem_of_mem_places_lookups later
      (List.mem_append_right _ (Request.mem_places_calls.mp here).1)

end

/-! ### Batches -/

namespace Batch

def call (batch : Batch) : StoreCall :=
  .find batch.collection (.idIn batch.ids)

def places (batch : Batch) : List Pointer :=
  batch.ids.map (⟨batch.collection, ·⟩)

/-- These batches ask for the places, one for each collection in the order of the first place in
it. -/
structure Grouped (places : List Pointer) (batches : List Batch) : Prop where
  collections : batches.map collection = (places.map Pointer.collection).eraseDups
  ids : ∀ batch ∈ batches,
    batch.ids = (places.filter (·.collection = batch.collection)).map Pointer.id

variable {places : List Pointer} {batches : List Batch} {batch : Batch} {key : Key}

/-- A key is added to the only batch of its collection. -/
theorem mem_add_of_nodup (distinct : (batches.map collection).Nodup)
    (member : batch ∈ add batches key) :
    (batch ∈ batches ∧ batch.collection ≠ key.collection) ∨
      (key.collection ∉ batches.map collection ∧
        batch = ⟨key.collection, key.className, [key.id]⟩) ∨
      ∃ old ∈ batches, old.collection = key.collection ∧
        batch = { old with ids := old.ids ++ [key.id] } := by
  induction batches with
  | nil => exact .inr (.inl ⟨by simp, List.mem_singleton.mp member⟩)
  | cons first rest ih =>
    rw [List.map_cons, List.nodup_cons] at distinct
    rw [add] at member
    by_cases here : first.collection = key.collection
    · rw [if_pos here] at member
      rcases List.mem_cons.mp member with rfl | member
      · exact .inr (.inr ⟨first, List.mem_cons_self, here, rfl⟩)
      · refine .inl ⟨List.mem_cons_of_mem _ member, fun same => distinct.1 ?_⟩
        exact List.mem_map.mpr ⟨batch, member, same.trans here.symm⟩
    · rw [if_neg here] at member
      rcases List.mem_cons.mp member with rfl | member
      · exact .inl ⟨List.mem_cons_self, here⟩
      · rcases ih distinct.2 member with ⟨old, apart⟩ | ⟨new, isNew⟩ | ⟨old, isOld, same, grown⟩
        · exact .inl ⟨List.mem_cons_of_mem _ old, apart⟩
        · exact .inr (.inl ⟨by simp [Ne.symm here, new], isNew⟩)
        · exact .inr (.inr ⟨old, List.mem_cons_of_mem _ isOld, same, grown⟩)

theorem Grouped.add (grouped : Grouped places batches) (key : Key) :
    Grouped (places ++ [key.pointer]) (add batches key) := by
  have distinct : (batches.map collection).Nodup := grouped.collections ▸ nodup_eraseDups _
  have known : key.collection ∈ batches.map collection ↔
      key.pointer.collection ∈ places.map Pointer.collection := by
    rw [grouped.collections, List.mem_eraseDups]
    rfl
  refine ⟨?_, fun batch member => ?_⟩
  · rw [collections_add, List.map_append, List.map_singleton, eraseDups_concat,
      ← grouped.collections]
    simp only [known]
    rfl
  · rw [List.filter_append, List.map_append]
    rcases mem_add_of_nodup distinct member with ⟨old, apart⟩ | ⟨new, rfl⟩ | ⟨old, isOld, same, rfl⟩
    · simp [grouped.ids batch old, Key.pointer, Ne.symm apart]
    · have none : places.filter (·.collection = key.collection) = [] := by
        refine List.filter_eq_nil_iff.mpr fun place member here => new (known.mpr ?_)
        exact List.mem_map.mpr ⟨place, member, of_decide_eq_true here⟩
      simp [none, Key.pointer]
    · simp [grouped.ids old isOld, Key.pointer, same]

theorem grouped_foldl (keys : List Key) :
    Grouped (keys.map Key.pointer) (keys.foldl Batch.add []) := by
  induction keys using List.reverseRecOn with
  | nil => exact ⟨rfl, by simp⟩
  | append_singleton earlier key ih =>
    rw [List.foldl_append, List.map_append]
    exact ih.add key

theorem Grouped.map_call (grouped : Grouped places batches) :
    batches.map call = searches places := by
  rw [searches, ← grouped.collections, List.map_map]
  refine List.map_congr_left fun batch member => ?_
  rw [call, grouped.ids batch member]
  rfl

end Batch

namespace EntityCache

/-- These are the places that the cache knows. -/
def Covers (cache : EntityCache) (known : List Pointer) : Prop :=
  ∀ place, cache.contains place = true ↔ place ∈ known

variable {cache : EntityCache} {known : List Pointer}

theorem covers_nil : Covers [] [] := by
  intro place
  simp [contains, get?]

theorem Covers.insert (covers : cache.Covers known) (place : Pointer) (result : Option Entity) :
    (cache.insert place result).Covers (known ++ [place]) := by
  intro other
  by_cases same : other = place
  · subst same
    simp [contains_insert_self]
  · rw [contains, get?_insert_of_ne _ same, ← contains, covers other]
    simp [same]

theorem Covers.map_pointer_unknown (covers : cache.Covers known) (seen : List Pointer)
    (keys : List Key) :
    (cache.unknown seen keys).map Key.pointer =
      unknownPlaces (known ++ seen) (keys.map Key.pointer) := by
  fun_induction cache.unknown seen keys with
  | case1 => rfl
  | case2 seen key rest met ih =>
    have isKnown : key.pointer ∈ known ++ seen := by
      simpa [covers key.pointer] using met
    rw [ih, List.map_cons, unknownPlaces_cons_of_mem isKnown]
  | case3 seen key rest new ih =>
    have unknown : key.pointer ∉ known ++ seen := by
      simpa [← covers key.pointer] using new
    rw [List.map_cons, ih, List.map_cons, unknownPlaces_cons_of_not_mem unknown]

/-- The batches of a cache ask for what it does not know. -/
theorem Covers.map_call_batches (covers : cache.Covers known) (keys : List Key) :
    (cache.batches keys).map Batch.call = (Request.many (keys.map Key.pointer)).calls known := by
  rw [batches, (Batch.grouped_foldl _).map_call, covers.map_pointer_unknown, List.append_nil]
  rfl

end EntityCache

end DocMapper
