import DocMapper.Proofs.Datastore.Loading
import DocMapper.Proofs.Datastore.LookUp

/-!
# Gathering entities in a cache

What an operation puts into the cache is what its keys are looked up as, and what is known stays
known. `Collects` is a contract of this form for operations that end the same way whatever the cache
holds; it is closed under sequences. Keys of one class make one batch for each collection, so that
fetching the batches ends well exactly if all of them are read, and then every key is known.
-/

namespace DocMapper

/-- Keys of one class are told apart by their places. -/
theorem Key.eq_of_pointer_eq {key other : Key} (sameClass : other.className = key.className)
    (same : other.pointer = key.pointer) : other = key := by
  obtain ⟨className, collection, id⟩ := key
  obtain ⟨className', collection', id'⟩ := other
  obtain rfl : className' = className := sameClass
  obtain ⟨rfl, rfl⟩ := Pointer.mk.inj same
  rfl

/-! ### Batches -/

/-- Batches of one class with the given keys, one for each collection. -/
structure Batched (name : ClassName) (keys : List Key) (batches : List Batch) : Prop where
  sameClass : ∀ batch ∈ batches, batch.className = name
  asked : ∀ batch ∈ batches, batch.ids ≠ []
  apart : (batches.map Batch.collection).Nodup
  members : ∀ key, (∃ batch ∈ batches, key ∈ batch.keys) ↔ key ∈ keys

namespace Batch

variable {batches : List Batch} {key other : Key} {batch : Batch}

theorem collections_add (batches : List Batch) (key : Key) :
    (add batches key).map collection =
      if key.collection ∈ batches.map collection then batches.map collection
      else batches.map collection ++ [key.collection] := by
  induction batches with
  | nil => rfl
  | cons first rest ih =>
    rw [add]
    by_cases here : first.collection = key.collection
    · simp [here]
    · rw [if_neg here, List.map_cons, ih, List.map_cons]
      by_cases later : key.collection ∈ rest.map collection
      · rw [if_pos later, if_pos (List.mem_cons_of_mem _ later)]
      · rw [if_neg later, if_neg fun member => later ((List.mem_cons.mp member).resolve_left
          fun same => here same.symm), List.cons_append]

/-- A key is added to a batch, be it a new one; every other batch stays. -/
theorem mem_add (member : batch ∈ add batches key) :
    batch ∈ batches ∨ batch = ⟨key.collection, key.className, [key.id]⟩ ∨
      ∃ old ∈ batches, old.collection = key.collection ∧
        batch = { old with ids := old.ids ++ [key.id] } := by
  induction batches with
  | nil => exact .inr (.inl (List.mem_singleton.mp member))
  | cons first rest ih =>
    rw [add] at member
    split at member
    next here =>
      rcases List.mem_cons.mp member with rfl | member
      · exact .inr (.inr ⟨first, List.mem_cons_self, here, rfl⟩)
      · exact .inl (List.mem_cons_of_mem _ member)
    · rcases List.mem_cons.mp member with rfl | member
      · exact .inl List.mem_cons_self
      · rcases ih member with old | new | ⟨old, member, grown⟩
        · exact .inl (List.mem_cons_of_mem _ old)
        · exact .inr (.inl new)
        · exact .inr (.inr ⟨old, List.mem_cons_of_mem _ member, grown⟩)

/-- The keys of batches of one class with a key added. -/
theorem exists_mem_keys_add (sameClass : ∀ batch ∈ batches, batch.className = key.className) :
    (∃ batch ∈ add batches key, other ∈ batch.keys) ↔
      (∃ batch ∈ batches, other ∈ batch.keys) ∨ other = key := by
  induction batches with
  | nil =>
    have own : other ∈ keys ⟨key.collection, key.className, [key.id]⟩ ↔ other = key :=
      List.mem_singleton
    simp [add, own]
  | cons first rest ih =>
    have isClass := sameClass first List.mem_cons_self
    have later := ih fun batch member => sameClass batch (List.mem_cons_of_mem _ member)
    rw [add]
    split
    next here =>
      have own : other ∈ keys { first with ids := first.ids ++ [key.id] } ↔
          other ∈ first.keys ∨ other = key := by
        simp only [keys, List.map_append, List.mem_append, List.map_singleton, List.mem_singleton,
          isClass, here]
      simp only [List.exists_mem_cons_iff, own]
      exact or_right_comm
    · simp only [List.exists_mem_cons_iff, later, or_assoc]

end Batch

namespace Batched

variable {name : ClassName} {keys : List Key} {batches : List Batch} {key : Key} {batch : Batch}

theorem nil (name : ClassName) : Batched name [] [] :=
  ⟨by simp, by simp, List.nodup_nil, by simp⟩

theorem add (batched : Batched name keys batches) (isClass : key.className = name) :
    Batched name (keys ++ [key]) (Batch.add batches key) := by
  refine ⟨fun batch member => ?_, fun batch member => ?_, ?_, fun other => ?_⟩
  · rcases Batch.mem_add member with old | rfl | ⟨old, isBatch, -, rfl⟩
    · exact batched.sameClass batch old
    · exact isClass
    · exact batched.sameClass old isBatch
  · rcases Batch.mem_add member with old | rfl | ⟨old, isBatch, -, rfl⟩
    · exact batched.asked batch old
    · simp
    · simp
  · rw [Batch.collections_add]
    split
    · exact batched.apart
    next new => simpa using batched.apart.concat new
  · rw [Batch.exists_mem_keys_add fun batch member => (batched.sameClass batch member).trans
      isClass.symm, batched.members, List.mem_append, List.mem_singleton]

theorem foldl (batched : Batched name keys batches) {more : List Key}
    (sameClass : ∀ key ∈ more, key.className = name) :
    Batched name (keys ++ more) (more.foldl Batch.add batches) := by
  induction more generalizing keys batches with
  | nil => simpa using batched
  | cons first rest ih =>
    have next := ih (batched.add (sameClass first List.mem_cons_self)) fun key member =>
      sameClass key (List.mem_cons_of_mem _ member)
    rwa [List.append_assoc, List.singleton_append] at next

theorem mem_keys_iff (batched : Batched name keys batches) (member : batch ∈ batches) :
    key ∈ batch.keys ↔ key ∈ keys ∧ key.collection = batch.collection := by
  constructor
  · intro own
    exact ⟨(batched.members key).mp ⟨batch, member, own⟩, (Batch.mem_keys.mp own).2.1⟩
  · rintro ⟨inKeys, here⟩
    obtain ⟨other, isBatch, own⟩ := (batched.members key).mpr inKeys
    have same : other.collection = batch.collection := (Batch.mem_keys.mp own).2.1.symm.trans here
    obtain rfl : other = batch := List.inj_on_of_nodup_map batched.apart isBatch member same
    exact own

end Batched

namespace EntityCache

theorem contains_insert_self (cache : EntityCache) (place : Pointer) (found : Option Entity) :
    (cache.insert place found).contains place = true := by
  rw [contains, get?_insert_self]
  rfl

variable {cache : EntityCache} {seen : List Pointer} {keys : List Key} {key : Key}
  {name : ClassName}

theorem of_mem_unknown (member : key ∈ cache.unknown seen keys) :
    key ∈ keys ∧ cache.contains key.pointer = false := by
  fun_induction cache.unknown seen keys with
  | case1 => cases member
  | case2 seen first rest known ih =>
    exact ⟨List.mem_cons_of_mem _ (ih member).1, (ih member).2⟩
  | case3 seen first rest fresh ih =>
    have new : cache.contains first.pointer = false ∧ first.pointer ∉ seen := by simpa using fresh
    rcases List.mem_cons.mp member with rfl | member
    · exact ⟨List.mem_cons_self, new.1⟩
    · exact ⟨List.mem_cons_of_mem _ (ih member).1, (ih member).2⟩

theorem exists_mem_unknown (member : key ∈ keys) (new : cache.contains key.pointer = false)
    (unseen : key.pointer ∉ seen) :
    ∃ other ∈ cache.unknown seen keys, other.pointer = key.pointer := by
  fun_induction cache.unknown seen keys with
  | case1 => cases member
  | case2 seen first rest known ih =>
    rcases List.mem_cons.mp member with rfl | member
    · simp [new, unseen] at known
    · exact ih member unseen
  | case3 seen first rest fresh ih =>
    by_cases here : first.pointer = key.pointer
    · exact ⟨first, List.mem_cons_self, here⟩
    · have inRest : key ∈ rest :=
        (List.mem_cons.mp member).resolve_left fun same => here (same ▸ rfl)
      obtain ⟨other, isUnknown, same⟩ := ih inRest (by simp [unseen, Ne.symm here])
      exact ⟨other, List.mem_cons_of_mem _ isUnknown, same⟩

/-- Among keys of one class, those that are asked for are those that are not known. -/
theorem mem_unknown_iff (sameClass : ∀ key ∈ keys, key.className = name) :
    key ∈ cache.unknown [] keys ↔ key ∈ keys ∧ cache.contains key.pointer = false := by
  refine ⟨of_mem_unknown, fun ⟨member, new⟩ => ?_⟩
  obtain ⟨other, isUnknown, same⟩ := exists_mem_unknown member new (List.not_mem_nil)
  have isClass := (sameClass other (of_mem_unknown isUnknown).1).trans (sameClass key member).symm
  exact Key.eq_of_pointer_eq isClass same ▸ isUnknown

/-- The batches of keys of one class have the keys that are not known. -/
theorem batched_batches (cache : EntityCache) (sameClass : ∀ key ∈ keys, key.className = name) :
    Batched name (cache.unknown [] keys) (cache.batches keys) :=
  (Batched.nil name).foldl fun key member => sameClass key (of_mem_unknown member).1

end EntityCache

/-! ### What operations gather -/

/-- The place under which a batch notes a document. -/
def Batch.IsPlaceOf (batch : Batch) (doc : Document) (place : Pointer) : Prop :=
  place.collection = batch.collection ∧ Document.get? doc idField = some place.id

namespace Mapper

/-- The second state is the first with what is found at the places of keys. -/
structure Gathers (mapper : Mapper) (world : World) (keys : List Key)
    (before after : World × EntityCache) : Prop where
  keeps : world.Keeps mapper.catalog after.1
  kept : ∀ place, before.2.contains place = true → after.2.contains place = true
  found : ∀ place result, after.2.get? place = some result →
    before.2.get? place = some result ∨
      ∃ key ∈ keys, key.pointer = place ∧ mapper.lookUp world.store.collections key = .ok result

/-- Where the given places are known, the operation ends with the result and gathers what keys are
looked up as; if the result is good, the places it takes are known afterwards. -/
def Collects (mapper : Mapper) (world : World) (keys : List Key) (given taken : Pointer → Prop)
    (act : ResolveM Unit) (result : Except MapError Unit) : Prop :=
  ∀ state : World × EntityCache, world.Keeps mapper.catalog state.1 →
    (∀ place, given place → state.2.contains place = true) →
      ∃ after, mapper.Gathers world keys state after ∧ act.outcome state = (result, after) ∧
        (result = .ok () → ∀ place, taken place → after.2.contains place = true)

variable {mapper : Mapper} {world : World} {keys : List Key}
  {before middle after : World × EntityCache} {given taken : Pointer → Prop} {act : ResolveM Unit}
  {result : Except MapError Unit} {key : Key} {batch : Batch} {doc : Document} {id : Value}
  {collections : Collections}

namespace Gathers

theorem refl (keeps : world.Keeps mapper.catalog before.1) :
    mapper.Gathers world keys before before :=
  ⟨keeps, fun _ known => known, fun _ _ found => .inl found⟩

theorem trans (first : mapper.Gathers world keys before middle)
    (second : mapper.Gathers world keys middle after) : mapper.Gathers world keys before after := by
  refine ⟨second.keeps, fun place known => second.kept place (first.kept place known),
    fun place result here => ?_⟩
  rcases second.found place result here with earlier | found
  · exact first.found place result earlier
  · exact .inr found

/-- The world may change as long as its documents stay. -/
theorem of_keeps {other : World} (keeps : world.Keeps mapper.catalog other) :
    mapper.Gathers world keys before (other, before.2) :=
  ⟨keeps, fun _ known => known, fun _ _ found => .inl found⟩

theorem remember (keeps : world.Keeps mapper.catalog before.1) (member : key ∈ keys)
    {found : Option Entity} (isFound : mapper.lookUp world.store.collections key = .ok found) :
    mapper.Gathers world keys before (before.1, before.2.insert key.pointer found) := by
  refine ⟨keeps, fun place known => ?_, fun place result here => ?_⟩
  · by_cases same : place = key.pointer
    · rw [same]
      exact EntityCache.contains_insert_self before.2 _ _
    · rwa [EntityCache.contains, EntityCache.get?_insert_of_ne _ same]
  · by_cases same : place = key.pointer
    · rw [same, EntityCache.get?_insert_self] at here
      exact .inr ⟨key, member, same.symm, Option.some.inj here ▸ isFound⟩
    · rw [EntityCache.get?_insert_of_ne _ same] at here
      exact .inl here

end Gathers

namespace Collects

variable {next : ResolveM Unit} {second : Except MapError Unit} {between : Pointer → Prop}

theorem bind (first : mapper.Collects world keys given between act result)
    (later : mapper.Collects world keys between taken next second) :
    mapper.Collects world keys given taken (act >>= fun _ => next)
      (result >>= fun _ => second) := by
  intro state keeps known
  obtain ⟨middle, gathers, ran, taken⟩ := first state keeps known
  cases result with
  | error error => exact ⟨middle, gathers, Run.outcome_bind_of_error ran, fun good => by cases good⟩
  | ok =>
    obtain ⟨after, gathers', ran', taken'⟩ := later middle gathers.keeps (taken rfl)
    exact ⟨after, gathers.trans gathers', (Run.outcome_bind_of_ok ran).trans ran', taken'⟩

/-- Working through a list takes what each of its members takes. -/
theorem forM {α : Type} {items : List α} {act : α → ResolveM Unit}
    {result : α → Except MapError Unit} {taken : α → Pointer → Prop}
    (each : ∀ a ∈ items, mapper.Collects world keys given (taken a) (act a) (result a)) :
    mapper.Collects world keys given (fun place => ∃ a ∈ items, taken a place)
      (items.forM act) (items.forM result) := by
  induction items with
  | nil =>
    intro state keeps _
    exact ⟨state, .refl keeps, rfl, by simp⟩
  | cons first rest ih =>
    intro state keeps known
    obtain ⟨middle, gathers, ran, here⟩ := each first List.mem_cons_self state keeps known
    rw [Result.forM_cons]
    cases ends : result first with
    | error error =>
      rw [ends] at ran
      exact ⟨middle, gathers, Run.outcome_bind_of_error ran, fun good => by cases good⟩
    | ok =>
      rw [ends] at ran here
      obtain ⟨after, gathers', ran', later⟩ := ih
        (fun a member => each a (List.mem_cons_of_mem _ member)) middle gathers.keeps
        fun place isGiven => gathers.kept place (known place isGiven)
      refine ⟨after, gathers.trans gathers', (Run.outcome_bind_of_ok ran).trans ran', ?_⟩
      rintro good place ⟨a, member, isTaken⟩
      rcases List.mem_cons.mp member with rfl | member
      · exact gathers'.kept place (here rfl place isTaken)
      · exact later good place ⟨a, member, isTaken⟩

end Collects

/-- Nothing is noted where a document was found, and nothing is found elsewhere. -/
theorem collects_rememberAbsent
    (member : ⟨batch.className, batch.collection, id⟩ ∈ keys)
    (absent : ¬ given ⟨batch.collection, id⟩ → mapper.lookUp world.store.collections
      ⟨batch.className, batch.collection, id⟩ = .ok none) :
    mapper.Collects world keys given (· = ⟨batch.collection, id⟩) (rememberAbsent batch id)
      (.ok ()) := by
  intro state keeps known
  rw [rememberAbsent, Run.outcome_bind_of_ok (Run.outcome_get _)]
  by_cases here : state.2.contains ⟨batch.collection, id⟩ = true
  · refine ⟨state, .refl keeps, by simp [here], ?_⟩
    rintro - _ rfl
    exact here
  · have isFound := absent fun isGiven => here (known _ isGiven)
    refine ⟨_, .remember keeps member isFound, by simp [here, Mapper.remember, Key.pointer], ?_⟩
    rintro - _ rfl
    exact EntityCache.contains_insert_self state.2 _ _

/-- Batches are read exactly if each of their keys can be looked up. -/
theorem readBatches_eq_ok {name : ClassName} {batches : List Batch}
    (labelled : ∀ name, Collections.Labelled (collections.documents name))
    (batched : Batched name keys batches) :
    batches.forM (mapper.readBatch collections) = .ok () ↔
      ∀ key ∈ keys, ∃ found, mapper.lookUp collections key = .ok found := by
  have each : ∀ batch ∈ batches, (mapper.readBatch collections batch = .ok () ↔
      ∀ key ∈ batch.keys, ∃ found, mapper.lookUp collections key = .ok found) :=
    fun batch member => readBatch_eq_ok (labelled batch.collection) (batched.asked batch member)
  rw [Result.forM_eq_ok]
  constructor
  · intro passes key member
    obtain ⟨batch, isBatch, own⟩ := (batched.members key).mpr member
    exact (each batch isBatch).mp (passes batch isBatch) key own
  · intro founds batch isBatch
    exact (each batch isBatch).mpr fun key own =>
      founds key ((batched.members key).mp ⟨batch, isBatch, own⟩)

namespace Plain

theorem outcome_fromDocument (plain : mapper.Plain) (state : World × EntityCache)
    (keeps : world.Keeps mapper.catalog state.1) (name : ClassName) (doc : Document) :
    ∃ after, world.Keeps mapper.catalog after ∧
      (Run.onFirst (World.onMemory (mapper.fromDocument name doc)) :
        ResolveM Entity).outcome state =
          (Catalog.answer (mapper.catalog.decodeDocument name doc), (after, state.2)) := by
  have gives := plain.gives_fromDocument name doc
  obtain ⟨after, keeps', ran⟩ := World.outcome_onMemory gives.steady keeps.ready
  rw [gives.answer_eq] at ran
  exact ⟨after, keeps.trans keeps', Run.outcome_onFirst_eq state.2 ran⟩

/-- Reading the document of a look-up, if it found one. -/
theorem outcome_mapM_fromDocument (plain : mapper.Plain) (state : World × EntityCache)
    (keeps : world.Keeps mapper.catalog state.1) (name : ClassName) (found : Option Document) :
    ∃ after, world.Keeps mapper.catalog after ∧
      (found.mapM fun doc => (Run.onFirst (World.onMemory (mapper.fromDocument name doc)) :
        ResolveM Entity)).outcome state =
        (found.mapM fun doc => Catalog.answer (mapper.catalog.decodeDocument name doc),
          (after, state.2)) := by
  cases found with
  | none => exact ⟨state.1, keeps, rfl⟩
  | some doc =>
    obtain ⟨after, keeps', ran⟩ := plain.outcome_fromDocument state keeps name doc
    refine ⟨after, keeps', ?_⟩
    rw [Option.mapM_some, Run.outcome_map, ran, Option.mapM_some]
    rfl

theorem collects_rememberFound (plain : mapper.Plain)
    (own : Document.get? doc idField = some id)
    (member : ⟨batch.className, batch.collection, id⟩ ∈ keys)
    (isFound : mapper.lookUp world.store.collections ⟨batch.className, batch.collection, id⟩ =
      (Catalog.answer (mapper.catalog.decodeDocument batch.className doc)).map some) :
    mapper.Collects world keys given (batch.IsPlaceOf doc) (mapper.rememberFound batch doc)
      (mapper.readable batch.className doc) := by
  intro state keeps _
  obtain ⟨after, keeps', ran⟩ := plain.outcome_fromDocument state keeps batch.className doc
  simp only [rememberFound, own]
  rw [readable]
  cases read : Catalog.answer (mapper.catalog.decodeDocument batch.className doc) with
  | error error =>
    rw [read] at ran
    exact ⟨_, .of_keeps keeps', Run.outcome_bind_of_error ran, fun good => by cases good⟩
  | ok entity =>
    rw [read] at ran isFound
    have gathers : mapper.Gathers world keys (after, state.2) _ := .remember keeps' member isFound
    refine ⟨_, (Gathers.of_keeps keeps').trans gathers, Run.outcome_bind_of_ok ran, ?_⟩
    rintro - ⟨_, _⟩ ⟨rfl, here⟩
    obtain rfl := Option.some.inj (own.symm.trans here)
    exact EntityCache.contains_insert_self state.2 _ _

/-- What is done with the documents that a search for a batch finds. -/
theorem collects_found (plain : mapper.Plain)
    (labelled : Collections.Labelled (world.store.collections.documents batch.collection))
    {loaded : List Document} (reads : (world.store.collections.documents batch.collection).mapM
      StoredDocument.load = .ok loaded)
    (asked : ∀ key ∈ batch.keys, key ∈ keys) :
    mapper.Collects world keys given (fun place => ∃ id ∈ batch.ids, place = ⟨batch.collection, id⟩)
      (do
        (loaded.filter (Filter.accepts · (.idIn batch.ids))).forM (mapper.rememberFound batch)
        batch.ids.forM (rememberAbsent batch))
      (mapper.readBatch world.store.collections batch) := by
  have intact := labelled.intact reads
  have under := Collections.mem_filter_idIn labelled reads batch.ids
  rw [readBatch_of_reads reads]
  generalize loaded.filter (Filter.accepts · (.idIn batch.ids)) = docs at under ⊢
  have founds : mapper.Collects world keys given
      (fun place => ∃ doc ∈ docs, batch.IsPlaceOf doc place)
      (docs.forM (mapper.rememberFound batch)) (docs.forM (mapper.readable batch.className)) := by
    refine .forM fun doc member => ?_
    obtain ⟨id, isAsked, found⟩ := (under doc).mp member
    exact plain.collects_rememberFound (Collections.get?_of_documentAt? intact found)
      (asked _ (Batch.mem_keys.mpr ⟨rfl, rfl, isAsked⟩)) (lookUp_of_some intact found)
  have absents : mapper.Collects world keys (fun place => ∃ doc ∈ docs, batch.IsPlaceOf doc place)
      (fun place => ∃ id ∈ batch.ids, place = ⟨batch.collection, id⟩)
      (batch.ids.forM (rememberAbsent batch)) (batch.ids.forM fun _ => .ok ()) := by
    refine .forM fun id member => collects_rememberAbsent
      (asked _ (Batch.mem_keys.mpr ⟨rfl, rfl, member⟩)) fun nowhere => lookUp_of_none intact ?_
    by_contra somewhere
    obtain ⟨doc, found⟩ := Option.ne_none_iff_exists'.mp somewhere
    exact nowhere ⟨doc, (under doc).mpr ⟨id, member, found⟩, rfl,
      Collections.get?_of_documentAt? intact found⟩
  have both := founds.bind absents
  rw [Result.forM_eq_ok.mpr fun _ _ => rfl] at both
  have same : (docs.forM (mapper.readable batch.className) >>= fun _ => .ok ()) =
      docs.forM (mapper.readable batch.className) := by
    cases docs.forM (mapper.readable batch.className) <;> rfl
  rwa [same] at both

/-- Fetching a batch ends as reading it does, and takes all of its places. -/
theorem collects_fetch (plain : mapper.Plain)
    (labelled : Collections.Labelled (world.store.collections.documents batch.collection))
    (asked : ∀ key ∈ batch.keys, key ∈ keys) :
    mapper.Collects world keys given (fun place => ∃ id ∈ batch.ids, place = ⟨batch.collection, id⟩)
      (mapper.fetch batch) (mapper.readBatch world.store.collections batch) := by
  intro state keeps known
  obtain ⟨other, keeps', ran⟩ := World.outcome_find keeps.ready batch.collection (.idIn batch.ids)
  rw [keeps.collections] at ran
  have kept := keeps.trans keeps'
  cases reads : (world.store.collections.documents batch.collection).mapM StoredDocument.load with
  | error error =>
    rw [Collections.find_of_unreadable reads] at ran
    rw [readBatch_of_unreadable reads]
    exact ⟨_, .of_keeps kept, Run.outcome_bind_of_error (Run.outcome_onFirst_eq state.2 ran),
      fun good => by cases good⟩
  | ok loaded =>
    rw [Collections.find_of_reads reads] at ran
    obtain ⟨after, gathers, ran', taken⟩ :=
      plain.collects_found labelled reads asked (other, state.2) kept known
    exact ⟨after, (Gathers.of_keeps kept).trans gathers,
      (Run.outcome_bind_of_ok (Run.outcome_onFirst_eq state.2 ran)).trans ran', taken⟩

/-- Fetching what is not known of keys of one class ends as reading the batches does; if that is
good, every key is known afterwards. -/
theorem outcome_fetchAll (plain : mapper.Plain)
    (labelled : ∀ name, Collections.Labelled (world.store.collections.documents name))
    {name : ClassName} (sameClass : ∀ key ∈ keys, key.className = name)
    (state : World × EntityCache) (keeps : world.Keeps mapper.catalog state.1) :
    ∃ after, mapper.Gathers world keys state after ∧
      ((state.2.batches keys).forM mapper.fetch).outcome state =
        ((state.2.batches keys).forM (mapper.readBatch world.store.collections), after) ∧
      ((state.2.batches keys).forM (mapper.readBatch world.store.collections) = .ok () →
        ∀ key ∈ keys, after.2.contains key.pointer = true) := by
  have batched := state.2.batched_batches sameClass
  have each : ∀ batch ∈ state.2.batches keys, mapper.Collects world keys (fun _ => False)
      (fun place => ∃ id ∈ batch.ids, place = ⟨batch.collection, id⟩) (mapper.fetch batch)
      (mapper.readBatch world.store.collections batch) := fun batch member =>
    plain.collects_fetch (labelled batch.collection) fun key own =>
      (EntityCache.of_mem_unknown ((batched.mem_keys_iff member).mp own).1).1
  obtain ⟨after, gathers, ran, taken⟩ := Collects.forM each state keeps fun _ never => never.elim
  refine ⟨after, gathers, ran, fun good key member => ?_⟩
  cases known : state.2.contains key.pointer with
  | true => exact gathers.kept _ known
  | false =>
    obtain ⟨batch, isBatch, own⟩ := (batched.members key).mpr
      ((EntityCache.mem_unknown_iff sameClass).mpr ⟨member, known⟩)
    obtain ⟨-, here, isAsked⟩ := Batch.mem_keys.mp own
    exact taken good _ ⟨batch, isBatch, key.id, isAsked, by rw [Key.pointer, here]⟩

/-- A key that is not known is looked up, and is known afterwards. -/
theorem outcome_resolveKey (plain : mapper.Plain) (member : key ∈ keys)
    (state : World × EntityCache) (keeps : world.Keeps mapper.catalog state.1) :
    ∃ after, mapper.Gathers world keys state after ∧ (mapper.resolveKey key).outcome state =
      ((state.2.get? key.pointer).elim (mapper.lookUp world.store.collections key) .ok, after) := by
  rw [resolveKey, Run.outcome_bind_of_ok (Run.outcome_get _)]
  cases known : state.2.get? key.pointer with
  | some result => exact ⟨state, .refl keeps, rfl⟩
  | none =>
    simp only [Option.elim_none]
    obtain ⟨other, keeps', searched⟩ :=
      World.outcome_findFirst keeps.ready key.collection (.idEq key.id)
    rw [keeps.collections] at searched
    have first := Run.outcome_onFirst_eq state.2 searched
    have kept := keeps.trans keeps'
    cases found : world.store.collections.findFirst key.collection (.idEq key.id) with
    | error error =>
      have fails : mapper.lookUp world.store.collections key = .error (.store error) := by
        rw [lookUp, found]
        rfl
      rw [found] at first
      exact ⟨_, .of_keeps kept, fails ▸ Run.outcome_bind_of_error first⟩
    | ok found? =>
      obtain ⟨after, keeps'', read⟩ :=
        plain.outcome_mapM_fromDocument (other, state.2) kept key.className found?
      have looks : mapper.lookUp world.store.collections key = found?.mapM fun doc =>
          Catalog.answer (mapper.catalog.decodeDocument key.className doc) := by
        rw [lookUp, found]
        rfl
      rw [found] at first
      rw [Run.outcome_bind_of_ok first, looks]
      cases ends : found?.mapM fun doc =>
          Catalog.answer (mapper.catalog.decodeDocument key.className doc) with
      | error error =>
        rw [ends] at read
        exact ⟨_, .of_keeps keeps'', Run.outcome_bind_of_error read⟩
      | ok result =>
        rw [ends] at read
        have gathers : mapper.Gathers world keys (after, state.2) _ :=
          .remember keeps'' member (looks.trans ends)
        exact ⟨_, (Gathers.of_keeps keeps'').trans gathers, Run.outcome_bind_of_ok read⟩

end Plain

end Mapper

end DocMapper
