import DocMapper.Proofs.Datastore.Loading
import DocMapper.Proofs.Datastore.Requests
import DocMapper.Proofs.Datastore.Steps
import DocMapper.Proofs.Hook.Preserving

/-!
# What operations ask of the store

`Spends` says of an operation what it asks of the store and which places it makes known, where some
places are known; if it fails, it has asked for the first of it. `Plans` says so of an operation
that serves requests, wherever it is called. Both are closed under sequences, so that resolving a
field costs what its stored value asks for, whatever hooks do to the entities that it loads.
-/

namespace DocMapper

open Catalog (answer)

namespace Catalog

def requests (catalog : Catalog) (field : MappedField) (stored : Value) : List Request :=
  if stored.isNull then []
  else
    match answer (catalog.keys field stored) with
    | .error _ => []
    | .ok keys =>
      if field.isMultiple then [.many (keys.map Key.pointer)]
      else keys.head?.toList.map fun key => .one key.pointer

end Catalog

/-! ### Correct descriptors -/

theorem Reaction.all_of_forall {said : Entity → Document → Option String → Prop}
    (holds : ∀ entity doc failure, said entity doc failure) (reaction : Reaction) :
    reaction.All said := by
  induction reaction with
  | finish entity doc failure => exact holds entity doc failure
  | askCollection _ _ ih => exact ih

namespace Mapper

section

variable {mapper : Mapper} {descriptor : Descriptor} {event : Event} {memory : Memory}
  {entity : Entity} {doc : Document}

/-- Whatever hooks do, the descriptors that are kept are correct. -/
theorem ends_dispatch_of_sound (sound : memory.Sound mapper.catalog) :
    (mapper.dispatch descriptor event doc).Ends (memory, entity)
      (fun _ after => after.1.Sound mapper.catalog)
      fun _ after => after.1.Sound mapper.catalog := by
  have preserves : mapper.Preserves (fun _ => ()) (fun _ => ()) descriptor event :=
    ⟨fun _ _ _ _ _ => ⟨fun _ _ _ => rfl, fun _ _ => rfl⟩,
      fun _ _ _ _ => Reaction.all_of_forall (fun _ _ _ => ⟨rfl, fun _ => rfl⟩) _⟩
  exact (preserves.ends_dispatch (a := ()) ⟨sound, rfl⟩ doc).mono
    (fun _ _ ends => ends.2.sound) fun _ _ ends => ends.2.sound

theorem ends_load_of_sound (sound : memory.Sound mapper.catalog) :
    (mapper.load descriptor doc).Ends (memory, entity)
      (fun _ after => after.1.Sound mapper.catalog)
      fun _ after => after.1.Sound mapper.catalog := by
  rw [load]
  refine (ends_dispatch_of_sound sound).bind (fun prepared state sound => ?_) fun _ _ => id
  have steady : mapper.catalog.Steady (mapper.catalog.decodeInto descriptor state.2 prepared) :=
    Catalog.steady_decodeInto descriptor state.2 prepared
  rw [Run.ends_bind, Run.ends_get, Run.ends_bind, Run.ends_onFirst]
  exact (steady.ends_of_sound sound).mono (fun _ _ ends => ends.2) fun _ _ ends => ends.2

theorem ends_fromDocument_of_sound {requested : ClassName} (sound : memory.Sound mapper.catalog) :
    (mapper.fromDocument requested doc).Ends memory (fun _ after => after.Sound mapper.catalog)
      fun _ after => after.Sound mapper.catalog := by
  have steady : mapper.catalog.Steady (mapper.catalog.concreteClass requested doc) :=
    Catalog.steady_concreteClass requested doc
  rw [fromDocument]
  refine (steady.ends_of_sound sound).bind (fun descriptor after ends => ?_) fun _ _ => And.right
  rw [Run.ends_bind, Run.ends_withCompanion, Run.ends_bind]
  exact (ends_load_of_sound ends.2).mono (fun _ _ => ends_dispatch_of_sound) fun _ _ => id

end

/-! ### What operations spend -/

/-- Descriptors that are kept are correct, and these places are known. -/
structure Knows (mapper : Mapper) (known : List Pointer) (state : World × EntityCache) : Prop where
  sound : state.1.memory.Sound mapper.catalog
  covers : state.2.Covers known

/-- Where these places are known, the operation makes these calls and then knows more places. If it
fails, it has made the first of them. -/
def Spends {α : Type} (mapper : Mapper) (known : List Pointer) (made : List StoreCall)
    (learnt : List Pointer) (said : α → Prop) (act : ResolveM α) : Prop :=
  ∀ state, mapper.Knows known state → act.Ends state
    (fun a after => said a ∧ after.1.store.calls = state.1.store.calls ++ made ∧
      mapper.Knows (known ++ learnt) after)
    fun _ after => ∃ begun, begun <+: made ∧ after.1.store.calls = state.1.store.calls ++ begun

/-- Wherever it is called, the operation asks the store for what these requests cost there. -/
def Plans {α : Type} (mapper : Mapper) (requests : List Request) (act : ResolveM α) : Prop :=
  ∀ known, mapper.Spends known (lookups known requests) (requests.flatMap Request.places)
    (fun _ => True) act

variable {α β : Type} {mapper : Mapper} {known learnt learnt' : List Pointer}
  {made made' : List StoreCall} {said : α → Prop} {said' : β → Prop} {act : ResolveM α}
  {requests : List Request} {state : World × EntityCache}

theorem Knows.congr (knows : mapper.Knows known state)
    (same : ∀ place, place ∈ known ↔ place ∈ learnt) : mapper.Knows learnt state :=
  ⟨knows.sound, fun place => (knows.covers place).trans (same place)⟩

namespace Spends

theorem pure {a : α} (holds : said a) : mapper.Spends known [] [] said (Pure.pure a) :=
  fun state knows => ⟨holds, (List.append_nil _).symm, by rwa [List.append_nil]⟩

theorem throw (error : MapError) :
    mapper.Spends known [] [] said (MonadExcept.throw error : ResolveM α) :=
  fun _ _ => ⟨[], List.prefix_rfl, (List.append_nil _).symm⟩

theorem ofExcept {result : Except MapError α} :
    mapper.Spends known [] [] (fun a => result = .ok a) (Run.ofExcept result) := by
  cases result with
  | ok a => exact pure rfl
  | error error => exact throw error

theorem bind {next : α → ResolveM β} (first : mapper.Spends known made learnt said act)
    (second : ∀ a, said a → mapper.Spends (known ++ learnt) made' learnt' said' (next a)) :
    mapper.Spends known (made ++ made') (learnt ++ learnt') said' (act >>= next) := by
  intro state knows
  refine (first state knows).bind ?_ ?_
  · rintro a middle ⟨holds, calls, knows⟩
    refine (second a holds middle knows).mono ?_ ?_
    · rintro b after ⟨holds, calls', knows⟩
      rw [List.append_assoc] at knows
      exact ⟨holds, by rw [calls', calls, List.append_assoc], knows⟩
    · rintro error after ⟨begun, isPrefix, calls'⟩
      refine ⟨made ++ begun, (List.prefix_append_right_inj made).mpr isPrefix, ?_⟩
      rw [calls', calls, List.append_assoc]
  · rintro error after ⟨begun, isPrefix, calls⟩
    exact ⟨begun, isPrefix.trans (List.prefix_append made made'), calls⟩

theorem free_bind {next : α → ResolveM β} (first : mapper.Spends known [] [] said act)
    (second : ∀ a, said a → mapper.Spends known made learnt said' (next a)) :
    mapper.Spends known made learnt said' (act >>= next) :=
  first.bind fun a holds => by simpa using second a holds

theorem bind_free {next : α → ResolveM β} (first : mapper.Spends known made learnt said act)
    (second : ∀ a, said a → ∀ known, mapper.Spends known [] [] said' (next a)) :
    mapper.Spends known made learnt said' (act >>= next) := by
  simpa using first.bind fun a holds => second a holds (known ++ learnt)

/-- It does not matter in which order or how often the places are listed. -/
theorem congr (spends : mapper.Spends known made learnt said act)
    (same : ∀ place, place ∈ known ++ learnt ↔ place ∈ known ++ learnt') :
    mapper.Spends known made learnt' said act := fun state knows =>
  (spends state knows).mono (fun _ _ ends => ⟨ends.1, ends.2.1, ends.2.2.congr same⟩) fun _ _ => id

theorem forM {items : List β} {act : β → ResolveM PUnit} {made : β → List StoreCall}
    {learnt : β → List Pointer}
    (each : ∀ b ∈ items, ∀ known, mapper.Spends known (made b) (learnt b) (fun _ => True) (act b)) :
    mapper.Spends known (items.flatMap made) (items.flatMap learnt) (fun _ => True)
      (items.forM act) := by
  induction items generalizing known with
  | nil => exact pure trivial
  | cons b rest ih =>
    exact (each b List.mem_cons_self known).bind fun _ _ =>
      ih fun b member => each b (List.mem_cons_of_mem _ member)

theorem free_forM {items : List β} {act : β → ResolveM PUnit} {learnt : β → List Pointer}
    (each : ∀ b ∈ items, ∀ known, mapper.Spends known [] (learnt b) (fun _ => True) (act b)) :
    mapper.Spends known [] (items.flatMap learnt) (fun _ => True) (items.forM act) := by
  have silent : items.flatMap (fun _ => ([] : List StoreCall)) = [] :=
    List.flatMap_eq_nil_iff.mpr fun _ _ => rfl
  exact silent ▸ forM each

theorem onMemory {act : MapM α}
    (ends : ∀ memory : Memory, memory.Sound mapper.catalog → act.Ends memory
      (fun a after => said a ∧ after.Sound mapper.catalog) fun _ _ => True) :
    mapper.Spends known [] [] said (World.onMemory act).onFirst := by
  intro state knows
  rw [Run.ends_onFirst, World.ends_onMemory]
  refine (ends state.1.memory knows.sound).mono ?_ ?_
  · rintro a after ⟨holds, sound⟩
    exact ⟨holds, (List.append_nil _).symm, ⟨sound, by simpa using knows.covers⟩⟩
  · exact fun _ _ _ => ⟨[], List.prefix_rfl, (List.append_nil _).symm⟩

theorem steady {act : MapM α} (steady : mapper.catalog.Steady act) :
    mapper.Spends known [] [] (fun a => answer act = .ok a) (World.onMemory act).onFirst :=
  onMemory fun _ sound => (steady.ends_of_sound sound).mono (fun _ _ => id) fun _ _ _ => trivial

/-- What comes next may depend on the state, as long as it spends the same. -/
theorem get_bind {next : World × EntityCache → ResolveM α} (each : ∀ state,
      mapper.Knows known state → mapper.Spends known made learnt said (next state)) :
    mapper.Spends known made learnt said (MonadState.get >>= next) := fun state knows =>
  Run.ends_bind.mpr (each state knows state knows)

theorem ask_bind {note : StoreCall} {question : Collections → Except StoreError α}
    {next : α → ResolveM β} (second : ∀ a collections, question collections = .ok a →
      mapper.Spends known made learnt said' (next a)) :
    mapper.Spends known (note :: made) learnt said' (Run.onFirst (World.onStore (Store.call note
      fun collections => return (← question collections, collections))) >>= next) := by
  have first : mapper.Spends known [note] [] (fun a => ∃ collections, question collections = .ok a)
      (Run.onFirst (World.onStore (Store.call note
        fun collections => return (← question collections, collections)))) := by
    intro state knows
    rw [Run.ends_onFirst]
    refine World.ends_ask.mono ?_ ?_
    · rintro a after ⟨answered, same, calls⟩
      exact ⟨⟨_, answered⟩, calls, ⟨same ▸ knows.sound, by simpa using knows.covers⟩⟩
    · exact fun _ after ends => ⟨[note], List.prefix_rfl, ends.2⟩
  refine first.bind fun a answered => ?_
  obtain ⟨collections, answered⟩ := answered
  simpa using second a collections answered

end Spends

namespace Plans

theorem pure (a : α) : mapper.Plans [] (Pure.pure a) := fun _ => Spends.pure trivial

theorem single {request : Request} (each : ∀ known,
      mapper.Spends known (request.calls known) request.places (fun _ => True) act) :
    mapper.Plans [request] act := fun known => by
  simpa [lookups] using each known

theorem bind {more : List Request} {next : α → ResolveM β} (first : mapper.Plans requests act)
    (second : ∀ a, mapper.Plans more (next a)) :
    mapper.Plans (requests ++ more) (act >>= next) := fun known => by
  rw [lookups_append, List.flatMap_append]
  exact (first known).bind fun a _ => second a _

theorem bind_free {next : α → ResolveM β} (first : mapper.Plans requests act)
    (second : ∀ a known, mapper.Spends known [] [] (fun _ => True) (next a)) :
    mapper.Plans requests (act >>= next) := fun known =>
  (first known).bind_free fun a _ => second a

theorem foldlM {items : List α} {f : β → α → ResolveM β} {requests : α → List Request} {b : β}
    (each : ∀ b, ∀ a ∈ items, mapper.Plans (requests a) (f b a)) :
    mapper.Plans (items.flatMap requests) (items.foldlM f b) := by
  induction items generalizing b with
  | nil => exact pure b
  | cons a rest ih =>
    rw [List.foldlM_cons, List.flatMap_cons]
    exact (each b a List.mem_cons_self).bind fun _ =>
      ih fun b' a' member => each b' a' (List.mem_cons_of_mem _ member)

end Plans

/-! ### Resolving references -/

theorem spends_fromDocument (name : ClassName) (doc : Document) :
    mapper.Spends known [] [] (fun _ => True)
      (Run.onFirst (World.onMemory (mapper.fromDocument name doc)) : ResolveM Entity) :=
  .onMemory fun _ sound => (ends_fromDocument_of_sound sound).mono
    (fun _ _ sound => ⟨trivial, sound⟩) fun _ _ _ => trivial

theorem spends_remember (place : Pointer) (result : Option Entity) :
    mapper.Spends known [] [place] (fun _ => True) (remember place result) := fun _ knows =>
  ⟨trivial, (List.append_nil _).symm, knows.sound, knows.covers.insert place result⟩

theorem plans_resolveKey (key : Key) : mapper.Plans [.one key.pointer] (mapper.resolveKey key) := by
  refine .single fun known => Spends.get_bind fun state knows => ?_
  rw [Request.calls, Request.places]
  cases found : state.2.get? key.pointer with
  | some result =>
    have isKnown : key.pointer ∈ known :=
      (knows.covers _).mp (by rw [EntityCache.contains, found]; rfl)
    rw [if_pos isKnown]
    exact (Spends.pure trivial).congr fun place => by simp +contextual [isKnown]
  | none =>
    have unknown : key.pointer ∉ known := by
      rw [← knows.covers, EntityCache.contains, found]
      simp
    have reads (found : Option Document) : mapper.Spends known [] [] (fun _ => True)
        (found.mapM fun doc => (Run.onFirst
          (World.onMemory (mapper.fromDocument key.className doc)) : ResolveM Entity)) := by
      cases found with
      | none => exact .pure trivial
      | some doc =>
        rw [Option.mapM_some, map_eq_pure_bind]
        exact (spends_fromDocument _ _).bind_free fun _ _ _ => .pure trivial
    rw [if_neg unknown]
    exact .ask_bind fun found _ _ => (reads found).free_bind fun result _ =>
      (spends_remember key.pointer result).bind_free fun _ _ _ => .pure trivial

theorem spends_rememberFound (batch : Batch) (doc : Document) :
    mapper.Spends known [] ((Document.get? doc idField).toList.map (⟨batch.collection, ·⟩))
      (fun _ => True) (mapper.rememberFound batch doc) := by
  rw [rememberFound]
  cases Document.get? doc idField with
  | none => exact .pure trivial
  | some id => exact (spends_fromDocument _ _).free_bind fun _ _ => spends_remember _ _

theorem spends_rememberAbsent (batch : Batch) (id : Value) :
    mapper.Spends known [] [⟨batch.collection, id⟩] (fun _ => True) (rememberAbsent batch id) := by
  refine .get_bind fun state knows => ?_
  split
  next met =>
    have isKnown := (knows.covers _).mp met
    exact (Spends.pure trivial).congr fun place => by simp +contextual [isKnown]
  · exact spends_remember _ _

/-- A search by identifiers finds documents with one of them. -/
theorem exists_of_mem_find {collections : Collections} {name : String} {ids : List Value}
    {docs : List Document} (found : collections.find name (.idIn ids) = .ok docs) {doc : Document}
    (member : doc ∈ docs) {id : Value} (isId : Document.get? doc idField = some id) : id ∈ ids := by
  obtain ⟨loaded, -, same⟩ := Result.bind_eq_ok.mp found
  obtain rfl := Except.ok.inj same
  have accepted := (List.mem_filter.mp member).2
  rw [Filter.idIn, Filter.accepts, isId] at accepted
  simpa using accepted

theorem spends_fetch (batch : Batch) :
    mapper.Spends known [batch.call] batch.places (fun _ => True) (mapper.fetch batch) := by
  refine .ask_bind fun docs collections found => ?_
  let placesOf (doc : Document) : List Pointer :=
    (Document.get? doc idField).toList.map (⟨batch.collection, ·⟩)
  have present : mapper.Spends known [] (docs.flatMap placesOf) (fun _ => True)
      (docs.forM (mapper.rememberFound batch)) :=
    .free_forM fun doc _ _ => spends_rememberFound batch doc
  have absent (known : List Pointer) : mapper.Spends known []
      (batch.ids.flatMap fun id => [⟨batch.collection, id⟩]) (fun _ => True)
      (batch.ids.forM (rememberAbsent batch)) :=
    .free_forM fun id _ _ => spends_rememberAbsent batch id
  -- What was found is among what was asked for, so it adds no place to those of the batch.
  have asked : ∀ place ∈ docs.flatMap placesOf, place ∈ batch.places := by
    intro place member
    obtain ⟨doc, isFound, member⟩ := List.mem_flatMap.mp member
    obtain ⟨id, isId, rfl⟩ := List.mem_map.mp member
    exact List.mem_map_of_mem (exists_of_mem_find found isFound (Option.mem_toList.mp isId))
  refine (present.bind fun _ _ => absent _).congr fun place => ?_
  rw [← List.map_eq_flatMap, ← Batch.places]
  simp only [List.mem_append]
  exact ⟨Or.imp_right (Or.rec (asked place) id), Or.imp_right Or.inr⟩

/-- The batches of a cache cost what the places of their keys cost, and make them known. -/
theorem spends_fetchAll {cache : EntityCache} (covers : cache.Covers known) (keys : List Key) :
    mapper.Spends known ((Request.many (keys.map Key.pointer)).calls known)
      (keys.map Key.pointer) (fun _ => True) ((cache.batches keys).forM mapper.fetch) := by
  have spends : mapper.Spends known ((cache.batches keys).flatMap fun batch => [batch.call])
      ((cache.batches keys).flatMap Batch.places) (fun _ => True)
      ((cache.batches keys).forM mapper.fetch) := .forM fun batch _ _ => spends_fetch batch
  have places : (cache.batches keys).flatMap Batch.places =
      ((Request.many (keys.map Key.pointer)).calls known).flatMap StoreCall.places := by
    rw [← covers.map_call_batches, List.flatMap_map]
    rfl
  rw [← List.map_eq_flatMap, covers.map_call_batches, places] at spends
  refine spends.congr fun place => ?_
  rw [List.mem_append, List.mem_append, Request.mem_places_calls]
  tauto

/-- Resolving a field costs what its stored value asks for. -/
theorem plans_resolve (field : MappedField) (stored : Value) :
    mapper.Plans (mapper.catalog.requests field stored) (mapper.resolve field stored) := by
  rw [Catalog.requests, resolve]
  split
  · exact .pure _
  intro known
  have steady : mapper.catalog.Steady (mapper.catalog.keys field stored) :=
    Catalog.steady_keys field stored
  refine (Spends.steady steady).free_bind fun keys answered => ?_
  rw [answered]
  dsimp only
  split
  · refine Plans.single (fun known => Spends.get_bind fun state knows => ?_) known
    refine (spends_fetchAll knows.covers keys).bind_free fun _ _ known => .get_bind fun _ _ => ?_
    exact Spends.ofExcept.free_bind fun _ _ => .pure trivial
  · cases keys.head? with
    | none => exact Plans.pure _ known
    | some key =>
      refine (plans_resolveKey key).bind_free (fun found known => ?_) known
      refine Spends.ofExcept.free_bind fun link _ => ?_
      cases link <;> exact .pure trivial

theorem plans_loadReference (doc : Document) (entity : Entity) (field : MappedField) :
    mapper.Plans
      (((Document.get? doc field.storedName).map (mapper.catalog.requests field)).getD [])
      (mapper.loadReference doc entity field) := by
  rw [loadReference]
  cases Document.get? doc field.storedName with
  | none => exact .pure _
  | some stored => exact (plans_resolve field stored).bind_free fun _ _ => .pure trivial

end Mapper

end DocMapper
