import DocMapper.Proofs.Datastore.Noting

/-!
# What an entity cache is worth

Calls that share a cache may fail, one in the middle of its look-ups, and the store may refuse any
request. All the same, an entry that says that nothing is stored is about a place without a
document, and an entity is what the document at its place was read as for one of the calls. Entries
stay as they are, so a call that has succeeded gives the same again, without a request to the store.
-/

namespace DocMapper

namespace Mapper

open Catalog (answer)

/-- What a cache may hold at a place after these calls: nothing where nothing is stored, and
otherwise what the stored document is read as for the target class of a call. -/
inductive Truthful (mapper : Mapper) (collections : Collections) (calls : List ReferenceCall) :
    Pointer → Option Entity → Prop
  | absent {place : Pointer}
      (nothing : ∀ stored ∈ collections.documents place.collection, stored.id ≠ place.id) :
      Truthful mapper collections calls place none
  | found {place : Pointer} {stored : StoredDocument} {doc : Document} {call : ReferenceCall}
      {name : ClassName} {entity : Entity}
      (member : stored ∈ collections.documents place.collection) (same : stored.id = place.id)
      (reads : stored.load = .ok doc) (inCalls : call ∈ calls)
      (isTarget : call.field.target? = some name)
      (decoded : answer (mapper.catalog.decodeDocument name doc) = .ok entity) :
      Truthful mapper collections calls place (some entity)

/-- What a call gives where its keys are known. -/
def reading (mapper : Mapper) (call : ReferenceCall) (cache : EntityCache) :
    Except MapError Property :=
  if call.stored.isNull then .ok .null
  else do
    let keys ← answer (mapper.catalog.keys call.field call.stored)
    if call.field.isMultiple then
      let refs ← mapper.links call.field cache keys
      return .references refs
    else
      match keys.head? with
      | none => return .null
      | some key =>
        let ref ← mapper.linkTo call.field key (cache.entity? key.pointer)
        return ref.elim .null .reference

/-- A state in which a cache has grown by what keys of the calls are looked up as. -/
structure Grown (mapper : Mapper) (collections : Collections) (calls : List ReferenceCall)
    (cache : EntityCache) (after : World × EntityCache) : Prop where
  backed : mapper.Backed collections after
  kept : ∀ place found, cache.get? place = some found → after.2.get? place = some found
  noted : ∀ place found, after.2.get? place = some found → cache.get? place = some found ∨
    ∃ call ∈ calls, ∃ key, mapper.Asks call key ∧ key.pointer = place ∧
      mapper.lookUp collections key = .ok found

variable {mapper : Mapper} {collections : Collections} {call : ReferenceCall}
  {calls earlier more : List ReferenceCall} {state after : World × EntityCache}
  {cache : EntityCache} {keys : List Key} {property : Property} {place : Pointer}
  {found : Option Entity} {key : Key}

/-! ### One call -/

namespace Grown

theorem refl (backed : mapper.Backed collections state) :
    mapper.Grown collections calls state.2 state :=
  ⟨backed, fun _ _ known => known, fun _ _ known => .inl known⟩

theorem trans (first : mapper.Grown collections calls cache state)
    (second : mapper.Grown collections more state.2 after) :
    mapper.Grown collections (calls ++ more) cache after where
  backed := second.backed
  kept place found known := second.kept place found (first.kept place found known)
  noted place found known := by
    rcases second.noted place found known with old | ⟨call, inMore, isFound⟩
    · rcases first.noted place found old with older | ⟨call, inCalls, isFound⟩
      · exact .inl older
      · exact .inr ⟨call, List.mem_append_left _ inCalls, isFound⟩
    · exact .inr ⟨call, List.mem_append_right _ inMore, isFound⟩

/-- Where entries change at unknown places only, what is known stays. -/
theorem of_notes (asks : ∀ key ∈ keys, mapper.Asks call key)
    (notes : mapper.Notes collections (state.2.contains · = false)
      (mapper.LookedUp collections keys) state after) :
    mapper.Grown collections [call] state.2 after where
  backed := notes.backed
  kept place found known := by
    rw [notes.apart place, known]
    rw [EntityCache.contains, known]
    exact Bool.noConfusion
  noted place found known := by
    rcases notes.said place found known with old | ⟨key, member, same, isFound⟩
    · exact .inl old
    · exact .inr ⟨call, List.mem_singleton_self call, key, asks key member, same, isFound⟩

end Grown

theorem asks_iff (present : call.stored.isNull = false)
    (answered : answer (mapper.catalog.keys call.field call.stored) = .ok keys) :
    mapper.Asks call key ↔ key ∈ keys := by
  constructor
  · rintro ⟨-, keys', answered', member⟩
    obtain rfl := Except.ok.inj (answered.symm.trans answered')
    exact member
  · exact fun member => ⟨present, keys, answered, member⟩

/-- A call goes through three steps: it reads its keys, looks them up and puts together what they
are read as. It is enough to know how looking up ends, where a call without keys has nothing to look
up, an array fetches the keys that are unknown and a single reference looks up its key. -/
theorem ends_resolve_of_steps (fetched failed : World × EntityCache → Prop)
    (sound : state.1.memory.Sound mapper.catalog)
    (idle : ∀ memory, memory.Sound mapper.catalog → (∀ key, ¬ mapper.Asks call key) →
      fetched ({ state.1 with memory }, state.2))
    (many : ∀ keys memory, memory.Sound mapper.catalog → call.stored.isNull = false →
      answer (mapper.catalog.keys call.field call.stored) = .ok keys →
      ((state.2.batches keys).forM mapper.fetch).Ends ({ state.1 with memory }, state.2)
        (fun _ after => fetched after) fun _ after => failed after)
    (single : ∀ key memory, memory.Sound mapper.catalog → call.stored.isNull = false →
      answer (mapper.catalog.keys call.field call.stored) = .ok [key] →
      (mapper.resolveKey key).Ends ({ state.1 with memory }, state.2)
        (fun found after => fetched after ∧ after.2.get? key.pointer = some found)
        fun _ after => failed after) :
    (mapper.resolve call.field call.stored).Ends state
      (fun property after => fetched after ∧ mapper.reading call after.2 = .ok property)
      fun error after => failed after ∨
        fetched after ∧ mapper.reading call after.2 = .error error := by
  rw [resolve]
  cases present : call.stored.isNull with
  | true =>
    refine ⟨idle state.1.memory sound fun key asks => ?_, by simp [reading, present]⟩
    rw [asks.1] at present
    cases present
  | false =>
    have steady : mapper.catalog.Steady (mapper.catalog.keys call.field call.stored) :=
      Catalog.steady_keys call.field call.stored
    rw [if_neg Bool.false_ne_true, Run.ends_bind, Run.ends_onFirst, World.ends_onMemory]
    refine (steady.ends_of_sound sound).mono ?_ ?_
    · rintro keys memory ⟨answered, sound⟩
      cases multiple : call.field.isMultiple with
      | true =>
        rw [if_pos rfl, Run.ends_bind, Run.ends_get]
        refine (many keys memory sound present answered).bind ?_ fun _ _ => .inl
        intro _ after isFetched
        rw [Run.ends_bind, Run.ends_get, Run.ends_bind]
        apply Run.ends_ofExcept
        · exact fun refs linked =>
            ⟨isFetched, by simp [reading, present, answered, multiple, linked]⟩
        · exact fun error unlinked =>
            .inr ⟨isFetched, by simp [reading, present, answered, multiple, unlinked]⟩
      | false =>
        obtain ⟨key, rfl⟩ := Catalog.exists_of_keys_of_single multiple answered
        rw [if_neg Bool.false_ne_true]
        refine (single key memory sound present answered).bind ?_ fun _ _ => .inl
        rintro found after ⟨isFetched, here⟩
        have entry : after.2.entity? key.pointer = found := by rw [EntityCache.entity?, here]; rfl
        rw [Run.ends_bind]
        apply Run.ends_ofExcept
        · intro ref linked
          have reads : mapper.reading call after.2 = .ok (ref.elim .null .reference) := by
            simp [reading, present, answered, multiple, entry, linked]
          cases ref <;> exact ⟨isFetched, reads⟩
        · exact fun error unlinked =>
            .inr ⟨isFetched, by simp [reading, present, answered, multiple, entry, unlinked]⟩
    · rintro error memory ⟨unread, sound⟩
      refine .inr ⟨idle memory sound fun key asks => ?_, by simp [reading, present, unread]⟩
      obtain ⟨-, keys, answered, -⟩ := asks
      cases unread.symm.trans answered

namespace Plain

theorem ends_fetchAll (plain : mapper.Plain)
    (labelled : ∀ name, Collections.Labelled (collections.documents name))
    (backed : mapper.Backed collections state) (present : call.stored.isNull = false)
    (answered : answer (mapper.catalog.keys call.field call.stored) = .ok keys) :
    ((state.2.batches keys).forM mapper.fetch).Ends state
      (fun _ after => mapper.Grown collections [call] state.2 after ∧
        ∀ key ∈ keys, after.2.contains key.pointer = true)
      fun _ after => mapper.Grown collections [call] state.2 after := by
  obtain ⟨name, -, sameClass⟩ := Catalog.className_of_keys plain.named answered
  have asks : ∀ key ∈ keys, mapper.Asks call key := fun key => (asks_iff present answered).mpr
  have fetches : mapper.Adds collections (state.2.contains · = false)
      (mapper.LookedUp collections keys) (fun _ => False) _ _
      ((state.2.batches keys).forM mapper.fetch) :=
    plain.adds_fetchAll labelled sameClass fun _ _ new => new
  refine (fetches state backed fun _ => False.elim).mono ?_ fun _ _ => .of_notes asks
  rintro - after ⟨notes, taken, -⟩
  refine ⟨.of_notes asks notes, fun key member => ?_⟩
  cases known : state.2.contains key.pointer with
  | true => exact notes.grows _ known
  | false => exact taken _ ⟨key, member, known, rfl⟩

theorem ends_lookUp (plain : mapper.Plain) (backed : mapper.Backed collections state)
    (present : call.stored.isNull = false)
    (answered : answer (mapper.catalog.keys call.field call.stored) = .ok [key]) :
    (mapper.resolveKey key).Ends state
      (fun found after => mapper.Grown collections [call] state.2 after ∧
        after.2.get? key.pointer = some found)
      fun _ after => mapper.Grown collections [call] state.2 after := by
  have asks : ∀ other ∈ [key], mapper.Asks call other :=
    fun other => (asks_iff present answered).mpr
  have looks := @ends_resolveKey mapper collections (state.2.contains · = false) state [key] plain
    key List.mem_cons_self backed fun new => new
  exact looks.mono (fun _ _ ends => ⟨.of_notes asks ends.1, ends.2⟩) fun _ _ => .of_notes asks

/-- However a call ends, it notes nothing but what its keys are looked up as. If it succeeds, its
keys are known, and it gives what they are read as. -/
theorem ends_resolve (plain : mapper.Plain)
    (labelled : ∀ name, Collections.Labelled (collections.documents name))
    (backed : mapper.Backed collections state) (call : ReferenceCall) :
    (mapper.resolve call.field call.stored).Ends state
      (fun property after => mapper.Grown collections [call] state.2 after ∧
        (∀ key, mapper.Asks call key → after.2.contains key.pointer = true) ∧
          mapper.reading call after.2 = .ok property)
      fun _ after => mapper.Grown collections [call] state.2 after := by
  have started : ∀ memory, memory.Sound mapper.catalog →
      mapper.Backed collections ({ state.1 with memory }, state.2) :=
    fun memory sound => ⟨sound, backed.documents⟩
  have ends : (mapper.resolve call.field call.stored).Ends state _ _ :=
    ends_resolve_of_steps
      (fun after => mapper.Grown collections [call] state.2 after ∧
        ∀ key, mapper.Asks call key → after.2.contains key.pointer = true)
      (fun after => mapper.Grown collections [call] state.2 after) backed.sound ?_ ?_ ?_
  · refine ends.mono (fun property after ends => ⟨ends.1.1, ends.1.2, ends.2⟩) ?_
    rintro error after (grown | ⟨⟨grown, -⟩, -⟩) <;> exact grown
  · exact fun memory sound none =>
      ⟨.refl (started memory sound), fun key asks => absurd asks (none key)⟩
  · intro keys memory sound present answered
    refine (plain.ends_fetchAll labelled (started memory sound) present answered).mono ?_
      fun _ _ => id
    exact fun _ after ends =>
      ⟨ends.1, fun key asks => ends.2 key ((asks_iff present answered).mp asks)⟩
  · intro key memory sound present answered
    refine (plain.ends_lookUp (started memory sound) present answered).mono ?_ fun _ _ => id
    rintro found after ⟨grown, known⟩
    refine ⟨⟨grown, fun other asks => ?_⟩, known⟩
    rw [List.mem_singleton.mp ((asks_iff present answered).mp asks), EntityCache.contains, known]
    rfl

/-- However a call ends, the cache has grown by what its keys are looked up as. -/
theorem grown_answerCall (plain : mapper.Plain)
    (labelled : ∀ name, Collections.Labelled (collections.documents name))
    (backed : mapper.Backed collections state) (call : ReferenceCall) :
    mapper.Grown collections [call] state.2 (mapper.answerCall call state).2 := by
  have ends := plain.ends_resolve labelled backed call
  rw [answerCall]
  rcases ran : (mapper.resolve call.field call.stored).outcome state with ⟨error | property, after⟩
  · exact (Run.ends_of_error ran).mp ends
  · exact ((Run.ends_of_ok ran).mp ends).1

theorem grown_afterCalls (plain : mapper.Plain)
    (labelled : ∀ name, Collections.Labelled (collections.documents name))
    (backed : mapper.Backed collections state) (calls : List ReferenceCall) :
    mapper.Grown collections calls state.2 (mapper.afterCalls calls state) := by
  induction calls generalizing state with
  | nil => exact .refl backed
  | cons call rest ih =>
    have first := plain.grown_answerCall labelled backed call
    exact first.trans (ih first.backed)

end Plain

/-! ### Calls whose keys are known -/

theorem batches_eq_nil (known : ∀ key ∈ keys, cache.contains key.pointer = true) :
    cache.batches keys = [] := by
  have nothing : cache.unknown [] keys = [] := by
    apply List.eq_nil_iff_forall_not_mem.mpr
    intro key member
    obtain ⟨inKeys, new⟩ := EntityCache.of_mem_unknown member
    rw [known key inKeys] at new
    cases new
  rw [EntityCache.batches, nothing]
  rfl

/-- A call whose keys are known gives what they are read as, and asks the store for nothing. -/
theorem ends_resolve_of_known (backed : mapper.Backed collections state)
    (known : ∀ key, mapper.Asks call key → state.2.contains key.pointer = true) :
    (mapper.resolve call.field call.stored).Ends state
      (fun property after => mapper.reading call state.2 = .ok property ∧
        after.1.store = state.1.store ∧ after.2 = state.2)
      fun error after => mapper.reading call state.2 = .error error ∧
        after.1.store = state.1.store ∧ after.2 = state.2 := by
  have ends : (mapper.resolve call.field call.stored).Ends state _ _ :=
    ends_resolve_of_steps
      (fun after => after.1.store = state.1.store ∧ after.2 = state.2)
      (fun _ => False) backed.sound ?_ ?_ ?_
  · refine ends.mono ?_ ?_
    · rintro property after ⟨⟨sameStore, sameCache⟩, reads⟩
      exact ⟨sameCache ▸ reads, sameStore, sameCache⟩
    · rintro error after (⟨⟨⟩⟩ | ⟨⟨sameStore, sameCache⟩, reads⟩)
      exact ⟨sameCache ▸ reads, sameStore, sameCache⟩
  · exact fun _ _ _ => ⟨rfl, rfl⟩
  · intro keys memory sound present answered
    rw [batches_eq_nil fun key member => known key ((asks_iff present answered).mpr member)]
    exact ⟨rfl, rfl⟩
  · intro key memory sound present answered
    obtain ⟨found, here⟩ := Option.isSome_iff_exists.mp
      (known key ((asks_iff present answered).mpr List.mem_cons_self))
    rw [resolveKey, Run.ends_bind, Run.ends_get, here]
    exact ⟨⟨rfl, rfl⟩, here⟩

/-- What is read depends on the entries for the keys alone. -/
theorem reading_congr {other : EntityCache}
    (same : ∀ key, mapper.Asks call key → cache.entity? key.pointer = other.entity? key.pointer) :
    mapper.reading call cache = mapper.reading call other := by
  rw [reading, reading]
  cases present : call.stored.isNull with
  | true => rfl
  | false =>
    cases answered : answer (mapper.catalog.keys call.field call.stored) with
    | error error => rfl
    | ok keys =>
      have same : ∀ key ∈ keys, cache.entity? key.pointer = other.entity? key.pointer :=
        fun key member => same key ((asks_iff present answered).mpr member)
      have linked : mapper.links call.field cache keys = mapper.links call.field other keys := by
        rw [links, links, Result.mapM_congr fun key member => by rw [same key member]]
      cases keys with
      | nil => simp [linked]
      | cons key rest => simp [linked, same key List.mem_cons_self]

/-! ### Calls in a row -/

/-- What a key of a call is looked up as is what a cache may hold at its place. -/
theorem Truthful.of_lookUp (named : mapper.catalog.registry.Named)
    (labelled : Collections.Labelled (collections.documents key.collection))
    (inCalls : call ∈ calls) (asks : mapper.Asks call key)
    (isFound : mapper.lookUp collections key = .ok found) :
    mapper.Truthful collections calls key.pointer found := by
  cases reads : (collections.documents key.collection).mapM StoredDocument.load with
  | error error =>
    rw [lookUp_of_unreadable reads] at isFound
    cases isFound
  | ok loaded =>
    have intact := labelled.intact reads
    cases here : Collections.documentAt? (collections.documents key.collection) key.id with
    | none =>
      rw [lookUp_of_none intact here] at isFound
      cases isFound
      have nowhere := (Collections.documentAt?_eq_none_iff intact).mp here
      refine .absent fun stored member same => nowhere ?_
      exact List.mem_map.mpr ⟨stored, member, same⟩
    | some doc =>
      rw [lookUp_of_some intact here, Result.map_eq_ok] at isFound
      obtain ⟨entity, decoded, rfl⟩ := isFound
      obtain ⟨stored, member, same, holds⟩ := Collections.exists_of_documentAt? intact here
      exact .found member same (Collections.load_eq_ok.mpr holds.reads) inCalls (asks.target named)
        decoded

/-- A call that has succeeded knows its keys, and gives what they are read as. -/
theorem Plain.reading_of_answerCall (plain : mapper.Plain)
    (labelled : ∀ name, Collections.Labelled (collections.documents name))
    (backed : mapper.Backed collections state)
    (succeeded : (mapper.answerCall call state).1 = .ok property) :
    (∀ key, mapper.Asks call key →
      (mapper.answerCall call state).2.2.contains key.pointer = true) ∧
        mapper.reading call (mapper.answerCall call state).2.2 = .ok property := by
  rw [answerCall] at succeeded ⊢
  rcases ran : (mapper.resolve call.field call.stored).outcome state with ⟨result, after⟩
  rw [ran] at succeeded
  obtain rfl : result = .ok property := succeeded
  exact ((Run.ends_of_ok ran).mp (plain.ends_resolve labelled backed call)).2

/-- Where more is known, a call whose keys are known gives the same without a request. -/
theorem answerCall_again (backed : mapper.Backed collections state)
    (known : ∀ key, mapper.Asks call key → cache.contains key.pointer = true)
    (kept : ∀ place found, cache.get? place = some found → state.2.get? place = some found)
    (reads : mapper.reading call cache = .ok property) :
    ∃ after, mapper.answerCall call state = (.ok property, after) ∧
      after.1.store = state.1.store ∧ after.2 = state.2 := by
  have same : ∀ key, mapper.Asks call key →
      cache.entity? key.pointer = state.2.entity? key.pointer ∧
        state.2.contains key.pointer = true := by
    intro key asks
    obtain ⟨found, here⟩ := Option.isSome_iff_exists.mp (known key asks)
    rw [EntityCache.entity?, EntityCache.entity?, EntityCache.contains, here,
      kept key.pointer found here]
    exact ⟨rfl, rfl⟩
  have ends := ends_resolve_of_known backed fun key asks => (same key asks).2
  rw [← reading_congr fun key asks => (same key asks).1, reads] at ends
  rw [answerCall]
  rcases ran : (mapper.resolve call.field call.stored).outcome state with ⟨error | result, after⟩
  · cases ((Run.ends_of_error ran).mp ends).1
  · obtain ⟨isProperty, store, cache⟩ := (Run.ends_of_ok ran).mp ends
    cases isProperty
    exact ⟨after, rfl, store, cache⟩

/-- An entity cache is never wrong about what is stored, whatever calls it was passed to, how they
ended and which requests the store has refused. A call that has succeeded, be it followed by others,
has an entry for each of its keys: made once more, it asks the store for nothing, leaves the cache
as it is and gives an equal result. -/
theorem Plain.cache_truthful (plain : mapper.Plain) {world : World}
    (sound : world.memory.Sound mapper.catalog)
    (reached : Collections.Reached world.store.collections) (calls : List ReferenceCall) :
    (∀ place found, (mapper.afterCalls calls (world, [])).2.get? place = some found →
      mapper.Truthful world.store.collections calls place found) ∧
    ∀ earlier call later property, calls = earlier ++ call :: later →
      (mapper.answerCall call (mapper.afterCalls earlier (world, []))).1 = .ok property →
      (∀ key, mapper.Asks call key →
        (mapper.afterCalls calls (world, [])).2.contains key.pointer = true) ∧
      ∃ after, mapper.answerCall call (mapper.afterCalls calls (world, [])) =
          (.ok property, after) ∧
        after.1.store = (mapper.afterCalls calls (world, [])).1.store ∧
        after.2 = (mapper.afterCalls calls (world, [])).2 := by
  have labelled := reached.labelled
  have start : mapper.Backed world.store.collections (world, []) := ⟨sound, rfl⟩
  constructor
  · intro place found known
    have grown := plain.grown_afterCalls labelled start calls
    rcases grown.noted place found known with old | ⟨call, inCalls, key, asks, rfl, isFound⟩
    · cases old
    · exact .of_lookUp plain.named (labelled _) inCalls asks isFound
  · rintro earlier call later property rfl succeeded
    have before := plain.grown_afterCalls labelled start earlier
    have made := plain.grown_answerCall labelled before.backed call
    have after := plain.grown_afterCalls labelled made.backed later
    obtain ⟨known, reads⟩ := plain.reading_of_answerCall labelled before.backed succeeded
    have split : mapper.afterCalls (earlier ++ call :: later) (world, []) =
        mapper.afterCalls later
          (mapper.answerCall call (mapper.afterCalls earlier (world, []))).2 := by
      rw [afterCalls, List.foldl_append, List.foldl_cons]
      rfl
    rw [split]
    refine ⟨fun key asks => ?_, answerCall_again after.backed known after.kept reads⟩
    obtain ⟨found, here⟩ := Option.isSome_iff_exists.mp (known key asks)
    rw [EntityCache.contains, after.kept key.pointer found here]
    rfl

end Mapper

namespace Samples

/-- The first search is refused, and the guest is found by the second call. -/
theorem cache_truthful_guest :
    let mapper : Mapper := { catalog := { registry := library } }
    let world : World :=
      { store := { collections := people, faults := [some (.unavailable "connection lost")] } }
    let call := askAuthors [⟨"guests", .integer 2⟩]
    let after := mapper.afterCalls [call, call] (world, [])
    (mapper.answerCall call (world, [])).1.toOption.isSome = false ∧
      (∀ place found, after.2.get? place = some found →
        mapper.Truthful people [call, call] place found) ∧
      after.2.contains ⟨"guests", .integer 2⟩ = true := by
  intro mapper world call after
  have refused : (mapper.answerCall call (world, [])).1.toOption.isSome = false := by
    decide +kernel
  have passes : (mapper.answerCall call
      (mapper.afterCalls [call] (world, []))).1.toOption.isSome = true := by decide +kernel
  have sound : world.memory.Sound mapper.catalog := Memory.sound_empty _
  obtain ⟨entries, again⟩ := Mapper.Plain.cache_truthful (plain_library {}) sound reached_people
    [call, call]
  refine ⟨refused, entries, ?_⟩
  rcases answered : (mapper.answerCall call (mapper.afterCalls [call] (world, []))).1 with
    error | property
  · rw [answered] at passes
    cases passes
  · obtain ⟨known, -⟩ := again [call] call [] property rfl answered
    have asked : Catalog.answer (mapper.catalog.keys call.field call.stored) =
        .ok [⟨⟨"Author"⟩, "guests", .integer 2⟩] := Result.eq_ok_of_toOption (by decide +kernel)
    exact known _ ⟨rfl, _, asked, List.mem_cons_self⟩

end Samples

end DocMapper
