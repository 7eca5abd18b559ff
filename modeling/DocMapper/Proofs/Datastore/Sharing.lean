import DocMapper.Proofs.Datastore.Batching

/-!
# Calls that share a cache

Calls to resolve references may share a cache, which tells entities apart by their places alone and
not by the class that they were read as. What the cache holds at a place is what a look-up of it
gives for the class of a call that asked for it. Where this is right for a call's own class, the
call gives what it gives with a cache of its own; only if look-ups fail in two collections, it may
report the failure of the other one, since a collection of which more is known is searched later or
not at all.
-/

namespace DocMapper

/-- A call to resolve the stored value of a reference field. -/
structure ReferenceCall where
  field : MappedField
  stored : Value

namespace Mapper

def answerCall (mapper : Mapper) (call : ReferenceCall) (state : World × EntityCache) :
    Except MapError Property × (World × EntityCache) :=
  (mapper.resolve call.field call.stored).outcome state

/-- What calls that are made one after the other leave behind. -/
def afterCalls (mapper : Mapper) (calls : List ReferenceCall) (state : World × EntityCache) :
    World × EntityCache :=
  calls.foldl (fun state call => (mapper.answerCall call state).2) state

/-- The stored value of the call stands for the key. -/
def Asks (mapper : Mapper) (call : ReferenceCall) (key : Key) : Prop :=
  call.stored.isNull = false ∧ ∃ keys,
    Catalog.answer (mapper.catalog.keys call.field call.stored) = .ok keys ∧ key ∈ keys

/-- A key of the call in a collection cannot be looked up. -/
def FailsIn (mapper : Mapper) (collections : Collections) (call : ReferenceCall)
    (collection : String) (error : MapError) : Prop :=
  ∃ key, mapper.Asks call key ∧ key.collection = collection ∧
    mapper.lookUp collections key = .error error

variable {mapper : Mapper} {world : World} {keys : List Key} {collections : Collections}
  {state : World × EntityCache} {call : ReferenceCall} {calls : List ReferenceCall}
  {name : ClassName}

/-! ### What the cache holds -/

/-- A call puts nothing into the cache but what its keys are looked up as. -/
theorem Plain.gathers_answerCall (plain : mapper.Plain)
    (labelled : ∀ name, Collections.Labelled (world.store.collections.documents name))
    (keeps : world.Keeps mapper.catalog state.1) (call : ReferenceCall) :
    ∃ keys, (∀ key ∈ keys, mapper.Asks call key) ∧
      mapper.Gathers world keys state (mapper.answerCall call state).2 := by
  rw [answerCall]
  cases present : call.stored.isNull with
  | true =>
    refine ⟨[], by simp, ?_⟩
    simp only [resolve, present, if_true, Run.outcome_pure]
    exact .refl keeps
  | false =>
    cases answered : Catalog.answer (mapper.catalog.keys call.field call.stored) with
    | error error =>
      obtain ⟨after, gathers, ran⟩ := outcome_resolve_of_error state keeps present answered
      exact ⟨[], by simp, by rwa [ran]⟩
    | ok keys =>
      refine ⟨keys, fun key member => ⟨present, keys, answered, member⟩, ?_⟩
      cases multiple : call.field.isMultiple with
      | true =>
        obtain ⟨after, gathers, -, ran⟩ :=
          plain.outcome_resolve_of_multiple labelled state keeps present multiple answered
        rwa [ran]
      | false =>
        obtain ⟨key, rfl⟩ := Catalog.exists_of_keys_of_single multiple answered
        obtain ⟨after, gathers, ran⟩ :=
          plain.outcome_resolve_of_single state keeps present multiple answered
        rwa [ran]

/-- What is known at a place is what it is looked up as for one of the calls. -/
structure Noted (mapper : Mapper) (world : World) (calls : List ReferenceCall)
    (state : World × EntityCache) : Prop where
  keeps : world.Keeps mapper.catalog state.1
  noted : ∀ place found, state.2.get? place = some found → ∃ call ∈ calls, ∃ key,
    mapper.Asks call key ∧ key.pointer = place ∧
      mapper.lookUp world.store.collections key = .ok found

theorem Noted.start (ready : world.Ready mapper.catalog) : mapper.Noted world [] (world, []) :=
  ⟨.refl ready, fun _ _ known => by cases known⟩

theorem Noted.answerCall (noted : mapper.Noted world calls state) (plain : mapper.Plain)
    (labelled : ∀ name, Collections.Labelled (world.store.collections.documents name))
    (call : ReferenceCall) :
    mapper.Noted world (calls ++ [call]) (mapper.answerCall call state).2 := by
  obtain ⟨keys, asks, gathers⟩ := plain.gathers_answerCall labelled noted.keeps call
  refine ⟨gathers.keeps, fun place found here => ?_⟩
  rcases gathers.found place found here with before | ⟨key, member, same, isFound⟩
  · obtain ⟨other, inCalls, key, asked, same, isFound⟩ := noted.noted place found before
    exact ⟨other, List.mem_append_left _ inCalls, key, asked, same, isFound⟩
  · exact ⟨call, List.mem_append_right _ (List.mem_singleton_self _), key, asks key member, same,
      isFound⟩

/-- A run of calls notes what its calls note. -/
theorem Noted.afterCalls (noted : mapper.Noted world calls state) (plain : mapper.Plain)
    (labelled : ∀ name, Collections.Labelled (world.store.collections.documents name))
    (more : List ReferenceCall) :
    mapper.Noted world (calls ++ more) (mapper.afterCalls more state) := by
  induction more generalizing calls state with
  | nil => simpa [Mapper.afterCalls] using noted
  | cons call rest ih =>
    have next := ih (noted.answerCall plain labelled call)
    rwa [List.append_assoc, List.singleton_append] at next

/-- A call asks for keys of the class that its field links to. -/
theorem Asks.target {key : Key} (asks : mapper.Asks call key)
    (named : mapper.catalog.registry.Named) : call.field.target? = some key.className := by
  obtain ⟨-, keys, answered, member⟩ := asks
  obtain ⟨name, isTarget, sameClass⟩ := Catalog.className_of_keys named answered
  rw [sameClass key member, isTarget]

/-- What is known is right for a call if all calls before it were for the same class. -/
theorem Noted.right (noted : mapper.Noted world calls state)
    (named : mapper.catalog.registry.Named)
    (sameTarget : ∀ other ∈ calls, other.field.target? = call.field.target?) :
    ∀ key, mapper.Asks call key → ∀ found, state.2.get? key.pointer = some found →
      mapper.lookUp world.store.collections key = .ok found := by
  intro key asks found known
  obtain ⟨other, inCalls, key', asked, same, isFound⟩ := noted.noted key.pointer found known
  have sameClass : key'.className = key.className := by
    apply Option.some.inj
    rw [← asked.target named, sameTarget other inCalls, asks.target named]
  exact Key.eq_of_pointer_eq sameClass same ▸ isFound

/-! ### What a call gives -/

/-- Where what is known is right, a batch of what is not known ends as the batch of everything in
its collection does. -/
theorem readBatch_eq_of_right {cache : EntityCache} {unknown all : Batch}
    (labelled : Collections.Labelled (collections.documents all.collection))
    (sameClass : ∀ key ∈ keys, key.className = name) (right : mapper.Right collections keys cache)
    (isUnknown : unknown ∈ cache.batches keys) (isAll : all ∈ EntityCache.batches [] keys)
    (here : unknown.collection = all.collection) :
    mapper.readBatch collections unknown = mapper.readBatch collections all := by
  have batched := cache.batched_batches sameClass
  have batchedAll := EntityCache.batched_batches [] sameClass
  have isClass := batched.sameClass unknown isUnknown
  have isClassAll := batchedAll.sameClass all isAll
  refine readBatch_fewer labelled (isClass.trans isClassAll.symm) here (fun id member => ?_)
    fun key inAll left => ?_
  · have own : ⟨unknown.className, unknown.collection, id⟩ ∈ unknown.keys :=
      Batch.mem_keys.mpr ⟨rfl, rfl, member⟩
    have asked := EntityCache.of_mem_unknown ((batched.mem_keys_iff isUnknown).mp own).1
    have inAll := (batchedAll.mem_keys_iff isAll).mpr
      ⟨(EntityCache.mem_unknown_iff sameClass).mpr ⟨asked.1, rfl⟩, here⟩
    exact (Batch.mem_keys.mp inAll).2.2
  · obtain ⟨asked, inCollection⟩ := (batchedAll.mem_keys_iff isAll).mp inAll
    have member := (EntityCache.of_mem_unknown asked).1
    cases known : cache.get? key.pointer with
    | some found => exact ⟨found, right key member found known⟩
    | none =>
      have new : cache.contains key.pointer = false := by
        rw [EntityCache.contains, known]
        rfl
      have own := (batched.mem_keys_iff isUnknown).mpr
        ⟨(EntityCache.mem_unknown_iff sameClass).mpr ⟨member, new⟩, inCollection.trans here.symm⟩
      exact absurd (Batch.mem_keys.mp own).2.2 left

theorem exists_of_mem_batches {cache : EntityCache} {batch : Batch} {error : MapError}
    (labelled : ∀ name, Collections.Labelled (collections.documents name))
    (sameClass : ∀ key ∈ keys, key.className = name) (isBatch : batch ∈ cache.batches keys)
    (fails : mapper.readBatch collections batch = .error error) :
    ∃ key ∈ keys, key.collection = batch.collection ∧
      mapper.lookUp collections key = .error error := by
  have batched := cache.batched_batches sameClass
  obtain ⟨key, own, failsToo⟩ :=
    exists_of_readBatch_eq_error (labelled _) (batched.asked batch isBatch) fails
  obtain ⟨asked, here⟩ := (batched.mem_keys_iff isBatch).mp own
  exact ⟨key, (EntityCache.of_mem_unknown asked).1, here, failsToo⟩

/-- Where what is known is right, batches end as they do with nothing known; or one fails here, and
one in another collection there. -/
theorem readBatches_eq_or {cache : EntityCache}
    (labelled : ∀ name, Collections.Labelled (collections.documents name))
    (sameClass : ∀ key ∈ keys, key.className = name) (right : mapper.Right collections keys cache) :
    (cache.batches keys).forM (mapper.readBatch collections) =
        (EntityCache.batches [] keys).forM (mapper.readBatch collections) ∨
      ∃ first second error other, first ≠ second ∧
        (∃ key ∈ keys, key.collection = first ∧ mapper.lookUp collections key = .error error) ∧
        (∃ key ∈ keys, key.collection = second ∧ mapper.lookUp collections key = .error other) ∧
        (cache.batches keys).forM (mapper.readBatch collections) = .error error ∧
        (EntityCache.batches [] keys).forM (mapper.readBatch collections) = .error other := by
  have passes := readBatches_eq_ok_of_right labelled sameClass right
  have nothing : mapper.Right collections keys [] := right_nil
  have passesAll := readBatches_eq_ok_of_right labelled sameClass nothing
  cases ends : (cache.batches keys).forM (mapper.readBatch collections) with
  | ok => exact .inl (passesAll.mpr (passes.mp ends)).symm
  | error error =>
    cases endsAll : (EntityCache.batches [] keys).forM (mapper.readBatch collections) with
    | ok =>
      rw [passes.mpr (passesAll.mp endsAll)] at ends
      cases ends
    | error other =>
      obtain ⟨unknown, isUnknown, fails⟩ := Result.exists_of_forM_eq_error ends
      obtain ⟨all, isAll, failsAll⟩ := Result.exists_of_forM_eq_error endsAll
      by_cases here : unknown.collection = all.collection
      · left
        rw [← fails, ← failsAll]
        exact readBatch_eq_of_right (labelled _) sameClass right isUnknown isAll here
      · right
        refine ⟨unknown.collection, all.collection, error, other, here, ?_, ?_, rfl, rfl⟩
        · exact exists_of_mem_batches labelled sameClass isUnknown fails
        · exact exists_of_mem_batches labelled sameClass isAll failsAll

/-- A call for which what is known is right gives what it gives with nothing known, unless look-ups
fail in two collections. -/
theorem Plain.answerCall_eq_or (plain : mapper.Plain) (ready : world.Ready mapper.catalog)
    (labelled : ∀ name, Collections.Labelled (world.store.collections.documents name))
    (keeps : world.Keeps mapper.catalog state.1)
    (right : ∀ key, mapper.Asks call key → ∀ found, state.2.get? key.pointer = some found →
      mapper.lookUp world.store.collections key = .ok found) :
    (mapper.answerCall call state).1 = (mapper.answerCall call (world, [])).1 ∨
      ∃ first second error other, first ≠ second ∧
        mapper.FailsIn world.store.collections call first error ∧
        mapper.FailsIn world.store.collections call second other ∧
        (mapper.answerCall call state).1 = .error error ∧
        (mapper.answerCall call (world, [])).1 = .error other := by
  simp only [answerCall]
  cases present : call.stored.isNull with
  | true =>
    left
    simp only [resolve, present, if_true, Run.outcome_pure]
  | false =>
    cases answered : Catalog.answer (mapper.catalog.keys call.field call.stored) with
    | error error =>
      obtain ⟨_, -, ran⟩ := outcome_resolve_of_error state keeps present answered
      obtain ⟨_, -, ranFresh⟩ :=
        outcome_resolve_of_error (world, []) (.refl ready) present answered
      exact .inl (by rw [ran, ranFresh])
    | ok keys =>
      have rightKeys : mapper.Right world.store.collections keys state.2 := fun key member =>
        right key ⟨present, keys, answered, member⟩
      cases multiple : call.field.isMultiple with
      | false =>
        obtain ⟨key, rfl⟩ := Catalog.exists_of_keys_of_single multiple answered
        left
        rw [plain.result_resolve_of_single state keeps present multiple answered rightKeys,
          plain.result_resolve_of_single (world, []) (.refl ready) present multiple answered
            right_nil]
      | true =>
        rw [plain.result_resolve_of_multiple labelled state keeps present multiple answered
            rightKeys,
          plain.result_resolve_of_multiple labelled (world, []) (.refl ready) present multiple
            answered right_nil]
        obtain ⟨name, -, sameClass⟩ := Catalog.className_of_keys plain.named answered
        rcases readBatches_eq_or labelled sameClass rightKeys with
          same | ⟨first, second, error, other, apart, ⟨key, member, here, fails⟩,
            ⟨key', member', here', fails'⟩, ends, endsAll⟩
        · exact .inl (by rw [same])
        · refine .inr ⟨first, second, error, other, apart,
            ⟨key, ⟨present, keys, answered, member⟩, here, fails⟩,
            ⟨key', ⟨present, keys, answered, member'⟩, here', fails'⟩, ?_, ?_⟩
          · rw [ends, Result.error_bind]
          · rw [endsAll, Result.error_bind]

/-- After any calls, the cache holds at a place what a look-up gives for the class of a call that
asked for it. A call for whose own class this is right gives what it gives with a cache of its own;
only if look-ups fail in two collections, it may report the failure of the other one. -/
theorem Plain.answerCall_shared (plain : mapper.Plain) (ready : world.Ready mapper.catalog)
    (reached : Collections.Reached world.store.collections) (earlier : List ReferenceCall)
    (call : ReferenceCall) :
    (∀ place found, (mapper.afterCalls earlier (world, [])).2.get? place = some found →
      ∃ other ∈ earlier, ∃ key, mapper.Asks other key ∧ key.pointer = place ∧
        mapper.lookUp world.store.collections key = .ok found) ∧
    ((∀ key, mapper.Asks call key → ∀ found,
        (mapper.afterCalls earlier (world, [])).2.get? key.pointer = some found →
          mapper.lookUp world.store.collections key = .ok found) →
      (mapper.answerCall call (mapper.afterCalls earlier (world, []))).1 =
          (mapper.answerCall call (world, [])).1 ∨
        ∃ first second error other, first ≠ second ∧
          mapper.FailsIn world.store.collections call first error ∧
          mapper.FailsIn world.store.collections call second other ∧
          (mapper.answerCall call (mapper.afterCalls earlier (world, []))).1 = .error error ∧
          (mapper.answerCall call (world, [])).1 = .error other) := by
  have noted := (Noted.start ready).afterCalls plain reached.labelled earlier
  exact ⟨noted.noted, plain.answerCall_eq_or ready reached.labelled noted.keeps⟩

end Mapper

namespace Samples

def askAuthors (places : List Pointer) : ReferenceCall :=
  ⟨bookAuthors, .array (places.map Pointer.toValue)⟩

/-- Authors may be asked for twice. -/
theorem answerCall_shared_people :
    let mapper : Mapper := { catalog := { registry := library } }
    let world : World := { store := { collections := people } }
    let call := askAuthors [⟨"guests", .integer 2⟩, ⟨"authors", .integer 1⟩]
    (mapper.answerCall call
      (mapper.afterCalls [askAuthors [⟨"authors", .integer 1⟩]] (world, []))).1 =
        (mapper.answerCall call (world, [])).1 := by
  intro mapper world call
  have ready : world.Ready mapper.catalog := ⟨Memory.sound_empty _, rfl⟩
  have noted := (Mapper.Noted.start ready).afterCalls (plain_library {}) reached_people.labelled
    [askAuthors [⟨"authors", .integer 1⟩]]
  obtain ⟨-, alike⟩ := Mapper.Plain.answerCall_shared (plain_library {}) ready reached_people
    [askAuthors [⟨"authors", .integer 1⟩]] call
  have passes : (mapper.answerCall call (world, [])).1.toOption.isSome = true := by decide +kernel
  rcases alike (noted.right (plain_library {}).named (by simp [call, askAuthors])) with
    same | ⟨_, _, _, _, _, _, _, _, fails⟩
  · exact same
  · rw [fails] at passes
    cases passes

/-- Why a call failed, if it did. -/
def failure? : Except MapError Property → Option MapError
  | .ok _ => none
  | .error error => some error

def cat : TypeSchema := entity "Cat" "pets" [marked "id" integer .id]

def dog : TypeSchema := entity "Dog" "pets" [marked "id" integer .id]

def owner : TypeSchema :=
  entity "Owner" "owners" [
    marked "id" integer .id,
    marked "cat" (object "Cat") (.reference {}),
    marked "dog" (object "Dog") (.reference {})]

def pets : Registry := .ofTypes [cat, dog, owner]

def askPet (name kind : String) : ReferenceCall :=
  ⟨.ofSchema owner.name (marked name (object kind) (.reference {})),
    Pointer.toValue ⟨"pets", .integer 1⟩⟩

/-- A single cat. -/
def kennel : Collections :=
  (Collections.serve [] (.save "pets" [("_id", .integer 1), ("className", .text "Cat")])).2

/-- An author, and one in each of two collections whose class nobody knows. -/
def strangers : Collections :=
  let authors := (Collections.serve [] (.save "authors" (authorRow 1 "Ada"))).2
  let ghost := (authors.serve
    (.save "authors" [("_id", .integer 2), ("className", .text "Ghost")])).2
  (ghost.serve (.save "guests" [("_id", .integer 1), ("className", .text "Phantom")])).2

/-- A cache shows. Once a cat was asked for as a cat, it passes for a dog; and once an author is
known, an array is first searched for in another collection and fails with what is wrong there. -/
theorem shared_cache_shows :
    (let mapper : Mapper := { catalog := { registry := pets } }
      let world : World := { store := { collections := kennel } }
      mapper.Plain ∧ world.Ready mapper.catalog ∧ Collections.Reached kennel ∧
        failure? (mapper.answerCall (askPet "dog" "Dog")
          (mapper.afterCalls [askPet "cat" "Cat"] (world, []))).1 = none ∧
        failure? (mapper.answerCall (askPet "dog" "Dog") (world, [])).1 =
          some (.invalidDocument ⟨"Dog"⟩ (.notAssignable ⟨"Cat"⟩ ⟨"Dog"⟩))) ∧
    (let mapper : Mapper := { catalog := { registry := library } }
      let world : World := { store := { collections := strangers } }
      let call := askAuthors [⟨"authors", .integer 1⟩, ⟨"guests", .integer 1⟩,
        ⟨"authors", .integer 2⟩]
      mapper.Plain ∧ world.Ready mapper.catalog ∧ Collections.Reached strangers ∧
        failure? (mapper.answerCall call
          (mapper.afterCalls [askAuthors [⟨"authors", .integer 1⟩]] (world, []))).1 =
            some (.unknownClass ⟨"Phantom"⟩) ∧
        failure? (mapper.answerCall call (world, [])).1 = some (.unknownClass ⟨"Ghost"⟩)) := by
  refine ⟨⟨⟨Registry.named_ofTypes _, .of_methods_eq_nil rfl, rfl⟩, ⟨Memory.sound_empty _, rfl⟩,
      .serve .empty (by decide +kernel), ?_, ?_⟩,
    plain_library {}, ⟨Memory.sound_empty _, rfl⟩,
      .serve (.serve (.serve .empty (by decide +kernel)) (by decide +kernel)) (by decide +kernel),
      ?_, ?_⟩
  all_goals decide +kernel

end Samples

end DocMapper
