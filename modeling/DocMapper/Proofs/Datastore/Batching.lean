import DocMapper.Proofs.Conversion.RoundTrip
import DocMapper.Proofs.Datastore.Gathering

/-!
# Many pointers resolved at once

An array of pointers is resolved with one search for each collection. It ends well exactly if every
pointer can be resolved on its own, by a look-up of its place; and the references are then those
that the pointers become on their own, in their order, pointers that are dropped left out.
-/

namespace DocMapper

namespace Catalog

variable {catalog : Catalog} {field : MappedField} {target : Descriptor} {stored : Value}
  {key : Key} {keys : List Key}

theorem answer_keys_array (multiple : field.isMultiple = true) {name : ClassName}
    (isTarget : field.target? = some name) (described : catalog.Describes name target)
    (items : List Value) (keys : List Key) :
    answer (catalog.keys field (.array items)) = .ok keys ↔
      items.mapM (keyFor field target) = .ok keys := by
  rw [answer_keys_eq_ok]
  constructor
  · rintro ⟨other, ⟨name', isTarget', described'⟩, points⟩
    obtain rfl := Option.some.inj (isTarget.symm.trans isTarget')
    obtain rfl := described.unique described'
    obtain ⟨_, same, points⟩ := (keysFor_eq_ok_of_multiple multiple).mp points
    cases same
    exact points
  · intro points
    exact ⟨target, ⟨name, isTarget, described⟩,
      (keysFor_eq_ok_of_multiple multiple).mpr ⟨items, rfl, points⟩⟩

/-- The stored value of a field over one entity has one key. -/
theorem exists_of_keys_of_single (single : field.isMultiple = false)
    (isKeys : answer (catalog.keys field stored) = .ok keys) : ∃ key, keys = [key] := by
  obtain ⟨target, -, points⟩ := answer_keys_eq_ok.mp isKeys
  obtain ⟨key, -, same⟩ := (keysFor_eq_ok_of_single single).mp points
  exact ⟨key, same⟩

/-- The keys of a stored value are of the class that the field links to. -/
theorem className_of_keys (named : catalog.registry.Named)
    (isKeys : answer (catalog.keys field stored) = .ok keys) :
    ∃ name, field.target? = some name ∧ ∀ key ∈ keys, key.className = name := by
  obtain ⟨target, ⟨name, isTarget, described⟩, points⟩ := answer_keys_eq_ok.mp isKeys
  refine ⟨name, isTarget, fun key member => ?_⟩
  rw [← described.className_eq named]
  cases multiple : field.isMultiple with
  | true =>
    obtain ⟨items, -, points⟩ := (keysFor_eq_ok_of_multiple multiple).mp points
    obtain ⟨_, -, isKey⟩ := Result.exists_of_mem_results points member
    exact className_of_keyFor isKey
  | false =>
    obtain ⟨only, isKey, rfl⟩ := (keysFor_eq_ok_of_single multiple).mp points
    rw [List.mem_singleton.mp member]
    exact className_of_keyFor isKey

end Catalog

namespace Mapper

variable {mapper : Mapper} {world : World} {field : MappedField} {target : Descriptor}
  {stored : Value} {keys : List Key} {collections : Collections}

/-- The reference that a key becomes on its own. -/
def follow (mapper : Mapper) (collections : Collections) (field : MappedField) (key : Key) :
    Except MapError (Option Reference) := do
  mapper.linkTo field key (← mapper.lookUp collections key)

/-- A key of a document becomes the entity that is read from it. -/
theorem follow_of_found {key : Key} {doc : Document}
    (found : collections.findFirst key.collection (.idEq key.id) = .ok (some doc)) :
    mapper.follow collections field key =
      (Catalog.answer (mapper.catalog.decodeDocument key.className doc)).map
        fun entity => some (.resolved entity) := by
  rw [follow, lookUp, found]
  simp only [Except.mapError, Result.ok_bind, Option.mapM_some]
  cases Catalog.answer (mapper.catalog.decodeDocument key.className doc) <;> rfl

/-- Where all keys are known, they become what they become on their own. -/
theorem links_eq {cache : EntityCache} (known : ∀ key ∈ keys, ∃ found,
      cache.get? key.pointer = some found ∧ mapper.lookUp collections key = .ok found) :
    mapper.links field cache keys =
      (keys.mapM (mapper.follow collections field)).map List.reduceOption := by
  have same : ∀ key ∈ keys, mapper.linkTo field key (cache.entity? key.pointer) =
      mapper.follow collections field key := by
    intro key member
    obtain ⟨found, here, isFound⟩ := known key member
    rw [follow, isFound, EntityCache.entity?, here]
    rfl
  rw [links, Result.mapM_congr same]
  cases keys.mapM (mapper.follow collections field) <;> rfl

/-- What is known at the places of keys is what they are looked up as. -/
def Right (mapper : Mapper) (collections : Collections) (keys : List Key) (cache : EntityCache) :
    Prop :=
  ∀ key ∈ keys, ∀ found, cache.get? key.pointer = some found →
    mapper.lookUp collections key = .ok found

theorem right_nil : mapper.Right collections keys [] := by
  intro key _ found known
  cases known

/-- Where what is known is right, the batches of keys are read exactly if every key can be looked
up. -/
theorem readBatches_eq_ok_of_right {name : ClassName} {cache : EntityCache}
    (labelled : ∀ name, Collections.Labelled (collections.documents name))
    (sameClass : ∀ key ∈ keys, key.className = name) (right : mapper.Right collections keys cache) :
    (cache.batches keys).forM (mapper.readBatch collections) = .ok () ↔
      ∀ key ∈ keys, ∃ found, mapper.lookUp collections key = .ok found := by
  rw [readBatches_eq_ok labelled (cache.batched_batches sameClass)]
  constructor
  · intro founds key member
    cases known : cache.get? key.pointer with
    | some found => exact ⟨found, right key member found known⟩
    | none =>
      apply founds key
      rw [EntityCache.mem_unknown_iff sameClass, EntityCache.contains, known]
      exact ⟨member, rfl⟩
  · intro founds key member
    exact founds key (EntityCache.of_mem_unknown member).1

/-! ### Whole fields -/

/-- The keys of a stored value are what they are, whatever is remembered. -/
theorem outcome_keys (state : World × EntityCache) (keeps : world.Keeps mapper.catalog state.1)
    (field : MappedField) (stored : Value) :
    ∃ after, world.Keeps mapper.catalog after ∧
      (Run.onFirst (World.onMemory (mapper.catalog.keys field stored)) :
        ResolveM (List Key)).outcome state =
          (Catalog.answer (mapper.catalog.keys field stored), (after, state.2)) := by
  have steady : mapper.catalog.Steady (mapper.catalog.keys field stored) :=
    Catalog.steady_keys field stored
  obtain ⟨after, keeps', ran⟩ := World.outcome_onMemory steady keeps.ready
  exact ⟨after, keeps.trans keeps', Run.outcome_onFirst_eq state.2 ran⟩

theorem outcome_resolve_of_error (state : World × EntityCache)
    (keeps : world.Keeps mapper.catalog state.1)
    (present : stored.isNull = false) {error : MapError}
    (fails : Catalog.answer (mapper.catalog.keys field stored) = .error error) :
    ∃ after, mapper.Gathers world [] state after ∧
      (mapper.resolve field stored).outcome state = (.error error, after) := by
  obtain ⟨after, keeps', ran⟩ := outcome_keys state keeps field stored
  rw [fails] at ran
  refine ⟨_, .of_keeps keeps', ?_⟩
  simp only [resolve, present, Bool.false_eq_true, if_false]
  exact Run.outcome_bind_of_error ran

namespace Plain

/-- A field over many entities is resolved by its batches, and then by what is known. -/
theorem outcome_resolve_of_multiple (plain : mapper.Plain)
    (labelled : ∀ name, Collections.Labelled (world.store.collections.documents name))
    (state : World × EntityCache) (keeps : world.Keeps mapper.catalog state.1)
    (present : stored.isNull = false) (multiple : field.isMultiple = true)
    (isKeys : Catalog.answer (mapper.catalog.keys field stored) = .ok keys) :
    ∃ after, mapper.Gathers world keys state after ∧
      ((state.2.batches keys).forM (mapper.readBatch world.store.collections) = .ok () →
        ∀ key ∈ keys, after.2.contains key.pointer = true) ∧
      (mapper.resolve field stored).outcome state =
        ((state.2.batches keys).forM (mapper.readBatch world.store.collections) >>= fun _ =>
          (mapper.links field after.2 keys).map Property.references, after) := by
  obtain ⟨other, keeps', ran⟩ := outcome_keys state keeps field stored
  rw [isKeys] at ran
  obtain ⟨name, -, sameClass⟩ := Catalog.className_of_keys plain.named isKeys
  obtain ⟨after, gathers, fetched, known⟩ :=
    plain.outcome_fetchAll labelled sameClass (other, state.2) keeps'
  refine ⟨after, (Gathers.of_keeps keeps').trans gathers, known, ?_⟩
  simp only [resolve, present, Bool.false_eq_true, if_false, multiple, if_true]
  rw [Run.outcome_bind_of_ok ran,
    Run.outcome_bind_of_ok (Run.outcome_get _)]
  cases ends : (state.2.batches keys).forM (mapper.readBatch world.store.collections) with
  | error error =>
    rw [ends] at fetched
    exact Run.outcome_bind_of_error fetched
  | ok =>
    rw [ends] at fetched
    rw [Run.outcome_bind_of_ok fetched, Run.outcome_bind_of_ok (Run.outcome_get _)]
    cases linked : mapper.links field after.2 keys <;> rfl

/-- Where what is known is right for the keys, they become what they become on their own. -/
theorem result_resolve_of_multiple (plain : mapper.Plain)
    (labelled : ∀ name, Collections.Labelled (world.store.collections.documents name))
    (state : World × EntityCache) (keeps : world.Keeps mapper.catalog state.1)
    (present : stored.isNull = false) (multiple : field.isMultiple = true)
    (isKeys : Catalog.answer (mapper.catalog.keys field stored) = .ok keys)
    (right : mapper.Right world.store.collections keys state.2) :
    ((mapper.resolve field stored).outcome state).1 =
      (state.2.batches keys).forM (mapper.readBatch world.store.collections) >>= fun _ =>
        (keys.mapM (mapper.follow world.store.collections field)).map fun refs =>
          .references refs.reduceOption := by
  obtain ⟨after, gathers, known, ran⟩ :=
    plain.outcome_resolve_of_multiple labelled state keeps present multiple isKeys
  rw [ran]
  cases ends : (state.2.batches keys).forM (mapper.readBatch world.store.collections) with
  | error error => rfl
  | ok =>
    obtain ⟨name, -, sameClass⟩ := Catalog.className_of_keys plain.named isKeys
    have all : ∀ key ∈ keys, ∃ found, after.2.get? key.pointer = some found ∧
        mapper.lookUp world.store.collections key = .ok found := by
      intro key member
      obtain ⟨found, here⟩ := Option.isSome_iff_exists.mp (known ends key member)
      refine ⟨found, here, ?_⟩
      rcases gathers.found key.pointer found here with before | ⟨other, inKeys, same, isFound⟩
      · exact right key member found before
      · have isClass := (sameClass other inKeys).trans (sameClass key member).symm
        exact Key.eq_of_pointer_eq isClass same ▸ isFound
    simp only [Result.ok_bind, links_eq all]
    cases keys.mapM (mapper.follow world.store.collections field) <;> rfl

theorem outcome_resolve_of_single (plain : mapper.Plain) (state : World × EntityCache)
    (keeps : world.Keeps mapper.catalog state.1) (present : stored.isNull = false)
    (single : field.isMultiple = false) {key : Key}
    (isKey : Catalog.answer (mapper.catalog.keys field stored) = .ok [key]) :
    ∃ after, mapper.Gathers world [key] state after ∧
      (mapper.resolve field stored).outcome state =
        ((state.2.get? key.pointer).elim (mapper.lookUp world.store.collections key) .ok >>=
          fun found => (mapper.linkTo field key found).map fun ref =>
            ref.elim .null .reference, after) := by
  obtain ⟨other, keeps', ran⟩ := outcome_keys state keeps field stored
  rw [isKey] at ran
  obtain ⟨after, gathers, looked⟩ :=
    plain.outcome_resolveKey (List.mem_singleton_self key) (other, state.2) keeps'
  refine ⟨after, (Gathers.of_keeps keeps').trans gathers, ?_⟩
  simp only [resolve, present, single, Bool.false_eq_true, if_false]
  rw [Run.outcome_bind_of_ok ran]
  simp only [List.head?_cons]
  cases ends : (state.2.get? key.pointer).elim (mapper.lookUp world.store.collections key) .ok with
  | error error =>
    rw [ends] at looked
    exact Run.outcome_bind_of_error looked
  | ok found =>
    rw [ends] at looked
    rw [Run.outcome_bind_of_ok looked, Result.ok_bind]
    cases mapper.linkTo field key found with
    | error error => rfl
    | ok ref => cases ref <;> rfl

/-- Where what is known is right for the key, it becomes what it becomes on its own. -/
theorem result_resolve_of_single (plain : mapper.Plain) (state : World × EntityCache)
    (keeps : world.Keeps mapper.catalog state.1) (present : stored.isNull = false)
    (single : field.isMultiple = false) {key : Key}
    (isKey : Catalog.answer (mapper.catalog.keys field stored) = .ok [key])
    (right : mapper.Right world.store.collections [key] state.2) :
    ((mapper.resolve field stored).outcome state).1 =
      (mapper.follow world.store.collections field key).map fun ref =>
        ref.elim .null .reference := by
  obtain ⟨after, -, ran⟩ := plain.outcome_resolve_of_single state keeps present single isKey
  have looked : (state.2.get? key.pointer).elim
      (mapper.lookUp world.store.collections key) .ok =
        mapper.lookUp world.store.collections key := by
    cases known : state.2.get? key.pointer with
    | none => rfl
    | some found => exact (right key List.mem_cons_self found known).symm
  rw [ran, looked, follow]
  cases mapper.lookUp world.store.collections key <;> rfl

/-- With nothing known, keys become what they become on their own. -/
theorem result_resolve_of_fresh (plain : mapper.Plain)
    (labelled : ∀ name, Collections.Labelled (world.store.collections.documents name))
    (ready : world.Ready mapper.catalog) (present : stored.isNull = false)
    (multiple : field.isMultiple = true)
    (isKeys : Catalog.answer (mapper.catalog.keys field stored) = .ok keys) (property : Property) :
    ((mapper.resolve field stored).outcome (world, [])).1 = .ok property ↔
      ∃ refs, keys.mapM (mapper.follow world.store.collections field) = .ok refs ∧
        property = .references refs.reduceOption := by
  rw [plain.result_resolve_of_multiple labelled (world, []) (.refl ready) present multiple isKeys
    right_nil]
  obtain ⟨name, -, sameClass⟩ := Catalog.className_of_keys plain.named isKeys
  cases ends : (EntityCache.batches [] keys).forM (mapper.readBatch world.store.collections) with
  | ok =>
    rw [Result.ok_bind, Result.map_eq_ok]
    simp only [eq_comm]
  | error error =>
    rw [Result.error_bind]
    refine iff_of_false (by simp) ?_
    rintro ⟨refs, follows, -⟩
    have founds : ∀ key ∈ keys, ∃ found,
        mapper.lookUp world.store.collections key = .ok found := by
      intro key member
      obtain ⟨ref, follow⟩ :=
        Result.exists_forall₂_iff.mp ⟨refs, Result.mapM_eq_ok.mp follows⟩ key member
      obtain ⟨found, isFound, -⟩ := Result.bind_eq_ok.mp follow
      exact ⟨found, isFound⟩
    rw [(readBatches_eq_ok_of_right labelled sameClass right_nil).mpr founds] at ends
    cases ends

end Plain

/-! ### Pointers on their own -/

/-- What a stored pointer becomes on its own: the entity that is read from the document at its
place, or what the options say where there is none. -/
inductive Single (mapper : Mapper) (collections : Collections) (field : MappedField)
    (target : Descriptor) (stored : Value) : Option Reference → Prop
  | resolved {key : Key} {doc : Document} {entity : Entity}
      (points : Catalog.keyFor field target stored = .ok key)
      (found : collections.findFirst key.collection (.idEq key.id) = .ok (some doc))
      (read : Catalog.answer (mapper.catalog.decodeDocument target.className doc) = .ok entity) :
      mapper.Single collections field target stored (some (.resolved entity))
  | kept {key : Key} (points : Catalog.keyFor field target stored = .ok key)
      (absent : collections.findFirst key.collection (.idEq key.id) = .ok none)
      (policy : mapper.catalog.options.dangling = .keep) :
      mapper.Single collections field target stored (some (.missing key))
  | dropped {key : Key} (points : Catalog.keyFor field target stored = .ok key)
      (absent : collections.findFirst key.collection (.idEq key.id) = .ok none)
      (policy : mapper.catalog.options.dangling = .drop) :
      mapper.Single collections field target stored none

/-- Resolves a stored pointer with a look-up of its own. -/
def resolveSingle (mapper : Mapper) (field : MappedField) (target : Descriptor) (stored : Value) :
    ResolveM (Option Reference) := do
  let key ← Run.ofExcept (Catalog.keyFor field target stored)
  let entity ← mapper.resolveKey key
  Run.ofExcept (mapper.linkTo field key entity)

/-- What a pointer becomes is what its key becomes. -/
theorem single_iff {ref : Option Reference} : mapper.Single collections field target stored ref ↔
    ∃ key, Catalog.keyFor field target stored = .ok key ∧
      mapper.follow collections field key = .ok ref := by
  constructor
  · rintro (⟨points, found, read⟩ | ⟨points, absent, policy⟩ | ⟨points, absent, policy⟩)
    · refine ⟨_, points, ?_⟩
      rw [follow_of_found found, Catalog.className_of_keyFor points, read]
      rfl
    · refine ⟨_, points, ?_⟩
      rw [follow, lookUp, absent]
      simp [Except.mapError, linkTo, dangling, policy]
    · refine ⟨_, points, ?_⟩
      rw [follow, lookUp, absent]
      simp [Except.mapError, linkTo, dangling, policy]
  · rintro ⟨key, points, follows⟩
    obtain ⟨entity?, isFound, linked⟩ := Result.bind_eq_ok.mp follows
    obtain ⟨doc?, searched, read⟩ := Result.bind_eq_ok.mp isFound
    rw [Result.mapError_eq_ok] at searched
    cases doc? with
    | none =>
      obtain rfl : none = entity? := Except.ok.inj read
      rw [linkTo, dangling] at linked
      cases policy : mapper.catalog.options.dangling <;> rw [policy] at linked <;> cases linked
      · exact .kept points searched policy
      · exact .dropped points searched policy
    | some doc =>
      rw [Option.mapM_some, map_eq_pure_bind, Catalog.className_of_keyFor points] at read
      obtain ⟨entity, decoded, same⟩ := Result.bind_eq_ok.mp read
      cases same
      cases linked
      exact .resolved points searched decoded

namespace Plain

/-- With nothing known, resolving a pointer by a look-up of its own makes of it what it becomes. -/
theorem result_resolveSingle (plain : mapper.Plain) (ready : world.Ready mapper.catalog)
    (ref : Option Reference) :
    ((mapper.resolveSingle field target stored).outcome (world, [])).1 = .ok ref ↔
      mapper.Single world.store.collections field target stored ref := by
  rw [single_iff, resolveSingle]
  cases points : Catalog.keyFor field target stored with
  | error error =>
    rw [Run.outcome_bind_of_error (Run.outcome_ofExcept _ _)]
    simp
  | ok key =>
    rw [Run.outcome_bind_of_ok (Run.outcome_ofExcept _ _)]
    obtain ⟨after, -, ran⟩ :=
      plain.outcome_resolveKey (List.mem_singleton_self key) (world, []) (.refl ready)
    have nothing : EntityCache.get? [] key.pointer = none := rfl
    simp only [nothing, Option.elim_none] at ran
    simp only [Except.ok.injEq, exists_eq_left', follow]
    cases found : mapper.lookUp world.store.collections key with
    | error error =>
      rw [found] at ran
      rw [Run.outcome_bind_of_error ran]
      simp
    | ok entity =>
      rw [found] at ran
      rw [Run.outcome_bind_of_ok ran, Run.outcome_ofExcept, Result.ok_bind]

/-- With nothing known, an array of pointers is resolved exactly if each of its pointers is when it
is looked up on its own, and becomes what they become, in their order. -/
theorem resolve_array (plain : mapper.Plain) (ready : world.Ready mapper.catalog)
    (reached : Collections.Reached world.store.collections) (multiple : field.isMultiple = true)
    {name : ClassName} (isTarget : field.target? = some name)
    (described : mapper.catalog.Describes name target) (pointers : List Value) :
    (∀ property, ((mapper.resolve field (.array pointers)).outcome (world, [])).1 = .ok property ↔
      ∃ refs, List.Forall₂ (mapper.Single world.store.collections field target) pointers refs ∧
        property = .references refs.reduceOption) ∧
    ∀ pointer ref, ((mapper.resolveSingle field target pointer).outcome (world, [])).1 = .ok ref ↔
      mapper.Single world.store.collections field target pointer ref := by
  refine ⟨fun property => ?_, fun pointer ref => plain.result_resolveSingle ready ref⟩
  have composed : ∀ refs,
      List.Forall₂ (mapper.Single world.store.collections field target) pointers refs ↔
        ∃ keys, pointers.mapM (Catalog.keyFor field target) = .ok keys ∧
          keys.mapM (mapper.follow world.store.collections field) = .ok refs := by
    intro refs
    simp only [Result.mapM_eq_ok, ← Result.forall₂_exists_iff, ← single_iff]
  have answered := Catalog.answer_keys_array multiple isTarget described pointers
  simp only [composed]
  cases points : pointers.mapM (Catalog.keyFor field target) with
  | ok keys =>
    simp only [plain.result_resolve_of_fresh reached.labelled ready rfl multiple
      ((answered keys).mpr points) property, Except.ok.injEq, exists_eq_left']
  | error error =>
    cases asked : Catalog.answer (mapper.catalog.keys field (.array pointers)) with
    | ok keys =>
      rw [(answered keys).mp asked] at points
      cases points
    | error error =>
      obtain ⟨after, -, ran⟩ := outcome_resolve_of_error (world, []) (.refl ready) rfl asked
      rw [ran]
      simp

end Plain

end Mapper

namespace Samples

def authorRow (id : Int64) (name : String) : Document :=
  [("_id", .integer id), ("className", .text "Author"), ("name", .text name)]

def storedAuthor (id : Int64) (name : String) : Entity :=
  .mk author.name [("id", .value (.integer id)), ("name", .value (.text name))]

theorem answer_authorRow (id : Int64) (name : String) :
    Catalog.answer (Catalog.decodeDocument ⟨library, {}⟩ author.name (authorRow id name)) =
      .ok (storedAuthor id name) := by
  rw [Catalog.decodeDocument_eq]
  exact Catalog.answer_readObject_eq_ok.mpr ⟨_, describes_author {}, rfl⟩

def people : Collections :=
  (Collections.serve (Collections.serve [] (.save "authors" (authorRow 1 "Ada"))).2
    (.save "guests" (authorRow 2 "Bob"))).2

theorem reached_people : Collections.Reached people :=
  .serve (.serve .empty (by decide +kernel)) (by decide +kernel)

def bookAuthors : MappedField :=
  .ofSchema book.name (marked "authors" (.list (object "Author")) (.reference {}))

/-- Pointers into two collections are resolved, one of them twice, and one that leads nowhere is
kept. -/
theorem resolve_array_people :
    let mapper : Mapper := { catalog := { registry := library } }
    let world : World := { store := { collections := people } }
    ((mapper.resolve bookAuthors (.array [Pointer.toValue ⟨"authors", .integer 1⟩,
        Pointer.toValue ⟨"guests", .integer 2⟩, Pointer.toValue ⟨"authors", .integer 9⟩,
        Pointer.toValue ⟨"authors", .integer 1⟩])).outcome (world, [])).1 =
      .ok (.references [.resolved (storedAuthor 1 "Ada"), .resolved (storedAuthor 2 "Bob"),
        .missing ⟨author.name, "authors", .integer 9⟩, .resolved (storedAuthor 1 "Ada")]) := by
  intro mapper world
  have ada : mapper.Single people bookAuthors (Catalog.assemble ⟨library, {}⟩ author none [] [])
      (Pointer.toValue ⟨"authors", .integer 1⟩) (some (.resolved (storedAuthor 1 "Ada"))) :=
    .resolved rfl (by decide +kernel) (answer_authorRow 1 "Ada")
  have bob : mapper.Single people bookAuthors (Catalog.assemble ⟨library, {}⟩ author none [] [])
      (Pointer.toValue ⟨"guests", .integer 2⟩) (some (.resolved (storedAuthor 2 "Bob"))) :=
    .resolved rfl (by decide +kernel) (answer_authorRow 2 "Bob")
  have nobody : mapper.Single people bookAuthors (Catalog.assemble ⟨library, {}⟩ author none [] [])
      (Pointer.toValue ⟨"authors", .integer 9⟩)
      (some (.missing ⟨author.name, "authors", .integer 9⟩)) :=
    .kept rfl (by decide +kernel) rfl
  obtain ⟨resolves, -⟩ := @Mapper.Plain.resolve_array mapper world bookAuthors _
    (plain_library {}) ⟨Memory.sound_empty _, rfl⟩ reached_people rfl author.name rfl
    (describes_author {}) [Pointer.toValue ⟨"authors", .integer 1⟩,
      Pointer.toValue ⟨"guests", .integer 2⟩, Pointer.toValue ⟨"authors", .integer 9⟩,
      Pointer.toValue ⟨"authors", .integer 1⟩]
  exact (resolves _).mpr ⟨_, .cons ada (.cons bob (.cons nobody (.cons ada .nil))), rfl⟩

end Samples

end DocMapper
