import DocMapper.Proofs.Datastore.Retracing
import DocMapper.Proofs.Datastore.Strangers

/-!
# Searching a collection with documents of any class

A search loads the documents that it finds one after the other, and what one of them has looked up
is known to the next. Where references that lead nowhere are kept, knowing more does no harm: what
can be loaded with nothing known can be loaded (`Eases`). So a search succeeds if each of the
documents that it does not pass over can be loaded on its own, and gives one entity for each of
them. It fails all the same if any document holds the name of a class that cannot be described,
since that is found out before the document could be passed over.
-/

namespace DocMapper

namespace Mapper

variable {mapper : Mapper} {world : World} {name : ClassName} {descriptor : Descriptor}
  {doc : Document} {field : MappedField} {stored : Value} {keys : List Key} {key : Key}
  {state after : World × EntityCache} {property : Property}

/-! ### What resolving needs, and what it leaves known -/

theorem contains_of_resolveKey {found : Option Entity}
    (ran : (mapper.resolveKey key).outcome state = (.ok found, after)) :
    after.2.contains key.pointer = true := by
  rw [resolveKey, Run.outcome_bind_of_ok (Run.outcome_get _)] at ran
  cases known : state.2.get? key.pointer with
  | some result =>
    rw [known] at ran
    cases ran
    rw [EntityCache.contains, known]
    rfl
  | none =>
    rw [known] at ran
    -- The place is searched, what is there is read, and the result is noted.
    obtain ⟨_, _, -, ran⟩ := Run.outcome_bind_eq_ok.mp ran
    obtain ⟨_, _, -, ran⟩ := Run.outcome_bind_eq_ok.mp ran
    obtain ⟨_, _, noted, ran⟩ := Run.outcome_bind_eq_ok.mp ran
    cases noted
    cases ran
    exact EntityCache.contains_insert_self _ _ _

/-- A key that is resolved on its own is known afterwards. -/
theorem contains_of_resolve_single (keeps : world.Keeps mapper.catalog state.1)
    (present : stored.isNull = false) (single : field.isMultiple = false)
    (isKey : Catalog.answer (mapper.catalog.keys field stored) = .ok [key])
    (ran : (mapper.resolve field stored).outcome state = (.ok property, after)) :
    after.2.contains key.pointer = true := by
  obtain ⟨other, -, asked⟩ := outcome_keys state keeps field stored
  rw [isKey] at asked
  simp only [resolve, present, single, Bool.false_eq_true, if_false] at ran
  rw [Run.outcome_bind_of_ok asked] at ran
  simp only [List.head?_cons] at ran
  obtain ⟨entity, middle, looked, ran⟩ := Run.outcome_bind_eq_ok.mp ran
  obtain ⟨ref, last, linked, ran⟩ := Run.outcome_bind_eq_ok.mp ran
  obtain rfl : middle = last := (Prod.mk.inj linked).2
  have left : middle = after := by
    cases ref <;> exact (Prod.mk.inj ran).2
  exact left ▸ contains_of_resolveKey looked

/-- Where references that lead nowhere are kept, a field is resolved exactly if each of its keys is
known or can be looked up; and then all of them are known. -/
theorem Plain.resolve_of_keys (plain : mapper.Plain)
    (labelled : ∀ name, Collections.Labelled (world.store.collections.documents name))
    (policy : mapper.catalog.options.dangling = .keep)
    (keeps : world.Keeps mapper.catalog state.1) (present : stored.isNull = false)
    (isKeys : Catalog.answer (mapper.catalog.keys field stored) = .ok keys) :
    ∃ result after, (mapper.resolve field stored).outcome state = (result, after) ∧
      mapper.Gathers world keys state after ∧
      ((∃ property, result = .ok property) ↔ ∀ key ∈ keys, state.2.contains key.pointer = false →
        ∃ found, mapper.lookUp world.store.collections key = .ok found) ∧
      ((∃ property, result = .ok property) →
        ∀ key ∈ keys, after.2.contains key.pointer = true) := by
  cases multiple : field.isMultiple with
  | true =>
    obtain ⟨after, gathers, known, ran⟩ :=
      plain.outcome_resolve_of_multiple labelled state keeps present multiple isKeys
    refine ⟨_, after, ran, gathers, ?_⟩
    obtain ⟨name, -, sameClass⟩ := Catalog.className_of_keys plain.named isKeys
    have fetched : (state.2.batches keys).forM (mapper.readBatch world.store.collections) = .ok () ↔
        ∀ key ∈ keys, state.2.contains key.pointer = false →
          ∃ found, mapper.lookUp world.store.collections key = .ok found := by
      rw [readBatches_eq_ok labelled (state.2.batched_batches sameClass)]
      simp only [EntityCache.mem_unknown_iff sameClass, and_imp]
    rw [links_eq_kept policy]
    generalize (state.2.batches keys).forM (mapper.readBatch world.store.collections) = ends
      at fetched known
    have good : (∃ property, (ends >>= fun _ => (Except.ok (keys.map fun key =>
        kept key (after.2.entity? key.pointer))).map Property.references) = .ok property) ↔
          ends = .ok () := by
      cases ends with
      | error error => simp
      | ok => simp [Except.map]
    exact ⟨good.trans fetched, fun succeeds => known (good.mp succeeds)⟩
  | false =>
    obtain ⟨key, rfl⟩ := Catalog.exists_of_keys_of_single multiple isKeys
    obtain ⟨after, gathers, ran⟩ :=
      plain.outcome_resolve_of_single state keeps present multiple isKeys
    simp only [linkTo_eq_kept policy] at ran
    refine ⟨_, after, ran, gathers, ?_⟩
    simp only [List.mem_singleton, forall_eq]
    constructor
    · cases known : state.2.get? key.pointer with
      | some found => simp [EntityCache.contains, known, Except.map]
      | none =>
        cases mapper.lookUp world.store.collections key <;>
          simp [EntityCache.contains, known, Except.map]
    · rintro ⟨property, good⟩
      exact contains_of_resolve_single keeps present multiple isKeys (ran.trans (by rw [good]))

/-! ### Knowing more -/

/-- Both states have the documents of the world, and what is known in the first is known in the
second. -/
structure Within (mapper : Mapper) (world : World) (first second : World × EntityCache) :
    Prop where
  keeps : world.Keeps mapper.catalog first.1
  keepsOther : world.Keeps mapper.catalog second.1
  known : ∀ place, first.2.contains place = true → second.2.contains place = true

/-- Where the first run succeeds, the second does from any state that knows more, and it ends in one
that knows more. -/
def Eases {α β : Type} (mapper : Mapper) (world : World) (act : ResolveM α) (act' : ResolveM β) :
    Prop :=
  ∀ first second after a, mapper.Within world first second →
    act.outcome first = (.ok a, after) →
      ∃ b after', act'.outcome second = (.ok b, after') ∧ mapper.Within world after after'

namespace Eases

variable {α β : Type}

theorem pure (a : α) (b : β) : mapper.Eases world (Pure.pure a) (Pure.pure b) := by
  rintro first second _ _ within ⟨⟩
  exact ⟨b, second, rfl, within⟩

theorem bind {α' β' : Type} {act : ResolveM α} {act' : ResolveM α'} {next : α → ResolveM β}
    {next' : α' → ResolveM β'} (start : mapper.Eases world act act')
    (rest : ∀ a a', mapper.Eases world (next a) (next' a')) :
    mapper.Eases world (act >>= next) (act' >>= next') := by
  intro first second after b within ran
  obtain ⟨a, middle, ran, later⟩ := Run.outcome_bind_eq_ok.mp ran
  obtain ⟨a', middle', ran', within'⟩ := start _ _ _ _ within ran
  obtain ⟨b', after', later', within''⟩ := rest a a' _ _ _ _ within' later
  exact ⟨b', after', Run.outcome_bind_eq_ok.mpr ⟨a', middle', ran', later'⟩, within''⟩

theorem foldlM {f : β → α → ResolveM β} {items : List α}
    (each : ∀ b b' a, mapper.Eases world (f b a) (f b' a)) (start start' : β) :
    mapper.Eases world (items.foldlM f start) (items.foldlM f start') := by
  induction items generalizing start start' with
  | nil => exact pure start start'
  | cons a rest ih =>
    rw [List.foldlM_cons, List.foldlM_cons]
    exact (each start start' a).bind ih

end Eases

section

variable (plain : mapper.Plain)
  (labelled : ∀ name, Collections.Labelled (world.store.collections.documents name))
  (policy : mapper.catalog.options.dangling = .keep)

include plain labelled policy

/-- Knowing more does no harm to resolving a field: fewer keys have to be looked up. -/
theorem Plain.eases_resolve (field : MappedField) (stored : Value) :
    mapper.Eases world (mapper.resolve field stored) (mapper.resolve field stored) := by
  cases present : stored.isNull with
  | true =>
    rw [resolve, if_pos present]
    exact .pure _ _
  | false =>
    intro first second after property within ran
    cases isKeys : Catalog.answer (mapper.catalog.keys field stored) with
    | error error =>
      obtain ⟨_, -, fails⟩ := outcome_resolve_of_error first within.keeps present isKeys
      rw [fails] at ran
      cases ran
    | ok keys =>
      obtain ⟨_, _, ran', gathers, needs, -⟩ :=
        plain.resolve_of_keys labelled policy within.keeps present isKeys
      obtain ⟨rfl, rfl⟩ := Prod.mk.inj (ran'.symm.trans ran)
      obtain ⟨result, after', eased, gathers', needs', known⟩ :=
        plain.resolve_of_keys labelled policy within.keepsOther present isKeys
      have fewer : ∀ key ∈ keys, second.2.contains key.pointer = false →
          ∃ found, mapper.lookUp world.store.collections key = .ok found := by
        intro key member unknown
        refine needs.mp ⟨property, rfl⟩ key member (Bool.eq_false_iff.mpr fun known => ?_)
        rw [within.known _ known] at unknown
        cases unknown
      obtain ⟨property', rfl⟩ := needs'.mpr fewer
      refine ⟨property', after', eased, gathers.keeps, gathers'.keeps, fun place noted => ?_⟩
      -- The first run knows what it knew before, which the second knew as well, and the keys.
      obtain ⟨found, here⟩ := Option.isSome_iff_exists.mp noted
      rcases gathers.found place found here with earlier | ⟨key, member, rfl, -⟩
      · exact gathers'.kept place (within.known place (by rw [EntityCache.contains, earlier]; rfl))
      · exact known ⟨property', rfl⟩ key member

theorem Plain.eases_loadReference (doc : Document) (entity entity' : Entity)
    (field : MappedField) : mapper.Eases world (mapper.loadReference doc entity field)
      (mapper.loadReference doc entity' field) := by
  rw [loadReference, loadReference]
  cases Document.get? doc field.storedName with
  | none => exact .pure _ _
  | some stored =>
    exact (plain.eases_resolve labelled policy field stored).bind fun _ _ => .pure _ _

/-- Knowing more does no harm to loading a document. It is read as the same entity in any case, and
what follows goes through the same fields. -/
theorem Plain.eases_loadResolved (requested : ClassName) (doc : Document) :
    mapper.Eases world (mapper.loadResolved requested doc) (mapper.loadResolved requested doc) := by
  intro first second after entity within ran
  have loaded := (plain.looks_loadResolved requested doc first within.keeps.ready).2 entity
    (congrArg Prod.fst ran)
  cases loaded with
  | @intro descriptor decoded _ isClass read _ =>
    obtain ⟨middle, keeps, follows⟩ :=
      plain.outcome_loadResolved_of_read within.keeps.ready first.2 isClass read
    obtain ⟨middle', keeps', follows'⟩ :=
      plain.outcome_loadResolved_of_read within.keepsOther.ready second.2 isClass read
    rw [follows] at ran
    have between : mapper.Within world (middle, first.2) (middle', second.2) :=
      ⟨within.keeps.trans keeps, within.keepsOther.trans keeps', within.known⟩
    obtain ⟨entity', after', ran', within'⟩ := Eases.foldlM
      (plain.eases_loadReference labelled policy doc) decoded decoded _ _ _ _ between ran
    exact ⟨entity', after', follows'.trans ran', within'⟩

end

/-! ### Telling documents of the class -/

/-- The document holds the name of no class, or of one whose objects can stand for those of the
given one. -/
def Kindred (mapper : Mapper) (name : ClassName) (doc : Document) : Prop :=
  ∀ stored, mapper.catalog.storedClassName? doc = some stored → stored ≠ name →
    ∃ descriptor, mapper.catalog.Describes stored descriptor ∧
      descriptor.isAssignableTo name = true

/-- The class whose name the document holds, if any, can be described. -/
def Recognizes (mapper : Mapper) (doc : Document) : Prop :=
  ∀ stored, mapper.catalog.storedClassName? doc = some stored →
    ∃ descriptor, mapper.catalog.Describes stored descriptor

/-- Kindred documents are what the search for a class loads. -/
theorem answer_holdsInstance_eq_true :
    Catalog.answer (mapper.holdsInstance name doc) = .ok true ↔ mapper.Kindred name doc := by
  rw [answer_holdsInstance_eq_ok, Kindred]
  constructor
  · rintro (⟨own, -⟩ | ⟨stored, other, held, -, isOther, assignable⟩) stored' held' differs
    · exact absurd (own stored' held') differs
    · obtain rfl := Option.some.inj (held.symm.trans held')
      exact ⟨other, isOther, assignable⟩
  · intro kindred
    by_cases own : ∀ stored, mapper.catalog.storedClassName? doc = some stored → stored = name
    · exact .inl ⟨own, rfl⟩
    · push Not at own
      obtain ⟨stored, held, differs⟩ := own
      obtain ⟨other, isOther, assignable⟩ := kindred stored held differs
      exact .inr ⟨stored, other, held, differs, isOther, assignable⟩

instance (mapper : Mapper) (name : ClassName) (doc : Document) :
    Decidable (mapper.Kindred name doc) :=
  decidable_of_iff (Catalog.answer (mapper.holdsInstance name doc) = .ok true)
    answer_holdsInstance_eq_true

/-- A document whose class can be described is kindred or a stranger. -/
theorem recognizes_iff (described : mapper.catalog.Describes name descriptor) :
    mapper.Recognizes doc ↔ mapper.Kindred name doc ∨ mapper.Stranger name doc := by
  constructor
  · intro recognized
    refine or_iff_not_imp_left.mpr fun apart => ?_
    simp only [Kindred, not_forall] at apart
    obtain ⟨stored, held, differs, unassignable⟩ := apart
    obtain ⟨other, isOther⟩ := recognized stored held
    exact ⟨stored, other, held, differs, isOther,
      Bool.eq_false_iff.mpr fun assignable => unassignable ⟨other, isOther, assignable⟩⟩
  · rintro (kindred | ⟨stranger, other, held', -, isOther, -⟩) stored held
    · by_cases own : stored = name
      · exact ⟨descriptor, own ▸ described⟩
      · obtain ⟨other, isOther, -⟩ := kindred stored held own
        exact ⟨other, isOther⟩
    · obtain rfl := Option.some.inj (held'.symm.trans held)
      exact ⟨other, isOther⟩

theorem not_kindred_of_stranger (stranger : mapper.Stranger name doc) :
    ¬ mapper.Kindred name doc := by
  intro kindred
  have passed := answer_holdsInstance_eq_false.mpr stranger
  rw [answer_holdsInstance_eq_true.mpr kindred] at passed
  cases passed

/-! ### Loading what a search finds -/

/-- What a search gives for a document that it finds: what a kindred document is loaded as, and
nothing for any other. -/
def Yields (mapper : Mapper) (name : ClassName) (doc : Document) : Option Entity → Prop
  | some entity => mapper.Kindred name doc ∧ mapper.Loaded name doc entity
  | none => ¬ mapper.Kindred name doc

theorem Plain.looks_loadFound_yields (plain : mapper.Plain) (name : ClassName) (doc : Document) :
    Looks mapper.catalog Prod.fst (mapper.loadFound name doc) (mapper.Yields name doc) := by
  refine Looks.bind (Looks.onMemory (steady_holdsInstance mapper name doc)).onFirst
    fun holds answered => ?_
  cases holds with
  | true =>
    have kindred := answer_holdsInstance_eq_true.mp answered
    exact (plain.looks_loadResolved name doc).bind fun _ loaded => .pure ⟨kindred, loaded⟩
  | false =>
    exact .pure (not_kindred_of_stranger (answer_holdsInstance_eq_false.mp answered))

/-- There is one entity for each kindred document, in the order of the documents. -/
theorem loaded_of_yields {docs : List Document} {found : List (Option Entity)}
    (yields : List.Forall₂ (mapper.Yields name) docs found) :
    List.Forall₂ (mapper.Loaded name) (docs.filter (mapper.Kindred name ·)) found.reduceOption := by
  induction yields with
  | nil => exact .nil
  | @cons doc entity? _ _ here _ ih =>
    cases entity? with
    | none =>
      have apart : ¬ mapper.Kindred name doc := here
      simpa [apart] using ih
    | some entity => simpa [here.1] using List.Forall₂.cons here.2 ih

section

variable (plain : mapper.Plain)
  (labelled : ∀ name, Collections.Labelled (world.store.collections.documents name))
  (policy : mapper.catalog.options.dangling = .keep)
  (described : mapper.catalog.Describes name descriptor)

include plain labelled policy described

/-- Whatever was looked up before, a document is dealt with exactly if its class can be described,
provided that it can be loaded on its own if it is kindred. -/
theorem Plain.loadFound_iff (ready : world.Ready mapper.catalog)
    (keeps : world.Keeps mapper.catalog state.1)
    (loads : mapper.Kindred name doc →
      ∃ entity, ((withFreshCache (mapper.loadResolved name doc)).outcome world).1 = .ok entity) :
    (∃ found, ((mapper.loadFound name doc).outcome state).1 = .ok found) ↔
      mapper.Recognizes doc := by
  obtain ⟨other, keeps', asked⟩ :=
    World.outcome_onMemory (steady_holdsInstance mapper name doc) keeps.ready
  have first := Run.outcome_onFirst_eq state.2 asked
  rw [recognizes_iff described, loadFound]
  cases answered : Catalog.answer (mapper.holdsInstance name doc) with
  | error error =>
    rw [answered] at first
    rw [Run.outcome_bind_of_error first, ← answer_holdsInstance_eq_true,
      ← answer_holdsInstance_eq_false, answered]
    simp
  | ok holds =>
    rw [answered] at first
    rw [Run.outcome_bind_of_ok first]
    cases holds with
    | false =>
      exact iff_of_true ⟨none, rfl⟩ (.inr (answer_holdsInstance_eq_false.mp answered))
    | true =>
      have kindred := answer_holdsInstance_eq_true.mp answered
      refine iff_of_true ?_ (.inl kindred)
      obtain ⟨entity, alone⟩ := loads kindred
      rw [outcome_withFreshCache] at alone
      -- On its own it was loaded with nothing known, which is within any state.
      have within : mapper.Within world (world, []) (other, state.2) :=
        ⟨.refl ready, keeps.trans keeps', fun _ known => by cases known⟩
      obtain ⟨entity', _, ran, -⟩ := plain.eases_loadResolved labelled policy name doc _ _ _ entity
        within (Prod.ext alone rfl)
      exact ⟨some entity', by simp [ran, Except.map]⟩

/-- So are all documents that are found, one after the other. -/
theorem Plain.mapM_loadFound_iff (ready : world.Ready mapper.catalog)
    (keeps : world.Keeps mapper.catalog state.1) {docs : List Document}
    (loads : ∀ doc ∈ docs, mapper.Kindred name doc →
      ∃ entity, ((withFreshCache (mapper.loadResolved name doc)).outcome world).1 = .ok entity) :
    (∃ found, ((docs.mapM (mapper.loadFound name)).outcome state).1 = .ok found) ↔
      ∀ doc ∈ docs, mapper.Recognizes doc := by
  -- The state between two documents may know anything, as long as it has the same documents.
  induction docs generalizing state with
  | nil => exact iff_of_true ⟨[], rfl⟩ (by simp)
  | cons doc rest ih =>
    obtain ⟨loadsFirst, loadsRest⟩ := List.forall_mem_cons.mp loads
    have first := plain.loadFound_iff labelled policy described ready keeps loadsFirst
    have keeps' := (plain.looks_loadFound name doc state keeps.ready).1
    rw [List.forall_mem_cons, ← first, List.mapM_cons]
    rcases ran : (mapper.loadFound name doc).outcome state with ⟨error | found, middle⟩
    · rw [Run.outcome_bind_of_error ran]
      simp
    · rw [ran] at keeps'
      rw [Run.outcome_bind_of_ok ran, ← map_eq_pure_bind, Run.outcome_map,
        Result.exists_map_eq_ok_iff, ih (keeps.trans keeps') loadsRest]
      simp

end

/-- Where references that lead nowhere are kept and every kindred document that is found can be
loaded on its own, a search succeeds exactly if the documents can be read and each of them is of a
class that can be described. It gives one entity for each kindred document, in the order of the
store, and none for any other. -/
theorem Plain.find_iff_recognizes (plain : mapper.Plain) (ready : world.Ready mapper.catalog)
    (reached : Collections.Reached world.store.collections)
    (policy : mapper.catalog.options.dangling = .keep)
    (described : mapper.catalog.Describes name descriptor) (isEntity : descriptor.isEntity = true)
    {filter : Filter}
    (loads : ∀ docs, world.store.collections.find descriptor.collection filter = .ok docs →
      ∀ doc ∈ docs, mapper.Kindred name doc →
        ∃ entity, ((withFreshCache (mapper.loadResolved name doc)).outcome world).1 = .ok entity) :
    ((∃ entities, ((mapper.find name filter).outcome world).1 = .ok entities) ↔
      ∃ docs, world.store.collections.find descriptor.collection filter = .ok docs ∧
        ∀ doc ∈ docs, mapper.Recognizes doc) ∧
    ∀ docs entities, world.store.collections.find descriptor.collection filter = .ok docs →
      ((mapper.find name filter).outcome world).1 = .ok entities →
        List.Forall₂ (mapper.Loaded name) (docs.filter (mapper.Kindred name ·)) entities := by
  obtain ⟨middle, keeps, ran⟩ := result_find ready described isEntity filter
  rw [ran]
  cases searched : world.store.collections.find descriptor.collection filter with
  | error error => simp [Except.mapError]
  | ok docs =>
    simp only [Except.mapError, Result.ok_bind, Result.exists_map_eq_ok_iff, Except.ok.injEq,
      exists_eq_left']
    refine ⟨plain.mapM_loadFound_iff reached.labelled policy described ready keeps
      (loads docs searched), ?_⟩
    rintro _ entities rfl given
    obtain ⟨found, loaded, rfl⟩ := Result.map_eq_ok.mp given
    have looks : Looks mapper.catalog Prod.fst (docs.mapM (mapper.loadFound name))
        (List.Forall₂ (mapper.Yields name) docs) :=
      .mapM fun doc _ => plain.looks_loadFound_yields name doc
    exact loaded_of_yields ((looks (middle, []) keeps.ready).2 found loaded)

end Mapper

namespace Samples

/-- A person, an employee, and somebody whose document holds no class name. -/
def rosterRows : List Document :=
  [[("_id", .integer 1), ("className", .text "Person")],
    [("_id", .integer 2), ("className", .text "Employee")],
    [("_id", .integer 3)]]

def rosterWorld : World where
  store := { collections := (staffWorld.store.collections.serve
    (.save "people" [("_id", .integer 3)])).2 }

def rosterFilter : Filter := .idIn [.integer 1, .integer 2, .integer 3]

/-- Searching the roster for employees gives the employee and the document without a class name, and
passes over the person. -/
theorem find_iff_recognizes_roster :
    let mapper : Mapper := { catalog := staff }
    ∃ entities, ((mapper.find employee.name rosterFilter).outcome rosterWorld).1 = .ok entities ∧
      List.Forall₂ (mapper.Loaded employee.name) rosterRows.tail entities := by
  intro mapper
  have reached : Collections.Reached rosterWorld.store.collections :=
    .serve (.serve (.serve .empty (by decide +kernel)) (by decide +kernel)) (by decide +kernel)
  have searched : rosterWorld.store.collections.find "people" rosterFilter = .ok rosterRows :=
    Result.eq_ok_of_toOption (by decide +kernel)
  have kindred : rosterRows.filter (mapper.Kindred employee.name ·) = rosterRows.tail := by
    decide +kernel
  have alone : ∀ doc ∈ rosterRows.tail, ((Mapper.withFreshCache
      (mapper.loadResolved employee.name doc)).outcome rosterWorld).1.toOption.isSome = true := by
    decide +kernel
  have recognized : ∀ doc ∈ rosterRows, mapper.Recognizes doc := by
    intro doc member
    refine (Mapper.recognizes_iff describes_employee).mpr ?_
    revert doc
    decide +kernel
  obtain ⟨succeeds, gives⟩ := @Mapper.Plain.find_iff_recognizes mapper rosterWorld employee.name _
    ⟨Registry.named_ofTypes _, .of_methods_eq_nil rfl, rfl⟩ ⟨Memory.sound_empty _, rfl⟩ reached rfl
    describes_employee rfl rosterFilter fun docs found doc member isKindred => by
      obtain rfl := Except.ok.inj (searched.symm.trans found)
      have inTail : doc ∈ rosterRows.tail := by
        rw [← kindred]
        exact List.mem_filter.mpr ⟨member, decide_eq_true isKindred⟩
      obtain ⟨entity, loaded⟩ := Option.isSome_iff_exists.mp (alone doc inTail)
      exact ⟨entity, Result.eq_ok_of_toOption loaded⟩
  obtain ⟨entities, found⟩ := succeeds.mpr ⟨rosterRows, searched, recognized⟩
  exact ⟨entities, found, kindred ▸ gives rosterRows entities searched found⟩

/-- Why a search for authors failed, if it did. -/
def searchFault? (world : World) (filter : Filter) : Option MapError :=
  match ((Mapper.find { catalog := ⟨library, {}⟩ } author.name filter).outcome world).1 with
  | .ok _ => none
  | .error error => some error

/-- An author is loaded on its own, and found alone. With somebody of an unknown class among what a
search finds, who is no author by any means, the search fails. -/
theorem find_fails_on_ghost :
    let mapper : Mapper := { catalog := ⟨library, {}⟩ }
    let world : World := { store := { collections := strangers } }
    let ghost : Document := [("_id", .integer 2), ("className", .text "Ghost")]
    mapper.Plain ∧ world.Ready mapper.catalog ∧ Collections.Reached strangers ∧
    (strangers.find "authors" (.idIn [.integer 1, .integer 2])).toOption =
      some [authorRow 1 "Ada", ghost] ∧
    ((Mapper.withFreshCache
      (mapper.loadResolved author.name (authorRow 1 "Ada"))).outcome world).1.toOption.isSome =
        true ∧
    ¬ mapper.Kindred author.name ghost ∧
    searchFault? world (.idIn [.integer 1]) = none ∧
    searchFault? world (.idIn [.integer 1, .integer 2]) = some (.unknownClass ⟨"Ghost"⟩) := by
  refine ⟨plain_library {}, ⟨Memory.sound_empty _, rfl⟩,
    .serve (.serve (.serve .empty (by decide +kernel)) (by decide +kernel)) (by decide +kernel),
    ?_, ?_, ?_, ?_, ?_⟩
  all_goals decide +kernel

end Samples

end DocMapper
