import Mathlib.Data.List.Infix
import DocMapper.Proofs.Datastore.Batching
import DocMapper.Proofs.Datastore.Spending
import DocMapper.Samples

/-!
# Loads without needless look-ups

Loading documents resolves their eager fields one after the other on one cache, so what it asks of
the store is what the references in these fields cost in their order, and no place is looked up
twice. Hooks may change the documents before their references are read, and what fails ends the load
early; neither makes it ask for more.
-/

namespace DocMapper

open Catalog (answer)

/-- What loading a document as an object of a described class asks for: what stands in the eager
fields, in their order. -/
def Catalog.eagerRequests (catalog : Catalog) (descriptor : Descriptor) (doc : Document) :
    List Request :=
  (descriptor.fields.filter Mapper.isEager).flatMap fun field =>
    ((Document.get? doc field.storedName).map (catalog.requests field)).getD []

namespace Mapper

variable {α β : Type} {mapper : Mapper} {known : List Pointer} {said : α → Prop} {act : ResolveM α}
  {requests : List Request}

/-! ### Loading documents -/

/-- Where these places are known, the operation goes through documents that ask for what `asks` says
of them, and spends what that costs. If it fails, it has begun with some of the documents and made
the first of their calls. -/
def GoesThrough {α : Type} (mapper : Mapper) (asks : Document → List Request → Prop)
    (docs : List Document) (act : ResolveM α) : Prop :=
  ∀ known state, mapper.Knows known state → act.Ends state
    (fun _ after => ∃ plans, List.Forall₂ asks docs plans ∧
      after.1.store.calls = state.1.store.calls ++ lookups known plans.flatten ∧
      mapper.Knows (known ++ plans.flatten.flatMap Request.places) after)
    fun _ after => ∃ started plans begun, started <+: docs ∧ List.Forall₂ asks started plans ∧
      begun <+: lookups known plans.flatten ∧
      after.1.store.calls = state.1.store.calls ++ begun

namespace GoesThrough

variable {asks : Document → List Request → Prop} {doc : Document} {docs : List Document}

theorem pure (a : α) : mapper.GoesThrough asks [] (Pure.pure a) := fun _ _ knows =>
  ⟨[], .nil, (List.append_nil _).symm, by simpa using knows⟩

theorem of_plans (isAsked : asks doc requests) (plans : mapper.Plans requests act) :
    mapper.GoesThrough asks [doc] act := by
  intro known state knows
  have one : List.Forall₂ asks [doc] [requests] := .cons isAsked .nil
  have flat : [requests].flatten = requests := List.flatten_singleton
  refine (plans known state knows).mono ?_ ?_
  · rintro a after ⟨-, calls, knows⟩
    exact ⟨[requests], one, by rwa [flat], by rwa [flat]⟩
  · rintro error after ⟨begun, isPrefix, calls⟩
    exact ⟨[doc], [requests], begun, List.prefix_rfl, one, by rwa [flat], calls⟩

theorem free_bind {next : α → ResolveM β}
    (first : ∀ known, mapper.Spends known [] [] said act)
    (second : ∀ a, said a → mapper.GoesThrough asks docs (next a)) :
    mapper.GoesThrough asks docs (act >>= next) := by
  intro known state knows
  refine (first known state knows).bind ?_ ?_
  · rintro a middle ⟨holds, calls, knows⟩
    rw [List.append_nil] at calls knows
    rw [← calls]
    exact second a holds known middle knows
  · rintro error after ⟨begun, isPrefix, calls⟩
    exact ⟨[], [], begun, List.nil_prefix, .nil, isPrefix, calls⟩

theorem bind {more : List Document} {next : α → ResolveM β}
    (first : mapper.GoesThrough asks docs act)
    (second : ∀ a, mapper.GoesThrough asks more (next a)) :
    mapper.GoesThrough asks (docs ++ more) (act >>= next) := by
  intro known state knows
  refine (first known state knows).bind ?_ ?_
  · rintro a middle ⟨plans, asked, calls, knows⟩
    refine (second a _ middle knows).mono ?_ ?_
    · rintro b after ⟨plans', asked', calls', knows⟩
      refine ⟨plans ++ plans', List.rel_append asked asked', ?_, ?_⟩
      · rw [calls', calls, List.flatten_append, lookups_append, List.append_assoc]
      · rwa [List.flatten_append, List.flatMap_append, ← List.append_assoc]
    · rintro error after ⟨started, plans', begun, isPrefix, asked', isBegun, calls'⟩
      refine ⟨docs ++ started, plans ++ plans', lookups known plans.flatten ++ begun,
        (List.prefix_append_right_inj docs).mpr isPrefix, List.rel_append asked asked', ?_, ?_⟩
      · rw [List.flatten_append, lookups_append]
        exact (List.prefix_append_right_inj _).mpr isBegun
      · rw [calls', calls, List.append_assoc]
  · rintro error after ⟨started, plans, begun, isPrefix, asked, isBegun, calls⟩
    exact ⟨started, plans, begun, isPrefix.trans (List.prefix_append docs more), asked, isBegun,
      calls⟩

theorem mapM {f : Document → ResolveM α} (each : ∀ doc, mapper.GoesThrough asks [doc] (f doc))
    (docs : List Document) : mapper.GoesThrough asks docs (docs.mapM f) := by
  induction docs with
  | nil => exact pure []
  | cons doc rest ih =>
    rw [List.mapM_cons]
    refine (each doc).bind fun a => ?_
    simpa using ih.bind fun others => pure (a :: others)

end GoesThrough

/-- What loading a document as an object of a class asks for, by its class and by what the first
hooks make of it. -/
inductive Requires (mapper : Mapper) (name : ClassName) (stored : Document) : List Request → Prop
  | intro {descriptor : Descriptor} {memory : Memory} {doc : Document} {after : Memory × Entity}
      (isClass : answer (mapper.catalog.concreteClass name stored) = .ok descriptor)
      (sound : memory.Sound mapper.catalog)
      (prepared : (mapper.load descriptor stored).outcome (memory, .empty descriptor.className) =
        (.ok doc, after)) :
      Requires mapper name stored (mapper.catalog.eagerRequests descriptor doc)

/-- What a search for objects of a class asks for on account of a document that it finds: nothing if
the document holds an object of another class. -/
inductive RequiresFound (mapper : Mapper) (name : ClassName) (stored : Document) :
    List Request → Prop
  | loaded {requests : List Request}
      (holds : answer (mapper.holdsInstance name stored) = .ok true)
      (asks : mapper.Requires name stored requests) : RequiresFound mapper name stored requests
  | passed (holds : answer (mapper.holdsInstance name stored) = .ok false) :
      RequiresFound mapper name stored []

theorem spends_load {name : ClassName} {stored : Document} {descriptor : Descriptor}
    (isClass : answer (mapper.catalog.concreteClass name stored) = .ok descriptor) :
    mapper.Spends known [] []
      (fun loaded => mapper.Requires name stored (mapper.catalog.eagerRequests descriptor loaded.1))
      (Run.onFirst (World.onMemory (Run.withCompanion (Entity.empty descriptor.className)
        (mapper.load descriptor stored))) : ResolveM (Document × Entity)) := by
  refine .onMemory fun memory sound => ?_
  have kept : (mapper.load descriptor stored).Ends (memory, .empty descriptor.className) _ _ :=
    ends_load_of_sound sound
  rw [Run.ends_withCompanion]
  rcases ran : (mapper.load descriptor stored).outcome (memory, .empty descriptor.className) with
    ⟨error | doc, after⟩
  · exact (Run.ends_of_error ran).mpr trivial
  · exact (Run.ends_of_ok ran).mpr ⟨.intro isClass sound ran, (Run.ends_of_ok ran).mp kept⟩

theorem spends_dispatch (descriptor : Descriptor) (event : Event) (entity : Entity)
    (doc : Document) :
    mapper.Spends known [] [] (fun _ => True) (Run.onFirst (World.onMemory (Run.withCompanion entity
      (mapper.dispatch descriptor event doc))) : ResolveM (Document × Entity)) := by
  refine .onMemory fun memory sound => ?_
  rw [Run.ends_withCompanion]
  exact (ends_dispatch_of_sound sound).mono (fun _ _ sound => ⟨trivial, sound⟩) fun _ _ _ => trivial

theorem goesThrough_loadResolved {asks : Document → List Request → Prop} {name : ClassName}
    {stored : Document}
    (isAsked : ∀ requests, mapper.Requires name stored requests → asks stored requests) :
    mapper.GoesThrough asks [stored] (mapper.loadResolved name stored) := by
  refine .free_bind (fun _ => Spends.steady (Catalog.steady_concreteClass name stored))
    fun descriptor isClass => ?_
  refine .free_bind (fun _ => spends_load isClass) fun loaded asked => ?_
  refine .of_plans (isAsked _ asked) (Plans.bind_free ?_ fun entity known => ?_)
  · exact Plans.foldlM fun entity field _ => plans_loadReference loaded.1 entity field
  · exact (spends_dispatch descriptor .postLoad entity loaded.1).free_bind fun _ _ => .pure trivial

theorem goesThrough_loadFound (name : ClassName) (stored : Document) :
    mapper.GoesThrough (mapper.RequiresFound name) [stored] (mapper.loadFound name stored) := by
  refine .free_bind (fun _ => Spends.steady (steady_holdsInstance mapper name stored))
    fun holds answered => ?_
  cases holds with
  | false => exact .of_plans (.passed answered) (.pure _)
  | true =>
    have loads := goesThrough_loadResolved fun _ => RequiresFound.loaded answered
    simpa using loads.bind fun entity => GoesThrough.pure (some entity)

end Mapper

/-! ### Loading by identity and searching -/

/-- A way to have entities of a class loaded. -/
inductive Retrieval where
  | get (name : ClassName) (id : Value)
  | find (name : ClassName) (filter : Filter)

namespace Retrieval

def className : Retrieval → ClassName
  | get name _ => name
  | find name _ => name

def perform (mapper : Mapper) : Retrieval → WorldM (List Entity)
  | get name id => do return (← mapper.get name id).toList
  | find name filter => mapper.find name filter

/-- The call for the documents themselves. -/
def call (collection : String) : Retrieval → StoreCall
  | get _ id => .findFirst collection (.idEq id)
  | find _ filter => .find collection filter

def documents (collections : Collections) (collection : String) : Retrieval → List Document
  | get _ id => (collections.findFirst collection (.idEq id)).toOption.join.toList
  | find _ filter => (collections.find collection filter).toOption.getD []

/-- What a document asks for. -/
def Requires (mapper : Mapper) : Retrieval → Document → List Request → Prop
  | get name _ => mapper.Requires name
  | find name _ => mapper.RequiresFound name

/-- These are the calls of a retrieval from a world. Without an entity class there is none.
Otherwise the documents are called for, and then their references are looked up, each of them on
what is known by then. Unless the retrieval is `complete`, it may stop at any document and any
look-up. -/
inductive Costs (mapper : Mapper) (retrieval : Retrieval) (world : World) (complete : Prop) :
    List StoreCall → Prop
  | refused {error : MapError}
      (noClass : answer (mapper.entityClass retrieval.className) = .error error)
      (incomplete : ¬ complete) : Costs mapper retrieval world complete []
  | called {descriptor : Descriptor} {started : List Document} {plans : List (List Request)}
      {made : List StoreCall}
      (isClass : answer (mapper.entityClass retrieval.className) = .ok descriptor)
      (isStarted :
        started <+: retrieval.documents world.store.collections descriptor.collection)
      (asks : List.Forall₂ (retrieval.Requires mapper) started plans)
      (isMade : made <+: lookups [] plans.flatten)
      (finished : complete →
        started = retrieval.documents world.store.collections descriptor.collection ∧
          made = lookups [] plans.flatten) :
      Costs mapper retrieval world complete (retrieval.call descriptor.collection :: made)

variable {mapper : Mapper} {retrieval : Retrieval} {world after : World} {complete : Prop}
  {descriptor : Descriptor}

/-- These calls were made since. -/
def Spent (mapper : Mapper) (retrieval : Retrieval) (world : World) (complete : Prop)
    (after : World) : Prop :=
  ∃ made, retrieval.Costs mapper world complete made ∧
    after.store.calls = world.store.calls ++ made

/-- The documents could not be had, or there are none. -/
theorem spent_call (isClass : answer (mapper.entityClass retrieval.className) = .ok descriptor)
    (calls : after.store.calls = world.store.calls ++ [retrieval.call descriptor.collection])
    (finished : complete →
      retrieval.documents world.store.collections descriptor.collection = []) :
    retrieval.Spent mapper world complete after :=
  ⟨_, .called isClass List.nil_prefix .nil List.nil_prefix
    fun isComplete => ⟨(finished isComplete).symm, rfl⟩, calls⟩

theorem ends_withFreshCache {α : Type} {act : ResolveM α}
    (sound : after.memory.Sound mapper.catalog)
    (isClass : answer (mapper.entityClass retrieval.className) = .ok descriptor)
    (calls : after.store.calls = world.store.calls ++ [retrieval.call descriptor.collection])
    (through : mapper.GoesThrough (retrieval.Requires mapper)
      (retrieval.documents world.store.collections descriptor.collection) act) :
    (Mapper.withFreshCache act).Ends after (fun _ => retrieval.Spent mapper world True)
      fun _ => retrieval.Spent mapper world False := by
  rw [Mapper.withFreshCache, Run.ends_bind, Run.ends_withCompanion]
  refine (through [] (after, []) ⟨sound, EntityCache.covers_nil⟩).mono ?_ ?_
  · rintro a last ⟨plans, asks, made, -⟩
    refine ⟨_, .called isClass List.prefix_rfl asks List.prefix_rfl fun _ => ⟨rfl, rfl⟩, ?_⟩
    rw [made, calls, List.append_assoc, List.singleton_append]
  · rintro error last ⟨started, plans, begun, isPrefix, asks, isBegun, made⟩
    refine ⟨_, .called isClass isPrefix asks isBegun False.elim, ?_⟩
    rw [made, calls, List.append_assoc, List.singleton_append]

/-- However a retrieval ends, it has made the calls that it costs. -/
theorem ends_perform (sound : world.memory.Sound mapper.catalog) :
    (retrieval.perform mapper).Ends world (fun _ => retrieval.Spent mapper world True)
      fun _ => retrieval.Spent mapper world False := by
  have classes (name : ClassName) (isName : retrieval.className = name) :
      (World.onMemory (mapper.entityClass name)).Ends world
        (fun descriptor after => answer (mapper.entityClass retrieval.className) = .ok descriptor ∧
          after.memory.Sound mapper.catalog ∧ after.store = world.store)
        fun _ => retrieval.Spent mapper world False := by
    subst isName
    rw [World.ends_onMemory]
    refine ((Mapper.steady_entityClass mapper _).ends_of_sound sound).mono ?_ ?_
    · exact fun _ _ ends => ⟨ends.1, ends.2, rfl⟩
    · exact fun _ _ ends => ⟨[], .refused ends.1 not_false, (List.append_nil _).symm⟩
  cases retrieval with
  | get name id =>
    rw [perform, Run.ends_bind, Mapper.get]
    refine (classes name rfl).bind ?_ fun _ _ wrong => wrong
    rintro descriptor middle ⟨isClass, sound, same⟩
    rw [Mapper.loadAt, Run.ends_bind]
    refine World.ends_ask.mono ?_ fun _ _ ends => spent_call isClass (same ▸ ends.2) False.elim
    rintro found after ⟨answered, kept, calls⟩
    rw [same] at answered calls
    have documents : (Retrieval.get name id).documents world.store.collections
        descriptor.collection = found.toList := by
      rw [Retrieval.documents, answered]
      rfl
    cases found with
    | none => exact spent_call isClass calls fun _ => documents
    | some doc =>
      rw [Run.ends_bind]
      refine (ends_withFreshCache (kept ▸ sound) isClass calls ?_).mono (fun _ _ spent => spent)
        fun _ _ wrong => wrong
      exact documents ▸ Mapper.goesThrough_loadResolved fun _ asks => asks
  | find name filter =>
    refine (classes name rfl).bind ?_ fun _ _ wrong => wrong
    rintro descriptor middle ⟨isClass, sound, same⟩
    rw [Run.ends_bind]
    refine World.ends_ask.mono ?_ fun _ _ ends => spent_call isClass (same ▸ ends.2) False.elim
    rintro docs after ⟨answered, kept, calls⟩
    rw [same] at answered calls
    have documents : (Retrieval.find name filter).documents world.store.collections
        descriptor.collection = docs := by
      rw [Retrieval.documents, answered]
      rfl
    rw [Run.ends_bind]
    refine (ends_withFreshCache (kept ▸ sound) isClass calls ?_).mono (fun _ _ spent => spent)
      fun _ _ wrong => wrong
    exact documents.symm ▸ Mapper.GoesThrough.mapM (Mapper.goesThrough_loadFound name) docs

/-- The look-ups of a retrieval ask for no place twice. -/
theorem Costs.nodup {made : List StoreCall} (costs : retrieval.Costs mapper world complete made) :
    (made.tail.flatMap StoreCall.places).Nodup := by
  cases costs with
  | refused => exact .nil
  | called _ _ _ isMade _ =>
    exact (nodup_places_lookups [] _).sublist (isMade.flatMap _).sublist

/-- However a retrieval ends, the calls that it makes of the store are the one for its documents and
the look-ups that their references cost: a single reference one, unless its place is known, and an
array one for each collection with a place that is not known, by the identifiers of these places. No
place is looked up twice. -/
theorem costs_of_perform (mapper : Mapper) (retrieval : Retrieval) {world : World}
    (sound : world.memory.Sound mapper.catalog) :
    ∃ result after made, (retrieval.perform mapper).outcome world = (result, after) ∧
      after.store.calls = world.store.calls ++ made ∧
      retrieval.Costs mapper world result.isOk made ∧
      (made.tail.flatMap StoreCall.places).Nodup := by
  have ends : (retrieval.perform mapper).Ends world _ _ := ends_perform sound
  rcases ran : (retrieval.perform mapper).outcome world with ⟨error | entities, after⟩
  · obtain ⟨made, costs, calls⟩ := (Run.ends_of_error ran).mp ends
    refine ⟨_, after, made, rfl, calls, ?_, costs.nodup⟩
    simpa [Except.isOk, Except.toBool] using costs
  · obtain ⟨made, costs, calls⟩ := (Run.ends_of_ok ran).mp ends
    refine ⟨_, after, made, rfl, calls, ?_, costs.nodup⟩
    simpa [Except.isOk, Except.toBool] using costs

end Retrieval

namespace Samples

/-- A stored book with pointers to its authors. -/
def writtenBy (id : Int64) (authors : List Pointer) : Document :=
  [("_id", .integer id), ("className", .text "Book"),
    ("authors", .array (authors.map Pointer.toValue))]

/-- An author, a guest, and an author who is not there. -/
def anthologists : List Pointer :=
  [⟨"authors", .integer 1⟩, ⟨"guests", .integer 2⟩, ⟨"authors", .integer 3⟩]

/-- Two books, the second one with the author of the first and with others. -/
def bookshelf : World where
  store := { collections := ((people.serve
    (.save "books" (writtenBy 1 [⟨"authors", .integer 1⟩]))).2.serve
      (.save "books" (writtenBy 2 anthologists))).2 }

def bothBooks : Retrieval :=
  .find book.name (.idIn [.integer 1, .integer 2])

/-- Loading both books asks for each of their authors once. -/
theorem costs_of_perform_bookshelf :
    let mapper : Mapper := { catalog := { registry := library } }
    ∃ entities after made, (bothBooks.perform mapper).outcome bookshelf = (.ok entities, after) ∧
      bothBooks.Costs mapper bookshelf True made ∧
      made = [.find "books" (.idIn [.integer 1, .integer 2]), .find "authors" (.idIn [.integer 1]),
        .find "guests" (.idIn [.integer 2]), .find "authors" (.idIn [.integer 3])] ∧
      (made.tail.flatMap StoreCall.places).Nodup := by
  intro mapper
  obtain ⟨result, after, made, ran, calls, costs, distinct⟩ :=
    @Retrieval.costs_of_perform mapper bothBooks bookshelf (Memory.sound_empty _)
  have computed : ((bothBooks.perform mapper).outcome bookshelf).1.isOk = true ∧
      ((bothBooks.perform mapper).outcome bookshelf).2.store.calls =
        [.find "books" (.idIn [.integer 1, .integer 2]), .find "authors" (.idIn [.integer 1]),
          .find "guests" (.idIn [.integer 2]), .find "authors" (.idIn [.integer 3])] := by
    decide +kernel
  rw [ran] at computed
  cases result with
  | error error => cases computed.1
  | ok entities =>
    refine ⟨entities, after, made, ran, by simpa [Except.isOk, Except.toBool] using costs, ?_,
      distinct⟩
    exact calls.symm.trans computed.2

/-- Searches for what is not known, in the order of the collections of all places. -/
def searchesByCollection (known places : List Pointer) : List StoreCall :=
  (places.map Pointer.collection).eraseDups.filterMap fun collection =>
    let ids := ((unknownPlaces known places).filter (·.collection = collection)).map Pointer.id
    if ids = [] then none else some (.find collection (.idIn ids))

/-- What is known counts for nothing. The second book points to an author first, but that one is
known from the first book, so the guest is searched for before the other author. -/
theorem searches_by_unknown_places :
    let mapper : Mapper := { catalog := { registry := library } }
    let calls := ((bothBooks.perform mapper).outcome bookshelf).2.store.calls
    (anthologists.map Pointer.collection).eraseDups = ["authors", "guests"] ∧
      calls.tail = [.find "authors" (.idIn [.integer 1]), .find "guests" (.idIn [.integer 2]),
        .find "authors" (.idIn [.integer 3])] ∧
      calls.tail ≠ searchesByCollection [] [⟨"authors", .integer 1⟩] ++
        searchesByCollection [⟨"authors", .integer 1⟩] anthologists := by
  decide +kernel

end Samples

end DocMapper
