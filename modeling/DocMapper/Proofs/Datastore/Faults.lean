import DocMapper.Datastore.Basic
import DocMapper.Proofs.Datastore.Steps
import DocMapper.Proofs.Store.Archive
import DocMapper.Samples

/-!
# Failures of the store

Failures may await the calls that an operation makes. The first one that a call meets ends the
operation: the error comes through as it is, no call follows, and as nothing but the last call of an
operation writes, the documents stay what they were. Hooks do not reach the store, so this holds
whatever hooks there are.
-/

namespace DocMapper

namespace Store

/-- What awaits the call after the next `n`: a failure, or nothing. -/
def fault? (store : Store) (n : Nat) : Option StoreError :=
  store.faults[n]?.join

/-- Since `start` these calls were made, and no failure awaited any of them. -/
structure Spared (start : Store) (made : List StoreCall) (store : Store) : Prop where
  calls : store.calls = start.calls ++ made
  faults : store.faults = start.faults.drop made.length
  clear : ∀ n < made.length, start.fault? n = none

/-- Since `start` no call met a failure. -/
def Passed (start store : Store) : Prop :=
  ∃ made, start.Spared made store

/-- Since `start` no call met a failure, and nothing was written. -/
def Untouched (start store : Store) : Prop :=
  start.Passed store ∧ store.collections = start.collections

/-- Since `start` the call after `n` others met a failure. No call followed, and nothing was
written. -/
structure Struck (start : Store) (n : Nat) (error : StoreError) (store : Store) : Prop where
  calls : ∃ made, made.length = n + 1 ∧ store.calls = start.calls ++ made
  clear : ∀ earlier < n, start.fault? earlier = none
  fault : start.fault? n = some error
  collections : store.collections = start.collections

variable {start store : Store} {made : List StoreCall} {n : Nat}

theorem Untouched.refl (store : Store) : store.Untouched store :=
  ⟨⟨[], by simp, by simp, by simp⟩, rfl⟩

/-- What awaits the next call has been waiting since the start. -/
theorem Spared.head?_faults (spared : start.Spared made store) :
    store.faults.head?.join = start.fault? made.length := by
  rw [spared.faults, List.head?_drop, fault?]

theorem Spared.snoc (spared : start.Spared made store) (clear : start.fault? made.length = none)
    (note : StoreCall) {after : Store} (calls : after.calls = store.calls ++ [note])
    (faults : after.faults = store.faults.tail) : start.Spared (made ++ [note]) after where
  calls := by rw [calls, spared.calls, List.append_assoc]
  faults := by rw [faults, spared.faults, List.tail_drop, List.length_append]; rfl
  clear n earlier := by
    rw [List.length_append, List.length_singleton, Nat.lt_succ_iff_lt_or_eq] at earlier
    rcases earlier with earlier | rfl
    · exact spared.clear n earlier
    · exact clear

/-- The error is the failure that one of the calls since `start` has met. -/
def Met (start : Store) (error : MapError) (store : Store) : Prop :=
  ∃ n fault, error = .store fault ∧ start.Struck n fault store

end Store

/-- A call of an operation meets the failure that awaits it, or is answered. -/
theorem World.ends_call_of_untouched {α : Type} {start : Store} {world : World} {note : StoreCall}
    {reply : Collections → Except StoreError (α × Collections)}
    (untouched : start.Untouched world.store) :
    (onStore (Store.call note reply)).Ends world
      (fun a after => start.Passed after.store ∧
        reply start.collections = .ok (a, after.store.collections))
      fun error after => start.Untouched after.store ∨ start.Met error after.store := by
  obtain ⟨⟨made, spared⟩, same⟩ := untouched
  rw [← same]
  refine ends_call (fun a collections clear replied => ?_) fun error wrong => ?_
  · rw [spared.head?_faults] at clear
    exact ⟨⟨_, spared.snoc clear note rfl rfl⟩, replied⟩
  · rw [spared.head?_faults] at wrong
    rcases wrong with met | ⟨clear, -⟩
    · refine .inr ⟨made.length, error, rfl, ?_, spared.clear, met, same⟩
      exact ⟨made ++ [note], by simp, by rw [spared.calls, List.append_assoc]⟩
    · exact .inl ⟨⟨_, spared.snoc clear note rfl rfl⟩, same⟩

/-- The operation only reads, and the first failure that one of its calls meets ends it. The store
is a part of the state that the operation works on. -/
def Heeds {σ α : Type} (store : σ → Store) (act : Run MapError σ α) : Prop :=
  ∀ (start : Store) (state : σ), start.Untouched (store state) →
    act.Ends state (fun _ after => start.Untouched (store after))
      fun error after => start.Untouched (store after) ∨ start.Met error (store after)

namespace Heeds

variable {σ τ α β : Type} {store : σ → Store}

theorem pure (a : α) : Heeds store (Pure.pure a) := fun _ _ untouched => untouched

theorem throw (error : MapError) : Heeds store (MonadExcept.throw error : Run MapError σ α) :=
  fun _ _ untouched => .inl untouched

theorem get : Heeds store MonadState.get := fun _ _ untouched => untouched

theorem ofExcept (result : Except MapError α) : Heeds store (Run.ofExcept result) :=
  fun _ _ untouched => Run.ends_ofExcept (fun _ _ => untouched) fun _ _ => .inl untouched

theorem bind {act : Run MapError σ α} {next : α → Run MapError σ β} (first : Heeds store act)
    (second : ∀ a, Heeds store (next a)) : Heeds store (act >>= next) :=
  fun start state untouched =>
    (first start state untouched).bind (fun a middle => second a start middle)
      fun _ _ wrong => wrong

theorem foldlM {f : β → α → Run MapError σ β} (each : ∀ b a, Heeds store (f b a)) (items : List α)
    (b : β) : Heeds store (items.foldlM f b) :=
  fun start _ =>
    Run.ends_foldlM (fun _ after => start.Untouched (store after)) fun b a _ => each b a start

theorem mapM {f : α → Run MapError σ β} (each : ∀ a, Heeds store (f a)) (items : List α) :
    Heeds store (items.mapM f) :=
  fun start _ => Run.ends_mapM (fun after => start.Untouched (store after)) fun a _ => each a start

theorem forM {f : α → Run MapError σ PUnit} (each : ∀ a, Heeds store (f a)) (items : List α) :
    Heeds store (items.forM f) :=
  fun start _ => Run.ends_forM (fun after => start.Untouched (store after)) fun a _ => each a start

theorem optionMapM {f : α → Run MapError σ β} (each : ∀ a, Heeds store (f a)) (item : Option α) :
    Heeds store (item.mapM f) := by
  cases item with
  | none => exact pure none
  | some a =>
    rw [Option.mapM_some, map_eq_pure_bind]
    exact (each a).bind fun b => pure (some b)

/-- Work that does not see the companion of the state. -/
theorem onFirst {act : Run MapError σ α} (heeds : Heeds store act) :
    Heeds (fun state : σ × τ => store state.1) act.onFirst :=
  fun start state untouched => Run.ends_onFirst.mpr (heeds start state.1 untouched)

theorem withCompanion {companion : τ} {act : Run MapError (σ × τ) α}
    (heeds : Heeds (fun state : σ × τ => store state.1) act) :
    Heeds store (Run.withCompanion companion act) :=
  fun start state untouched => Run.ends_withCompanion.mpr (heeds start (state, companion) untouched)

theorem of_apart {act : Run MapError σ α}
    (apart : ∀ state, store (act.outcome state).2 = store state) : Heeds store act := by
  intro start state untouched
  have left : start.Untouched (store (act.outcome state).2) := by rwa [apart]
  exact (Run.ends_of_after left).mono (fun _ _ ends => ends) fun _ _ => .inl

theorem onMemory (act : MapM α) : Heeds World.store (World.onMemory act) :=
  .of_apart fun _ => rfl

theorem issueId : Heeds World.store World.issueId := .of_apart fun _ => rfl

theorem onEntity (act : EntityM α) :
    Heeds (fun state : World × Entity => state.1.store) (World.onEntity act) :=
  .of_apart fun _ => rfl

theorem modify (change : World × τ → τ) :
    Heeds (fun state : World × τ => state.1.store)
      (modify fun state => (state.1, change state)) :=
  .of_apart fun _ => rfl

theorem ask {note : StoreCall} {question : Collections → Except StoreError α} :
    Heeds World.store (World.onStore
      (Store.call note fun collections => return (← question collections, collections))) := by
  intro start world untouched
  refine (World.ends_call_of_untouched untouched).mono ?_ fun _ _ wrong => wrong
  rintro a after ⟨spared, replied⟩
  obtain ⟨answer, -, same⟩ := Result.bind_eq_ok.mp replied
  simp only [Result.pure_eq, Except.ok.injEq, Prod.mk.injEq] at same
  exact ⟨spared, same.2.symm⟩

end Heeds

/-- The last call of the operation may write. Its calls have met no failure, or the first failure
that one of them has met is its error. -/
def Yields {σ α : Type} (store : σ → Store) (act : Run MapError σ α) : Prop :=
  ∀ (start : Store) (state : σ), start.Untouched (store state) →
    act.Ends state (fun _ after => start.Passed (store after))
      fun error after => start.Passed (store after) ∨ start.Met error (store after)

namespace Heeds

variable {σ α β : Type} {store : σ → Store} {act : Run MapError σ α}

theorem yields (heeds : Heeds store act) : Yields store act :=
  fun start state untouched => (heeds start state untouched).mono (fun _ _ ends => ends.1)
    fun _ _ wrong => wrong.imp_left And.left

theorem bind_yields {next : α → Run MapError σ β} (first : Heeds store act)
    (second : ∀ a, Yields store (next a)) : Yields store (act >>= next) :=
  fun start state untouched => (first start state untouched).bind
    (fun a middle => second a start middle) fun _ _ wrong => wrong.imp_left And.left

end Heeds

namespace Mapper

variable {mapper : Mapper}

/-! ### Reading -/

theorem heeds_remember (place : Pointer) (result : Option Entity) :
    Heeds (fun state => state.1.store) (remember place result) :=
  .modify fun state => state.2.insert place result

theorem heeds_resolveKey (key : Key) :
    Heeds (fun state => state.1.store) (mapper.resolveKey key) := by
  refine Heeds.get.bind fun state => ?_
  split
  · exact .pure _
  · refine Heeds.ask.onFirst.bind fun found => ?_
    exact (Heeds.optionMapM (fun _ => (Heeds.onMemory _).onFirst) found).bind fun result =>
      (heeds_remember key.pointer result).bind fun _ => .pure result

theorem heeds_fetch (batch : Batch) :
    Heeds (fun state => state.1.store) (mapper.fetch batch) := by
  refine Heeds.ask.onFirst.bind fun docs => (Heeds.forM (fun doc => ?_) docs).bind fun _ =>
    Heeds.forM (fun id => ?_) batch.ids
  · rw [rememberFound]
    split
    · exact .pure _
    · exact (Heeds.onMemory _).onFirst.bind fun entity => heeds_remember _ (some entity)
  · refine Heeds.get.bind fun state => ?_
    split
    · exact .pure _
    · exact heeds_remember _ none

theorem heeds_resolve (field : MappedField) (stored : Value) :
    Heeds (fun state => state.1.store) (mapper.resolve field stored) := by
  rw [resolve]
  split
  · exact .pure _
  refine (Heeds.onMemory _).onFirst.bind fun keys => ?_
  split
  · exact Heeds.get.bind fun _ => (Heeds.forM heeds_fetch _).bind fun _ =>
      Heeds.get.bind fun _ => (Heeds.ofExcept _).bind fun _ => .pure _
  · split
    · exact .pure _
    · refine (heeds_resolveKey _).bind fun _ => (Heeds.ofExcept _).bind fun link => ?_
      cases link <;> exact .pure _

theorem heeds_loadResolved (requested : ClassName) (doc : Document) :
    Heeds (fun state => state.1.store) (mapper.loadResolved requested doc) := by
  refine (Heeds.onMemory _).onFirst.bind fun descriptor =>
    (Heeds.onMemory _).onFirst.bind fun loaded => ?_
  refine (Heeds.foldlM (fun entity field => ?_) _ _).bind fun entity =>
    (Heeds.onMemory _).onFirst.bind fun _ => .pure _
  rw [loadReference]
  split
  · exact (heeds_resolve field _).bind fun _ => .pure _
  · exact .pure _

theorem heeds_withFreshCache {α : Type} {act : ResolveM α}
    (heeds : Heeds (fun state => state.1.store) act) : Heeds World.store (withFreshCache act) :=
  heeds.withCompanion.bind fun _ => .pure _

theorem heeds_loadAt (name : ClassName) (collection : String) (id : Value) :
    Heeds World.store (mapper.loadAt name collection id) := by
  refine Heeds.ask.bind fun found => ?_
  cases found with
  | none => exact .pure _
  | some doc => exact (heeds_withFreshCache (heeds_loadResolved name doc)).bind fun _ => .pure _

theorem heeds_get (name : ClassName) (id : Value) : Heeds World.store (mapper.get name id) :=
  (Heeds.onMemory _).bind fun _ => heeds_loadAt name _ id

theorem heeds_find (name : ClassName) (filter : Filter) :
    Heeds World.store (mapper.find name filter) := by
  refine (Heeds.onMemory _).bind fun _ => Heeds.ask.bind fun docs =>
    (heeds_withFreshCache (Heeds.mapM (fun doc => ?_) docs)).bind fun _ => .pure _
  refine (Heeds.onMemory _).onFirst.bind fun holds => ?_
  split
  · exact (heeds_loadResolved name doc).bind fun _ => .pure _
  · exact .pure _

theorem heeds_resolveField (entity : Entity) (name : String) :
    Heeds (fun state => state.1.store) (mapper.resolveField entity name) := by
  refine (Heeds.onMemory _).onFirst.bind fun descriptor => ?_
  split
  · exact .throw _
  next field _ =>
    have rest (stored : Value) : Heeds (fun state => state.1.store)
        (do return entity.set name (← mapper.resolve field stored)) :=
      (heeds_resolve field stored).bind fun _ => .pure _
    split
    · exact (Heeds.onMemory _).onFirst.bind rest
    · exact (Heeds.pure _).bind rest

theorem heeds_count (name : ClassName) : Heeds World.store (mapper.count name) :=
  (Heeds.onMemory _).bind fun descriptor =>
    @Heeds.ask Nat (.count descriptor.collection) fun c => .ok (c.count descriptor.collection)

/-! ### Writing -/

theorem heeds_ensureId (descriptor : Descriptor) :
    Heeds (fun state => state.1.store) (mapper.ensureId descriptor) := by
  rw [ensureId]
  split
  next field _ =>
    refine Heeds.get.bind fun state => (Heeds.onMemory _).onFirst.bind fun found => ?_
    split
    · exact .pure _
    · split
      · refine Heeds.issueId.onFirst.bind fun id => Heeds.bind ?_ fun _ => .pure _
        exact .modify _
      · exact .throw _
  · exact .throw _

theorem heeds_advanceVersion (descriptor : Descriptor) (id : Value) :
    Heeds (fun state => state.1.store) (advanceVersion descriptor id) := by
  rw [advanceVersion]
  split
  · exact .pure _
  next field _ =>
    refine Heeds.get.bind fun state => Heeds.ask.onFirst.bind fun found => ?_
    dsimp only
    split
    · refine Heeds.bind ?_ fun _ => .pure _
      exact .modify _
    · exact .throw _

/-- The write is the last call of a save, so the store is untouched when it is made. -/
theorem yields_save : Yields (fun state => state.1.store) mapper.save := by
  refine Heeds.get.bind_yields fun state => (Heeds.onMemory _).onFirst.bind_yields
    fun descriptor => (heeds_ensureId descriptor).bind_yields fun id =>
      (heeds_advanceVersion descriptor id).bind_yields fun restore start state untouched => ?_
  rw [Run.ends_bind, Run.ends_onError, write, Run.ends_bind]
  refine (Heeds.onEntity _ start state untouched).mono (fun doc middle untouched => ?_)
    fun _ _ wrong => wrong.imp_left And.left
  rw [Run.ends_bind, Run.ends_onFirst]
  refine (World.ends_call_of_untouched untouched).mono (fun _ after written => ?_)
    fun _ _ wrong => wrong.imp_left And.left
  rw [Run.ends_pure, Run.ends_bind]
  -- Hooks are left, and they leave the store as it is.
  have left : (World.onEntity (mapper.dispatch descriptor .postPersist doc)).Ends (after, middle.2)
      (fun _ after => start.Passed after.1.store) fun _ after => start.Passed after.1.store :=
    Run.ends_of_after written.1
  exact left.mono (fun _ _ passed => passed) fun _ _ => .inl

theorem yields_delete (name : ClassName) (id : Value) :
    Yields World.store (mapper.delete name id) := by
  refine (Heeds.onMemory _).bind_yields fun descriptor start world untouched => ?_
  exact (World.ends_call_of_untouched untouched).mono (fun _ _ ends => ends.1)
    fun _ _ wrong => wrong.imp_left And.left

end Mapper

/-! ### Operations -/

/-- An operation of a datastore, with what it is called with. -/
inductive Operation where
  | save (entity : Entity)
  | get (name : ClassName) (id : Value)
  | getByKey (key : Key)
  | find (name : ClassName) (filter : Filter)
  | resolveField (entity : Entity) (name : String) (cache : EntityCache)
  | delete (name : ClassName) (id : Value)
  | count (name : ClassName)

namespace Operation

def perform (mapper : Mapper) : Operation → WorldM Unit
  | save entity => do let _ ← Run.withCompanion entity mapper.save
  | get name id => do let _ ← mapper.get name id
  | getByKey key => do let _ ← mapper.getByKey key
  | find name filter => do let _ ← mapper.find name filter
  | resolveField entity name cache => do
    let _ ← Run.withCompanion cache (mapper.resolveField entity name)
  | delete name id => do let _ ← mapper.delete name id
  | count name => do let _ ← mapper.count name

variable {mapper : Mapper} {operation : Operation}

/-- However an operation ends, its calls have passed, or its error is the failure that one has
met. -/
theorem yields_perform : Yields World.store (operation.perform mapper) := by
  cases operation with
  | save entity =>
    intro start world untouched
    rw [perform, Run.ends_bind, Run.ends_withCompanion]
    exact Mapper.yields_save start (world, entity) untouched
  | get name id => exact ((Mapper.heeds_get name id).bind fun _ => .pure ()).yields
  | getByKey key => exact ((Mapper.heeds_loadAt _ _ _).bind fun _ => .pure ()).yields
  | find name filter => exact ((Mapper.heeds_find name filter).bind fun _ => .pure ()).yields
  | resolveField entity name cache =>
    exact ((Mapper.heeds_resolveField entity name).withCompanion.bind fun _ => .pure ()).yields
  | delete name id =>
    intro start world untouched
    rw [perform, Run.ends_bind]
    exact Mapper.yields_delete name id start world untouched
  | count name => exact ((Mapper.heeds_count name).bind fun _ => .pure ()).yields

/-- A failure that awaits one of the calls of an operation, and is met, is the error of the
operation as it is. The operation makes no further call, and the documents of all collections are
what they were. -/
theorem ends_with_fault {world : World} {n : Nat} {error : StoreError}
    (fault : world.store.fault? n = some error)
    (reached : world.store.calls.length + n <
      ((operation.perform mapper).outcome world).2.store.calls.length) :
    ∃ after made, (operation.perform mapper).outcome world = (.error (.store error), after) ∧
      after.store.calls = world.store.calls ++ made ∧ made.length = n + 1 ∧
      after.store.collections = world.store.collections := by
  have ends : (operation.perform mapper).Ends world _ _ :=
    yields_perform world.store world (.refl world.store)
  -- Calls that passed are fewer than those that the failure was waiting behind.
  have met : ∀ after : World, world.store.calls.length + n < after.store.calls.length →
      ¬ world.store.Passed after.store := by
    rintro after reached ⟨made, spared⟩
    rw [spared.calls, List.length_append] at reached
    rw [spared.clear n (by omega)] at fault
    cases fault
  rcases ran : (operation.perform mapper).outcome world with ⟨error' | _, after⟩
  · rw [ran] at reached
    obtain ⟨place, other, rfl, struck⟩ :=
      ((Run.ends_of_error ran).mp ends).resolve_left (met after reached)
    obtain ⟨made, count, calls⟩ := struck.calls
    have behind : n ≤ place := by
      rw [calls, List.length_append] at reached
      omega
    obtain rfl : n = place := by
      by_contra apart
      rw [struck.clear n (by omega)] at fault
      cases fault
    obtain rfl : error = other := Option.some.inj (fault.symm.trans struck.fault)
    exact ⟨after, made, rfl, calls, count, struck.collections⟩
  · rw [ran] at reached
    exact absurd ((Run.ends_of_ok ran).mp ends) (met after reached)

end Operation

namespace Samples

/-- A book with an editor, in a store that is about to lose its connection with the second call. -/
def flakyWorld : World where
  store :=
    { collections := (Collections.serve [] (.save "books"
        [("_id", .integer 1), ("className", .text "Book"), ("editor", .integer 1)])).2
      faults := [none, some (.unavailable "connection lost")] }

/-- Loading the book finds it and then fails to ask for its editor. -/
theorem ends_with_fault_editor :
    let mapper : Mapper := { catalog := { registry := library } }
    ∃ after made, ((Operation.get book.name (.integer 1)).perform mapper).outcome flakyWorld =
        (.error (.store (.unavailable "connection lost")), after) ∧
      after.store.calls = flakyWorld.store.calls ++ made ∧ made.length = 2 ∧
      after.store.collections = flakyWorld.store.collections :=
  Operation.ends_with_fault (n := 1) rfl (by decide +kernel)

end Samples

end DocMapper
