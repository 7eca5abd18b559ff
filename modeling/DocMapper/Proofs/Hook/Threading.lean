import DocMapper.Hook.Script
import DocMapper.Proofs.Discovery.Steady
import DocMapper.Proofs.Hook.Preserving
import DocMapper.Proofs.Hook.Table
import DocMapper.Samples

/-!
# How a dispatch threads the document

A dispatch calls one hook after the other: every handler that serves the event, then every
interceptor. Each hook finds the entity and the running document as the hooks before it have left
them. A method leaves the document alone unless it returns another one, an interceptor edits both;
what the last hook leaves is the result. The first hook that fails ends the dispatch, and the hooks
after it are not called.
-/

namespace DocMapper

inductive Hook where
  | method (handler : Handler)
  /-- The interceptor at a position of the mapper's list. -/
  | interceptor (interceptor : Interceptor) (position : Nat)

namespace Hook

def callee : Hook → Callee
  | method handler => .method handler.method.declaredBy handler.method.name
  | interceptor _ position => .interceptor position

/-- What the journal says of a call of the hook. -/
def entry (event : Event) (hook : Hook) (call : Call) : Invocation where
  callee := hook.callee
  event
  listener := call.listener
  entity := call.entity.map Entity.className
  document := call.document

end Hook

/-- What a method is called with. A method of the class itself gets the entity and, if it has
parameters, the running document. A method of a listener gets the instance of the listener, the
entity if it has parameters, and the document if it has two. -/
inductive Handler.Receives (known : ClassName → Option ListenerInstance) (handler : Handler)
    (entity : Entity) (doc : Document) : Call → Prop
  | own (isOwn : handler.listener = none) :
      Receives known handler entity doc
        { listener := none
          entity := some entity
          document := if handler.method.arity = .zero then none else some doc }
  | listener {binding : ListenerBinding} {made : ListenerInstance}
      (belongs : handler.listener = some binding) (isMade : known binding.className = some made) :
      Receives known handler entity doc
        { listener := some made
          entity := if handler.method.arity = .zero then none else some entity
          document := if handler.method.arity = .two then some doc else none }

/-- The entity that a method leaves: only one that it was called with can be another. -/
def Handler.leaves (handler : Handler) (call : Call) (entity : Entity) : Entity :=
  if call.entity.isSome then (handler.method.body call).entity.getD entity else entity

/-- What an interceptor leaves when the catalog answers its questions. -/
def Reaction.settled (catalog : Catalog) : Reaction → Entity × Document × Option String
  | .finish entity doc failure => (entity, doc, failure)
  | .askCollection name next =>
    ((next (Catalog.answer (catalog.collectionName name))).settled catalog)

section

variable (catalog : Catalog) (event : Event) (name : ClassName)
  (known : ClassName → Option ListenerInstance)

/-- One call of a hook for an event of a class: from an entity and the running document to an entry
of the journal, the next running document or the error, and the entity that is left. -/
inductive Hook.Acts :
    Hook → Entity → Document → Invocation → Except MapError Document → Entity → Prop
  | returns {handler : Handler} {entity : Entity} {doc : Document} {call : Call}
      {replacement : Option Document} (receives : handler.Receives known entity doc call)
      (result : (handler.method.body call).result = .ok replacement) :
      Acts (.method handler) entity doc (entry event (.method handler) call)
        (.ok (replacement.getD doc)) (handler.leaves call entity)
  | fails {handler : Handler} {entity : Entity} {doc : Document} {call : Call} {reason : String}
      (receives : handler.Receives known entity doc call)
      (result : (handler.method.body call).result = .error reason) :
      Acts (.method handler) entity doc (entry event (.method handler) call)
        (.error (.lifecycle event name handler.method.name reason)) (handler.leaves call entity)
  | edits {interceptor : Interceptor} {position : Nat} {entity left : Entity} {doc final : Document}
      (settles : (interceptor event entity doc).settled catalog = (left, final, none)) :
      Acts (.interceptor interceptor position) entity doc
        (entry event (.interceptor interceptor position) ⟨none, some entity, some doc⟩)
        (.ok final) left
  | objects {interceptor : Interceptor} {position : Nat} {entity left : Entity}
      {doc final : Document} {reason : String}
      (settles : (interceptor event entity doc).settled catalog = (left, final, some reason)) :
      Acts (.interceptor interceptor position) entity doc
        (entry event (.interceptor interceptor position) ⟨none, some entity, some doc⟩)
        (.error (.lifecycle event name "interceptor" reason)) left

/-- Calls of hooks one after the other, each on what the one before has left. The first failure is
the end. -/
inductive Threads : List Hook → Entity → Document → List Invocation → Except MapError Document →
    Entity → Prop
  | done {entity : Entity} {doc : Document} : Threads [] entity doc [] (.ok doc) entity
  | next {hook : Hook} {rest : List Hook} {entity middle left : Entity} {doc running : Document}
      {invocation : Invocation} {made : List Invocation} {result : Except MapError Document}
      (acts : hook.Acts catalog event name known entity doc invocation (.ok running) middle)
      (threads : Threads rest middle running made result left) :
      Threads (hook :: rest) entity doc (invocation :: made) result left
  | failed {hook : Hook} {rest : List Hook} {entity left : Entity} {doc : Document}
      {invocation : Invocation} {error : MapError}
      (acts : hook.Acts catalog event name known entity doc invocation (.error error) left) :
      Threads (hook :: rest) entity doc [invocation] (.error error) left

end

section

variable {catalog : Catalog} {event : Event} {name : ClassName}
  {known : ClassName → Option ListenerInstance} {hook : Hook} {first second : List Hook}
  {entity middle left : Entity} {doc running : Document} {invocation : Invocation}
  {made made' : List Invocation} {result : Except MapError Document} {error : MapError}

theorem Hook.Acts.callee_eq
    (acts : hook.Acts catalog event name known entity doc invocation result left) :
    invocation.callee = hook.callee := by
  cases acts <;> rfl

namespace Threads

theorem append
    (threads : Threads catalog event name known first entity doc made (.ok running) middle)
    (rest : Threads catalog event name known second middle running made' result left) :
    Threads catalog event name known (first ++ second) entity doc (made ++ made') result left := by
  generalize isOk : Except.ok running = reached at threads
  induction threads with
  | done =>
    cases isOk
    exact rest
  | next acts _ ih => exact .next acts (ih rest isOk)
  | failed => cases isOk

theorem append_of_error
    (threads : Threads catalog event name known first entity doc made (.error error) left) :
    Threads catalog event name known (first ++ second) entity doc made (.error error) left := by
  generalize isError : Except.error error = reached at threads
  induction threads with
  | done => cases isError
  | next acts _ ih => exact .next acts (ih isError)
  | failed acts =>
    cases isError
    exact .failed acts

/-- Hooks are called in order, none of them twice and none left out in between. -/
theorem callees_prefix
    (threads : Threads catalog event name known first entity doc made result left) :
    made.map Invocation.callee <+: first.map Hook.callee := by
  induction threads with
  | done => exact List.nil_prefix
  | next acts _ ih =>
    rw [List.map_cons, List.map_cons, acts.callee_eq]
    exact (List.prefix_cons_inj _).mpr ih
  | failed acts =>
    rw [List.map_singleton, List.map_cons, acts.callee_eq]
    exact (List.prefix_cons_inj _).mpr List.nil_prefix

theorem callees_eq
    (threads : Threads catalog event name known first entity doc made (.ok running) left) :
    made.map Invocation.callee = first.map Hook.callee := by
  generalize isOk : Except.ok running = reached at threads
  induction threads with
  | done => rfl
  | next acts _ ih => rw [List.map_cons, List.map_cons, acts.callee_eq, ih isOk]
  | failed => cases isOk

end Threads

end

/-! ### Listener instances -/

def Memory.listener? (memory : Memory) (listener : ClassName) : Option ListenerInstance :=
  memory.listeners.lookup listener

def Memory.equip (memory : Memory) (listener : ClassName) (made : ListenerInstance) : Memory :=
  { memory with
    listeners := Assoc.insert listener made memory.listeners
    made := memory.made + 1 }

@[simp] theorem Memory.listener?_equip_self (memory : Memory) (listener : ClassName)
    (made : ListenerInstance) : (memory.equip listener made).listener? listener = some made :=
  Assoc.lookup_insert_self listener made memory.listeners

theorem Memory.listener?_equip_of_ne (memory : Memory) {listener other : ClassName}
    (apart : other ≠ listener) (made : ListenerInstance) :
    (memory.equip listener made).listener? other = memory.listener? other :=
  Assoc.lookup_insert_of_ne apart made memory.listeners

/-- The second memory is the first with more listener instances. -/
structure Memory.Equips (before after : Memory) : Prop where
  known : ∀ listener made, before.listener? listener = some made →
    after.listener? listener = some made
  rest : after = { before with listeners := after.listeners, made := after.made }

namespace Memory.Equips

variable {catalog : Catalog} {first second third : Memory}

theorem refl (memory : Memory) : memory.Equips memory := ⟨fun _ _ found => found, rfl⟩

theorem equip {memory : Memory} {listener : ClassName} (fresh : memory.listener? listener = none)
    (made : ListenerInstance) : memory.Equips (memory.equip listener made) where
  known other instance? found := by
    rwa [memory.listener?_equip_of_ne _ made]
    rintro rfl
    rw [fresh] at found
    cases found
  rest := rfl

theorem trans (equips : first.Equips second) (equips' : second.Equips third) :
    first.Equips third where
  known listener made found := equips'.known listener made (equips.known listener made found)
  rest := by rw [equips'.rest, equips.rest]

theorem sound (equips : first.Equips second) (sound : first.Sound catalog) :
    second.Sound catalog := by
  rw [equips.rest]
  exact sound

theorem journal (equips : first.Equips second) : second.journal = first.journal := by
  rw [equips.rest]

end Memory.Equips

namespace Handler

variable {known : ClassName → Option ListenerInstance} {handler : Handler} {memory : Memory}
  {listener : Option ListenerInstance}

/-- This is what the handler is called on: an instance that is known for its listener, if it belongs
to one. -/
def Has (known : ClassName → Option ListenerInstance) (handler : Handler)
    (listener : Option ListenerInstance) : Prop :=
  match handler.listener with
  | none => listener = none
  | some binding => ∃ made, listener = some made ∧ known binding.className = some made

theorem Has.mono {after : Memory} (has : handler.Has memory.listener? listener)
    (equips : memory.Equips after) : handler.Has after.listener? listener := by
  rw [Has] at has ⊢
  split at has
  · exact has
  · obtain ⟨made, isMade, found⟩ := has
    exact ⟨made, isMade, equips.known _ _ found⟩

theorem Has.receives (has : handler.Has known listener) (entity : Entity) (doc : Document) :
    handler.Receives known entity doc (handler.call listener entity doc) := by
  rw [Has] at has
  rw [call]
  cases belongs : handler.listener with
  | none => exact .own belongs
  | some binding =>
    rw [belongs] at has
    obtain ⟨made, rfl, isMade⟩ := has
    have receives : handler.Receives known entity doc _ := .listener belongs isMade
    cases arity : handler.method.arity <;> simpa [arity, Arity.toNat] using receives

theorem outcome_instance?_own (event : Event) (name : ClassName)
    (isOwn : handler.listener = none) (memory : Memory) :
    (handler.instance? event name).outcome memory = (.ok none, memory) := by
  rw [instance?, isOwn]
  rfl

theorem outcome_instance?_known (event : Event) (name : ClassName) {binding : ListenerBinding}
    {made : ListenerInstance} (belongs : handler.listener = some binding)
    (found : memory.listener? binding.className = some made) :
    (handler.instance? event name).outcome memory = (.ok (some made), memory) := by
  rw [Memory.listener?] at found
  simp [instance?, belongs, ListenerBinding.instance, Run.outcome_bind, found]

theorem outcome_instance?_makes (event : Event) (name : ClassName) {binding : ListenerBinding}
    {made : ListenerInstance} (belongs : handler.listener = some binding)
    (fresh : memory.listener? binding.className = none)
    (isMade : binding.factory memory.made = .ok made) :
    (handler.instance? event name).outcome memory =
      (.ok (some made), memory.equip binding.className made) := by
  rw [Memory.listener?] at fresh
  simp [instance?, belongs, ListenerBinding.instance, Run.outcome_bind, fresh, isMade,
    Memory.equip, Except.map]

theorem outcome_instance?_fails (event : Event) (name : ClassName) {binding : ListenerBinding}
    {reason : String} (belongs : handler.listener = some binding)
    (fresh : memory.listener? binding.className = none)
    (isFailure : binding.factory memory.made = .error reason) :
    (handler.instance? event name).outcome memory =
      (.error (.lifecycle event name binding.className.text reason), memory) := by
  rw [Memory.listener?] at fresh
  simp [instance?, belongs, ListenerBinding.instance, Run.outcome_bind, fresh, isFailure]

/-- Where factories make instances, a handler gets what it is called on. -/
theorem outcome_instance? (event : Event) (name : ClassName)
    (makes : ∀ binding, handler.listener = some binding →
      ∀ count, ∃ made, binding.factory count = .ok made) (memory : Memory) :
    ∃ listener after, (handler.instance? event name).outcome memory = (.ok listener, after) ∧
      memory.Equips after ∧ handler.Has after.listener? listener := by
  cases belongs : handler.listener with
  | none =>
    exact ⟨none, memory, outcome_instance?_own event name belongs memory, .refl memory,
      by rw [Has, belongs]⟩
  | some binding =>
    cases found : memory.listener? binding.className with
    | some made =>
      exact ⟨some made, memory, outcome_instance?_known event name belongs found, .refl memory,
        by simp [Has, belongs, found]⟩
    | none =>
      obtain ⟨made, isMade⟩ := makes binding belongs memory.made
      exact ⟨some made, _, outcome_instance?_makes event name belongs found isMade,
        .equip found made, by simp [Has, belongs]⟩

theorem outcome_mapM_instance? (event : Event) (name : ClassName) {handlers : List Handler}
    (makes : ∀ handler ∈ handlers, ∀ binding, handler.listener = some binding →
      ∀ count, ∃ made, binding.factory count = .ok made) (memory : Memory) :
    ∃ listeners after, (handlers.mapM (instance? event name)).outcome memory =
        (.ok listeners, after) ∧
      memory.Equips after ∧ List.Forall₂ (Has after.listener?) handlers listeners := by
  induction handlers generalizing memory with
  | nil => exact ⟨[], memory, rfl, .refl memory, .nil⟩
  | cons handler rest ih =>
    obtain ⟨own, others⟩ := List.forall_mem_cons.mp makes
    obtain ⟨listener, middle, first, equips, has⟩ :=
      outcome_instance? event name own memory
    obtain ⟨listeners, after, later, equips', have'⟩ := ih others middle
    refine ⟨listener :: listeners, after, ?_, equips.trans equips', .cons (has.mono equips') have'⟩
    rw [List.mapM_cons, Run.outcome_bind_of_ok first, Run.outcome_bind_of_ok later]
    rfl

end Handler

/-! ### Calls -/

/-- The second memory is the first after these calls: they are in its journal, the same listener
instances are known, and correct descriptors may have come in. -/
structure Memory.Records (catalog : Catalog) (made : List Invocation) (before after : Memory) :
    Prop where
  sound : after.Sound catalog
  listeners : after.listener? = before.listener?
  journal : after.journal = before.journal ++ made

namespace Memory.Records

variable {catalog : Catalog} {first second third : Memory} {made made' : List Invocation}

theorem refl {memory : Memory} (sound : memory.Sound catalog) : Records catalog [] memory memory :=
  ⟨sound, rfl, (List.append_nil _).symm⟩

theorem trans (records : Records catalog made first second)
    (records' : Records catalog made' second third) :
    Records catalog (made ++ made') first third where
  sound := records'.sound
  listeners := records'.listeners.trans records.listeners
  journal := by rw [records'.journal, records.journal, List.append_assoc]

theorem note {memory : Memory} (sound : memory.Sound catalog) (invocation : Invocation) :
    Records catalog [invocation] memory (memory.note invocation) :=
  ⟨sound, rfl, rfl⟩

theorem of_learns {memory after : Memory} {invocation : Invocation}
    (learns : Learns catalog (memory.note invocation) after) :
    Records catalog [invocation] memory after := by
  refine ⟨learns.sound, ?_, ?_⟩
  · funext listener
    rw [listener?, learns.rest]
    rfl
  · rw [learns.rest]
    rfl

end Memory.Records

namespace Mapper

variable {mapper : Mapper} {event : Event} {name : ClassName} {memory : Memory}
  {known : ClassName → Option ListenerInstance}

theorem outcome_invoke {handler : Handler} {listener : Option ListenerInstance}
    (sound : memory.Sound mapper.catalog) (has : handler.Has known listener) (entity : Entity)
    (doc : Document) :
    ∃ invocation result after left,
      (Handler.invoke event name doc (handler, listener)).outcome (memory, entity) =
        (result, after, left) ∧
      Memory.Records mapper.catalog [invocation] memory after ∧
      (Hook.method handler).Acts mapper.catalog event name known entity doc invocation result
        left := by
  have receives := has.receives entity doc
  generalize isCall : handler.call listener entity doc = call at receives
  have ran : (Handler.invoke event name doc (handler, listener)).outcome (memory, entity) =
      (((handler.method.body call).result.map (·.getD doc)).mapError
        (MapError.lifecycle event name handler.method.name),
      memory.note (Hook.entry event (.method handler) call), handler.leaves call entity) := by
    rw [Handler.invoke, Run.outcome_bind_of_ok (Run.outcome_get _)]
    dsimp only
    rw [isCall, Run.outcome_bind_of_ok (Run.outcome_set _ _)]
    cases (handler.method.body call).result <;> rfl
  cases result : (handler.method.body call).result with
  | ok replacement =>
    rw [result] at ran
    exact ⟨_, _, _, _, ran, .note sound _, .returns receives result⟩
  | error reason =>
    rw [result] at ran
    exact ⟨_, _, _, _, ran, .note sound _, .fails receives result⟩

theorem outcome_settle (sound : memory.Sound mapper.catalog) (reaction : Reaction) :
    ∃ after, Memory.Learns mapper.catalog memory after ∧
      (reaction.settle mapper.catalog).outcome memory =
        (.ok (reaction.settled mapper.catalog), after) := by
  induction reaction generalizing memory with
  | finish entity doc failure => exact ⟨memory, .refl sound, rfl⟩
  | askCollection name next ih =>
    have steady : mapper.catalog.Steady (mapper.catalog.collectionName name) :=
      (Catalog.steady_describe name).bind fun _ _ => Catalog.steady_pure _
    obtain ⟨middle, learns, asked⟩ := steady.outcome sound
    obtain ⟨after, learns', settled⟩ := ih (Catalog.answer (mapper.catalog.collectionName name))
      learns.sound
    refine ⟨after, learns.trans learns', ?_⟩
    rw [Reaction.settle]
    refine (Run.outcome_bind_of_ok ?_).trans settled
    rw [Run.outcome_attempt, asked]

theorem outcome_intercept (sound : memory.Sound mapper.catalog) (interceptor : Interceptor)
    (position : Nat) (entity : Entity) (doc : Document) :
    ∃ invocation result after left,
      (mapper.intercept event name doc (interceptor, position)).outcome (memory, entity) =
        (result, after, left) ∧
      Memory.Records mapper.catalog [invocation] memory after ∧
      (Hook.interceptor interceptor position).Acts mapper.catalog event name known entity doc
        invocation result left := by
  have noted : (memory.note (Hook.entry event (.interceptor interceptor position)
    ⟨none, some entity, some doc⟩)).Sound mapper.catalog := sound
  obtain ⟨after, learns, settled⟩ := outcome_settle noted (interceptor event entity doc)
  rcases settles : (interceptor event entity doc).settled mapper.catalog with ⟨left, final, failure⟩
  rw [settles] at settled
  have ran : (mapper.intercept event name doc (interceptor, position)).outcome (memory, entity) =
      (failure.elim (.ok final) fun reason =>
        .error (.lifecycle event name "interceptor" reason), after, left) := by
    rw [intercept, Run.outcome_bind_of_ok (Run.outcome_get _)]
    refine (Run.outcome_bind_of_ok (Run.outcome_set _ _)).trans ?_
    refine (Run.outcome_bind_of_ok (Run.outcome_onFirst_eq entity settled)).trans ?_
    rw [Run.outcome_bind_of_ok (Run.outcome_modify _ _)]
    cases failure <;> rfl
  cases failure with
  | none => exact ⟨_, _, _, _, ran, .of_learns learns, .edits settles⟩
  | some reason => exact ⟨_, _, _, _, ran, .of_learns learns, .objects settles⟩

/-- Hooks in a row, each on what the one before has left. -/
theorem threads_foldlM (mapper : Mapper) (event : Event) (name : ClassName) {α : Type}
    (f : Document → α → EntityM Document) (hook : α → Hook) (items : List α)
    (each : ∀ a ∈ items, ∀ memory entity doc, memory.Sound mapper.catalog →
      ∃ invocation result after left, (f doc a).outcome (memory, entity) = (result, after, left) ∧
        Memory.Records mapper.catalog [invocation] memory after ∧
        (hook a).Acts mapper.catalog event name known entity doc invocation result left)
    (sound : memory.Sound mapper.catalog) (entity : Entity) (doc : Document) :
    ∃ made result after left, (items.foldlM f doc).outcome (memory, entity) =
        (result, after, left) ∧
      Memory.Records mapper.catalog made memory after ∧
      Threads mapper.catalog event name known (items.map hook) entity doc made result left := by
  induction items generalizing memory entity doc with
  | nil => exact ⟨[], .ok doc, memory, entity, rfl, .refl sound, .done⟩
  | cons a rest ih =>
    obtain ⟨own, others⟩ := List.forall_mem_cons.mp each
    obtain ⟨invocation, result, middle, left, first, records, acts⟩ := own memory entity doc sound
    rw [List.foldlM_cons, List.map_cons]
    cases result with
    | error error =>
      exact ⟨_, _, _, _, Run.outcome_bind_of_error first, records, .failed acts⟩
    | ok running =>
      obtain ⟨made, result, after, left', later, records', threads⟩ :=
        ih others records.sound left running
      exact ⟨_, result, after, left', (Run.outcome_bind_of_ok first).trans later,
        records.trans records', .next acts threads⟩

/-- The hooks that a dispatch calls where these handlers serve the event. -/
def hooks (mapper : Mapper) (handlers : List Handler) : List Hook :=
  handlers.map .method ++ mapper.interceptors.zipIdx.map fun hook => .interceptor hook.1 hook.2

/-- The two loops of a dispatch, once the instances are there. -/
theorem outcome_loops (mapper : Mapper) (event : Event) (name : ClassName)
    {handlers : List Handler} {listeners : List (Option ListenerInstance)}
    (sound : memory.Sound mapper.catalog)
    (has : List.Forall₂ (Handler.Has known) handlers listeners) (entity : Entity)
    (doc : Document) :
    ∃ made result after left,
      (do
        let doc ← (handlers.zip listeners).foldlM (Handler.invoke event name) doc
        mapper.interceptors.zipIdx.foldlM (mapper.intercept event name) doc :
        EntityM Document).outcome (memory, entity) = (result, after, left) ∧
      Memory.Records mapper.catalog made memory after ∧
      Threads mapper.catalog event name known (mapper.hooks handlers) entity doc made result
        left := by
  obtain ⟨count, paired⟩ := List.forall₂_iff_zip.mp has
  have methods : (handlers.zip listeners).map (fun pair => Hook.method pair.1) =
      handlers.map .method := by
    have handlersOf := congrArg (List.map Hook.method) (List.map_fst_zip count.le)
    rwa [List.map_map] at handlersOf
  obtain ⟨made, result, middle, left, first, records, threads⟩ :=
    threads_foldlM mapper event name (Handler.invoke event name) (fun pair => .method pair.1) _
      (fun pair member memory entity doc sound => outcome_invoke sound (paired member) entity doc)
      sound entity doc
  rw [methods] at threads
  cases result with
  | error error =>
    exact ⟨made, _, middle, left, Run.outcome_bind_of_error first, records, threads.append_of_error⟩
  | ok running =>
    obtain ⟨made', result, after, left', later, records', threads'⟩ :=
      threads_foldlM mapper event name (mapper.intercept event name)
        (fun hook => .interceptor hook.1 hook.2) mapper.interceptors.zipIdx
        (fun hook _ memory entity doc sound => outcome_intercept sound hook.1 hook.2 entity doc)
        records.sound left running
    exact ⟨made ++ made', result, after, left', (Run.outcome_bind_of_ok first).trans later,
      records.trans records', threads.append threads'⟩

/-- What a dispatch does for a class that can be described, if the listeners that it needs can be
made. It calls the handlers that serve the event of the registered type, of which there is one list
only, and then the interceptors, in order, and it ends as they thread the document. The journal has
an entry for each call: all hooks are called if none of them fails, and otherwise those up to the
first that does. Listeners get the instances that the mapper knows from then on, the ones that it
knew before among them. -/
theorem dispatch_threads {descriptor : Descriptor} (named : mapper.catalog.registry.Named)
    (sound : memory.Sound mapper.catalog) (described : mapper.catalog.Describes name descriptor)
    (makes : ∀ handler ∈ descriptor.handlersFor event, ∀ binding,
      handler.listener = some binding → ∀ count, ∃ made, binding.factory count = .ok made)
    (entity : Entity) (doc : Document) :
    ∃ schema handlers calls result after left,
      (mapper.dispatch descriptor event doc).outcome (memory, entity) = (result, after, left) ∧
      mapper.catalog.registry.find? name = some schema ∧
      mapper.catalog.registry.Serves schema event handlers ∧
      (∀ others, mapper.catalog.registry.Serves schema event others → others = handlers) ∧
      Threads mapper.catalog event name after.listener? (mapper.hooks handlers) entity doc calls
        result left ∧
      after.journal = memory.journal ++ calls ∧
      calls.map Invocation.callee <+: (mapper.hooks handlers).map Hook.callee ∧
      (result.isOk → calls.map Invocation.callee = (mapper.hooks handlers).map Hook.callee) ∧
      ∀ listener made, memory.listener? listener = some made →
        after.listener? listener = some made := by
  obtain ⟨registered, serves⟩ := described.serves named event
  obtain ⟨listeners, equipped, instances, equips, has⟩ :=
    Handler.outcome_mapM_instance? event name makes memory
  obtain ⟨made, result, after, left, loops, records, threads⟩ :=
    outcome_loops mapper event name (equips.sound sound) has entity doc
  refine ⟨_, _, made, result, after, left, ?_, registered, serves,
    fun others serves' => serves'.unique named serves, records.listeners ▸ threads, ?_,
    threads.callees_prefix, ?_, ?_⟩
  · rw [dispatch, described.className_eq named]
    exact (Run.outcome_bind_of_ok (Run.outcome_onFirst_eq entity instances)).trans loops
  · rw [records.journal, equips.journal]
  · intro ok
    cases result with
    | ok final => exact threads.callees_eq
    | error => cases ok
  · intro listener made isKnown
    rw [records.listeners]
    exact equips.known listener made isKnown

end Mapper

namespace Samples

def stamped : TypeSchema where
  name := ⟨"Stamped"⟩
  methods := [
    .scripted ⟨"Stamped"⟩ "touch" [.prePersist] .one false [],
    .scripted ⟨"Stamped"⟩ "stamp" [.prePersist] .two false [.put "stamp" (.integer 1)]]

def auditor : TypeSchema where
  name := ⟨"Auditor"⟩
  methods := [.scripted ⟨"Auditor"⟩ "look" [.prePersist] .two false [.put "seen" (.bool true)]]
  factory := some .numbered

/-- A stamped type with a seal. Its objects are not touched, and it listens to itself before the
auditor does. -/
def sealed : TypeSchema :=
  { entity "Sealed" "sealed" [marked "id" integer .id] with
    superclass := some stamped.name
    annotations := [.entity {}, .listeners [auditor.name], .listeners [⟨"Sealed"⟩, auditor.name]]
    methods := [
      .scripted ⟨"Sealed"⟩ "touch" [] .one false [],
      .scripted ⟨"Sealed"⟩ "close" [.prePersist] .zero false []] }

def audits : Registry := .ofTypes [stamped, auditor, sealed]

/-- Before a sealed object is saved it is stamped and closed, both once more because its type
listens to itself, then audited, and then the interceptor sees it. -/
theorem dispatch_threads_sealed :
    let mapper : Mapper :=
      { catalog := { registry := audits }, interceptors := [Interceptor.idle] }
    let entity := Entity.empty sealed.name
    ∃ descriptor, mapper.catalog.Describes sealed.name descriptor ∧
      ∃ handlers calls result after left,
        (mapper.dispatch descriptor .prePersist []).outcome ({}, entity) = (result, after, left) ∧
        audits.Serves sealed .prePersist handlers ∧
        Threads mapper.catalog .prePersist sealed.name after.listener? (mapper.hooks handlers)
          entity [] calls result left ∧
        calls.map Invocation.callee = [.method stamped.name "stamp", .method sealed.name "close",
          .method stamped.name "stamp", .method sealed.name "close",
          .method auditor.name "look", .interceptor 0] := by
  intro mapper entity
  have computed : (Catalog.answer (mapper.catalog.describe sealed.name)).toOption.map
      (fun descriptor => ((mapper.dispatch descriptor .prePersist []).outcome
        ({}, entity)).2.1.journal.map Invocation.callee) =
      some [.method stamped.name "stamp", .method sealed.name "close",
        .method stamped.name "stamp", .method sealed.name "close",
        .method auditor.name "look", .interceptor 0] := by decide +kernel
  obtain ⟨descriptor, answered, called⟩ := Option.map_eq_some_iff.mp computed
  have described := Catalog.answer_describe_eq_ok.mp (Result.eq_ok_of_toOption answered)
  have named : mapper.catalog.registry.Named := Registry.named_ofTypes _
  have makes : ∀ handler ∈ descriptor.handlersFor .prePersist, ∀ binding,
      handler.listener = some binding →
      ∀ count, ∃ made, binding.factory count = .ok made := by
    intro handler member binding belongs count
    obtain ⟨listener, found, makes⟩ :=
      (described.serves named .prePersist).2.exists_factory member belongs
    obtain ⟨before, after, isAudits, -⟩ := List.lookup_eq_some_iff.mp found
    have registered : (binding.className, listener) ∈
        [(stamped.name, stamped), (auditor.name, auditor), (sealed.name, sealed)] := by
      change _ ∈ audits
      simp [show audits = _ from isAudits]
    simp only [List.mem_cons, Prod.mk.injEq, List.not_mem_nil, or_false] at registered
    rcases registered with ⟨-, rfl⟩ | ⟨-, rfl⟩ | ⟨-, rfl⟩
    · cases makes
    · rw [← (Option.some.inj makes : ListenerFactory.numbered = binding.factory)]
      exact ⟨_, rfl⟩
    · cases makes
  obtain ⟨schema, handlers, made, result, after, left, ran, registered, serves, -, threads,
    journal, -, -, -⟩ := @Mapper.dispatch_threads mapper .prePersist sealed.name {} descriptor named
      (Memory.sound_empty _) described makes entity []
  obtain rfl : sealed = schema := Option.some.inj registered
  refine ⟨descriptor, described, handlers, made, result, after, left, ran, serves, threads, ?_⟩
  rw [ran, journal] at called
  exact called

end Samples

end DocMapper
