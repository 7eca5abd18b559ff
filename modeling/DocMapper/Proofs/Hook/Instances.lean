import DocMapper.Proofs.Hook.Threading

/-!
# One instance for each listener type

A dispatch first finds the instances that its handlers are called on. An instance that is known is
taken; a missing one is made by the factory of the listener type and known from then on. A factory
that fails ends the dispatch before any hook is called, and leaves nothing behind, so that the next
dispatch that needs its listener tries it again. `Finds` goes through this search with the tries of
factories on the way.

What a step does to the known instances holds for a run of dispatches by induction. The descriptors
of a run are arbitrary, and so are the factories in them: a factory may answer otherwise in every
dispatch.
-/

namespace DocMapper

/-- A try of a factory to make an instance of its listener type. -/
structure Attempt where
  listener : ClassName
  result : Except String ListenerInstance

/-- The instance of a listener type that was made in these tries. -/
def madeBy (tries : List Attempt) (listener : ClassName) : Option ListenerInstance :=
  tries.findSome? fun attempt =>
    if attempt.listener = listener then attempt.result.toOption else none

@[simp] theorem madeBy_nil (listener : ClassName) : madeBy [] listener = none := rfl

theorem madeBy_cons (attempt : Attempt) (tries : List Attempt) (listener : ClassName) :
    madeBy (attempt :: tries) listener =
      (if attempt.listener = listener then attempt.result.toOption else none).or
        (madeBy tries listener) := by
  rw [madeBy, List.findSome?_cons]
  split <;> simp_all [madeBy]

theorem madeBy_append (tries later : List Attempt) (listener : ClassName) :
    madeBy (tries ++ later) listener = (madeBy tries listener).or (madeBy later listener) :=
  List.findSome?_append

/-- No instance was made if every try has failed. -/
theorem isOk_of_madeBy_eq_none {tries : List Attempt} {attempt : Attempt}
    (none : madeBy tries attempt.listener = none) (member : attempt ∈ tries) :
    attempt.result.isOk = false := by
  have failed := List.findSome?_eq_none_iff.mp none attempt member
  cases result : attempt.result with
  | error => rfl
  | ok made => simp [result, Except.toOption] at failed

/-- The listener types of handlers of which no instance is known, in the order of their first
occurrence. -/
def missing (known : ClassName → Option ListenerInstance) (handlers : List Handler) :
    List ClassName :=
  ((handlers.filterMap fun handler => handler.listener.map ListenerBinding.className).filter
    fun listener => (known listener).isNone).eraseDups

section Missing

variable {known : ClassName → Option ListenerInstance} {handler : Handler} {rest : List Handler}
  {binding : ListenerBinding} {made : ListenerInstance}

theorem missing_of_own (isOwn : handler.listener = none) :
    missing known (handler :: rest) = missing known rest := by
  simp [missing, isOwn]

theorem missing_of_known (belongs : handler.listener = some binding)
    (found : known binding.className = some made) :
    missing known (handler :: rest) = missing known rest := by
  simp [missing, belongs, found]

/-- A listener that is missing comes before those that are missing once it has an instance. -/
theorem missing_of_fresh {memory : Memory} (belongs : handler.listener = some binding)
    (fresh : memory.listener? binding.className = none) (made : ListenerInstance) :
    missing memory.listener? (handler :: rest) =
      binding.className :: missing (memory.equip binding.className made).listener? rest := by
  have others : ∀ listener,
      ((memory.equip binding.className made).listener? listener).isNone =
        ((memory.listener? listener).isNone && listener != binding.className) := by
    intro listener
    by_cases same : listener = binding.className
    · simp [same]
    · simp [memory.listener?_equip_of_ne same, same]
  simp [missing, belongs, fresh, others, List.eraseDups_cons, List.filter_filter, Bool.and_comm,
    bne]

theorem known_eq_none_of_mem_missing {listener : ClassName} {handlers : List Handler}
    (member : listener ∈ missing known handlers) : known listener = none := by
  rw [missing, List.mem_eraseDups, List.mem_filter] at member
  exact Option.isNone_iff_eq_none.mp member.2

end Missing

/-- Tries for missing listeners: one for each of them in order, up to the first that fails. -/
inductive Tried : List ClassName → List Attempt → Prop
  | all : Tried [] []
  | made {listener : ClassName} {rest : List ClassName} {made : ListenerInstance}
      {tries : List Attempt} (tried : Tried rest tries) :
      Tried (listener :: rest) (⟨listener, .ok made⟩ :: tries)
  | failed {listener : ClassName} {rest : List ClassName} {reason : String} :
      Tried (listener :: rest) [⟨listener, .error reason⟩]

theorem Tried.listeners_prefix {listeners : List ClassName} {tries : List Attempt}
    (tried : Tried listeners tries) : tries.map Attempt.listener <+: listeners := by
  induction tried with
  | all => exact List.nil_prefix
  | made _ ih => exact (List.prefix_cons_inj _).mpr ih
  | failed => exact (List.prefix_cons_inj _).mpr List.nil_prefix

namespace Handler

/-- Handlers find the instances that they are called on, one after the other. With every instance
that is made, and with the failure that ends the search, goes a try of a factory. -/
inductive Finds (event : Event) (name : ClassName) : List Handler → Memory → List Attempt →
    Except MapError (List (Option ListenerInstance)) → Memory → Prop
  | done {memory : Memory} : Finds event name [] memory [] (.ok []) memory
  | own {handler : Handler} {rest : List Handler} {memory after : Memory} {tries : List Attempt}
      {result : Except MapError (List (Option ListenerInstance))}
      (isOwn : handler.listener = none) (finds : Finds event name rest memory tries result after) :
      Finds event name (handler :: rest) memory tries (result.map (none :: ·)) after
  | known {handler : Handler} {rest : List Handler} {memory after : Memory} {tries : List Attempt}
      {result : Except MapError (List (Option ListenerInstance))} {binding : ListenerBinding}
      {made : ListenerInstance} (belongs : handler.listener = some binding)
      (found : memory.listener? binding.className = some made)
      (finds : Finds event name rest memory tries result after) :
      Finds event name (handler :: rest) memory tries (result.map (some made :: ·)) after
  | makes {handler : Handler} {rest : List Handler} {memory after : Memory} {tries : List Attempt}
      {result : Except MapError (List (Option ListenerInstance))} {binding : ListenerBinding}
      {made : ListenerInstance} (belongs : handler.listener = some binding)
      (fresh : memory.listener? binding.className = none)
      (isMade : binding.factory memory.made = .ok made)
      (finds : Finds event name rest (memory.equip binding.className made) tries result after) :
      Finds event name (handler :: rest) memory (⟨binding.className, .ok made⟩ :: tries)
        (result.map (some made :: ·)) after
  | fails {handler : Handler} {rest : List Handler} {memory : Memory} {binding : ListenerBinding}
      {reason : String} (belongs : handler.listener = some binding)
      (fresh : memory.listener? binding.className = none)
      (isFailure : binding.factory memory.made = .error reason) :
      Finds event name (handler :: rest) memory [⟨binding.className, .error reason⟩]
        (.error (.lifecycle event name binding.className.text reason)) memory

variable {event : Event} {name : ClassName} {handlers : List Handler} {memory after : Memory}
  {tries : List Attempt} {result : Except MapError (List (Option ListenerInstance))}

/-- There is always an end to the search. -/
theorem exists_finds (event : Event) (name : ClassName) (handlers : List Handler)
    (memory : Memory) :
    ∃ tries result after, Finds event name handlers memory tries result after := by
  induction handlers generalizing memory with
  | nil => exact ⟨_, _, _, .done⟩
  | cons handler rest ih =>
    cases belongs : handler.listener with
    | none =>
      obtain ⟨_, _, _, finds⟩ := ih memory
      exact ⟨_, _, _, .own belongs finds⟩
    | some binding =>
      cases found : memory.listener? binding.className with
      | some made =>
        obtain ⟨_, _, _, finds⟩ := ih memory
        exact ⟨_, _, _, .known belongs found finds⟩
      | none =>
        cases tried : binding.factory memory.made with
        | error reason => exact ⟨_, _, _, .fails belongs found tried⟩
        | ok made =>
          obtain ⟨_, _, _, finds⟩ := ih (memory.equip binding.className made)
          exact ⟨_, _, _, .makes belongs found tried finds⟩

namespace Finds

theorem outcome_eq (finds : Finds event name handlers memory tries result after) :
    (handlers.mapM (instance? event name)).outcome memory = (result, after) := by
  have step : ∀ {handler : Handler} {rest : List Handler} {memory middle after : Memory}
      {listener : Option ListenerInstance}
      {result : Except MapError (List (Option ListenerInstance))},
      (handler.instance? event name).outcome memory = (.ok listener, middle) →
      (rest.mapM (instance? event name)).outcome middle = (result, after) →
      ((handler :: rest).mapM (instance? event name)).outcome memory =
        (result.map (listener :: ·), after) := by
    intro handler rest memory middle after listener result first later
    rw [List.mapM_cons, Run.outcome_bind_of_ok first]
    cases result with
    | error error => rw [Run.outcome_bind_of_error later]; rfl
    | ok listeners => rw [Run.outcome_bind_of_ok later]; rfl
  induction finds with
  | done => rfl
  | own isOwn _ ih => exact step (outcome_instance?_own event name isOwn _) ih
  | known belongs found _ ih => exact step (outcome_instance?_known event name belongs found) ih
  | makes belongs fresh isMade _ ih =>
    exact step (outcome_instance?_makes event name belongs fresh isMade) ih
  | fails belongs fresh isFailure =>
    rw [List.mapM_cons]
    exact Run.outcome_bind_of_error (outcome_instance?_fails event name belongs fresh isFailure)

theorem equips (finds : Finds event name handlers memory tries result after) :
    memory.Equips after := by
  induction finds with
  | done => exact .refl _
  | own _ _ ih => exact ih
  | known _ _ _ ih => exact ih
  | makes _ fresh _ _ ih => exact (Memory.Equips.equip fresh _).trans ih
  | fails => exact .refl _

/-- Known afterwards is what was known before and what the tries have made. -/
theorem listener?_eq (finds : Finds event name handlers memory tries result after)
    (listener : ClassName) :
    after.listener? listener = (memory.listener? listener).or (madeBy tries listener) := by
  induction finds with
  | done => simp
  | own _ _ ih => exact ih
  | known _ _ _ ih => exact ih
  | @makes _ _ memory _ _ _ binding made _ fresh _ _ ih =>
    rw [ih, madeBy_cons]
    by_cases same : listener = binding.className
    · subst same
      simp [fresh, Except.toOption]
    · rw [memory.listener?_equip_of_ne same, if_neg (Ne.symm same), Option.none_or]
  | fails => simp [madeBy, Except.toOption]

/-- If the search succeeds, every handler has an instance that is known afterwards. -/
theorem has (finds : Finds event name handlers memory tries result after)
    {listeners : List (Option ListenerInstance)} (found : result = .ok listeners) :
    List.Forall₂ (Has after.listener?) handlers listeners := by
  induction finds generalizing listeners with
  | done =>
    cases found
    exact .nil
  | own isOwn _ ih =>
    obtain ⟨others, rfl, rfl⟩ := Result.map_eq_ok.mp found
    exact .cons (by rw [Has, isOwn]) (ih rfl)
  | known belongs isKnown finds ih =>
    obtain ⟨others, rfl, rfl⟩ := Result.map_eq_ok.mp found
    refine .cons ?_ (ih rfl)
    rw [Has, belongs]
    exact ⟨_, rfl, finds.equips.known _ _ isKnown⟩
  | @makes _ _ memory _ _ _ binding made belongs _ _ finds ih =>
    obtain ⟨others, rfl, rfl⟩ := Result.map_eq_ok.mp found
    refine .cons ?_ (ih rfl)
    rw [Has, belongs]
    exact ⟨made, rfl, finds.equips.known _ _ (memory.listener?_equip_self _ _)⟩
  | fails => cases found

theorem tried (finds : Finds event name handlers memory tries result after) :
    Tried (missing memory.listener? handlers) tries := by
  induction finds with
  | done => exact .all
  | own isOwn _ ih => rwa [missing_of_own isOwn]
  | known belongs found _ ih => rwa [missing_of_known belongs found]
  | @makes _ _ _ _ _ _ _ made belongs fresh _ _ ih =>
    rw [missing_of_fresh belongs fresh made]
    exact .made ih
  | fails belongs fresh _ =>
    rw [missing_of_fresh belongs fresh 0]
    exact .failed

theorem result_eq (finds : Finds event name handlers memory tries result after)
    {listener : ClassName} {reason : String} (failed : ⟨listener, .error reason⟩ ∈ tries) :
    result = .error (.lifecycle event name listener.text reason) := by
  induction finds with
  | done => cases failed
  | own _ _ ih => rw [ih failed]; rfl
  | known _ _ _ ih => rw [ih failed]; rfl
  | makes _ _ _ _ ih =>
    rcases List.mem_cons.mp failed with same | failed
    · cases same
    · rw [ih failed]; rfl
  | fails =>
    cases List.mem_singleton.mp failed
    rfl

theorem exists_result (finds : Finds event name handlers memory tries result after)
    (succeeded : ∀ attempt ∈ tries, attempt.result.isOk) : ∃ listeners, result = .ok listeners := by
  induction finds with
  | done => exact ⟨_, rfl⟩
  | own _ _ ih => exact Result.exists_map_eq_ok_iff.mpr (ih succeeded)
  | known _ _ _ ih => exact Result.exists_map_eq_ok_iff.mpr (ih succeeded)
  | makes _ _ _ _ ih =>
    exact Result.exists_map_eq_ok_iff.mpr (ih (List.forall_mem_cons.mp succeeded).2)
  | fails => cases succeeded _ List.mem_cons_self

end Finds

end Handler

/-! ### Dispatches in a row -/

/-- A dispatch: what it is for, the factories that it tries, the hooks that it calls, what it gives
and the entity that it leaves. -/
structure Dispatch where
  descriptor : Descriptor
  event : Event
  entity : Entity
  document : Document
  tries : List Attempt
  calls : List Invocation
  result : Except MapError Document
  left : Entity

def Dispatch.handlers (dispatch : Dispatch) : List Handler :=
  dispatch.descriptor.handlersFor dispatch.event

/-- The mapper ran a dispatch, from one memory to another. -/
structure Mapper.Performs (mapper : Mapper) (before : Memory) (dispatch : Dispatch)
    (after : Memory) : Prop where
  ran : (mapper.dispatch dispatch.descriptor dispatch.event dispatch.document).outcome
    (before, dispatch.entity) = (dispatch.result, (after, dispatch.left))
  finds : ∃ found equipped, Handler.Finds dispatch.event dispatch.descriptor.className
    dispatch.handlers before dispatch.tries found equipped
  journal : after.journal = before.journal ++ dispatch.calls

/-- What a new mapper ran, one dispatch after the other, and the memory that it has then.
Descriptors may come in at any time. -/
inductive Mapper.Runs (mapper : Mapper) : List Dispatch → Memory → Prop
  | start : Runs mapper [] {}
  | learns {dispatches : List Dispatch} {memory after : Memory}
      (runs : Runs mapper dispatches memory)
      (learns : Memory.Learns mapper.catalog memory after) : Runs mapper dispatches after
  | dispatch {dispatches : List Dispatch} {dispatch : Dispatch} {memory after : Memory}
      (runs : Runs mapper dispatches memory) (performs : mapper.Performs memory dispatch after) :
      Runs mapper (dispatches ++ [dispatch]) after

/-- What a dispatch does for its listeners where these tries were made before it. The missing
listeners are tried. If all of them are made, every method of a listener is called on the instance
that was made of it, and if not, no hook is called. -/
structure Dispatch.Equipped (mapper : Mapper) (earlier : List Attempt) (dispatch : Dispatch) :
    Prop where
  tried : Tried (missing (madeBy earlier) dispatch.handlers) dispatch.tries
  calls : (∀ attempt ∈ dispatch.tries, attempt.result.isOk) →
    Threads mapper.catalog dispatch.event dispatch.descriptor.className
      (madeBy (earlier ++ dispatch.tries)) (mapper.hooks dispatch.handlers) dispatch.entity
      dispatch.document dispatch.calls dispatch.result dispatch.left
  stops : ∀ listener reason, ⟨listener, .error reason⟩ ∈ dispatch.tries →
    dispatch.calls = [] ∧ dispatch.left = dispatch.entity ∧ dispatch.result =
      .error (.lifecycle dispatch.event dispatch.descriptor.className listener.text reason)

namespace Dispatch.Equipped

variable {mapper : Mapper} {earlier : List Attempt} {dispatch : Dispatch}

/-- A try for a missing listener comes after failed ones only. -/
theorem isOk_eq_false (equips : dispatch.Equipped mapper earlier) {first second : Attempt}
    (isFirst : first ∈ earlier) (isSecond : second ∈ dispatch.tries)
    (same : first.listener = second.listener) : first.result.isOk = false := by
  have tried := equips.tried.listeners_prefix.subset (List.mem_map_of_mem isSecond)
  have fresh := known_eq_none_of_mem_missing tried
  rw [← same] at fresh
  exact isOk_of_madeBy_eq_none fresh isFirst

theorem pairwise (equips : dispatch.Equipped mapper earlier) :
    dispatch.tries.Pairwise fun first second => first.listener ≠ second.listener := by
  have distinct : (missing (madeBy earlier) dispatch.handlers).Nodup := nodup_eraseDups _
  exact List.pairwise_map.mp (distinct.sublist equips.tried.listeners_prefix.sublist)

end Dispatch.Equipped

namespace Mapper

variable {mapper : Mapper} {before after memory : Memory} {dispatch : Dispatch}
  {dispatches : List Dispatch} {earlier : List Attempt}

section

variable {descriptor : Descriptor} {event : Event} {tries : List Attempt} {equipped : Memory}

/-- A dispatch ends where the search for instances fails. -/
theorem outcome_dispatch_of_error {error : MapError}
    (finds : Handler.Finds event descriptor.className (descriptor.handlersFor event) before tries
      (.error error) equipped) (entity : Entity) (doc : Document) :
    (mapper.dispatch descriptor event doc).outcome (before, entity) =
      (.error error, (equipped, entity)) :=
  Run.outcome_bind_of_error (Run.outcome_onFirst_eq entity finds.outcome_eq)

theorem outcome_dispatch_of_ok {listeners : List (Option ListenerInstance)}
    (finds : Handler.Finds event descriptor.className (descriptor.handlersFor event) before tries
      (.ok listeners) equipped) (sound : before.Sound mapper.catalog) (entity : Entity)
    (doc : Document) :
    ∃ calls result after left,
      (mapper.dispatch descriptor event doc).outcome (before, entity) = (result, (after, left)) ∧
      Memory.Records mapper.catalog calls equipped after ∧
      Threads mapper.catalog event descriptor.className equipped.listener?
        (mapper.hooks (descriptor.handlersFor event)) entity doc calls result left := by
  obtain ⟨calls, result, after, left, loops, records, threads⟩ :=
    outcome_loops mapper event descriptor.className (finds.equips.sound sound) (finds.has rfl)
      entity doc
  have instances := Run.outcome_onFirst_eq entity finds.outcome_eq
  exact ⟨calls, result, after, left, (Run.outcome_bind_of_ok instances).trans loops, records,
    threads⟩

end

/-- Every dispatch can be run, and makes these tries and calls. -/
theorem exists_performs (sound : before.Sound mapper.catalog) (descriptor : Descriptor)
    (event : Event) (entity : Entity) (doc : Document) :
    ∃ tries calls result left after,
      mapper.Performs before ⟨descriptor, event, entity, doc, tries, calls, result, left⟩
        after := by
  obtain ⟨tries, found, equipped, finds⟩ := Handler.exists_finds event descriptor.className
    (descriptor.handlersFor event) before
  cases found with
  | error error =>
    refine ⟨tries, [], .error error, entity, equipped, ?_, ⟨_, _, finds⟩, ?_⟩
    · exact outcome_dispatch_of_error finds entity doc
    · rw [finds.equips.journal, List.append_nil]
  | ok listeners =>
    obtain ⟨calls, result, after, left, ran, records, -⟩ :=
      outcome_dispatch_of_ok finds sound entity doc
    exact ⟨tries, calls, result, left, after, ran, ⟨_, _, finds⟩,
      by rw [records.journal, finds.equips.journal]⟩

/-- A dispatch knows what was made before it, and adds to it. -/
theorem Performs.equipped (performs : mapper.Performs before dispatch after)
    (sound : before.Sound mapper.catalog) (knows : before.listener? = madeBy earlier) :
    dispatch.Equipped mapper earlier ∧ after.Sound mapper.catalog ∧
      after.listener? = madeBy (earlier ++ dispatch.tries) := by
  obtain ⟨found, equipped, finds⟩ := performs.finds
  have known : equipped.listener? = madeBy (earlier ++ dispatch.tries) := by
    funext listener
    rw [finds.listener?_eq, knows, madeBy_append]
  have tried := finds.tried
  rw [knows] at tried
  cases found with
  | error error =>
    have ended := (outcome_dispatch_of_error finds _ _).symm.trans performs.ran
    obtain ⟨result, rfl, left⟩ : .error error = dispatch.result ∧ equipped = after ∧
        dispatch.entity = dispatch.left := by simpa using ended
    refine ⟨⟨tried, fun succeeded => ?_, fun listener reason failed => ⟨?_, left.symm, ?_⟩⟩,
      finds.equips.sound sound, known⟩
    · obtain ⟨listeners, isOk⟩ := finds.exists_result succeeded
      cases isOk
    · have journal := performs.journal
      rwa [finds.equips.journal, List.self_eq_append_right] at journal
    · rw [← result, Except.error.inj (finds.result_eq failed)]
  | ok listeners =>
    obtain ⟨calls, result, after', left, ran, records, threads⟩ :=
      outcome_dispatch_of_ok finds sound dispatch.entity dispatch.document
    obtain ⟨rfl, rfl, rfl⟩ : result = dispatch.result ∧ after' = after ∧ left = dispatch.left := by
      simpa using ran.symm.trans performs.ran
    have same : calls = dispatch.calls := by
      have journal := performs.journal
      rwa [records.journal, finds.equips.journal, List.append_cancel_left_eq] at journal
    rw [same, known] at threads
    refine ⟨⟨tried, fun _ => threads, fun listener reason failed => ?_⟩, records.sound,
      records.listeners.trans known⟩
    have isError := finds.result_eq failed
    cases isError

/-- Along a run, the instances that are known are those that were made. -/
theorem Runs.knows (runs : mapper.Runs dispatches memory) :
    memory.Sound mapper.catalog ∧
      memory.listener? = madeBy (dispatches.flatMap Dispatch.tries) := by
  induction runs with
  | start => exact ⟨Memory.sound_empty _, rfl⟩
  | learns _ learns ih =>
    refine ⟨learns.sound, ?_⟩
    rw [← ih.2]
    funext listener
    rw [Memory.listener?, learns.rest]
    rfl
  | dispatch _ performs ih =>
    obtain ⟨-, sound, known⟩ := performs.equipped ih.1 ih.2
    exact ⟨sound, by simpa using known⟩

/-- What one listener type gets along any run of dispatches: its factory succeeds at most once, and
is not tried again after that. Every dispatch tries the listeners that no earlier try has made, in
order and up to the first that fails. If none fails, the methods of a listener are called on the
instance that was made of it, and otherwise no hook is called, the entity stays as it is and the
dispatch fails. -/
theorem Runs.makes_each_once (runs : mapper.Runs dispatches memory) :
    ((dispatches.flatMap Dispatch.tries).Pairwise fun first second =>
      first.listener = second.listener → first.result.isOk = false) ∧
    ∀ earlier dispatch later, dispatches = earlier ++ dispatch :: later →
      dispatch.Equipped mapper (earlier.flatMap Dispatch.tries) := by
  induction runs with
  | start => exact ⟨.nil, by simp⟩
  | learns _ _ ih => exact ih
  | @dispatch dispatches dispatch memory after runs performs ih =>
    have equips := (performs.equipped runs.knows.1 runs.knows.2).1
    constructor
    · rw [List.flatMap_append, List.flatMap_singleton, List.pairwise_append]
      refine ⟨ih.1, equips.pairwise.imp fun apart same => absurd same apart, ?_⟩
      exact fun first isFirst second isSecond => equips.isOk_eq_false isFirst isSecond
    · intro earlier other later split
      rcases List.eq_nil_or_concat later with rfl | ⟨later, last, rfl⟩
      · obtain ⟨rfl, isOther⟩ := List.append_inj' split rfl
        cases isOther
        exact equips
      · rw [List.concat_eq_append, ← List.cons_append, ← List.append_assoc] at split
        exact ih.2 earlier other later (List.append_inj' split rfl).1

end Mapper

namespace Samples

/-- Makes instances where there is one already. -/
def afterFirst : ListenerFactory := fun made =>
  if made = 0 then .error "too early" else .ok (made + 1)

/-- A listener that wants to be second. -/
def shadow : TypeSchema where
  name := ⟨"Shadow"⟩
  methods := [.scripted ⟨"Shadow"⟩ "follow" [.prePersist] .zero false []]
  factory := some afterFirst

def audited : TypeSchema :=
  { entity "Audited" "audited" [marked "id" integer .id] with
    annotations := [.entity {}, .listeners [auditor.name]] }

/-- A type that the shadow listens to before the auditor does. -/
def shadowed : TypeSchema :=
  { entity "Shadowed" "shadowed" [marked "id" integer .id] with
    annotations := [.entity {}, .listeners [shadow.name, auditor.name]] }

def listened : Catalog := ⟨.ofTypes [auditor, shadow, audited, shadowed], {}⟩

def looks : Handler where
  listener := some ⟨auditor.name, .numbered⟩
  method := .scripted auditor.name "look" [.prePersist] .two false [.put "seen" (.bool true)]

def follows : Handler where
  listener := some ⟨shadow.name, afterFirst⟩
  method := .scripted shadow.name "follow" [.prePersist] .zero false []

def ofAudited : Descriptor := listened.assemble audited none [] [looks]

def ofShadowed : Descriptor := listened.assemble shadowed none [] [follows, looks]

theorem describes_audited : listened.Describes audited.name ofAudited := by
  refine Catalog.describes_served rfl (by decide) rfl rfl ?_ (by decide)
  have names : audited.listenerNames = [auditor.name] := rfl
  rw [Registry.handlers, names, List.mapM_cons,
    Catalog.listenerHandlers_alone (by decide) rfl rfl rfl, Catalog.methods_alone rfl]
  rfl

theorem describes_shadowed : listened.Describes shadowed.name ofShadowed := by
  refine Catalog.describes_served rfl (by decide) rfl rfl ?_ (by decide)
  have names : shadowed.listenerNames = [shadow.name, auditor.name] := rfl
  rw [Registry.handlers, names, List.mapM_cons, List.mapM_cons,
    Catalog.listenerHandlers_alone (by decide) rfl rfl rfl,
    Catalog.listenerHandlers_alone (by decide) rfl rfl rfl, Catalog.methods_alone rfl]
  rfl

def listening : Mapper := { catalog := listened, interceptors := [Interceptor.idle] }

def preparing (memory : Memory) (descriptor : Descriptor) (tries : List Attempt) :
    Dispatch × Memory :=
  let entity := Entity.empty descriptor.className
  let ended := (listening.dispatch descriptor .prePersist []).outcome (memory, entity)
  ({ descriptor, event := .prePersist, entity, document := [], tries
     calls := ended.2.1.journal.drop memory.journal.length
     result := ended.1
     left := ended.2.2 }, ended.2.1)

/-- The shadow is tried before there is another listener. -/
def tooEarly : Dispatch × Memory :=
  preparing {} ofShadowed [⟨shadow.name, .error "too early"⟩]

/-- The auditor is made for another type. -/
def meanwhile : Dispatch × Memory :=
  preparing tooEarly.2 ofAudited [⟨auditor.name, .ok 1⟩]

/-- The shadow is tried again. -/
def again : Dispatch × Memory :=
  preparing meanwhile.2 ofShadowed [⟨shadow.name, .ok 2⟩]

theorem performs_tooEarly : listening.Performs {} tooEarly.1 tooEarly.2 where
  ran := rfl
  finds := by
    have belongs : follows.listener = some ⟨shadow.name, afterFirst⟩ := rfl
    have finds : Handler.Finds .prePersist shadowed.name [follows, looks] {} tooEarly.1.tries _ _ :=
      .fails belongs rfl rfl
    exact ⟨_, _, finds⟩
  journal := by decide +kernel

theorem performs_meanwhile : listening.Performs tooEarly.2 meanwhile.1 meanwhile.2 where
  ran := rfl
  finds := by
    have belongs : looks.listener = some ⟨auditor.name, .numbered⟩ := rfl
    have fresh : tooEarly.2.listener? auditor.name = none := by decide +kernel
    have isMade : ListenerFactory.numbered tooEarly.2.made = .ok 1 := by decide +kernel
    have finds : Handler.Finds .prePersist audited.name [looks] tooEarly.2 meanwhile.1.tries _ _ :=
      .makes belongs fresh isMade .done
    exact ⟨_, _, finds⟩
  journal := by decide +kernel

theorem performs_again : listening.Performs meanwhile.2 again.1 again.2 where
  ran := rfl
  finds := by
    have belongs : follows.listener = some ⟨shadow.name, afterFirst⟩ := rfl
    have others : looks.listener = some ⟨auditor.name, .numbered⟩ := rfl
    have fresh : meanwhile.2.listener? shadow.name = none := by decide +kernel
    have isMade : afterFirst meanwhile.2.made = .ok 2 := by decide +kernel
    have known : (meanwhile.2.equip shadow.name 2).listener? auditor.name = some 1 := by
      decide +kernel
    have finds : Handler.Finds .prePersist shadowed.name [follows, looks] meanwhile.2
        again.1.tries _ _ :=
      .makes belongs fresh isMade (.known others known .done)
    exact ⟨_, _, finds⟩
  journal := by decide +kernel

/-- The shadow is tried in vain, and nothing is called. Once the auditor is made for another type,
the shadow is tried again, and both are called on their instances. -/
theorem makes_each_once_shadowed :
    listened.Describes shadowed.name ofShadowed ∧ listened.Describes audited.name ofAudited ∧
    listening.Runs [tooEarly.1, meanwhile.1, again.1] again.2 ∧
    (tooEarly.1.calls = [] ∧ tooEarly.1.left = tooEarly.1.entity) ∧
    again.1.Equipped listening (tooEarly.1.tries ++ meanwhile.1.tries) ∧
    again.1.calls.map (fun call => (call.callee, call.listener)) =
      [(.method shadow.name "follow", some 2), (.method auditor.name "look", some 1),
        (.interceptor 0, none)] := by
  have runs : listening.Runs ([] ++ [tooEarly.1] ++ [meanwhile.1] ++ [again.1]) again.2 :=
    .dispatch (.dispatch (.dispatch .start performs_tooEarly) performs_meanwhile) performs_again
  have each := (Mapper.Runs.makes_each_once runs).2
  have stops := (each [] tooEarly.1 [meanwhile.1, again.1] rfl).stops shadow.name "too early"
    List.mem_cons_self
  exact ⟨describes_shadowed, describes_audited, runs, ⟨stops.1, stops.2.1⟩,
    each [tooEarly.1, meanwhile.1] again.1 [] rfl, by decide +kernel⟩

end Samples

end DocMapper
