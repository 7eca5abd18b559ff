import DocMapper.Proofs.Conversion.Alike
import DocMapper.Proofs.Datastore.Loading

/-!
# Resolving for alike types

Two mappers over alike types, each on a world of its own with the same documents, do the same: one
fails exactly if the other does, and otherwise both give the same and have looked up the same.
`Mirrors` says this of two runs, and is closed under every way of putting runs together. Resolving
the references of a field is such a pair of runs, also where the two stored values are not the same
but stand for the same keys.
-/

namespace DocMapper

/-- Worlds that are ready, each for its catalog, with the same documents. -/
structure World.Twins (catalog other : Catalog) (first second : World) : Prop where
  ready : first.Ready catalog
  readyOther : second.Ready other
  collections : second.store.collections = first.store.collections

theorem World.Twins.keeps {catalog other : Catalog} {first second first' second' : World}
    (twins : Twins catalog other first second) (keeps : first.Keeps catalog first')
    (keeps' : second.Keeps other second') : Twins catalog other first' second' :=
  ⟨keeps.ready, keeps'.ready,
    keeps'.collections.trans (twins.collections.trans keeps.collections.symm)⟩

/-- How two runs end that do the same: both fail, or both give the same, with the same documents and
the same companion. -/
inductive EndsAlike {τ α : Type} (catalog other : Catalog) :
    Except MapError α × World × τ → Except MapError α × World × τ → Prop
  | done {a : α} {first second : World} {companion : τ}
      (twins : World.Twins catalog other first second) :
      EndsAlike catalog other (.ok a, first, companion) (.ok a, second, companion)
  | failed {error error' : MapError} {state state' : World × τ} :
      EndsAlike catalog other (.error error, state) (.error error', state')

/-- From twin worlds with the same companion, the runs end alike. -/
def Mirrors {τ α : Type} (catalog other : Catalog) (act act' : Run MapError (World × τ) α) : Prop :=
  ∀ first second companion, World.Twins catalog other first second →
    EndsAlike catalog other (act.outcome (first, companion)) (act'.outcome (second, companion))

namespace Mirrors

variable {τ α β : Type} {catalog other : Catalog}

theorem pure (a : α) : Mirrors catalog other (Pure.pure a : Run MapError (World × τ) α)
    (Pure.pure a) :=
  fun _ _ _ twins => .done twins

theorem ofExcept (result : Except MapError α) : Mirrors catalog other
    (Run.ofExcept result : Run MapError (World × τ) α) (Run.ofExcept result) := by
  intro first second companion twins
  cases result with
  | error error => exact .failed
  | ok a => exact .done twins

theorem bind {act act' : Run MapError (World × τ) α} {next next' : α → Run MapError (World × τ) β}
    (start : Mirrors catalog other act act')
    (rest : ∀ a, Mirrors catalog other (next a) (next' a)) :
    Mirrors catalog other (act >>= next) (act' >>= next') := by
  intro first second companion twins
  have ends := start first second companion twins
  rw [Run.outcome_bind, Run.outcome_bind]
  generalize act.outcome (first, companion) = ended, act'.outcome (second, companion) = ended'
    at ends
  cases ends with
  | done twins => exact rest _ _ _ _ twins
  | failed => exact .failed

/-- Runs that do the same give the same results. -/
theorem result_iff {act act' : Run MapError (World × τ) α}
    (mirrors : Mirrors catalog other act act') {first second : World}
    (twins : World.Twins catalog other first second) (companion : τ) (a : α) :
    (act.outcome (first, companion)).1 = .ok a ↔ (act'.outcome (second, companion)).1 = .ok a := by
  have ends := mirrors first second companion twins
  generalize act.outcome (first, companion) = ended, act'.outcome (second, companion) = ended'
    at ends ⊢
  cases ends with
  | done => exact Iff.rfl
  | failed => simp

/-- Reading the state: the rest may look at the companion, not at the worlds. -/
theorem get {next next' : World × τ → Run MapError (World × τ) α}
    (rest : ∀ first second companion,
      Mirrors catalog other (next (first, companion)) (next' (second, companion))) :
    Mirrors catalog other (MonadState.get >>= next) (MonadState.get >>= next') := by
  intro first second companion twins
  rw [Run.outcome_bind_of_ok (Run.outcome_get _), Run.outcome_bind_of_ok (Run.outcome_get _)]
  exact rest first second companion first second companion twins

theorem forM {f f' : β → Run MapError (World × τ) PUnit} {items : List β}
    (each : ∀ b ∈ items, Mirrors catalog other (f b) (f' b)) :
    Mirrors catalog other (items.forM f) (items.forM f') := by
  induction items with
  | nil => exact pure _
  | cons b rest ih =>
    exact (each b List.mem_cons_self).bind fun _ =>
      ih fun b' member => each b' (List.mem_cons_of_mem _ member)

/-- Steady work on the memories with the same answer, if it has one. -/
theorem onMemory {act act' : MapM α} (steady : catalog.Steady act) (steady' : other.Steady act')
    (same : ∀ a, Catalog.answer act = .ok a ↔ Catalog.answer act' = .ok a) :
    Mirrors catalog other (Run.onFirst (World.onMemory act) : Run MapError (World × τ) α)
      (Run.onFirst (World.onMemory act')) := by
  intro first second companion twins
  obtain ⟨first', keeps, ran⟩ := World.outcome_onMemory steady twins.ready
  obtain ⟨second', keeps', ran'⟩ := World.outcome_onMemory steady' twins.readyOther
  rw [Run.outcome_onFirst_eq companion ran, Run.outcome_onFirst_eq companion ran']
  cases answered : Catalog.answer act with
  | ok a =>
    rw [(same a).mp answered]
    exact .done (twins.keeps keeps keeps')
  | error error =>
    cases answered' : Catalog.answer act' with
    | ok a => simp [(same a).mpr answered'] at answered
    | error error' => exact .failed

theorem onMemory_right {act : Run MapError (World × τ) α} {work : MapM β} {b : β}
    {next : β → Run MapError (World × τ) α} (gives : other.Gives work (.ok b))
    (rest : Mirrors catalog other act (next b)) :
    Mirrors catalog other act (Run.onFirst (World.onMemory work) >>= next) := by
  intro first second companion twins
  obtain ⟨second', keeps, ran⟩ := World.outcome_onMemory_of_ok gives twins.readyOther
  rw [Run.outcome_bind_of_ok (Run.outcome_onFirst_eq companion ran)]
  exact rest first second' companion (twins.keeps (.refl twins.ready) keeps)

theorem ask {note : StoreCall} {ask : Collections → Except StoreError α} :
    Mirrors catalog other
      (Run.onFirst (World.onStore (Store.call note fun c => return (← ask c, c))) :
        Run MapError (World × τ) α)
      (Run.onFirst (World.onStore (Store.call note fun c => return (← ask c, c)))) := by
  intro first second companion twins
  obtain ⟨first', keeps, ran⟩ := @World.outcome_onStore_ask catalog first α note ask twins.ready
  obtain ⟨second', keeps', ran'⟩ :=
    @World.outcome_onStore_ask other second α note ask twins.readyOther
  rw [twins.collections] at ran'
  rw [Run.outcome_onFirst_eq companion ran, Run.outcome_onFirst_eq companion ran']
  cases ask first.store.collections with
  | ok a => exact .done (twins.keeps keeps keeps')
  | error error => exact .failed

end Mirrors

namespace Mapper

variable {mapper mapper' : Mapper} {field field' : MappedField} {stored stored' : Value}

/-! ### Look-ups -/

theorem mirrors_remember {catalog other : Catalog} (place : Pointer) (result : Option Entity) :
    Mirrors catalog other (remember place result) (remember place result) :=
  fun _ _ _ twins => .done ⟨twins.ready, twins.readyOther, twins.collections⟩

theorem mirrors_rememberAbsent {catalog other : Catalog} (batch : Batch) (id : Value) :
    Mirrors catalog other (rememberAbsent batch id) (rememberAbsent batch id) := by
  refine .get fun _ _ cache => ?_
  split
  · exact .pure _
  · exact mirrors_remember _ _

section

variable (plain : mapper.Plain) (plain' : mapper'.Plain)
  (alike : mapper.catalog.Alike mapper'.catalog)

include plain plain' alike

theorem mirrors_fromDocument (name : ClassName) (doc : Document) :
    Mirrors mapper.catalog mapper'.catalog
      (Run.onFirst (World.onMemory (mapper.fromDocument name doc)) : ResolveM Entity)
      (Run.onFirst (World.onMemory (mapper'.fromDocument name doc))) := by
  refine .onMemory (plain.steady_fromDocument name doc) (plain'.steady_fromDocument name doc)
    fun entity => ?_
  rw [(plain.gives_fromDocument name doc).answer_eq, (plain'.gives_fromDocument name doc).answer_eq]
  exact Catalog.answer_decodeDocument_iff_of_alike alike plain.named

theorem mirrors_resolveKey (key : Key) :
    Mirrors mapper.catalog mapper'.catalog (mapper.resolveKey key) (mapper'.resolveKey key) := by
  refine .get fun _ _ cache => ?_
  dsimp only
  cases cache.get? key.pointer with
  | some result => exact .pure _
  | none =>
    refine Mirrors.ask.bind fun found => ?_
    have reads : Mirrors mapper.catalog mapper'.catalog
        (found.mapM fun doc =>
          (Run.onFirst (World.onMemory (mapper.fromDocument key.className doc)) : ResolveM Entity))
        (found.mapM fun doc =>
          Run.onFirst (World.onMemory (mapper'.fromDocument key.className doc))) := by
      cases found with
      | none => exact .pure _
      | some doc =>
        rw [Option.mapM_some, Option.mapM_some, map_eq_pure_bind, map_eq_pure_bind]
        exact (mirrors_fromDocument plain plain' alike _ _).bind fun _ => .pure _
    exact reads.bind fun _ => (mirrors_remember _ _).bind fun _ => .pure _

theorem mirrors_fetch (batch : Batch) :
    Mirrors mapper.catalog mapper'.catalog (mapper.fetch batch) (mapper'.fetch batch) := by
  refine Mirrors.ask.bind fun docs => ?_
  refine (Mirrors.forM fun doc _ => ?_).bind fun _ =>
    .forM fun id _ => mirrors_rememberAbsent batch id
  rw [rememberFound, rememberFound]
  cases Document.get? doc idField with
  | none => exact .pure _
  | some id =>
    exact (mirrors_fromDocument plain plain' alike _ _).bind fun _ => mirrors_remember _ _

end

/-! ### References -/

theorem linkTo_of_alike (alike : mapper.catalog.Alike mapper'.catalog) (same : field.Alike field') :
    mapper'.linkTo field' = mapper.linkTo field := by
  funext key found
  cases found with
  | some entity => rfl
  | none => simp only [linkTo, dangling, alike.options, same.name]

/-- Resolving does the same for values that stand for the same keys. -/
theorem mirrors_resolve (plain : mapper.Plain) (plain' : mapper'.Plain)
    (alike : mapper.catalog.Alike mapper'.catalog) (same : field.Alike field')
    (sameNull : stored'.isNull = stored.isNull)
    (sameKeys : stored.isNull = false → ∀ keys,
      Catalog.answer (mapper.catalog.keys field stored) = .ok keys ↔
        Catalog.answer (mapper'.catalog.keys field' stored') = .ok keys) :
    Mirrors mapper.catalog mapper'.catalog (mapper.resolve field stored)
      (mapper'.resolve field' stored') := by
  have links : mapper'.links field' = mapper.links field := by
    funext cache keys
    rw [Mapper.links, Mapper.links, linkTo_of_alike alike same]
  rw [resolve, resolve, sameNull]
  cases set : stored.isNull with
  | true => exact .pure _
  | false =>
    refine (Mirrors.onMemory (Catalog.steady_keys field stored)
      (Catalog.steady_keys field' stored') (sameKeys set)).bind fun keys => ?_
    rw [same.isMultiple, links, linkTo_of_alike alike same]
    split
    · refine .get fun _ _ cache => ?_
      refine (Mirrors.forM fun batch _ => mirrors_fetch plain plain' alike batch).bind fun _ => ?_
      refine .get fun _ _ cache => ?_
      exact (Mirrors.ofExcept _).bind fun _ => .pure _
    · split
      · exact .pure _
      · refine (mirrors_resolveKey plain plain' alike _).bind fun entity => ?_
        refine (Mirrors.ofExcept _).bind fun ref => ?_
        cases ref <;> exact .pure _

end Mapper

end DocMapper
