import DocMapper.Datastore.World
import DocMapper.Proofs.Discovery.Steady
import DocMapper.Proofs.Updates

/-!
# Operations on a world that is ready

A world is ready if its mapper keeps only correct descriptors and no failure awaits its store. What
an operation on the memory or on the store does there follows from what it does to the memory or the
collections alone. An operation that only looks at documents leaves a ready world ready and its
documents as they are; `Looks` says this of an operation together with what it says about results,
and is closed under every way of putting operations together.
-/

namespace DocMapper

namespace World

/-- Descriptors that are kept are correct, and no failure awaits the store. -/
structure Ready (catalog : Catalog) (world : World) : Prop where
  sound : world.memory.Sound catalog
  faultless : world.store.faults = []

/-- The second world is ready, and its documents are those of the first. -/
structure Keeps (catalog : Catalog) (before after : World) : Prop where
  ready : after.Ready catalog
  collections : after.store.collections = before.store.collections

section

variable {catalog : Catalog} {first second third : World}

theorem Keeps.refl (ready : first.Ready catalog) : Keeps catalog first first :=
  ⟨ready, rfl⟩

theorem Keeps.trans (h : Keeps catalog first second) (h' : Keeps catalog second third) :
    Keeps catalog first third :=
  ⟨h'.ready, h'.collections.trans h.collections⟩

end

variable {catalog : Catalog} {world : World} {α : Type}

theorem outcome_onMemory {act : MapM α} (steady : catalog.Steady act)
    (ready : world.Ready catalog) :
    ∃ after, Keeps catalog world after ∧
      (onMemory act).outcome world = (Catalog.answer act, after) := by
  obtain ⟨memory, learns, ran⟩ := steady.outcome ready.sound
  refine ⟨{ world with memory }, ⟨⟨learns.sound, ready.faultless⟩, rfl⟩, ?_⟩
  simp [onMemory, ran]

theorem outcome_onMemory_of_ok {act : MapM α} {a : α} (gives : catalog.Gives act (.ok a))
    (ready : world.Ready catalog) :
    ∃ after, Keeps catalog world after ∧ (onMemory act).outcome world = (.ok a, after) := by
  obtain ⟨after, keeps, ran⟩ := outcome_onMemory gives.steady ready
  rw [gives.answer_eq] at ran
  exact ⟨after, keeps, ran⟩

/-- A call that no failure awaits is answered from the collections. -/
theorem outcome_onStore_call {note : StoreCall}
    {reply : Collections → Except StoreError (α × Collections)} {result : α}
    {collections : Collections} (ready : world.Ready catalog)
    (answered : reply world.store.collections = .ok (result, collections)) :
    ∃ after, after.Ready catalog ∧ after.store.collections = collections ∧
      (onStore (Store.call note reply)).outcome world = (.ok result, after) := by
  obtain ⟨sound, faultless⟩ := ready
  refine ⟨{ world with store :=
    { collections, calls := world.store.calls ++ [note], faults := [] } }, ⟨sound, rfl⟩, rfl, ?_⟩
  simp [onStore, Store.call, faultless, answered, Except.mapError]

theorem outcome_onStore_call_error {note : StoreCall}
    {reply : Collections → Except StoreError (α × Collections)} {error : StoreError}
    (ready : world.Ready catalog) (refused : reply world.store.collections = .error error) :
    ∃ after, Keeps catalog world after ∧
      (onStore (Store.call note reply)).outcome world = (.error (.store error), after) := by
  obtain ⟨sound, faultless⟩ := ready
  refine ⟨{ world with store := { world.store with
    calls := world.store.calls ++ [note], faults := [] } }, ⟨⟨sound, rfl⟩, rfl⟩, ?_⟩
  simp [onStore, Store.call, faultless, refused, Except.mapError]

theorem outcome_onStore_ask {note : StoreCall} {ask : Collections → Except StoreError α}
    (ready : world.Ready catalog) :
    ∃ after, Keeps catalog world after ∧
      (onStore (Store.call note fun c => return (← ask c, c))).outcome world =
        ((ask world.store.collections).mapError .store, after) := by
  cases asked : ask world.store.collections with
  | error error =>
    obtain ⟨after, keeps, ran⟩ := @outcome_onStore_call_error catalog world α note
      (fun c => return (← ask c, c)) error ready (by simp [asked])
    exact ⟨after, keeps, by rw [ran]; rfl⟩
  | ok result =>
    obtain ⟨after, ready', same, ran⟩ := @outcome_onStore_call catalog world α note
      (fun c => return (← ask c, c)) result world.store.collections ready (by simp [asked])
    exact ⟨after, ⟨ready', same⟩, by rw [ran]; rfl⟩

theorem outcome_findFirst (ready : world.Ready catalog) (name : String) (filter : Filter) :
    ∃ after, Keeps catalog world after ∧ (onStore (Store.findFirst name filter)).outcome world =
      ((world.store.collections.findFirst name filter).mapError .store, after) :=
  outcome_onStore_ask ready

theorem outcome_findFirst_of_ok (ready : world.Ready catalog) {name : String} {filter : Filter}
    {found : Option Document}
    (searched : world.store.collections.findFirst name filter = .ok found) :
    ∃ after, Keeps catalog world after ∧
      (onStore (Store.findFirst name filter)).outcome world = (.ok found, after) := by
  obtain ⟨after, keeps, ran⟩ := outcome_findFirst ready name filter
  rw [searched] at ran
  exact ⟨after, keeps, ran⟩

theorem outcome_find (ready : world.Ready catalog) (name : String) (filter : Filter) :
    ∃ after, Keeps catalog world after ∧ (onStore (Store.find name filter)).outcome world =
      ((world.store.collections.find name filter).mapError .store, after) :=
  outcome_onStore_ask ready

theorem outcome_count (ready : world.Ready catalog) (name : String) :
    ∃ after, Keeps catalog world after ∧ (onStore (Store.count name)).outcome world =
      (.ok (world.store.collections.count name), after) :=
  @outcome_onStore_ask catalog world Nat _ (fun c => .ok (c.count name)) ready

end World

/-! ### Operations that only look -/

/-- From a ready world, the operation leaves the documents as they are, and a result is as said. The
world is a part of the state that the operation works on. -/
def Looks {σ α : Type} (catalog : Catalog) (world : σ → World) (act : Run MapError σ α)
    (said : α → Prop) : Prop :=
  ∀ state, (world state).Ready catalog →
    (world state).Keeps catalog (world (act.outcome state).2) ∧
      ∀ a, (act.outcome state).1 = .ok a → said a

namespace Looks

variable {σ τ α β : Type} {catalog : Catalog} {world : σ → World} {said : α → Prop}

theorem pure {a : α} (holds : said a) : Looks catalog world (Pure.pure a) said := by
  intro state ready
  refine ⟨.refl ready, ?_⟩
  rintro _ ⟨rfl⟩
  exact holds

theorem ofExcept {result : Except MapError α} (holds : ∀ a, result = .ok a → said a) :
    Looks catalog world (Run.ofExcept result) said :=
  fun _ ready => ⟨.refl ready, holds⟩

theorem get : Looks catalog world MonadState.get fun _ => True :=
  fun _ ready => ⟨.refl ready, fun _ _ => trivial⟩

theorem modify {change : σ → σ} (apart : ∀ state, world (change state) = world state) :
    Looks catalog world (modify change) fun _ => True := by
  intro state ready
  rw [Run.outcome_modify, apart]
  exact ⟨.refl ready, fun _ _ => trivial⟩

theorem bind {act : Run MapError σ α} {next : α → Run MapError σ β} {saidNext : β → Prop}
    (first : Looks catalog world act said)
    (second : ∀ a, said a → Looks catalog world (next a) saidNext) :
    Looks catalog world (act >>= next) saidNext := by
  intro state ready
  obtain ⟨keeps, holds⟩ := first state ready
  rcases ran : act.outcome state with ⟨error | a, middle⟩
  · rw [ran] at keeps
    rw [Run.outcome_bind_of_error ran]
    exact ⟨keeps, by simp⟩
  · rw [ran] at keeps holds
    rw [Run.outcome_bind_of_ok ran]
    obtain ⟨keeps', holds'⟩ := second a (holds a rfl) middle keeps.ready
    exact ⟨keeps.trans keeps', holds'⟩

theorem map {act : Run MapError σ α} {f : α → β} {saidOf : β → Prop}
    (looks : Looks catalog world act said) (holds : ∀ a, said a → saidOf (f a)) :
    Looks catalog world (f <$> act) saidOf := by
  rw [map_eq_pure_bind]
  exact looks.bind fun a said => pure (holds a said)

theorem weaken {act : Run MapError σ α} {less : α → Prop} (looks : Looks catalog world act said)
    (implies : ∀ a, said a → less a) : Looks catalog world act less := by
  intro state ready
  obtain ⟨keeps, holds⟩ := looks state ready
  exact ⟨keeps, fun a ran => implies a (holds a ran)⟩

/-- Looking at every member of a list. -/
theorem mapM {f : β → Run MapError σ α} {items : List β} {saidOf : β → α → Prop}
    (each : ∀ b ∈ items, Looks catalog world (f b) (saidOf b)) :
    Looks catalog world (items.mapM f) (List.Forall₂ saidOf items) := by
  induction items with
  | nil => exact pure .nil
  | cons b rest ih =>
    rw [List.mapM_cons]
    apply (each b List.mem_cons_self).bind
    intro a first
    refine (ih fun b' member => each b' (List.mem_cons_of_mem _ member)).bind fun as others => ?_
    exact pure (.cons first others)

theorem forM {f : β → Run MapError σ PUnit} {items : List β}
    (each : ∀ b ∈ items, Looks catalog world (f b) fun _ => True) :
    Looks catalog world (items.forM f) fun _ => True := by
  induction items with
  | nil => exact pure trivial
  | cons b rest ih =>
    apply (each b List.mem_cons_self).bind
    intro _ _
    exact ih fun b' member => each b' (List.mem_cons_of_mem _ member)

theorem foldlM_updates {γ κ ν : Type} {write : γ → κ → ν → γ} {key : β → κ}
    {f : γ → β → Run MapError σ γ} {items : List β} {start : γ} {saidOf : β → Option ν → Prop}
    (each : ∀ current, ∀ b ∈ items, Looks catalog world (f current b) fun next =>
      ∃ value, saidOf b value ∧ next = value.elim current (write current (key b))) :
    Looks catalog world (items.foldlM f start) fun result =>
      ∃ values, List.Forall₂ saidOf items values ∧
        result = applyAll write ((items.map key).zip values) start := by
  induction items generalizing start with
  | nil => exact pure ⟨[], .nil, rfl⟩
  | cons b rest ih =>
    rw [List.foldlM_cons]
    apply (each start b List.mem_cons_self).bind
    rintro _ ⟨value, first, rfl⟩
    refine (ih fun current b' member => each current b' (List.mem_cons_of_mem _ member)).weaken ?_
    rintro _ ⟨values, others, rfl⟩
    exact ⟨value :: values, .cons first others, rfl⟩

theorem onFirst {act : WorldM α} (looks : Looks catalog id act said) :
    Looks catalog Prod.fst (act.onFirst : Run MapError (World × τ) α) said := by
  intro state ready
  rw [Run.outcome_onFirst]
  exact looks state.1 ready

theorem withCompanion {act : Run MapError (World × τ) α} {companion : τ}
    (looks : Looks catalog Prod.fst act said) :
    Looks catalog id (Run.withCompanion companion act) fun result => said result.1 := by
  intro state ready
  obtain ⟨keeps, holds⟩ := looks (state, companion) ready
  refine ⟨keeps, ?_⟩
  rintro result ran
  rw [Run.outcome_withCompanion] at ran
  obtain ⟨a, isResult, rfl⟩ := Result.map_eq_ok.mp ran
  exact holds a isResult

theorem onMemory {act : MapM α} (steady : catalog.Steady act) :
    Looks catalog id (World.onMemory act) fun a => Catalog.answer act = .ok a := by
  intro state ready
  obtain ⟨after, keeps, ran⟩ := @World.outcome_onMemory catalog state α act steady ready
  rw [ran]
  exact ⟨keeps, fun _ answered => answered⟩

theorem findFirst (name : String) (filter : Filter) :
    Looks catalog id (World.onStore (Store.findFirst name filter)) fun _ => True := by
  intro state ready
  obtain ⟨after, keeps, ran⟩ := @World.outcome_findFirst catalog state ready name filter
  rw [ran]
  exact ⟨keeps, fun _ _ => trivial⟩

theorem find (name : String) (filter : Filter) :
    Looks catalog id (World.onStore (Store.find name filter)) fun _ => True := by
  intro state ready
  obtain ⟨after, keeps, ran⟩ := @World.outcome_find catalog state ready name filter
  rw [ran]
  exact ⟨keeps, fun _ _ => trivial⟩

end Looks

end DocMapper
