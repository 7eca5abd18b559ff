import DocMapper.Datastore.World
import DocMapper.Proofs.Ending

/-!
# How the steps of an operation end

An operation works on the memory of the mapper and on the entity at hand, and calls the store. A
call is noted in any case. It meets the failure that awaits it, and if none does it is answered from
the collections as they are.
-/

namespace DocMapper.World

variable {α : Type} {world : World} {entity : Entity} {note : StoreCall}

theorem ends_onMemory {act : MapM α} {good : α → World → Prop} {bad : MapError → World → Prop} :
    (onMemory act).Ends world good bad ↔
      act.Ends world.memory (fun a memory => good a { world with memory })
        fun error memory => bad error { world with memory } :=
  Run.ends_zoom

theorem ends_onEntity {act : EntityM α} {good : α → World × Entity → Prop}
    {bad : MapError → World × Entity → Prop} :
    (onEntity act).Ends (world, entity) good bad ↔
      act.Ends (world.memory, entity)
        (fun a after => good a ({ world with memory := after.1 }, after.2))
        fun error after => bad error ({ world with memory := after.1 }, after.2) :=
  Run.ends_zoom

/-- A call either is answered, or fails and leaves the collections as they are. -/
theorem ends_call {reply : Collections → Except StoreError (α × Collections)}
    {good : α → World → Prop} {bad : MapError → World → Prop}
    (answered : ∀ a collections, world.store.faults.head?.join = none →
      reply world.store.collections = .ok (a, collections) →
        good a { world with store := { collections
                                       calls := world.store.calls ++ [note]
                                       faults := world.store.faults.tail } })
    (refused : ∀ error,
      world.store.faults.head?.join = some error ∨ world.store.faults.head?.join = none ∧
        reply world.store.collections = .error error →
        bad (.store error) { world with store := { world.store with
          calls := world.store.calls ++ [note], faults := world.store.faults.tail } }) :
    (onStore (Store.call note reply)).Ends world good bad := by
  rw [onStore, Run.ends_mapError, Run.ends_zoom, Run.Ends, Store.call, Run.outcome_ofOutcome]
  cases awaits : world.store.faults.head?.join with
  | some error => exact refused error (.inl awaits)
  | none =>
    cases replied : reply world.store.collections with
    | error error => exact refused error (.inr ⟨awaits, replied⟩)
    | ok answer => exact answered answer.1 answer.2 awaits replied

theorem ends_ask {question : Collections → Except StoreError α} :
    (onStore (Store.call note fun collections =>
        return (← question collections, collections))).Ends world
      (fun a after => question world.store.collections = .ok a ∧ after.memory = world.memory ∧
        after.store.calls = world.store.calls ++ [note])
      fun _ after => after.memory = world.memory ∧
        after.store.calls = world.store.calls ++ [note] := by
  refine ends_call (fun a collections _ replied => ?_) fun _ _ => ⟨rfl, rfl⟩
  obtain ⟨answer, asked, same⟩ := Result.bind_eq_ok.mp replied
  cases same
  exact ⟨asked, rfl, rfl⟩

end DocMapper.World
