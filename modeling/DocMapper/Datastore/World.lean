import DocMapper.Datastore.Cache
import DocMapper.Mapping.Conversion
import DocMapper.Store.Recorder
import DocMapper.Value.IdSeries

/-!
# What entity operations work on

The memory of the mapper, the store, and the series that new identifiers come from. Operations that
resolve references work on an entity cache beside it, operations that change an entity on the
entity.
-/

namespace DocMapper

/-- The state of a mapper over a store. -/
structure World where
  memory : Memory := {}
  store : Store := {}
  series : IdSeries := {}
  /-- How many identifiers were issued. -/
  issued : Nat := 0

abbrev WorldM (α : Type) := Run MapError World α

/-- An operation that shares what it finds through a cache. -/
abbrev ResolveM (α : Type) := Run MapError (World × EntityCache) α

/-- An operation that changes the entity at hand. -/
abbrev SaveM (α : Type) := Run MapError (World × Entity) α

namespace World

variable {α : Type}

def onMemory (act : MapM α) : WorldM α :=
  act.zoom World.memory fun world memory => { world with memory }

/-- Works on the store; its errors come through as they are. -/
def onStore (act : Run StoreError Store α) : WorldM α :=
  (act.zoom World.store fun world store => { world with store }).mapError .store

def onEntity (act : EntityM α) : SaveM α :=
  act.zoom (fun state => (state.1.memory, state.2)) fun state inner =>
    ({ state.1 with memory := inner.1 }, inner.2)

def issueId : WorldM ObjectId :=
  .ofOutcome fun world =>
    let n := world.issued + 1
    (.ok (world.series.member n), { world with issued := n })

end World

end DocMapper
