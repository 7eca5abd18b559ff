import DocMapper.Datastore.Basic
import DocMapper.Session.Reply
import DocMapper.Session.Step

/-!
# Sessions

A session works with a mapper over a store, step by step. Entities are kept in slots and results of
look-ups in caches, both under names of the session's own. What a step did to an entity is kept even
if the step failed.
-/

namespace DocMapper

/-- The state of a session. -/
structure Session where
  registry : Registry
  options : Options := {}
  plans : List InterceptorPlan := []
  world : World := {}
  slots : List (String × Entity) := []
  caches : List (String × EntityCache) := []
  touched : Option Entity := none

abbrev SessionM (α : Type) := Run SessionError Session α

namespace Session

def mapper (session : Session) : Mapper where
  catalog := { registry := session.registry, options := session.options }
  interceptors := session.plans.map InterceptorPlan.interceptor

def entity? (session : Session) : Subject → Except SessionError Entity
  | .given entity => .ok entity
  | .slot name =>
    match session.slots.lookup name with
    | some entity => .ok entity
    | none => .error (.unknownSlot name)

/-- Puts an entity into a slot. -/
def place (session : Session) (slot : String) (entity : Entity) : Session :=
  { session with slots := Assoc.insert slot entity session.slots }

/-- Keeps what became of an entity. -/
def keep (session : Session) (subject : Subject) (entity : Entity) : Session :=
  let session := { session with touched := some entity }
  match subject with
  | .slot name => session.place name entity
  | .given _ => session

/-- The session as a step begins: nothing was called yet. -/
def begin (session : Session) : Session :=
  { session with
    touched := none
    world := { session.world with
      memory := { session.world.memory with journal := [] }
      store := session.world.store.clearCalls } }

def report (session : Session) (result : Except SessionError Reply) : Report where
  result
  entity := session.touched
  entries := session.world.memory.journal.filterMap (·.inFull? session.plans)
  lines := session.world.memory.journal.filterMap (·.inLine? session.plans)
  calls := session.world.store.calls

/-- The session with a new mapper, which may know the listener instances made so far. -/
def remap (session : Session) (options : Options) (plans : List InterceptorPlan)
    (shareListeners : Bool) : Session :=
  let memory := { session.world.memory with
    descriptors := []
    listeners := if shareListeners then session.world.memory.listeners else [] }
  { session with options, plans, world := { session.world with memory } }

def failNext (session : Session) (reason : String) : Session :=
  { session with world := { session.world with
      store := session.world.store.failNext (.unavailable reason) } }

variable {α : Type}

def onWorld (act : Mapper → WorldM α) : SessionM α :=
  .ofOutcome fun session =>
    let (result, world) := (act session.mapper).outcome session.world
    (result.mapError .failed, { session with world })

def onCatalog (act : Catalog → MapM α) : SessionM α :=
  onWorld fun mapper => World.onMemory (act mapper.catalog)

def read (subject : Subject) : SessionM Entity :=
  .ofOutcome fun session => (session.entity? subject, session)

/-- The entity that is meant, as a step works on it. -/
def take (subject : Subject) : SessionM Entity := do
  let entity ← read subject
  modify (·.keep subject entity)
  return entity

def onEntity (subject : Subject) (act : Mapper → SaveM α) : SessionM α := do
  let entity ← take subject
  Run.ofOutcome fun session =>
    let (result, world, entity) := (act session.mapper).outcome (session.world, entity)
    (result.mapError .failed, { session with world }.keep subject entity)

/-- Works with the mapper and a cache, which keeps what is found; without a name, on a new cache. -/
def onCache (cache : Option String) (act : Mapper → ResolveM α) : SessionM α :=
  .ofOutcome fun session =>
    let known := (cache.bind fun name => session.caches.lookup name).getD []
    let (result, world, known) := (act session.mapper).outcome (session.world, known)
    let caches := match cache with
      | some name => Assoc.insert name known session.caches
      | none => session.caches
    (result.mapError .failed, { session with world, caches })

def putInto (into : Option String) (entity : Entity) : SessionM Unit :=
  match into with
  | some slot => modify (·.place slot entity)
  | none => return

def field (name : ClassName) (declared : String) : SessionM (Descriptor × MappedField) := do
  let descriptor ← onCatalog (·.describe name)
  match descriptor.field? declared with
  | some field => return (descriptor, field)
  | none => throw (.unknownField name declared)

end Session

end DocMapper
