import DocMapper.Datastore.Resolve

/-!
# The datastore

Saving and loading entities. Every operation that names a class needs an entity class. Saving gives
an identity to an entity whose identity field takes object identifiers, and guards the version
counter: the stored version has to be the one the entity carries. Loading resolves every reference
field that is not lazy, the loads of one search sharing a cache.
-/

namespace DocMapper.Mapper

/-- The descriptor of a class whose objects have documents of their own. -/
def entityClass (mapper : Mapper) (name : ClassName) : MapM Descriptor := do
  let descriptor ← mapper.catalog.describe name
  if descriptor.isEntity then return descriptor
  else throw (.mapping (.notAnEntity name))

/-- Gives the entity at hand an identity if it has none, and gives the identity. -/
def ensureId (mapper : Mapper) (descriptor : Descriptor) : SaveM Value := do
  let some field := descriptor.idField? | throw (.mapping (.noIdField descriptor.className))
  let entity := (← get).2
  match ← (World.onMemory (mapper.catalog.idOf entity)).onFirst with
  | some id => return id
  | none =>
    if field.type = .scalar .objectId then
      let id ← World.issueId.onFirst
      modify fun state => (state.1, state.2.set field.name (.value (.id id)))
      return .id id
    else throw (.mapping (.idNotGenerated descriptor.className field.name))

def carriedVersion (field : MappedField) (entity : Entity) : Option Int64 :=
  (entity.value? field.name).bind Value.asInteger?

def storedVersion (field : MappedField) (doc : Document) : Option Int64 :=
  (Document.get? doc field.storedName).bind Value.asInteger?

/-- Puts the version of an entity back to what it carried. -/
def restoreVersion (field : MappedField) (carried : Option Int64) (entity : Entity) : Entity :=
  match carried with
  | some version => entity.set field.name (.value (.integer version))
  | none => entity.unset field.name

/-- Checks the version that the entity at hand carries against the stored one and counts it up.
Gives what takes the change back. -/
def advanceVersion (descriptor : Descriptor) (id : Value) : SaveM (Entity → Entity) := do
  match descriptor.versionField? with
  | none => return fun entity => entity
  | some field =>
    let carried := carriedVersion field (← get).2
    let found ← (World.onStore (Store.findFirst descriptor.collection (.idEq id))).onFirst
    let stored := found.bind (storedVersion field)
    if stored = carried then
      let next := carried.getD 0 + 1
      modify fun state => (state.1, state.2.set field.name (.value (.integer next)))
      return restoreVersion field carried
    else
      throw (.concurrentModification descriptor.className id (stored.getD 0) (carried.getD 0))

/-- Writes the entity at hand and gives its document. -/
def write (mapper : Mapper) (descriptor : Descriptor) : SaveM Document := do
  let doc ← World.onEntity mapper.toDocument
  (World.onStore (Store.save descriptor.collection doc)).onFirst
  return doc

/-- Saves the entity at hand and gives its key. -/
def save (mapper : Mapper) : SaveM Key := do
  let name := (← get).2.className
  let descriptor ← (World.onMemory (mapper.entityClass name)).onFirst
  let id ← mapper.ensureId descriptor
  let restore ← advanceVersion descriptor id
  let doc ← (mapper.write descriptor).onError fun state => (state.1, restore state.2)
  let _ ← World.onEntity (mapper.dispatch descriptor .postPersist doc)
  return ⟨descriptor.className, descriptor.collection, id⟩

/-- Whether loading a class resolves a field. -/
def isEager (field : MappedField) : Bool :=
  match field.referenceOptions? with
  | some options => !options.lazy
  | none => false

/-- Resolves a field of a loaded entity from its document. -/
def loadReference (mapper : Mapper) (doc : Document) (entity : Entity) (field : MappedField) :
    ResolveM Entity := do
  match Document.get? doc field.storedName with
  | some stored => return entity.set field.name (← mapper.resolve field stored)
  | none => return entity

/-- Loads a document as an object of a class, with its references resolved. -/
def loadResolved (mapper : Mapper) (requested : ClassName) (doc : Document) : ResolveM Entity := do
  let descriptor ← (World.onMemory (mapper.catalog.concreteClass requested doc)).onFirst
  let (doc, entity) ← (World.onMemory
    (Run.withCompanion (Entity.empty descriptor.className) (mapper.load descriptor doc))).onFirst
  let entity ← (descriptor.fields.filter isEager).foldlM (mapper.loadReference doc) entity
  let (_, entity) ← (World.onMemory
    (Run.withCompanion entity (mapper.dispatch descriptor .postLoad doc))).onFirst
  return entity

/-- Runs with a cache of its own. -/
def withFreshCache {α : Type} (act : ResolveM α) : WorldM α := do
  return (← Run.withCompanion ([] : EntityCache) act).1

/-- The entity at a place, if there is one. -/
def loadAt (mapper : Mapper) (name : ClassName) (collection : String) (id : Value) :
    WorldM (Option Entity) := do
  match ← World.onStore (Store.findFirst collection (.idEq id)) with
  | none => return none
  | some doc => return some (← withFreshCache (mapper.loadResolved name doc))

/-- The entity of a class with an identity, if there is one. -/
def get (mapper : Mapper) (name : ClassName) (id : Value) : WorldM (Option Entity) := do
  let descriptor ← World.onMemory (mapper.entityClass name)
  mapper.loadAt name descriptor.collection id

def getByKey (mapper : Mapper) (key : Key) : WorldM (Option Entity) :=
  mapper.loadAt key.className key.collection key.id

/-- Whether a document holds an object of a class, as far as the class name in it tells. -/
def holdsInstance (mapper : Mapper) (name : ClassName) (doc : Document) : MapM Bool := do
  match (mapper.catalog.storedClassName? doc).filter (· ≠ name) with
  | none => return true
  | some stored => return (← mapper.catalog.describe stored).isAssignableTo name

/-- Loads a document that a search found, unless it belongs to another class. -/
def loadFound (mapper : Mapper) (name : ClassName) (doc : Document) : ResolveM (Option Entity) := do
  if ← (World.onMemory (mapper.holdsInstance name doc)).onFirst then
    return some (← mapper.loadResolved name doc)
  else return none

/-- The entities of a class whose documents satisfy a filter, in the order of the store. -/
def find (mapper : Mapper) (name : ClassName) (filter : Filter) : WorldM (List Entity) := do
  let descriptor ← World.onMemory (mapper.entityClass name)
  let docs ← World.onStore (Store.find descriptor.collection filter)
  let found ← withFreshCache (docs.mapM (mapper.loadFound name))
  return found.reduceOption

def resolveField (mapper : Mapper) (entity : Entity) (name : String) : ResolveM Entity := do
  let descriptor ← (World.onMemory (mapper.catalog.describe entity.className)).onFirst
  match (descriptor.field? name).filter MappedField.isReference with
  | none => throw (.mapping (.notAReference entity.className name))
  | some field =>
    let stored ← match entity.get? name with
      | some property => (World.onMemory (mapper.catalog.encodeReference field property)).onFirst
      | none => pure .null
    return entity.set name (← mapper.resolve field stored)

def delete (mapper : Mapper) (name : ClassName) (id : Value) : WorldM Bool := do
  let descriptor ← World.onMemory (mapper.entityClass name)
  World.onStore (Store.delete descriptor.collection id)

def count (mapper : Mapper) (name : ClassName) : WorldM Nat := do
  let descriptor ← World.onMemory (mapper.entityClass name)
  World.onStore (Store.count descriptor.collection)

end DocMapper.Mapper
