import DocMapper.Datastore.World

/-!
# Resolving references

Loading the entities that a reference field points at. A single reference costs at most one
look-up, an array at most one for each collection: the places that are not in the cache yet are
gathered first and asked for together. Entities that come in this way keep their own references as
keys. A place without a document is dealt with as the options say.
-/

namespace DocMapper

/-- Places of one collection that are looked up together. -/
structure Batch where
  collection : String
  /-- The class that the documents are read as. -/
  className : ClassName
  ids : List Value
deriving DecidableEq

namespace Batch

/-- Adds a key to the batch of its collection, or behind all batches. -/
def add : List Batch → Key → List Batch
  | [], key => [⟨key.collection, key.className, [key.id]⟩]
  | batch :: rest, key =>
    if batch.collection = key.collection then { batch with ids := batch.ids ++ [key.id] } :: rest
    else batch :: add rest key

end Batch

namespace EntityCache

/-- The first key for every place that was not looked up, in order. -/
def unknown (cache : EntityCache) (seen : List Pointer) : List Key → List Key
  | [] => []
  | key :: rest =>
    if cache.contains key.pointer || decide (key.pointer ∈ seen) then cache.unknown seen rest
    else key :: cache.unknown (key.pointer :: seen) rest

def batches (cache : EntityCache) (keys : List Key) : List Batch :=
  (cache.unknown [] keys).foldl Batch.add []

end EntityCache

namespace Mapper

def remember (place : Pointer) (result : Option Entity) : ResolveM Unit :=
  modify fun state => (state.1, state.2.insert place result)

/-- The entity at the place of a key, looked up if it is not known. -/
def resolveKey (mapper : Mapper) (key : Key) : ResolveM (Option Entity) := do
  match (← get).2.get? key.pointer with
  | some result => return result
  | none =>
    let found ← (World.onStore (Store.findFirst key.collection (.idEq key.id))).onFirst
    let result ← found.mapM fun doc =>
      (World.onMemory (mapper.fromDocument key.className doc)).onFirst
    remember key.pointer result
    return result

/-- Reads a document that a look-up found, and notes it under its identifier. -/
def rememberFound (mapper : Mapper) (batch : Batch) (doc : Document) : ResolveM Unit := do
  match Document.get? doc idField with
  | none => return
  | some id =>
    let entity ← (World.onMemory (mapper.fromDocument batch.className doc)).onFirst
    remember ⟨batch.collection, id⟩ (some entity)

/-- Notes that nothing was found at a place, unless something was. -/
def rememberAbsent (batch : Batch) (id : Value) : ResolveM Unit := do
  unless (← get).2.contains ⟨batch.collection, id⟩ do
    remember ⟨batch.collection, id⟩ none

def fetch (mapper : Mapper) (batch : Batch) : ResolveM Unit := do
  let docs ← (World.onStore (Store.find batch.collection (.idIn batch.ids))).onFirst
  docs.forM (mapper.rememberFound batch)
  batch.ids.forM (rememberAbsent batch)

/-- What becomes of a key without a document. -/
def dangling (mapper : Mapper) (field : MappedField) (key : Key) :
    Except MapError (Option Reference) :=
  match mapper.catalog.options.dangling with
  | .keep => .ok (some (.missing key))
  | .drop => .ok none
  | .fail => .error (.dangling field.name key.collection key.id)

/-- The reference that a key becomes when its place is looked up. -/
def linkTo (mapper : Mapper) (field : MappedField) (key : Key) :
    Option Entity → Except MapError (Option Reference)
  | some entity => .ok (some (.resolved entity))
  | none => mapper.dangling field key

/-- The references that keys become once their places are known. -/
def links (mapper : Mapper) (field : MappedField) (cache : EntityCache) (keys : List Key) :
    Except MapError (List Reference) := do
  let refs ← keys.mapM fun key => mapper.linkTo field key (cache.entity? key.pointer)
  return refs.reduceOption

/-- The stored value of a field with its references resolved. -/
def resolve (mapper : Mapper) (field : MappedField) (stored : Value) : ResolveM Property := do
  if stored.isNull then return .null
  let keys ← (World.onMemory (mapper.catalog.keys field stored)).onFirst
  if field.isMultiple then
    (← get).2.batches keys |>.forM mapper.fetch
    let refs ← Run.ofExcept (mapper.links field (← get).2 keys)
    return .references refs
  else
    match keys.head? with
    | none => return .null
    | some key =>
      let entity ← mapper.resolveKey key
      match ← Run.ofExcept (mapper.linkTo field key entity) with
      | some ref => return .reference ref
      | none => return .null

end Mapper

end DocMapper
