import DocMapper.Mapping.Identity

/-!
# Reference fields

What a reference field stores for the entities it links to: the bare identifier, or a pointer with
the collection. A field over many entities stores an array of these in its own order. Reading gives
keys of the class that the field is declared with; nothing is looked up.
-/

namespace DocMapper

namespace MappedField

/-- How references in the field are stored; a field that is no reference is read as one with the
usual options. -/
def pointerOptions (field : MappedField) : ReferenceOptions :=
  field.referenceOptions?.getD {}

/-- What the field stores for a document in a collection. -/
def pointerTo (field : MappedField) (collection : String) (id : Value) : Value :=
  if field.pointerOptions.idOnly then id else Pointer.toValue ⟨collection, id⟩

end MappedField

namespace Catalog

/-- What a field stores for an entity. -/
def entityPointer (catalog : Catalog) (field : MappedField) (entity : Entity) : MapM Value := do
  let target ← catalog.describe entity.className
  match ← catalog.idOf entity with
  | some id => return field.pointerTo target.collection id
  | none =>
    throw (.mapping (.targetWithoutId entity.className field.declaredBy field.name))

def referencePointer (catalog : Catalog) (field : MappedField) : Reference → MapM Value
  | .resolved entity => catalog.entityPointer field entity
  | .key key => return field.pointerTo key.collection key.id
  | .missing key => return field.pointerTo key.collection key.id

/-- Whether a property has one entity in it where the field needs many, or the reverse. -/
def shapeFault? (field : MappedField) : Property → Option MappingFault
  | .references _ | .embeddedList _ =>
    if field.isMultiple then none
    else some (.listForSingle field.declaredBy field.name field.type)
  | .reference _ | .embedded _ =>
    if field.isMultiple then some (.singleForList field.declaredBy field.name field.type) else none
  | .null | .value _ => none

/-- What a reference field stores for a property. -/
def encodeReference (catalog : Catalog) (field : MappedField) (property : Property) :
    MapM Value := do
  if let some fault := shapeFault? field property then
    throw (.mapping fault)
  match property with
  | .null => return .null
  | .reference ref => catalog.referencePointer field ref
  | .references refs => return .array (← refs.mapM (catalog.referencePointer field))
  | .embedded entity => catalog.entityPointer field entity
  | .embeddedList entities => return .array (← entities.mapM (catalog.entityPointer field))
  | .value v => throw (.mapping (.plainReference field.declaredBy field.name v.kindName))

def target (catalog : Catalog) (field : MappedField) : MapM Descriptor :=
  match field.target? with
  | some name => catalog.describe name
  | none => throw (.mapping (.noTarget field.declaredBy field.name))

/-- The key that one stored reference stands for. -/
def keyFor (field : MappedField) (target : Descriptor) (stored : Value) : Except MapError Key :=
  if field.pointerOptions.idOnly then .ok ⟨target.className, target.collection, stored⟩
  else
    match Pointer.ofValue stored with
    | .ok pointer => .ok ⟨target.className, pointer.collection, pointer.id⟩
    | .error error => .error (.pointer error)

/-- The keys that the stored value of a field stands for. -/
def keys (catalog : Catalog) (field : MappedField) (stored : Value) : MapM (List Key) := do
  let target ← catalog.target field
  if field.isMultiple then
    match stored with
    | .array items => Run.ofExcept (items.mapM (keyFor field target))
    | other => throw (.invalidDocument field.declaredBy
        (.misfit field.storedName other.kindName field.type))
  else return [← Run.ofExcept (keyFor field target stored)]

/-- The stored value of a field as references that are not resolved. -/
def decodeKeys (catalog : Catalog) (field : MappedField) (stored : Value) : MapM Property := do
  if stored.isNull then return .null
  let keys ← catalog.keys field stored
  if field.isMultiple then return .references (keys.map .key)
  else
    match keys.head? with
    | some key => return .ofKey key
    | none => return .null

end Catalog

end DocMapper
