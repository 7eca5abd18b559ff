import DocMapper.Assoc
import DocMapper.Instance.Key

/-!
# Entities

A mapped object is a class name with properties under the declared names of its fields. A property
holds a plain value, embedded objects or references to stored objects; a reference is resolved to
the object, or is still a key, or is known to lead nowhere.
-/

namespace DocMapper

mutual

/-- A mapped object: its class, and its properties in the order of their names. -/
inductive Entity where
  | mk (className : ClassName) (properties : List (String × Property))

/-- What an entity holds under the name of a field. -/
inductive Property where
  | null
  | value (v : Value)
  | embedded (entity : Entity)
  | embeddedList (entities : List Entity)
  | reference (ref : Reference)
  | references (refs : List Reference)

/-- A link to a stored entity. -/
inductive Reference where
  | resolved (entity : Entity)
  | key (key : Key)
  /-- Nothing is stored under the key. -/
  | missing (key : Key)

end

instance : Inhabited Entity := ⟨.mk ⟨""⟩ []⟩

instance : Inhabited Property := ⟨.null⟩

namespace Reference

def entity? : Reference → Option Entity
  | .resolved entity => some entity
  | _ => none

def key? : Reference → Option Key
  | .resolved _ => none
  | .key k | .missing k => some k

/-- Whether the reference is known to lead nowhere. -/
def isMissing : Reference → Bool
  | .missing _ => true
  | _ => false

end Reference

namespace Property

/-- Whether the property holds nothing: no value, or null. -/
def isNull : Property → Bool
  | .null => true
  | .value v => v.isNull
  | _ => false

def asValue? : Property → Option Value
  | .value v => some v
  | _ => none

def asEmbedded? : Property → Option Entity
  | .embedded entity => some entity
  | _ => none

def asReference? : Property → Option Reference
  | .reference ref => some ref
  | _ => none

def asReferences? : Property → Option (List Reference)
  | .references refs => some refs
  | _ => none

def ofInt32 (n : Int32) : Property := .value (Value.ofInt32 n)

def ofUInt32 (n : UInt32) : Property := .value (Value.ofUInt32 n)

/-- The property that holds the referenced entity's key. -/
def ofKey (key : Key) : Property :=
  .reference (.key key)

end Property

namespace Entity

def className : Entity → ClassName
  | .mk className _ => className

def properties : Entity → List (String × Property)
  | .mk _ properties => properties

def empty (className : ClassName) : Entity :=
  .mk className []

def get? (entity : Entity) (field : String) : Option Property :=
  entity.properties.lookup field

def value? (entity : Entity) (field : String) : Option Value :=
  (entity.get? field).bind Property.asValue?

def set (entity : Entity) (field : String) (property : Property) : Entity :=
  .mk entity.className
    (Assoc.insertSorted (fun a b => decide (a < b)) field property entity.properties)

def unset (entity : Entity) (field : String) : Entity :=
  .mk entity.className (entity.properties.filter (·.1 != field))

/-- The entity with the given properties, set one by one. -/
def ofProperties (className : ClassName) (properties : List (String × Property)) : Entity :=
  properties.foldl (fun entity (field, property) => entity.set field property) (empty className)

@[simp] theorem className_set (entity : Entity) (field : String) (property : Property) :
    (entity.set field property).className = entity.className := rfl

@[simp] theorem className_unset (entity : Entity) (field : String) :
    (entity.unset field).className = entity.className := rfl

@[simp] theorem get?_empty (className : ClassName) (field : String) :
    (empty className).get? field = none := rfl

@[simp] theorem get?_set_self (entity : Entity) (field : String) (property : Property) :
    (entity.set field property).get? field = some property :=
  Assoc.lookup_insertSorted_self _ field property entity.properties

theorem get?_set_of_ne (entity : Entity) {field other : String} (h : other ≠ field)
    (property : Property) : (entity.set field property).get? other = entity.get? other :=
  Assoc.lookup_insertSorted_of_ne _ h property entity.properties

@[simp] theorem get?_unset_self (entity : Entity) (field : String) :
    (entity.unset field).get? field = none :=
  Assoc.lookup_filter_ne_self field entity.properties

theorem get?_unset_of_ne (entity : Entity) {field other : String} (h : other ≠ field) :
    (entity.unset field).get? other = entity.get? other :=
  Assoc.lookup_filter_ne_of_ne h entity.properties

end Entity

end DocMapper
