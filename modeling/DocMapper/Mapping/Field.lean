import DocMapper.Schema.Type
import DocMapper.Store.Filter

/-!
# Mapped fields

A field together with the class that declares it and the property it is stored under. The identity
is stored as the identifier of the document, any other field under the name that an annotation gives
it or under its own.
-/

namespace DocMapper

/-- A field as it is stored. -/
structure MappedField where
  declaredBy : ClassName
  name : String
  storedName : String
  type : FieldType
  annotations : List FieldAnnotation
  isTransient : Bool
deriving DecidableEq

namespace MappedField

/-- The stored name that an annotation gives. -/
def givenName? : FieldAnnotation → Option String
  | .property stored => some stored
  | _ => none

def ofSchema (declaredBy : ClassName) (schema : FieldSchema) : MappedField where
  declaredBy
  name := schema.name
  storedName :=
    if .id ∈ schema.annotations then idField
    else (schema.annotations.findSome? givenName?).getD schema.name
  type := schema.type
  annotations := schema.annotations
  isTransient := schema.transientModifier || decide (.transient ∈ schema.annotations)

def annotation? (field : MappedField) (kind : FieldAnnotationKind) : Option FieldAnnotation :=
  field.annotations.find? (·.kind = kind)

def has (field : MappedField) (kind : FieldAnnotationKind) : Bool :=
  (field.annotation? kind).isSome

def isId (field : MappedField) : Bool := field.has .id

def isVersion (field : MappedField) : Bool := field.has .version

def isReference (field : MappedField) : Bool := field.has .reference

/-- How a reference field is stored and loaded. -/
def referenceOptions? (field : MappedField) : Option ReferenceOptions :=
  match field.annotation? .reference with
  | some (.reference options) => some options
  | _ => none

/-- Whether the field holds a list, a set or an array. -/
def isMultiple (field : MappedField) : Bool := field.type.isMultiple

/-- The class of the objects in the field, if it holds objects. -/
def target? (field : MappedField) : Option ClassName := field.type.className?

end MappedField

end DocMapper
