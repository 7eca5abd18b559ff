import DocMapper.Mapping.Field

/-!
# Class descriptors

All that mapping needs to know about a type: its fields with the inherited ones in front, the hooks
that serve its events, and the descriptors of its supertypes. A descriptor is complete in itself; a
change of the registered types does not reach it.
-/

namespace DocMapper

/-- A listener type and how its instances are made. -/
structure ListenerBinding where
  className : ClassName
  factory : ListenerFactory

/-- A method that serves events of a class, by itself or on behalf of a listener. -/
structure Handler where
  listener : Option ListenerBinding
  method : Method

/-- What mapping knows about a type. -/
structure Descriptor where
  schema : TypeSchema
  /-- Fields that are stored: inherited ones, then declared ones. -/
  fields : List MappedField
  /-- Methods in the order in which they are called. -/
  handlers : List Handler
  /-- The options of the type itself or of its superclass. -/
  entityOptions : Option EntityOptions
  embeddedOptions : Option EmbeddedOptions
  superclass : Option Descriptor
  interfaces : List Descriptor
  collection : String

namespace Descriptor

def className (descriptor : Descriptor) : ClassName := descriptor.schema.name

def idField? (descriptor : Descriptor) : Option MappedField :=
  descriptor.fields.find? MappedField.isId

def versionField? (descriptor : Descriptor) : Option MappedField :=
  descriptor.fields.find? MappedField.isVersion

/-- The field stored under a name. -/
def storedField? (descriptor : Descriptor) (stored : String) : Option MappedField :=
  descriptor.fields.find? (·.storedName = stored)

/-- The field declared with a name. -/
def field? (descriptor : Descriptor) (name : String) : Option MappedField :=
  descriptor.fields.find? (·.name = name)

def fieldsWith (descriptor : Descriptor) (kind : FieldAnnotationKind) : List MappedField :=
  descriptor.fields.filter (·.has kind)

/-- Whether the type or its superclass has documents of its own. -/
def isEntity (descriptor : Descriptor) : Bool := descriptor.entityOptions.isSome

/-- Whether the type is marked to be stored inside other documents. -/
def isEmbedded (descriptor : Descriptor) : Bool := descriptor.embeddedOptions.isSome

/-- Whether documents hold the name of their class. -/
def storesClassName (descriptor : Descriptor) : Bool :=
  match descriptor.entityOptions with
  | some options => !options.noClassName
  | none => true

/-- The methods that serve an event, in the order in which they are called. -/
def handlersFor (descriptor : Descriptor) (event : Event) : List Handler :=
  descriptor.handlers.filter (·.method.handles event)

/-- Whether a type is the superclass or one of the interfaces that the type names. -/
def isSubType (descriptor : Descriptor) (name : ClassName) : Bool :=
  descriptor.superclass.any (·.className = name) || descriptor.interfaces.any (·.className = name)

mutual

/-- Whether an object of the type can stand where a type is declared: the type itself, or one that
is reached through superclasses and interfaces. -/
def isAssignableTo (target : ClassName) : Descriptor → Bool
  | ⟨schema, _, _, _, _, superclass, interfaces, _⟩ =>
    schema.name = target || superclassAssignable target superclass ||
      someAssignable target interfaces

/-- Whether there is a superclass whose objects can stand where a type is declared. -/
def superclassAssignable (target : ClassName) : Option Descriptor → Bool
  | none => false
  | some parent => parent.isAssignableTo target

/-- Whether objects of some of the types can stand where a type is declared. -/
def someAssignable (target : ClassName) : List Descriptor → Bool
  | [] => false
  | d :: rest => d.isAssignableTo target || someAssignable target rest

end

theorem superclassAssignable_eq_true {target : ClassName} {superclass : Option Descriptor} :
    superclassAssignable target superclass = true ↔
      ∃ parent, superclass = some parent ∧ parent.isAssignableTo target = true := by
  cases superclass <;> simp [superclassAssignable]

theorem someAssignable_eq_true {target : ClassName} {interfaces : List Descriptor} :
    someAssignable target interfaces = true ↔
      ∃ d ∈ interfaces, d.isAssignableTo target = true := by
  induction interfaces with
  | nil => simp [someAssignable]
  | cons d rest ih => simp [someAssignable, ih]

end Descriptor

end DocMapper
