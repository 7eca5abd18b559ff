import DocMapper.Mapping.Memory
import DocMapper.Mapping.Options
import DocMapper.Text.LowerCase

/-!
# The catalog of mapped classes

A catalog makes descriptors from registered types. A descriptor is made the first time its class is
asked for: its supertypes are described first, the mapping rules are checked last, and only then is
it kept. A hierarchy that comes back to a type still under way is refused; since every step down the
hierarchy sees another registered type, making a descriptor always ends.
-/

namespace DocMapper

/-- Registered types and how to map them. -/
structure Catalog where
  registry : Registry
  options : Options := {}

namespace Registry

/-- The methods that a listener named by a type contributes. A type that names itself contributes
its own methods once more. -/
def listenerHandlers (registry : Registry) (schema : TypeSchema) (listener : ClassName) :
    Except MapError (List Handler) :=
  if listener = schema.name then .ok ((registry.methods schema).map (⟨none, ·⟩))
  else
    match registry.find? listener with
    | none => .error (.mapping (.listenerNotRegistered listener schema.name))
    | some described =>
      match described.factory with
      | none => .error (.mapping (.listenerWithoutFactory listener schema.name))
      | some factory => .ok ((registry.methods described).map (⟨some ⟨listener, factory⟩, ·⟩))

/-- The methods that serve the events of a type: its own, then those of its listeners. -/
def handlers (registry : Registry) (schema : TypeSchema) : Except MapError (List Handler) := do
  let contributed ← schema.listenerNames.mapM (registry.listenerHandlers schema)
  return (registry.methods schema).map (⟨none, ·⟩) ++ contributed.flatten

end Registry

namespace Catalog

/-- The collection of a type: the one its options name, or its simple name. -/
def collectionOf (catalog : Catalog) (name : ClassName) (options : Option EntityOptions) : String :=
  match options.bind EntityOptions.collection with
  | some explicit => explicit
  | none =>
    if catalog.options.lowerCaseCollections then Text.toLower name.simpleName else name.simpleName

/-- The descriptor of a type whose supertypes and handlers are known. -/
def assemble (catalog : Catalog) (schema : TypeSchema) (superclass : Option Descriptor)
    (interfaces : List Descriptor) (handlers : List Handler) : Descriptor :=
  let inherited := match superclass with
    | some parent => parent.fields
    | none => []
  let declared := (schema.fields.map (MappedField.ofSchema schema.name)).filter (!·.isTransient)
  let entityOptions := schema.entityOptions? <|> superclass.bind Descriptor.entityOptions
  { schema
    fields := inherited ++ declared
    handlers
    entityOptions
    embeddedOptions := schema.embeddedOptions?
    superclass
    interfaces
    collection := catalog.collectionOf schema.name entityOptions }

/-- Checks the mapping rules. -/
def check (catalog : Catalog) (descriptor : Descriptor) : Except MapError Descriptor :=
  match descriptor.violations catalog.registry with
  | [] => .ok descriptor
  | violations => .error (.mapping (.rulesBroken descriptor.className violations))

/-- Describes a supertype of a type; one that is unknown breaks the mapping of the type. -/
def asSupertype {α : Type} (name : ClassName) (act : MapM α) : MapM α :=
  act.mapError fun
    | .unknownClass supertype => .mapping (.supertypeNotRegistered supertype name)
    | error => error

/-- The descriptor of a type, with `describeSuper` for its supertypes. -/
def describeType (catalog : Catalog) (schema : TypeSchema)
    (describeSuper : ClassName → MapM Descriptor) : MapM Descriptor := do
  if schema.nesting = .innerMember then
    throw (.mapping (.innerType schema.name))
  let superclass ← schema.superclass.mapM fun parent =>
    asSupertype schema.name (describeSuper parent)
  let interfaces ← schema.interfaces.mapM fun interface =>
    asSupertype schema.name (describeSuper interface)
  let handlers ← Run.ofExcept (catalog.registry.handlers schema)
  Run.ofExcept (catalog.check (catalog.assemble schema superclass interfaces handlers))

/-- The descriptor of a class on behalf of the types on `path`, the nearest first. -/
def describeFrom (catalog : Catalog) (path : List ClassName) (name : ClassName) :
    MapM Descriptor := do
  match (← get).descriptor? name with
  | some descriptor => return descriptor
  | none =>
    if fresh : name ∉ path then
      match found : catalog.registry.find? name with
      | none => throw (.unknownClass name)
      | some schema => do
        have := Registry.unseen_cons_lt found fresh
        let descriptor ← catalog.describeType schema (catalog.describeFrom (name :: path))
        modify (·.publish name descriptor)
        return descriptor
    else throw (.mapping (.cyclicHierarchy (path.reverse ++ [name])))
termination_by catalog.registry.unseen path

/-- The descriptor of a class, made if it is not there yet. -/
def describe (catalog : Catalog) (name : ClassName) : MapM Descriptor :=
  catalog.describeFrom [] name

def schemaOf (catalog : Catalog) (name : ClassName) : Except MapError TypeSchema :=
  match catalog.registry.find? name with
  | some schema => .ok schema
  | none => .error (.unknownClass name)

def collectionName (catalog : Catalog) (name : ClassName) : MapM String := do
  return (← catalog.describe name).collection

end Catalog

end DocMapper
