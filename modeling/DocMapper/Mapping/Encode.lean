import DocMapper.Mapping.ReferenceField

/-!
# Entities as documents

The document of an entity holds its identity, the name of its class and its fields in the order of
the class descriptor. Null fields and empty arrays are left out unless the options keep them, and
properties that are no fields of the class are passed over. Embedded objects become documents inside
the document.

`propertyEncoders` turns every property into the encoder of its value, so that the recursion follows
the entity while the order of the work follows the descriptor.
-/

namespace DocMapper

/-- Writes the value of a property for the plain field it is found in. -/
abbrev PropertyEncoder := MappedField → MapM Value

namespace Options

/-- Whether the value of a field is written. -/
def keeps (options : Options) : Value → Bool
  | .null => options.storeNulls
  | .array [] => options.storeEmpties
  | _ => true

end Options

namespace Catalog

/-- Writes the entries that identify an entity: its identity and the name of its class. -/
def writeIdentity (catalog : Catalog) (descriptor : Descriptor) (entity : Entity) (doc : Document) :
    Document :=
  let doc := match descriptor.idValue? entity with
    | some id => Document.insert doc idField id
    | none => doc
  if descriptor.storesClassName then
    Document.insert doc catalog.options.classNameKey (.text descriptor.className.text)
  else doc

/-- The value that a field of an entity is written as. -/
def fieldValue (catalog : Catalog) (entity : Entity) (encoders : List (String × PropertyEncoder))
    (field : MappedField) : MapM Value :=
  if field.isReference then catalog.encodeReference field ((entity.get? field.name).getD .null)
  else
    match encoders.lookup field.name with
    | some encode => encode field
    | none => pure .null

def writeField (catalog : Catalog) (entity : Entity) (encoders : List (String × PropertyEncoder))
    (doc : Document) (field : MappedField) : MapM Document := do
  let value ← catalog.fieldValue entity encoders field
  return if catalog.options.keeps value then Document.insert doc field.storedName value else doc

/-- Writes an entity of a class into a document, by the encoders of its properties. -/
def writeEntity (catalog : Catalog) (descriptor : Descriptor) (entity : Entity)
    (encoders : List (String × PropertyEncoder)) (doc : Document) : MapM Document :=
  (descriptor.fields.filter (!·.isId)).foldlM (catalog.writeField entity encoders)
    (catalog.writeIdentity descriptor entity doc)

mutual

def encodeEmbedded (catalog : Catalog) : Entity → MapM Value
  | .mk className properties => do
    let encoders := propertyEncoders catalog properties
    let descriptor ← catalog.describe className
    return .document (← catalog.writeEntity descriptor (.mk className properties) encoders [])

def encodeEmbeddedList (catalog : Catalog) : List Entity → MapM (List Value)
  | [] => return []
  | entity :: rest => do
    let value ← encodeEmbedded catalog entity
    return value :: (← encodeEmbeddedList catalog rest)

/-- The value of a property in a plain field. -/
def encodeProperty (catalog : Catalog) : Property → PropertyEncoder
  | .null, _ => return .null
  | .value v, field =>
    if v.isNull || field.type.fits v then return v
    else throw (.mapping (.misfit field.declaredBy field.name v.kindName field.type))
  | .embedded entity, _ => encodeEmbedded catalog entity
  | .embeddedList entities, _ => return .array (← encodeEmbeddedList catalog entities)
  | .reference _, field => throw (.mapping (.strayReference field.declaredBy field.name))
  | .references _, field => throw (.mapping (.strayReference field.declaredBy field.name))

/-- The encoders of properties, under their names. -/
def propertyEncoders (catalog : Catalog) :
    List (String × Property) → List (String × PropertyEncoder)
  | [] => []
  | (name, property) :: rest =>
    (name, encodeProperty catalog property) :: propertyEncoders catalog rest

end

def encodeInto (catalog : Catalog) (descriptor : Descriptor) (entity : Entity) (doc : Document) :
    MapM Document :=
  catalog.writeEntity descriptor entity (catalog.propertyEncoders entity.properties) doc

/-- The encoder under a name is the one of the property under that name. -/
theorem lookup_propertyEncoders (catalog : Catalog) (properties : List (String × Property))
    (name : String) :
    (catalog.propertyEncoders properties).lookup name =
      (properties.lookup name).map catalog.encodeProperty := by
  induction properties with
  | nil => rfl
  | cons entry rest ih =>
    obtain ⟨key, property⟩ := entry
    by_cases h : name == key <;> simp [propertyEncoders, List.lookup_cons, h, ih]

end Catalog

end DocMapper
