import DocMapper.Mapping.ReferenceField

/-!
# Documents as entities

A document is read as the class whose name it holds, if that class can stand for the one asked for.
Fields are read in the order of the class descriptor; properties of the document that are stored
under no field are passed over. Reference fields become keys.

`valueDecoders` turns every entry of a document into the decoder of its value, so that the recursion
follows the document while the order of the work follows the descriptor.
-/

namespace DocMapper

/-- Reads a value as a plain field of a class. -/
abbrev ValueDecoder := Descriptor → MappedField → MapM Property

namespace Catalog

def storedClassName? (catalog : Catalog) (doc : Document) : Option ClassName :=
  ((Document.get? doc catalog.options.classNameKey).bind Value.asText?).map ClassName.mk

/-- The class that a document is read as. -/
def concreteClass (catalog : Catalog) (requested : ClassName) (doc : Document) :
    MapM Descriptor := do
  match (catalog.storedClassName? doc).filter (· ≠ requested) with
  | none => catalog.describe requested
  | some stored =>
    let descriptor ← catalog.describe stored
    if descriptor.isAssignableTo requested then return descriptor
    else throw (.invalidDocument requested (.notAssignable stored requested))

/-- The property that a stored value of a field is read as. -/
def readProperty (catalog : Catalog) (descriptor : Descriptor) (field : MappedField)
    (stored : Value) (decode : ValueDecoder) : MapM Property :=
  if stored.isNull then pure .null
  else if field.isReference then catalog.decodeKeys field stored
  else decode descriptor field

def readField (catalog : Catalog) (descriptor : Descriptor) (doc : Document)
    (decoders : List (String × ValueDecoder)) (entity : Entity) (field : MappedField) :
    MapM Entity := do
  match Document.get? doc field.storedName, decoders.lookup field.storedName with
  | some stored, some decode =>
    return entity.set field.name (← catalog.readProperty descriptor field stored decode)
  | _, _ => return entity

/-- Reads a document into an entity of a class, by the decoders of its entries. -/
def readEntity (catalog : Catalog) (descriptor : Descriptor) (doc : Document)
    (decoders : List (String × ValueDecoder)) (entity : Entity) : MapM Entity :=
  descriptor.fields.foldlM (catalog.readField descriptor doc decoders) entity

/-- Reads a document as an object of a class, by the decoders of its entries. -/
def readObject (catalog : Catalog) (requested : ClassName) (doc : Document)
    (decoders : List (String × ValueDecoder)) : MapM Entity := do
  let descriptor ← catalog.concreteClass requested doc
  catalog.readEntity descriptor doc decoders (.empty descriptor.className)

/-- Reads a value as it stands, if the type of the field allows it. -/
def readPlain (value : Value) : ValueDecoder := fun descriptor field =>
  if field.type.fits value then return .value value
  else throw (.invalidDocument descriptor.className
    (.misfit field.storedName value.kindName field.type))

mutual

def decodeValue (catalog : Catalog) : Value → ValueDecoder
  | .document entries => fun descriptor field =>
    match field.type with
    | .object target =>
      return .embedded (← catalog.readObject target entries (valueDecoders catalog entries))
    | _ => readPlain (.document entries) descriptor field
  | .array items => fun descriptor field =>
    match field.isMultiple, field.target? with
    | true, some target => do
      let fault := MapError.invalidDocument descriptor.className
        (.misfit field.storedName (Value.array items).kindName field.type)
      return .embeddedList (← decodeObjects catalog target fault items)
    | _, _ => readPlain (.array items) descriptor field
  | .null => readPlain .null
  | .bool b => readPlain (.bool b)
  | .integer n => readPlain (.integer n)
  | .text s => readPlain (.text s)
  | .bytes bs => readPlain (.bytes bs)
  | .id oid => readPlain (.id oid)

/-- The objects that the items of an array stand for; an item that is no document is a fault. -/
def decodeObjects (catalog : Catalog) (target : ClassName) (fault : MapError) :
    List Value → MapM (List Entity)
  | [] => return []
  | .document entries :: rest => do
    let entity ← catalog.readObject target entries (valueDecoders catalog entries)
    return entity :: (← decodeObjects catalog target fault rest)
  | _ :: _ => throw fault

/-- The decoders of the entries of a document, under their keys. -/
def valueDecoders (catalog : Catalog) : List (String × Value) → List (String × ValueDecoder)
  | [] => []
  | (key, value) :: rest => (key, decodeValue catalog value) :: valueDecoders catalog rest

end

def decodeInto (catalog : Catalog) (descriptor : Descriptor) (entity : Entity) (doc : Document) :
    MapM Entity :=
  catalog.readEntity descriptor doc (catalog.valueDecoders doc) entity

/-- Reads a document as an object of a class. No hook runs. -/
def decodeDocument (catalog : Catalog) (requested : ClassName) (doc : Document) : MapM Entity := do
  let descriptor ← catalog.concreteClass requested doc
  catalog.decodeInto descriptor (.empty descriptor.className) doc

/-- The decoder under a key is the one of the value under that key. -/
theorem lookup_valueDecoders (catalog : Catalog) (doc : Document) (key : String) :
    (catalog.valueDecoders doc).lookup key = (Document.get? doc key).map catalog.decodeValue := by
  induction doc with
  | nil => rfl
  | cons entry rest ih =>
    obtain ⟨k, value⟩ := entry
    simp only [Document.get?] at ih ⊢
    by_cases h : key == k <;> simp [valueDecoders, List.lookup_cons, h, ih]

end Catalog

end DocMapper
