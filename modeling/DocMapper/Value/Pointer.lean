import DocMapper.Value.Document

/-!
# Pointers

A pointer names a document by its collection and its identifier. In a document it takes the form of
a document with the entries `$ref` and `$id`, in this order. Parsing gives back every pointer that
was written; other entries beside the two do no harm.
-/

namespace DocMapper

/-- The place of a document: a collection and an identifier in it. -/
structure Pointer where
  collection : String
  id : Value
deriving DecidableEq

inductive PointerError where
  | notADocument (kind : String)
  | missingCollection
  | missingId
deriving DecidableEq

def PointerError.message : PointerError → String
  | .notADocument kind => "invalid DBRef: expected document, got " ++ kind
  | .missingCollection => "invalid DBRef: missing $ref"
  | .missingId => "invalid DBRef: missing $id"

namespace Pointer

def collectionKey : String := "$ref"

def idKey : String := "$id"

def toValue (pointer : Pointer) : Value :=
  .document [(collectionKey, .text pointer.collection), (idKey, pointer.id)]

def ofValue (value : Value) : Except PointerError Pointer := do
  let some doc := value.asDocument? | throw (.notADocument value.kindName)
  let some collection := (Document.get? doc collectionKey).bind Value.asText?
    | throw .missingCollection
  let some id := Document.get? doc idKey | throw .missingId
  return ⟨collection, id⟩

/-- Whether a value has both entries of a pointer. -/
def isPointer (value : Value) : Bool :=
  match value.asDocument? with
  | some doc => Document.contains doc collectionKey && Document.contains doc idKey
  | none => false

@[simp] theorem ofValue_toValue (pointer : Pointer) : ofValue pointer.toValue = .ok pointer := rfl

end Pointer

end DocMapper
