import DocMapper.Cbor.Reader
import DocMapper.Cbor.Writer
import DocMapper.Store.Filter

/-!
# Collections of documents

Named collections that hold documents in their byte form, each under its identifier. A document is
read anew from its bytes on every access, so a document that cannot be read makes every search of
its collection fail. Saving replaces the document with the same identifier where it stands.
-/

namespace DocMapper

/-- Why a store refused. -/
inductive StoreError where
  | undecodable
  | missingId (collection : String)
  /-- The store cannot serve requests. -/
  | unavailable (reason : String)
deriving DecidableEq

/-- The wording of the error; the contents of an unreadable document have none. -/
def StoreError.message? : StoreError → Option String
  | .undecodable => none
  | .missingId collection => some ("document saved to " ++ collection ++ " has no _id")
  | .unavailable reason => some ("store unavailable: " ++ reason)

/-- A document at rest: its identifier and its byte form. -/
structure StoredDocument where
  id : Value
  bytes : List UInt8
deriving DecidableEq

namespace StoredDocument

/-- The document in its readable form. -/
def load (stored : StoredDocument) : Except StoreError Document :=
  match Cbor.read? stored.bytes with
  | some doc => .ok doc
  | none => .error .undecodable

end StoredDocument

/-- Collections by name, each in the order in which its documents arrived. -/
abbrev Collections := List (String × List StoredDocument)

namespace Collections

/-- The documents of a collection; a collection nobody saved to has none. -/
def documents (collections : Collections) (name : String) : List StoredDocument :=
  (List.lookup name collections).getD []

def find (collections : Collections) (name : String) (filter : Filter) :
    Except StoreError (List Document) := do
  let docs ← (collections.documents name).mapM StoredDocument.load
  return docs.filter (filter.accepts ·)

def findFirst (collections : Collections) (name : String) (filter : Filter) :
    Except StoreError (Option Document) := do
  return (← collections.find name filter).head?

/-- Puts a document in place of the one with the same identifier, or behind all others. -/
def put (stored : StoredDocument) : List StoredDocument → List StoredDocument
  | [] => [stored]
  | other :: rest => if other.id = stored.id then stored :: rest else other :: put stored rest

/-- The identifier under which a document can be saved. -/
def idOf? (doc : Document) : Option Value :=
  (Document.get? doc idField).filter (!·.isNull)

/-- Saves a document under its identifier. -/
def save (collections : Collections) (name : String) (doc : Document) :
    Except StoreError Collections :=
  match idOf? doc with
  | none => .error (.missingId name)
  | some id =>
    .ok (Assoc.insert name (put ⟨id, Cbor.write doc⟩ (collections.documents name)) collections)

def delete (collections : Collections) (name : String) (id : Value) : Bool × Collections :=
  let docs := collections.documents name
  let kept := docs.filter (·.id != id)
  (kept.length < docs.length,
    if docs.isEmpty then collections else Assoc.insert name kept collections)

def count (collections : Collections) (name : String) : Nat :=
  (collections.documents name).length

def clear (_ : Collections) : Collections :=
  []

/-- The names of the collections that hold documents, in order. -/
def names (collections : Collections) : List String :=
  ((collections.filter fun (_, docs) => !docs.isEmpty).map Prod.fst).mergeSort fun a b =>
    decide (a ≤ b)

end Collections

end DocMapper
