import DocMapper.Assoc
import DocMapper.Value.Basic

/-!
# Documents

Reading and changing the entries of a document. Inserting under a present key replaces the value
where it stands, a new key goes last, and the first of several entries with one key is the one that
is read, replaced and removed.
-/

namespace DocMapper.Document

def get? (doc : Document) (key : String) : Option Value :=
  List.lookup key doc

def insert (doc : Document) (key : String) (value : Value) : Document :=
  Assoc.insert key value doc

def erase (doc : Document) (key : String) : Document :=
  Assoc.erase key doc

/-- Sets the value under a key, and gives the one that was there. -/
def put (doc : Document) (key : String) (value : Value) : Option Value × Document :=
  (get? doc key, insert doc key value)

/-- Removes the value under a key, and gives it. -/
def take (doc : Document) (key : String) : Option Value × Document :=
  (get? doc key, erase doc key)

def contains (doc : Document) (key : String) : Bool :=
  (get? doc key).isSome

def keys (doc : Document) : List String :=
  List.map Prod.fst doc

def size (doc : Document) : Nat :=
  List.length doc

/-- The document made by inserting the entries one by one. -/
def ofEntries (entries : List (String × Value)) : Document :=
  entries.foldl (fun doc (key, value) => insert doc key value) []

@[simp] theorem get?_nil (key : String) : get? [] key = none := rfl

@[simp] theorem get?_insert_self (doc : Document) (key : String) (value : Value) :
    get? (insert doc key value) key = some value :=
  Assoc.lookup_insert_self key value doc

theorem get?_insert_of_ne (doc : Document) {key other : String} (h : other ≠ key) (value : Value) :
    get? (insert doc key value) other = get? doc other :=
  Assoc.lookup_insert_of_ne h value doc

theorem get?_erase_of_ne (doc : Document) {key other : String} (h : other ≠ key) :
    get? (erase doc key) other = get? doc other :=
  Assoc.lookup_erase_of_ne h doc

end DocMapper.Document
