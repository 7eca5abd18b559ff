import DocMapper.Run
import DocMapper.Store.Collections

/-!
# Recording store

A store that notes every call and can be told to fail the next ones. A call that is made to fail is
noted as well, and reaches no collection.
-/

namespace DocMapper

inductive StoreCall where
  | find (collection : String) (filter : Filter)
  | findFirst (collection : String) (filter : Filter)
  | save (collection : String) (id : Value)
  | delete (collection : String) (id : Value)
  | count (collection : String)
deriving DecidableEq

/-- Collections, the calls made so far, and what awaits the next calls: a failure or none, call by
call. -/
structure Store where
  collections : Collections := []
  calls : List StoreCall := []
  faults : List (Option StoreError) := []

namespace Store

def failNext (store : Store) (error : StoreError) : Store :=
  { store with faults := some error :: store.faults.tail }

def clearCalls (store : Store) : Store :=
  { store with calls := [] }

/-- Notes a call, and answers it from the collections unless a failure awaits it. The answer goes
with the collections as they are afterwards. -/
def call {α : Type} (note : StoreCall)
    (answer : Collections → Except StoreError (α × Collections)) : Run StoreError Store α :=
  .ofOutcome fun store =>
    let noted := { store with calls := store.calls ++ [note], faults := store.faults.tail }
    match store.faults.head?.join with
    | some error => (.error error, noted)
    | none =>
      match answer store.collections with
      | .ok (result, collections) => (.ok result, { noted with collections })
      | .error error => (.error error, noted)

def find (collection : String) (filter : Filter) : Run StoreError Store (List Document) :=
  call (.find collection filter) fun c => return (← c.find collection filter, c)

def findFirst (collection : String) (filter : Filter) : Run StoreError Store (Option Document) :=
  call (.findFirst collection filter) fun c => return (← c.findFirst collection filter, c)

def save (collection : String) (doc : Document) : Run StoreError Store Unit :=
  call (.save collection ((Document.get? doc idField).getD .null)) fun c =>
    return ((), ← c.save collection doc)

def delete (collection : String) (id : Value) : Run StoreError Store Bool :=
  call (.delete collection id) fun c => .ok (c.delete collection id)

def count (collection : String) : Run StoreError Store Nat :=
  call (.count collection) fun c => .ok (c.count collection, c)

end Store

end DocMapper
