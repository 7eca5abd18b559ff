import DocMapper.Assoc
import DocMapper.Instance.Entity

/-!
# Entity caches

What was found at the places that an operation has looked up: an entity, or nothing. A place that
was never looked up has no entry.
-/

namespace DocMapper

/-- The results of look-ups, by place. -/
abbrev EntityCache := List (Pointer × Option Entity)

namespace EntityCache

def get? (cache : EntityCache) (place : Pointer) : Option (Option Entity) :=
  List.lookup place cache

def contains (cache : EntityCache) (place : Pointer) : Bool :=
  (cache.get? place).isSome

def entity? (cache : EntityCache) (place : Pointer) : Option Entity :=
  (cache.get? place).join

def insert (cache : EntityCache) (place : Pointer) (result : Option Entity) : EntityCache :=
  Assoc.insert place result cache

def size (cache : EntityCache) : Nat :=
  List.length cache

@[simp] theorem get?_insert_self (cache : EntityCache) (place : Pointer) (result : Option Entity) :
    (cache.insert place result).get? place = some result :=
  Assoc.lookup_insert_self place result cache

theorem get?_insert_of_ne (cache : EntityCache) {place other : Pointer} (h : other ≠ place)
    (result : Option Entity) : (cache.insert place result).get? other = cache.get? other :=
  Assoc.lookup_insert_of_ne h result cache

end EntityCache

end DocMapper
