/-!
# Lifecycle events

The points in the life of an entity at which hooks run.
-/

namespace DocMapper

/-- A point in the life of an entity. -/
inductive Event where
  /-- Before the entity is encoded. -/
  | prePersist
  /-- After encoding, before the document is written. -/
  | preSave
  /-- Before a document is decoded into the entity. -/
  | preLoad
  /-- After the document was written. -/
  | postPersist
  /-- After the entity was decoded. -/
  | postLoad
deriving DecidableEq

namespace Event

def all : List Event := [.prePersist, .preSave, .preLoad, .postPersist, .postLoad]

def name : Event → String
  | .prePersist => "PrePersist"
  | .preSave => "PreSave"
  | .preLoad => "PreLoad"
  | .postPersist => "PostPersist"
  | .postLoad => "PostLoad"

def description (event : Event) : String :=
  "@" ++ event.name

end Event

end DocMapper
