import DocMapper.Schema.ClassName
import DocMapper.Value.Basic

/-!
# Annotations

Marks on types and on fields. An annotation may be repeated; which one counts is decided where it is
used, by its kind.
-/

namespace DocMapper

structure EntityOptions where
  /-- The collection of the type; the simple class name stands in for it. -/
  collection : Option String := none
  /-- The class name is left out of the documents. -/
  noClassName : Bool := false
deriving DecidableEq

structure EmbeddedOptions where
  /-- The preferred name as a field. -/
  name : Option String := none
deriving DecidableEq

inductive TypeAnnotation where
  /-- Its objects have documents of their own. -/
  | entity (options : EntityOptions)
  /-- Its objects are stored inside the document of their owner. -/
  | embedded (options : EmbeddedOptions)
  /-- Other types that receive its lifecycle events. -/
  | listeners (classes : List ClassName)
  | custom (name : String) (value : Value)
deriving DecidableEq

inductive TypeAnnotationKind where
  | entity
  | embedded
  | listeners
  | custom (name : String)
deriving DecidableEq

def TypeAnnotation.kind : TypeAnnotation → TypeAnnotationKind
  | .entity _ => .entity
  | .embedded _ => .embedded
  | .listeners _ => .listeners
  | .custom name _ => .custom name

structure ReferenceOptions where
  /-- The bare identifier is stored in place of a pointer. -/
  idOnly : Bool := false
  /-- Loading leaves the reference a key. -/
  lazy : Bool := false
deriving DecidableEq

inductive FieldAnnotation where
  /-- The identity, stored under the identifier of the document. -/
  | id
  /-- The counter that guards against concurrent changes. -/
  | version
  | reference (options : ReferenceOptions)
  | property (stored : String)
  /-- Not stored at all. -/
  | transient
  /-- Stored inside the document. -/
  | embedded
deriving DecidableEq

inductive FieldAnnotationKind where
  | id
  | version
  | reference
  | property
  | transient
  | embedded
deriving DecidableEq

def FieldAnnotation.kind : FieldAnnotation → FieldAnnotationKind
  | .id => .id
  | .version => .version
  | .reference _ => .reference
  | .property _ => .property
  | .transient => .transient
  | .embedded => .embedded

end DocMapper
