import DocMapper.Hook.Method
import DocMapper.Schema.Annotation
import DocMapper.Schema.FieldType

/-!
# Descriptions of types

What a type declares, as it was registered: its place, its supertypes, annotations, fields and
methods. A description says nothing about what is inherited.
-/

namespace DocMapper

inductive TypeKind where
  | concrete
  | abstract
  | interface
deriving DecidableEq

inductive Nesting where
  | topLevel
  | staticMember
  /-- Bound to an instance of the type around it; such a type cannot be mapped. -/
  | innerMember
deriving DecidableEq

structure FieldSchema where
  name : String
  type : FieldType
  annotations : List FieldAnnotation := []
  /-- Declared with the modifier that keeps it out of documents. -/
  transientModifier : Bool := false
deriving DecidableEq

/-- A described type. -/
structure TypeSchema where
  name : ClassName
  kind : TypeKind := .concrete
  nesting : Nesting := .topLevel
  superclass : Option ClassName := none
  interfaces : List ClassName := []
  annotations : List TypeAnnotation := []
  fields : List FieldSchema := []
  methods : List Method := []
  /-- How its instances are made where it serves as a listener. -/
  factory : Option ListenerFactory := none

namespace TypeSchema

def annotationsOf (schema : TypeSchema) (kind : TypeAnnotationKind) : List TypeAnnotation :=
  schema.annotations.filter (·.kind = kind)

/-- The types named by the last annotation of listeners. -/
def listenerNames (schema : TypeSchema) : List ClassName :=
  match (schema.annotationsOf .listeners).getLast? with
  | some (.listeners classes) => classes
  | _ => []

/-- The options of the first annotation as an entity. -/
def entityOptions? (schema : TypeSchema) : Option EntityOptions :=
  match (schema.annotationsOf .entity).head? with
  | some (.entity options) => some options
  | _ => none

/-- The options of the last annotation as embedded. -/
def embeddedOptions? (schema : TypeSchema) : Option EmbeddedOptions :=
  match (schema.annotationsOf .embedded).getLast? with
  | some (.embedded options) => some options
  | _ => none

end TypeSchema

end DocMapper
