import DocMapper.Hook.Plan
import DocMapper.Query.Criterion
import DocMapper.Store.Recorder

/-!
# Replies and reports

What a step answers, and what else it is seen to do: the hooks it called, the calls it made to the
store, and the entity it worked on.
-/

namespace DocMapper

inductive Reply where
  | done
  | flag (answer : Bool)
  | number (n : Nat)
  | text (s : String)
  | names (classes : List ClassName)
  | value (v : Value)
  | optionalValue (v : Option Value)
  | document (doc : Document)
  | documents (docs : List Document)
  | property (p : Property)
  | optionalProperty (p : Option Property)
  /-- A property that was read, to be shown together with its plain value. -/
  | reading (p : Option Property)
  | entity (e : Entity)
  | optionalEntity (e : Option Entity)
  | entities (es : List Entity)
  | key (k : Key)
  | registry (all : Registry) (contains : List Bool)
  | schema (description : TypeSchema)
  | descriptor (description : Descriptor)
  | assignability (assignable subType : Bool)
  | annotations (all : List TypeAnnotation)
  /-- Fields with the first of their annotations of the kind in question. -/
  | annotatedFields (fields : List (String × Option FieldAnnotation))
  | fields (stored declared : Option MappedField)
  /-- How many listener types have an instance, and which instances some types have. -/
  | listeners (size : Nat) (cached : List (Option ListenerInstance))
  /-- How many places are known, and what is known of some places. -/
  | cache (size : Nat) (results : List (Option (Option Entity)))
  | failures (found : List QueryFailure)
  | compatibility (compatible : List Bool) (found : List QueryFailure)

inductive SessionError where
  | failed (error : MapError)
  | unknownSlot (name : String)
  | unknownField (name : ClassName) (field : String)

structure HookEntry where
  who : String
  listener : Option ListenerInstance
  entity : Option ClassName
  document : Option Document
deriving DecidableEq

/-- What a step does. -/
structure Report where
  result : Except SessionError Reply
  /-- The entity afterwards, for a step that may change one. -/
  entity : Option Entity
  entries : List HookEntry
  /-- The lines of recording interceptors. -/
  lines : List String
  calls : List StoreCall

namespace Invocation

def entry (invocation : Invocation) (who : String) : HookEntry where
  who
  listener := invocation.listener
  entity := invocation.entity
  document := invocation.document

def inFull? (plans : List InterceptorPlan) (invocation : Invocation) : Option HookEntry :=
  match invocation.callee with
  | .method declaredBy name => some (invocation.entry (declaredBy.text ++ "." ++ name))
  | .interceptor position =>
    (plans[position]?.bind (·.entryName? invocation.event)).map invocation.entry

def inLine? (plans : List InterceptorPlan) (invocation : Invocation) : Option String :=
  match invocation.callee, invocation.entity with
  | .interceptor position, some className =>
    plans[position]?.bind (·.line? invocation.event className)
  | _, _ => none

end Invocation

end DocMapper
