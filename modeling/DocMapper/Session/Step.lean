import DocMapper.Hook.Plan
import DocMapper.Query.Validation

/-!
# Steps of a session

The operations that a session understands, grouped by what they are about. An entity is given as it
is, or by the name of the slot that holds it; a cache is given by its name.
-/

namespace DocMapper

inductive Subject where
  | slot (name : String)
  | given (entity : Entity)

inductive TypeStep where
  | register (schema : TypeSchema)
  | registry (names : List ClassName)
  | schema (name : ClassName)
  | describe (name : ClassName)
  | described
  | isDescribed (name : ClassName)
  | collection (name : ClassName)
  | assignable (name target : ClassName)
  | annotations (name : ClassName) (kind : TypeAnnotationKind)
  | fieldsWith (name : ClassName) (kind : FieldAnnotationKind)
  /-- Looks a name up among stored and among declared names. -/
  | findField (name : ClassName) (field : String)
  /-- Starts over with a new mapper, on the same registry and store. -/
  | remap (options : Options) (plans : List InterceptorPlan) (shareListeners : Bool)
  | listeners (names : List ClassName)

inductive EntityStep where
  | place (slot : String) (entity : Entity)
  | set (subject : Subject) (field : String) (property : Property)
  | unset (subject : Subject) (field : String)
  /-- Sets a property that is there already. -/
  | edit (subject : Subject) (field : String) (property : Property)
  | read (subject : Subject) (field : String)
  | copy (subject : Subject) (into : Option String)
  | idOf (subject : Subject)
  | keyOf (subject : Subject)
  /-- Turns an entity into a document, hooks included. -/
  | encode (subject : Subject)
  /-- Turns a document into an entity, hooks included. -/
  | decode (name : ClassName) (document : Document) (into : Option String)
  /-- Turns a document into an entity without hooks. -/
  | decodeRaw (name : ClassName) (document : Document)
  | dispatch (subject : Subject) (event : Event) (document : Document)

inductive ReferenceStep where
  | encode (name : ClassName) (field : String) (property : Property)
  | decodeKeys (name : ClassName) (field : String) (stored : Value)
  | resolve (name : ClassName) (field : String) (stored : Value) (cache : Option String)
  | resolveField (subject : Subject) (field : String) (cache : Option String)
  | cache (name : String) (note : Option (Pointer × Option Entity)) (places : List Pointer)

inductive QueryStep where
  | validate (name : ClassName) (criteria : List Criterion)
  /-- Checks values one by one against a field, which may be taken for one of another type. -/
  | compatible (name : ClassName) (field : String) (type : Option FieldType)
      (values : List (Operator × QueryValue))

inductive StoreStep where
  | save (subject : Subject)
  | get (name : ClassName) (id : Value) (into : Option String)
  | getByKey (key : Key) (into : Option String)
  | find (name : ClassName) (filter : Filter)
  | delete (name : ClassName) (id : Value)
  | count (name : ClassName)
  /-- Saves a document without the mapper. -/
  | saveDocument (collection : String) (document : Document)
  /-- Searches a collection without the mapper. -/
  | findDocuments (collection : String) (filter : Filter)
  /-- Makes the next call to the store fail. -/
  | failNext (reason : String)

inductive Step where
  | onTypes (step : TypeStep)
  | onEntities (step : EntityStep)
  | onReferences (step : ReferenceStep)
  | onQueries (step : QueryStep)
  | onStore (step : StoreStep)

end DocMapper
