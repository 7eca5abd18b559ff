import DocMapper.Hook.Interceptor
import DocMapper.Mapping.Catalog

/-!
# Dispatch of events

An event first finds the listener instances that its methods need, making those that are missing;
if one cannot be made, no hook is called. Then the methods of the class run in order, and after them
every interceptor. A method that returns a document puts it in place of the running one. The first
failure ends the dispatch and leaves the entity as the hooks before it have made it.
-/

namespace DocMapper

/-- A catalog with the interceptors that run for all of its classes. -/
structure Mapper where
  catalog : Catalog
  interceptors : List Interceptor := []

/-- An operation on the memory of a mapper and the entity at hand. -/
abbrev EntityM (α : Type) := Run MapError (Memory × Entity) α

/-- The instance that a listener is known by, made by its factory on first use. -/
def ListenerBinding.instance (event : Event) (name : ClassName) (binding : ListenerBinding) :
    MapM ListenerInstance := do
  let memory ← get
  match memory.listeners.lookup binding.className with
  | some made => return made
  | none =>
    match binding.factory memory.made with
    | .error reason => throw (.lifecycle event name binding.className.text reason)
    | .ok made =>
      set { memory with
        listeners := Assoc.insert binding.className made memory.listeners
        made := memory.made + 1 }
      return made

namespace Handler

/-- The instance that the handler is called on, if it belongs to a listener. -/
def instance? (event : Event) (name : ClassName) (handler : Handler) :
    MapM (Option ListenerInstance) :=
  match handler.listener with
  | none => return none
  | some binding => return some (← binding.instance event name)

/-- What the handler is called with. A method of the class itself is called on the entity and, if it
has parameters, with the running document. A method of a listener is called on the instance, with
the entity as its first parameter and the document as its second. -/
def call (handler : Handler) (listener : Option ListenerInstance) (entity : Entity)
    (doc : Document) : Call :=
  match handler.listener with
  | none =>
    { listener := none
      entity := some entity
      document := if handler.method.arity = .zero then none else some doc }
  | some _ =>
    { listener
      entity := if 1 ≤ handler.method.arity.toNat then some entity else none
      document := if handler.method.arity = .two then some doc else none }

/-- Calls the handler and gives the running document that it leaves. -/
def invoke (event : Event) (name : ClassName) (doc : Document)
    (handler : Handler × Option ListenerInstance) : EntityM Document := do
  let (memory, entity) ← get
  let method := handler.1.method
  let call := handler.1.call handler.2 entity doc
  let outcome := method.body call
  let memory := memory.note
    { callee := .method method.declaredBy method.name
      event
      listener := call.listener
      entity := call.entity.map Entity.className
      document := call.document }
  set (memory, if call.entity.isSome then outcome.entity.getD entity else entity)
  match outcome.result with
  | .ok replacement => return replacement.getD doc
  | .error reason => throw (.lifecycle event name method.name reason)

end Handler

/-- Answers the questions of an interceptor and gives what it leaves. -/
def Reaction.settle (catalog : Catalog) : Reaction → MapM (Entity × Document × Option String)
  | .finish entity doc failure => return (entity, doc, failure)
  | .askCollection name next => do
    let answer ← (catalog.collectionName name).attempt
    (next answer).settle catalog

namespace Mapper

/-- Calls the interceptor at a position and gives the running document that it leaves. -/
def intercept (mapper : Mapper) (event : Event) (name : ClassName) (doc : Document)
    (interceptor : Interceptor × Nat) : EntityM Document := do
  let (memory, entity) ← get
  set (memory.note
    { callee := .interceptor interceptor.2
      event
      listener := none
      entity := some entity.className
      document := some doc }, entity)
  let (entity, doc, failure) ← ((interceptor.1 event entity doc).settle mapper.catalog).onFirst
  modify fun state => (state.1, entity)
  match failure with
  | none => return doc
  | some reason => throw (.lifecycle event name "interceptor" reason)

/-- Runs the hooks of a class for an event on the entity at hand, and gives the final document. -/
def dispatch (mapper : Mapper) (descriptor : Descriptor) (event : Event) (doc : Document) :
    EntityM Document := do
  let name := descriptor.className
  let handlers := descriptor.handlersFor event
  let instances ← (handlers.mapM (Handler.instance? event name)).onFirst
  let doc ← (handlers.zip instances).foldlM (Handler.invoke event name) doc
  mapper.interceptors.zipIdx.foldlM (mapper.intercept event name) doc

end Mapper

end DocMapper
