import DocMapper.Hook.Dispatch

/-!
# Scripted hooks

A hook can be written down as a script, a list of edits of the entity and the running document. The
same script can be the body of a method or an interceptor. A method may be called without an entity,
and then its edits of the entity do nothing; it gives a document back only if it has edited one. An
interceptor always has both, and may write down the collection of the entity's class as well.
-/

namespace DocMapper

inductive Edit where
  | setProperty (field : String) (property : Property)
  | unsetProperty (field : String)
  | put (key : String) (value : Value)
  | remove (key : String)
  | replace (document : Document)
  /-- Copies the plain value of a field into the document, or null if there is none. -/
  | copyField (field key : String)
  /-- Writes the collection of the entity's class into the document. -/
  | putCollection (key : String)
  | fail (reason : String)

/-- The edits of a hook, in order. -/
abbrev Script := List Edit

namespace Edit

/-- What an edit makes of an entity. -/
def onEntity : Edit → Entity → Entity
  | .setProperty field property, entity => entity.set field property
  | .unsetProperty field, entity => entity.unset field
  | _, entity => entity

/-- What an edit makes of a document, if it edits documents by itself. -/
def onDocument? (entity : Option Entity) (doc : Document) : Edit → Option Document
  | .put key value => some (Document.insert doc key value)
  | .remove key => some (Document.erase doc key)
  | .replace other => some other
  | .copyField field key =>
    some (Document.insert doc key ((entity.bind (·.value? field)).getD .null))
  | _ => none

@[simp] theorem className_onEntity (edit : Edit) (entity : Entity) :
    (edit.onEntity entity).className = entity.className := by
  cases edit <;> rfl

end Edit

namespace Script

/-- Runs a script as a method that was passed `document`. `replacement` is the document as edited so
far, if it was edited. -/
def run (document : Document) : Script → Option Entity → (replacement : Option Document) → Outcome
  | [], entity, replacement => ⟨entity, .ok replacement⟩
  | .fail reason :: _, entity, _ => ⟨entity, .error reason⟩
  | edit :: rest, entity, replacement =>
    run document rest (entity.map edit.onEntity)
      (edit.onDocument? entity (replacement.getD document) <|> replacement)

def body (script : Script) : Call → Outcome := fun call =>
  script.run (call.document.getD []) call.entity none

def react : Script → Entity → Document → Reaction
  | [], entity, doc => .finish entity doc none
  | .fail reason :: _, entity, doc => .finish entity doc (some reason)
  | .putCollection key :: rest, entity, doc =>
    .askCollection entity.className fun
      | .ok collection => react rest entity (Document.insert doc key (.text collection))
      | .error error => .finish entity doc (some (error.message?.getD ""))
  | edit :: rest, entity, doc =>
    react rest (edit.onEntity entity) ((edit.onDocument? (some entity) doc).getD doc)

end Script

namespace Method

/-- An instance or static method whose body is a script. An event that is named twice counts
once. -/
def scripted (declaredBy : ClassName) (name : String) (events : List Event) (arity : Arity)
    (isStatic : Bool) (script : Script) : Method where
  declaredBy
  name
  events := events.eraseDups
  arity
  isStatic
  body := script.body

end Method

namespace ListenerFactory

/-- Makes instances that are numbered in the order in which they are made, from one. -/
def numbered : ListenerFactory := fun made => .ok (made + 1)

def failing (reason : String) : ListenerFactory := fun _ => .error reason

end ListenerFactory

end DocMapper
