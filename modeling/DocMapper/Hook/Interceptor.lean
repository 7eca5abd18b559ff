import DocMapper.Hook.Method
import DocMapper.Mapping.Error

/-!
# Interceptors

Hooks that run for every mapped type, after its own methods. An interceptor edits the entity and the
running document, and may ask the mapper for the collection of a class on the way. Its reaction is
the tree of its questions with an end for every course of answers.
-/

namespace DocMapper

/-- What an interceptor does with an entity and the running document. -/
inductive Reaction where
  /-- Leaves both as given, and fails if there is a reason. -/
  | finish (entity : Entity) (document : Document) (failure : Option String)
  /-- Asks for the collection of a class and goes on with the answer. -/
  | askCollection (name : ClassName) (next : Except MapError String → Reaction)

/-- A hook for every type. -/
abbrev Interceptor := Event → Entity → Document → Reaction

namespace Interceptor

def idle : Interceptor := fun _ entity document => .finish entity document none

end Interceptor

end DocMapper
