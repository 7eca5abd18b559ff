import DocMapper.Hook.Method

/-!
# Journal of hooks

A record of the hooks that were called, with what they were given.
-/

namespace DocMapper

inductive Callee where
  | method (declaredBy : ClassName) (name : String)
  /-- The interceptor at a position of the mapper's list. -/
  | interceptor (position : Nat)
deriving DecidableEq

/-- One call of a hook. -/
structure Invocation where
  callee : Callee
  event : Event
  listener : Option ListenerInstance
  entity : Option ClassName
  document : Option Document
deriving DecidableEq

end DocMapper
