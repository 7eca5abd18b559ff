import DocMapper.Hook.Event
import DocMapper.Instance.Entity

/-!
# Lifecycle methods

A method is called with some of a listener instance, an entity and the running document. It may
change the entity, it may put another document in place of the running one, and it may fail. What a
failing method has done to the entity stays done.
-/

namespace DocMapper

/-- An instance of a listener type, known by the number its factory gave it. -/
abbrev ListenerInstance := Nat

/-- Makes the instances of a listener type. It is told how many instances of any type there are
already, and may fail with a reason. -/
abbrev ListenerFactory := (made : Nat) → Except String ListenerInstance

/-- How many parameters a method declares. -/
inductive Arity where
  | zero
  | one
  | two
deriving DecidableEq

namespace Arity

def toNat : Arity → Nat
  | .zero => 0
  | .one => 1
  | .two => 2

end Arity

structure Call where
  listener : Option ListenerInstance
  entity : Option Entity
  document : Option Document

structure Outcome where
  /-- The entity afterwards; it counts only where an entity was passed. -/
  entity : Option Entity
  /-- The document that replaces the running one, or the reason of a failure. -/
  result : Except String (Option Document)

/-- A declared method and what it does. -/
structure Method where
  declaredBy : ClassName
  name : String
  events : List Event
  arity : Arity
  isStatic : Bool
  body : Call → Outcome

namespace Method

def handles (method : Method) (event : Event) : Bool :=
  method.events.contains event

end Method

end DocMapper
