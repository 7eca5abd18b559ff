import DocMapper.Assoc
import DocMapper.Hook.Journal
import DocMapper.Mapping.Error
import DocMapper.Run

/-!
# What a mapper remembers

Descriptors are made on first use and kept, and so are listener instances. The journal of hooks is
kept beside them.
-/

namespace DocMapper

/-- The memory of a mapper. -/
structure Memory where
  descriptors : List (ClassName × Descriptor) := []
  /-- The listener instances made so far, by listener type. -/
  listeners : List (ClassName × ListenerInstance) := []
  /-- How many listener instances were made. -/
  made : Nat := 0
  journal : List Invocation := []

abbrev MapM (α : Type) := Run MapError Memory α

namespace Memory

def descriptor? (memory : Memory) (name : ClassName) : Option Descriptor :=
  memory.descriptors.lookup name

/-- Keeps a descriptor; one that is there already stays. -/
def publish (memory : Memory) (name : ClassName) (descriptor : Descriptor) : Memory :=
  match memory.descriptor? name with
  | some _ => memory
  | none => { memory with descriptors := Assoc.insert name descriptor memory.descriptors }

def note (memory : Memory) (invocation : Invocation) : Memory :=
  { memory with journal := memory.journal ++ [invocation] }

end Memory

end DocMapper
