import DocMapper.Schema.ClassName
import DocMapper.Value.Diagnostic
import DocMapper.Value.Pointer

/-!
# Identity keys

A key stands for a stored entity: it names the entity's class and the place of its document.
-/

namespace DocMapper

/-- The identity of a stored entity. -/
structure Key where
  className : ClassName
  collection : String
  id : Value
deriving DecidableEq

namespace Key

/-- The place of the entity's document. -/
def pointer (key : Key) : Pointer where
  collection := key.collection
  id := key.id

def description (key : Key) : String :=
  key.className.text ++ "(" ++ key.collection ++ "/" ++ key.id.diagnostic ++ ")"

end Key

end DocMapper
