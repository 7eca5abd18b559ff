import DocMapper.Value.Diagnostic
import DocMapper.Value.Document

/-!
# Filters

Predicates on a single property of a document. A document without the property satisfies none.
-/

namespace DocMapper

/-- The property that identifies a document in its collection. -/
def idField : String := "_id"

/-- A predicate on one property. -/
inductive Filter where
  | eq (field : String) (value : Value)
  | oneOf (field : String) (values : List Value)
deriving DecidableEq

namespace Filter

def idEq (id : Value) : Filter := .eq idField id

def idIn (ids : List Value) : Filter := .oneOf idField ids

def accepts (doc : Document) : Filter → Bool
  | .eq field value => Document.get? doc field == some value
  | .oneOf field values =>
    match Document.get? doc field with
    | some v => values.contains v
    | none => false

def description : Filter → String
  | .eq field value => field ++ " == " ++ value.diagnostic
  | .oneOf field values => field ++ " in " ++ bracketed (values.map Value.diagnostic)

end Filter

end DocMapper
