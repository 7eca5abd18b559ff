import DocMapper.Instance.Entity
import DocMapper.Query.Operator

/-!
# Criteria

One predicate of a query: a path to a field, an operator and a value. An entity or a key as a value
is compared by its class.
-/

namespace DocMapper

inductive QueryValue where
  | value (v : Value)
  | entity (entity : Entity)
  | key (key : Key)

namespace QueryValue

def isNull : QueryValue → Bool
  | .value v => v.isNull
  | _ => false

def asValue? : QueryValue → Option Value
  | .value v => some v
  | _ => none

def typeDescription : QueryValue → String
  | .value v => v.kindName
  | .entity e => e.className.text
  | .key k => "Key<" ++ k.className.text ++ ">"

end QueryValue

/-- A predicate of a query. -/
structure Criterion where
  /-- Names of fields, stored or declared, from the outermost inward with dots between them. -/
  path : String
  operator : Operator := .equal
  value : QueryValue

structure QueryFailure where
  path : String
  operator : Operator
  actual : String
  /-- What would be accepted. -/
  expected : String
  message : String
deriving DecidableEq

namespace Criterion

/-- The names on the path: what is between its dots. -/
def names (criterion : Criterion) : List String :=
  (criterion.path.toList.splitOn '.').map String.ofList

/-- The failure of a criterion whose path leads to no field of a class. -/
def notFound (criterion : Criterion) (name : ClassName) : QueryFailure where
  path := criterion.path
  operator := criterion.operator
  actual := criterion.value.typeDescription
  expected := "a mapped field"
  message := "the field '" ++ criterion.path ++ "' could not be found in '" ++ name.text ++ "'"

end Criterion

end DocMapper
