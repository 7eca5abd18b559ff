import DocMapper.Query.Check

/-!
# Validating queries

Every criterion of a query is checked against the field that its path leads to. The failures of all
criteria come in their order; a query without failures is valid.
-/

namespace DocMapper

def Criterion.check (criterion : Criterion) (field : MappedField) : Check where
  path := criterion.path
  field
  type := field.type
  operator := criterion.operator
  value := criterion.value

namespace Catalog

/-- The field that names lead to, and the class that has it. All but the last name lead into
embedded objects. -/
def fieldAt (catalog : Catalog) (owner : Descriptor) :
    List String → MapM (Option (Descriptor × MappedField))
  | [] => return none
  | name :: rest => do
    match owner.storedField? name <|> owner.field? name with
    | none => return none
    | some field =>
      if rest.isEmpty then return some (owner, field)
      else
        match field.target? with
        | none => return none
        | some target =>
          if field.isReference then return none
          else
            let next ← catalog.describe target
            catalog.fieldAt next rest

/-- The failures of a query on a class after one more of its criteria. -/
def checkCriterion (catalog : Catalog) (root : Descriptor) (name : ClassName)
    (found : List QueryFailure) (criterion : Criterion) : MapM (List QueryFailure) := do
  match ← catalog.fieldAt root criterion.names with
  | some (owner, field) =>
    return (← (criterion.check field).run catalog owner.className found).2
  | none => return found ++ [criterion.notFound name]

/-- The failures of a query on a class. -/
def validate (catalog : Catalog) (name : ClassName) (criteria : List Criterion) :
    MapM (List QueryFailure) := do
  let root ← catalog.describe name
  criteria.foldlM (catalog.checkCriterion root name) []

/-- Whether a value can be used with an operator on a field of a class that counts as a type. The
failures go behind those found before. -/
def isCompatible (catalog : Catalog) (owner : Descriptor) (field : MappedField) (type : FieldType)
    (operator : Operator) (value : QueryValue) (before : List QueryFailure) :
    MapM (Bool × List QueryFailure) :=
  Check.run catalog owner.className { path := field.name, field, type, operator, value } before

end Catalog

end DocMapper
