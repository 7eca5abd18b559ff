import DocMapper.Mapping.Catalog
import DocMapper.Query.Criterion

/-!
# Checking query values

Whether a value can be used with an operator on a field. The checks stand in a fixed order and the
first that applies decides. Each works on the list of the failures found before it, which all checks
of a query share: one that applies hands on the list with its own failures. A null value goes with
everything.
-/

namespace DocMapper

/-- A value and an operator to be checked against a field. -/
structure Check where
  /-- How messages name the field. -/
  path : String
  field : MappedField
  /-- The type that the field counts as. -/
  type : FieldType
  operator : Operator
  value : QueryValue

namespace Check

def failure (check : Check) (expected message : String) : QueryFailure where
  path := check.path
  operator := check.operator
  actual := check.value.typeDescription
  expected := expected
  message := message

/-- The failures found before, with one of this check behind them unless the condition holds. -/
def require (check : Check) (condition : Bool) (expected message : String)
    (found : List QueryFailure) : List QueryFailure :=
  if condition then found else found ++ [check.failure expected message]

/-- The check of an existence operator: the value is a truth value. -/
def existence (check : Check) (found : List QueryFailure) : Option (List QueryFailure) :=
  if check.operator = .exists then
    some (found |> check.require (check.value.asValue?.bind Value.asBool?).isSome "bool"
      ("value for an " ++ check.operator.wireName ++ " operation should be a bool, was " ++
        check.value.typeDescription))
  else none

/-- The check of a size operator: the value is an integer and the field has items. -/
def itemCount (check : Check) (found : List QueryFailure) : Option (List QueryFailure) :=
  if check.operator = .size then
    some (found
      |> check.require (check.value.asValue?.bind Value.asInteger?).isSome "integer"
        ("value for a " ++ check.operator.wireName ++ " operation should be an integer, was " ++
          check.value.typeDescription)
      |> check.require check.type.isMultiple "a list, set or array field"
        ("a " ++ check.operator.wireName ++ " operation needs a multi-valued field, " ++
          check.path ++ " is declared " ++ check.type.description))
  else none

def candidates (check : Check) (found : List QueryFailure) : Option (List QueryFailure) :=
  if check.operator.takesArray then
    some (found |> check.require (check.value.asValue?.bind Value.asArray?).isSome "array"
      ("value for a " ++ check.operator.wireName ++ " operation should be an array, was " ++
        check.value.typeDescription))
  else none

def isDivision : Value → Bool
  | .array [.integer _, .integer _] => true
  | _ => false

/-- The check of a remainder operator: the value is a divisor with a remainder. -/
def division (check : Check) (found : List QueryFailure) : Option (List QueryFailure) :=
  if check.operator = .remainder then
    some (found |> check.require (check.value.asValue?.any isDivision) "[divisor, remainder]"
      ("value for a " ++ check.operator.wireName ++
        " operation should be an array of two integers, was " ++ check.value.typeDescription))
  else none

/-- Whether objects of a class can stand in a field of a type. A class that cannot be mapped
cannot. -/
def assignable (catalog : Catalog) (name : ClassName) (type : FieldType) : MapM Bool := do
  match type.className? with
  | none => return false
  | some target =>
    match ← (catalog.describe name).attempt with
    | .ok descriptor => return descriptor.isAssignableTo target
    | .error _ => return false

/-- The check of a key or an entity: its class can stand in the field. -/
def object (catalog : Catalog) (check : Check) (found : List QueryFailure) :
    MapM (Option (List QueryFailure)) := do
  let expected := check.type.description
  match check.value with
  | .key key =>
    let fits ← assignable catalog key.className check.type
    return some (found |> check.require fits expected
      ("the type " ++ key.className.text ++ " of the key is not compatible with field " ++
        check.path ++ ", declared " ++ expected))
  | .entity entity =>
    let fits ← assignable catalog entity.className check.type
    return some (found |> check.require fits expected
      ("a value of type " ++ entity.className.text ++ " cannot be compared with field " ++
        check.path ++ ", declared " ++ expected))
  | .value _ => return none

/-- The kind of identity that a reference field points at; any kind where it is not known. -/
def targetIdKind (catalog : Catalog) (field : MappedField) : MapM ScalarKind := do
  match field.target? with
  | none => return .any
  | some target =>
    match ← (catalog.describe target).attempt with
    | .error _ => return .any
    | .ok descriptor =>
      match descriptor.idField?.map MappedField.type with
      | some (.scalar kind) => return kind
      | _ => return .any

/-- The check of a plain value against a reference field: it is a pointer, or the identity of the
referenced entity. -/
def referencedId (catalog : Catalog) (owner : ClassName) (check : Check)
    (found : List QueryFailure) : MapM (Option (List QueryFailure)) := do
  match check.value with
  | .value v =>
    if !check.field.isReference then return none
    else if Pointer.isPointer v then return some found
    else
      let kind ← targetIdKind catalog check.field
      return some (found |> check.require (kind.accepts v) kind.name
        ("the value for " ++ owner.text ++ "." ++ check.field.name ++
          " must be the referenced id (" ++ kind.name ++ ") but was " ++ v.kindName))
  | _ => return none

/-- Behind the failures found before, that of a value that does not go with the type of its
field. -/
def misfit (check : Check) (v : Value) (fits : Bool) (found : List QueryFailure) :
    List QueryFailure :=
  found |> check.require fits check.type.description
    ("type " ++ v.kindName ++ " may not be compatible with field " ++ check.path ++ ", declared " ++
      check.type.description)

/-- Whether a value is of a kind, or where the field has items, an array of such values. -/
def fitsKind (check : Check) (kind : ScalarKind) (v : Value) : Bool :=
  kind.accepts v ||
    (check.type.isMultiple &&
      match v with
      | .array items => items.all kind.accepts
      | _ => false)

/-- The check of a plain value against a field over plain values: the kinds agree. -/
def plain (check : Check) (found : List QueryFailure) : Option (List QueryFailure) :=
  match check.value, check.type.element with
  | .value v, .scalar kind => some (found |> check.misfit v (check.fitsKind kind v))
  | _, _ => none

/-- The check where no other applies: a field over objects or keys takes a document. -/
def otherwise (check : Check) (found : List QueryFailure) : Option (List QueryFailure) :=
  match check.value, check.type with
  | .value v, .object _ => some (found |> check.misfit v v.asDocument?.isSome)
  | .value v, .map _ => some (found |> check.misfit v v.asDocument?.isSome)
  | _, _ => some found

/-- The failures after the first check that applies, if one does. -/
def firstApplied (catalog : Catalog) (owner : ClassName) (check : Check)
    (found : List QueryFailure) : MapM (Option (List QueryFailure)) := do
  match check.existence found <|> check.itemCount found <|> check.candidates found <|>
      check.division found with
  | some after => return some after
  | none =>
    match ← check.object catalog found with
    | some after => return some after
    | none =>
      match ← check.referencedId catalog owner found with
      | some after => return some after
      | none => return check.plain found <|> check.otherwise found

/-- Whether a value can be used with an operator on a field of a class, and the failures after
checking that: it can if a check applies and leaves as many failures as there were. -/
def run (catalog : Catalog) (owner : ClassName) (check : Check) (found : List QueryFailure) :
    MapM (Bool × List QueryFailure) := do
  if check.value.isNull then return (true, found)
  match ← check.firstApplied catalog owner found with
  | some after => return (after.length == found.length, after)
  | none => return (false, found)

end Check

end DocMapper
