/-!
# Mapping options

Choices that hold for everything a mapper does.
-/

namespace DocMapper

/-- What becomes of a reference to a document that does not exist. -/
inductive DanglingPolicy where
  /-- It stays, marked as missing. -/
  | keep
  /-- It disappears. -/
  | drop
  /-- It fails the operation. -/
  | fail
deriving DecidableEq

structure Options where
  /-- Collections named after a class are named in lower case. -/
  lowerCaseCollections : Bool := false
  storeNulls : Bool := false
  storeEmpties : Bool := false
  classNameKey : String := "className"
  dangling : DanglingPolicy := .keep
deriving DecidableEq

end DocMapper
