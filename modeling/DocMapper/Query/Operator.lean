/-!
# Query operators

The operators of query predicates and their wire names.
-/

namespace DocMapper

inductive Operator where
  | equal
  | notEqual
  | greaterThan
  | greaterThanOrEqual
  | lessThan
  | lessThanOrEqual
  /-- The field is present or not. -/
  | exists
  /-- The number of items. -/
  | size
  | oneOf
  | noneOf
  | all
  | remainder
deriving DecidableEq

namespace Operator

def wireName : Operator → String
  | .equal => "$eq"
  | .notEqual => "$ne"
  | .greaterThan => "$gt"
  | .greaterThanOrEqual => "$gte"
  | .lessThan => "$lt"
  | .lessThanOrEqual => "$lte"
  | .exists => "$exists"
  | .size => "$size"
  | .oneOf => "$in"
  | .noneOf => "$nin"
  | .all => "$all"
  | .remainder => "$mod"

def isComparison : Operator → Bool
  | .equal | .notEqual | .greaterThan | .greaterThanOrEqual | .lessThan | .lessThanOrEqual => true
  | _ => false

/-- Whether the operator takes an array of values. -/
def takesArray : Operator → Bool
  | .oneOf | .noneOf | .all => true
  | _ => false

end Operator

end DocMapper
