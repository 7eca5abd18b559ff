import DocMapper.Value.ObjectId

/-!
# Values

What a property of a stored document can hold. There are no floating-point numbers, so equality of
values is decidable and values can be keys. A document is a list of entries in the order in which
they were written.
-/

namespace DocMapper

/-- A dynamic value. -/
inductive Value where
  | null
  | bool (b : Bool)
  | integer (n : Int64)
  | text (s : String)
  | bytes (bs : List UInt8)
  | id (oid : ObjectId)
  | array (items : List Value)
  | document (entries : List (String × Value))
deriving Inhabited

/-- Property names and their values, in the order in which they were written. -/
abbrev Document := List (String × Value)

namespace Value

mutual

def beq : Value → Value → Bool
  | .null, .null => true
  | .bool a, .bool b => a == b
  | .integer a, .integer b => a == b
  | .text a, .text b => a == b
  | .bytes a, .bytes b => a == b
  | .id a, .id b => a == b
  | .array a, .array b => beqItems a b
  | .document a, .document b => beqEntries a b
  | _, _ => false

def beqItems : List Value → List Value → Bool
  | [], [] => true
  | a :: as, b :: bs => beq a b && beqItems as bs
  | _, _ => false

def beqEntries : List (String × Value) → List (String × Value) → Bool
  | [], [] => true
  | (j, a) :: as, (k, b) :: bs => j == k && beq a b && beqEntries as bs
  | _, _ => false

end

mutual

theorem beq_iff : ∀ a b : Value, beq a b = true ↔ a = b
  | .null, b => by cases b <;> simp [beq]
  | .bool _, b => by cases b <;> simp [beq]
  | .integer _, b => by cases b <;> simp [beq]
  | .text _, b => by cases b <;> simp [beq]
  | .bytes _, b => by cases b <;> simp [beq]
  | .id _, b => by cases b <;> simp [beq]
  | .array items, b => by cases b <;> simp [beq, beqItems_iff items]
  | .document entries, b => by cases b <;> simp [beq, beqEntries_iff entries]

theorem beqItems_iff : ∀ as bs : List Value, beqItems as bs = true ↔ as = bs
  | [], bs => by cases bs <;> simp [beqItems]
  | a :: as, bs => by cases bs <;> simp [beqItems, beq_iff a, beqItems_iff as]

theorem beqEntries_iff : ∀ as bs : List (String × Value), beqEntries as bs = true ↔ as = bs
  | [], bs => by cases bs <;> simp [beqEntries]
  | (j, a) :: as, bs => by
    rcases bs with _ | ⟨⟨k, b⟩, bs⟩ <;>
      simp [beqEntries, beq_iff a, beqEntries_iff as]

end

instance : DecidableEq Value := fun a b => decidable_of_iff (beq a b = true) (beq_iff a b)

def isNull : Value → Bool
  | .null => true
  | _ => false

@[simp] theorem isNull_iff (v : Value) : v.isNull = true ↔ v = .null := by
  cases v <;> simp [isNull]

def asBool? : Value → Option Bool
  | .bool b => some b
  | _ => none

def asInteger? : Value → Option Int64
  | .integer n => some n
  | _ => none

def asText? : Value → Option String
  | .text s => some s
  | _ => none

def asBytes? : Value → Option (List UInt8)
  | .bytes bs => some bs
  | _ => none

def asId? : Value → Option ObjectId
  | .id oid => some oid
  | _ => none

def asArray? : Value → Option (List Value)
  | .array items => some items
  | _ => none

def asDocument? : Value → Option Document
  | .document entries => some entries
  | _ => none

/-- What a message calls a value of this shape. -/
def kindName : Value → String
  | .null => "null"
  | .bool _ => "bool"
  | .integer _ => "integer"
  | .text _ => "text"
  | .bytes _ => "bytes"
  | .id _ => "object id"
  | .array _ => "array"
  | .document _ => "document"

def ofInt32 (n : Int32) : Value := .integer n.toInt64

def ofUInt32 (n : UInt32) : Value := .integer (Int64.ofNat n.toNat)

/-- Nothing is null, something is its value. -/
def ofOption : Option Value → Value
  | none => .null
  | some v => v

end Value

end DocMapper
