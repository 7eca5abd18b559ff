import DocMapper.Text.Hex

/-!
# Object identifiers

Sixteen bytes that name a stored document, written in the hyphenated form of a UUID.
-/

namespace DocMapper

/-- Sixteen bytes that name a stored document. -/
structure ObjectId where
  bytes : List UInt8
  length_eq : bytes.length = 16
deriving DecidableEq

namespace ObjectId

def ofBytes? (bytes : List UInt8) : Option ObjectId :=
  if h : bytes.length = 16 then some ⟨bytes, h⟩ else none

@[simp] theorem ofBytes?_bytes (id : ObjectId) : ofBytes? id.bytes = some id := by
  simp [ofBytes?, id.length_eq]

/-- Identifiers are ordered as their bytes are, the first difference deciding. -/
instance : Ord ObjectId where
  compare a b := compare a.bytes b.bytes

/-- Five groups of digits, for four, two, two, two and six bytes. -/
def hyphenated (id : ObjectId) : String :=
  let group (start count : Nat) := Hex.ofBytes ((id.bytes.drop start).take count)
  group 0 4 ++ "-" ++ group 4 2 ++ "-" ++ group 6 2 ++ "-" ++ group 8 2 ++ "-" ++ group 10 6

def diagnostic (id : ObjectId) : String :=
  "ObjectId(" ++ id.hyphenated ++ ")"

end ObjectId

end DocMapper
