import DocMapper.Value.Basic

/-!
# Shapes of written values

A value is written under the name of its shape. The names are part of the format.
-/

namespace DocMapper.Cbor

def utf8 (text : String) : List UInt8 :=
  text.toUTF8.data.toList

/-- The text with the given bytes, if they are valid UTF-8. -/
def ofUtf8? (bytes : List UInt8) : Option String :=
  String.fromUTF8? ⟨bytes.toArray⟩

/-- The shapes a value can have. -/
inductive Shape where
  | null
  | bool
  | integer
  | text
  | bytes
  | id
  | array
  | document
deriving DecidableEq

namespace Shape

def all : List Shape := [.null, .bool, .integer, .text, .bytes, .id, .array, .document]

def name : Shape → String
  | .null => "Null"
  | .bool => "Bool"
  | .integer => "Integer"
  | .text => "Text"
  | .bytes => "Bytes"
  | .id => "Id"
  | .array => "Array"
  | .document => "Document"

def ofName? (bytes : List UInt8) : Option Shape :=
  all.find? fun shape => utf8 shape.name == bytes

end Shape

end DocMapper.Cbor
