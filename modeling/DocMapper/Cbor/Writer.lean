import DocMapper.Cbor.Head
import DocMapper.Cbor.Shape
import DocMapper.Value.Document

/-!
# Writing documents

The byte form of a document is an array with one pair of key and value for each entry. Null is
written as the name of its shape alone, every other value as a map from the name of its shape to its
contents. All heads are as short as possible and all lengths are given, so equal documents have
equal bytes.
-/

namespace DocMapper.Cbor

def writeText (text : String) : List UInt8 :=
  let bytes := utf8 text
  Head.write 3 bytes.length ++ bytes

/-- An integer; negative ones are written by their distance from minus one. -/
def writeInteger (n : Int64) : List UInt8 :=
  match n.toInt with
  | .ofNat k => Head.write 0 k
  | .negSucc k => Head.write 1 k

/-- Bytes as an array of integers. -/
def writeBytes (bytes : List UInt8) : List UInt8 :=
  Head.write 4 bytes.length ++ bytes.flatMap fun b => Head.write 0 b.toNat

/-- A map with one entry, from the name of a shape to the written contents. -/
def writeShaped (shape : Shape) (contents : List UInt8) : List UInt8 :=
  Head.write 5 1 ++ writeText shape.name ++ contents

mutual

def writeValue : Value → List UInt8
  | .null => writeText Shape.null.name
  | .bool b => writeShaped .bool [if b then 0xf5 else 0xf4]
  | .integer n => writeShaped .integer (writeInteger n)
  | .text s => writeShaped .text (writeText s)
  | .bytes bs => writeShaped .bytes (writeBytes bs)
  | .id oid => writeShaped .id (writeBytes oid.bytes)
  | .array items => writeShaped .array (Head.write 4 items.length ++ writeItems items)
  | .document entries =>
    writeShaped .document (Head.write 4 entries.length ++ writeEntries entries)

def writeItems : List Value → List UInt8
  | [] => []
  | v :: rest => writeValue v ++ writeItems rest

/-- The pairs of keys and values, one after the other. -/
def writeEntries : List (String × Value) → List UInt8
  | [] => []
  | (key, v) :: rest => Head.write 4 2 ++ writeText key ++ writeValue v ++ writeEntries rest

end

/-- The byte form of a document. -/
def write (doc : Document) : List UInt8 :=
  Head.write 4 (Document.size doc) ++ writeEntries doc

end DocMapper.Cbor
