/-!
# Class names

The names that identify types. A name may be qualified, with `::` or with dots; what follows the
last separator is its simple name.
-/

namespace DocMapper

structure ClassName where
  text : String
deriving DecidableEq

namespace ClassName

/-- Names are ordered as their texts are, character by character. -/
instance : Ord ClassName where
  compare a b := compare a.text b.text

/-- Puts characters back in order, up to the first pair of colons from behind. `taken` holds the
characters behind those still to come. -/
def afterColons : (reversed taken : List Char) → List Char
  | [], taken => taken
  | ':' :: ':' :: _, taken => taken
  | c :: rest, taken => afterColons rest (c :: taken)

/-- The part of the name behind the last separator: behind the last pair of colons first, and of
that behind the last dot. -/
def simpleName (name : ClassName) : String :=
  let tail := afterColons name.text.toList.reverse []
  String.ofList (tail.reverse.takeWhile (· != '.')).reverse

def diagnostic (name : ClassName) : String :=
  "ClassName(" ++ name.text ++ ")"

end ClassName

end DocMapper
