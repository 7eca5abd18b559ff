import DocMapper.Cbor.Head
import DocMapper.Cbor.Shape
import DocMapper.Value.Document

/-!
# Reading documents

Reading is more liberal than writing. Heads may be long, arrays and strings may be open, tags in
front of an item are passed over, integers may be big numbers that fit, and bytes and identifiers
may be byte strings. Bytes behind the document are left alone.

Two rules bound what is accepted. Pairs and identifiers are read item by item, and items beyond the
second or the sixteenth are not consumed: they are taken for what comes next. And every array and
every value opens a level, of which a document may nest `maxLevels`; `value` recurses on the levels
that are left.
-/

namespace DocMapper.Cbor

/-- Reads from the front of the input and gives back what follows. -/
abbrev Reader (α : Type) := List UInt8 → Option (α × List UInt8)

/-- The levels that a document may nest. -/
def maxLevels : Nat := 256

namespace Reader

/-- The tags in front of an item and the item's own head. -/
def tagged (input : List UInt8) : Option ((List Nat × Head) × List UInt8) :=
  match h : Head.read? input with
  | none => none
  | some (.tag n, rest) =>
    have := Head.read?_length h
    (tagged rest).map fun ((tags, head), rest) => ((n :: tags, head), rest)
  | some (head, rest) => some (([], head), rest)
termination_by input.length

/-- The head of an item, whatever its tags. -/
def untagged : Reader Head := fun input =>
  (tagged input).map fun ((_, head), rest) => (head, rest)

def bytesLength? : Head → Option (Option Nat)
  | .bytes length => some length
  | _ => none

def textLength? : Head → Option (Option Nat)
  | .text length => some length
  | _ => none

/-- The pieces of an open string, up to the stop that closes it. `depth` counts the open strings
around the next piece; a piece may be open itself. -/
def chunks (length? : Head → Option (Option Nat)) (depth : Nat) (input : List UInt8) :
    Option (List (List UInt8) × List UInt8) :=
  match h : Head.read? input with
  | none => none
  | some (.stop, rest) =>
    have := Head.read?_length h
    if depth ≤ 1 then some ([], rest) else chunks length? (depth - 1) rest
  | some (head, rest) =>
    have := Head.read?_length h
    match length? head with
    | none => none
    | some none => chunks length? (depth + 1) rest
    | some (some n) =>
      match ht : take? n rest with
      | none => none
      | some (chunk, rest') =>
        have := take?_length ht
        (chunks length? depth rest').map fun (more, rest) => (chunk :: more, rest)
termination_by input.length

/-- The pieces of a string with the given length, a single one unless it is open. -/
def string (length? : Head → Option (Option Nat)) (length : Option Nat) :
    Reader (List (List UInt8)) := fun input =>
  match length with
  | some n => (take? n input).map fun (chunk, rest) => ([chunk], rest)
  | none => chunks length? 1 input

/-- A text. Every piece has to be valid by itself. -/
def text : Reader String := fun input => do
  let (head, rest) ← untagged input
  let length ← textLength? head
  let (pieces, rest) ← string textLength? length rest
  let texts ← pieces.mapM ofUtf8?
  return (String.join texts, rest)

/-- The tag of a byte string that stands for a number. -/
def bigPositive : Nat := 2

/-- The tag of a byte string that stands for the distance of a number from minus one. -/
def bigNegative : Nat := 3

def integer : Reader Int := fun input => do
  let ((tags, head), rest) ← tagged input
  match tags.dropWhile fun tag => tag != bigPositive && tag != bigNegative, head with
  | [], .positive n => return (n, rest)
  | [], .negative n => return (-1 - n, rest)
  | [tag], .bytes length =>
    let (pieces, rest) ← string bytesLength? length rest
    let n := ofBigEndian pieces.flatten
    return (if tag = bigPositive then n else -1 - n, rest)
  | _, _ => none

def int64 : Reader Int64 := fun input => do
  let (n, rest) ← integer input
  if Int64.minValue.toInt ≤ n ∧ n ≤ Int64.maxValue.toInt then return (Int64.ofInt n, rest) else none

def byte : Reader UInt8 := fun input => do
  let (n, rest) ← integer input
  if 0 ≤ n ∧ n < 256 then return (UInt8.ofNat n.toNat, rest) else none

def bool : Reader Bool := fun input => do
  let (head, rest) ← untagged input
  match head with
  | .simple 20 => return (false, rest)
  | .simple 21 => return (true, rest)
  | _ => none

/-- The name of a shape with the given length. -/
def shapeName (length : Nat) : Reader Shape := fun input => do
  let (name, rest) ← take? length input
  let shape ← Shape.ofName? name
  return (shape, rest)

/-- The shape of a value: a text by itself, or the key of a map with one entry. -/
def shape : Reader Shape := fun input => do
  let (head, rest) ← untagged input
  match head with
  | .text (some length) => shapeName length rest
  | .map (some 1) =>
    let (head, rest) ← untagged rest
    match head with
    | .text (some length) => shapeName length rest
    | .bytes (some length) => shapeName length rest
    | _ => none
  | _ => none

/-- As many items as counted. -/
def times {α : Type} (element : Reader α) : Nat → Reader (List α)
  | 0, input => some ([], input)
  | n + 1, input => do
    let (item, rest) ← element input
    let (items, rest) ← times element n rest
    return (item :: items, rest)

/-- Items up to a stop, at most `bound` steps. -/
def untilStop {α : Type} (element : Reader α) : (bound : Nat) → Reader (List α)
  | 0, _ => none
  | bound + 1, input =>
    match Head.read? input with
    | some (.stop, rest) => some ([], rest)
    | _ => do
      let (item, rest) ← element input
      let (items, rest) ← untilStop element bound rest
      return (item :: items, rest)

/-- The items of an array with the given length. An item takes at least one byte, so the length of
the input bounds the steps of an open array. -/
def items {α : Type} (element : Reader α) (length : Option Nat) : Reader (List α) := fun input =>
  match length with
  | some n => times element n input
  | none => untilStop element input.length input

/-- A sequence: an array of items, or a byte string whose bytes stand for items. There is no
`element` where no level is left for an array. -/
def sequence {α : Type} (element : Option (Reader α)) (ofByte : UInt8 → Option α) :
    Reader (List α) := fun input => do
  let (head, rest) ← untagged input
  match head with
  | .array length => items (← element) length rest
  | .bytes length =>
    let (pieces, rest) ← string bytesLength? length rest
    return (← pieces.flatten.mapM ofByte, rest)
  | _ => none

/-- Whether an array with the given length may have `n` items or more. -/
def holds (n : Nat) (length : Option Nat) : Bool :=
  match length with
  | some m => n ≤ m
  | none => true

/-- An identifier: the first sixteen items of an array, or the first sixteen bytes of a byte string.
Items of the array beyond them are not consumed. -/
def objectId (levels : Nat) : Reader ObjectId := fun input => do
  let (head, rest) ← untagged input
  match head with
  | .array length =>
    if 0 < levels ∧ holds 16 length then
      let (bytes, rest) ← times byte 16 rest
      return (← ObjectId.ofBytes? bytes, rest)
    else none
  | .bytes length =>
    let (pieces, rest) ← string bytesLength? length rest
    return (← ObjectId.ofBytes? (pieces.flatten.take 16), rest)
  | _ => none

/-- An entry: the first two items of an array. Items beyond them are not consumed. -/
def pair (value : Reader Value) : Reader (String × Value) := fun input => do
  let (head, rest) ← untagged input
  match head with
  | .array length =>
    if holds 2 length then
      let (key, rest) ← text rest
      let (v, rest) ← value rest
      return ((key, v), rest)
    else none
  | _ => none

mutual

/-- A value, with the given number of levels left. It takes one of them. -/
def value : (levels : Nat) → Reader Value
  | 0, _ => none
  | levels + 1, input => do
    let (shape, rest) ← shape input
    match shape with
    | .null => return (.null, rest)
    | .bool =>
      let (b, rest) ← bool rest
      return (.bool b, rest)
    | .integer =>
      let (n, rest) ← int64 rest
      return (.integer n, rest)
    | .text =>
      let (s, rest) ← text rest
      return (.text s, rest)
    | .bytes =>
      let (bs, rest) ← sequence (if levels = 0 then none else some byte) some rest
      return (.bytes bs, rest)
    | .id =>
      let (oid, rest) ← objectId levels rest
      return (.id oid, rest)
    | .array =>
      let (items, rest) ← sequence (element levels) (fun _ => none) rest
      return (.array items, rest)
    | .document =>
      let (entries, rest) ← sequence (entry levels) (fun _ => none) rest
      return (.document entries, rest)

/-- An item of an array, if there is a level left for the array. -/
def element : (levels : Nat) → Option (Reader Value)
  | 0 => none
  | levels + 1 => some (value levels)

/-- An entry of a document, if there is a level left for the document. -/
def entry : (levels : Nat) → Option (Reader (String × Value))
  | 0 => none
  | levels + 1 => some (keyed levels)

/-- An entry, with the given number of levels left. It takes one of them. -/
def keyed : (levels : Nat) → Reader (String × Value)
  | 0, _ => none
  | levels + 1, input => pair (value levels) input

end

end Reader

/-- The document that the bytes begin with. -/
def read? (bytes : List UInt8) : Option Document :=
  (Reader.sequence (Reader.entry maxLevels) (fun _ => none) bytes).map Prod.fst

end DocMapper.Cbor
