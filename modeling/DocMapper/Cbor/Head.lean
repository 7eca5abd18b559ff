/-!
# Heads of CBOR items

Every CBOR item begins with a head: a major type and an argument. The argument is a number in one to
nine bytes, or is left open. `Head.write` uses the shortest form of a number; `Head.read?` accepts
every form and consumes at least one byte, which bounds all loops over heads.
-/

namespace DocMapper.Cbor

/-- The first `n` bytes and the rest, if there are as many. -/
def take? : Nat → List UInt8 → Option (List UInt8 × List UInt8)
  | 0, bytes => some ([], bytes)
  | _ + 1, [] => none
  | n + 1, b :: bytes => (take? n bytes).map fun (taken, rest) => (b :: taken, rest)

theorem take?_eq_some {n : Nat} {bytes taken rest : List UInt8}
    (h : take? n bytes = some (taken, rest)) : bytes = taken ++ rest ∧ taken.length = n := by
  induction n generalizing bytes taken with
  | zero => simp only [take?, Option.some.injEq, Prod.mk.injEq] at h; simp [← h.1, h.2]
  | succ n ih =>
    cases bytes with
    | nil => simp [take?] at h
    | cons b bytes =>
      simp only [take?, Option.map_eq_some_iff, Prod.mk.injEq, Prod.exists] at h
      obtain ⟨taken', rest', h', rfl, rfl⟩ := h
      obtain ⟨h₁, h₂⟩ := ih h'
      simp [h₁, h₂]

theorem take?_length {n : Nat} {bytes taken rest : List UInt8}
    (h : take? n bytes = some (taken, rest)) : rest.length ≤ bytes.length := by
  simp [(take?_eq_some h).1]

theorem take?_append (taken rest : List UInt8) :
    take? taken.length (taken ++ rest) = some (taken, rest) := by
  induction taken with
  | nil => rfl
  | cons b taken ih => simp [take?, ih]

/-- The number that bytes stand for, most significant byte first. -/
def ofBigEndian (bytes : List UInt8) : Nat :=
  bytes.foldl (fun n b => n * 256 + b.toNat) 0

/-- The last `width` bytes of a number, most significant byte first. -/
def bigEndian : (width : Nat) → Nat → List UInt8
  | 0, _ => []
  | width + 1, n => bigEndian width (n / 256) ++ [UInt8.ofNat n]

@[simp] theorem length_bigEndian (width n : Nat) : (bigEndian width n).length = width := by
  induction width generalizing n with
  | zero => rfl
  | succ width ih => simp [bigEndian, ih]

theorem ofBigEndian_append (bytes : List UInt8) (b : UInt8) :
    ofBigEndian (bytes ++ [b]) = ofBigEndian bytes * 256 + b.toNat := by
  simp [ofBigEndian]

/-- What an item begins with. A missing length is left open: the item ends with `stop`. -/
inductive Head where
  | positive (n : Nat)
  | negative (n : Nat)
  | bytes (length : Option Nat)
  | text (length : Option Nat)
  | array (length : Option Nat)
  | map (length : Option Nat)
  | tag (n : Nat)
  | simple (n : Nat)
  | float
  | stop
deriving DecidableEq

namespace Head

def write (major argument : Nat) : List UInt8 :=
  let first (info : Nat) := UInt8.ofNat (major * 32 + info)
  if argument < 24 then [first argument]
  else if argument < 256 then first 24 :: bigEndian 1 argument
  else if argument < 65536 then first 25 :: bigEndian 2 argument
  else if argument < 4294967296 then first 26 :: bigEndian 4 argument
  else first 27 :: bigEndian 8 argument

/-- The argument that the low five bits of a first byte announce: a number, or none where it is left
open. -/
def argument? (info : Nat) (input : List UInt8) : Option (Option Nat × List UInt8) :=
  if info < 24 then some (some info, input)
  else if info < 28 then
    (take? (1 <<< (info - 24)) input).map fun (digits, rest) => (some (ofBigEndian digits), rest)
  else if info = 31 then some (none, input)
  else none

/-- The head with a major type, the low five bits of the first byte and an argument. -/
def ofParts? (major info : Nat) (argument : Option Nat) : Option Head :=
  match major with
  | 0 => argument.map positive
  | 1 => argument.map negative
  | 2 => some (bytes argument)
  | 3 => some (text argument)
  | 4 => some (array argument)
  | 5 => some (map argument)
  | 6 => argument.map tag
  | _ =>
    match argument with
    | none => some stop
    | some n => if info < 25 then some (simple n) else some float

/-- Reads a head. -/
def read? : List UInt8 → Option (Head × List UInt8)
  | [] => none
  | first :: input => do
    let info := first.toNat % 32
    let (argument, rest) ← argument? info input
    let head ← ofParts? (first.toNat / 32) info argument
    return (head, rest)

theorem argument?_length {info : Nat} {input rest : List UInt8} {argument : Option Nat}
    (h : argument? info input = some (argument, rest)) : rest.length ≤ input.length := by
  unfold argument? at h
  split at h
  · simp only [Option.some.injEq, Prod.mk.injEq] at h
    simp [h.2]
  split at h
  · simp only [Option.map_eq_some_iff, Prod.mk.injEq, Prod.exists] at h
    obtain ⟨digits, rest', h', _, rfl⟩ := h
    exact take?_length h'
  split at h
  · simp only [Option.some.injEq, Prod.mk.injEq] at h
    simp [h.2]
  · simp at h

theorem read?_length {input rest : List UInt8} {head : Head}
    (h : read? input = some (head, rest)) : rest.length < input.length := by
  cases input with
  | nil => simp [read?] at h
  | cons first input =>
    simp only [read?, Option.bind_eq_bind, Option.bind_eq_some_iff, Prod.exists] at h
    obtain ⟨argument, rest', h', head', -, h''⟩ := h
    have := argument?_length h'
    simp only [Option.pure_def, Option.some.injEq, Prod.mk.injEq] at h''
    simp only [← h''.2, List.length_cons]
    omega

end Head

end DocMapper.Cbor
