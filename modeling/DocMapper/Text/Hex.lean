/-!
# Hexadecimal text

Numbers and bytes in lower-case hexadecimal digits. `toBytes?` reads what `ofBytes` writes.
-/

namespace DocMapper.Hex

def digit (n : Nat) : Char :=
  if n < 10 then Char.ofNat (48 + n) else Char.ofNat (87 + n)

def value? (c : Char) : Option Nat :=
  if 48 ≤ c.toNat ∧ c.toNat ≤ 57 then some (c.toNat - 48)
  else if 97 ≤ c.toNat ∧ c.toNat ≤ 102 then some (c.toNat - 87)
  else none

/-- A number without leading zeros. -/
def ofNat (n : Nat) : String :=
  String.ofList (Nat.toDigits 16 n)

/-- Two digits for each byte. -/
def digits (bytes : List UInt8) : List Char :=
  bytes.flatMap fun b => [digit (b.toNat / 16), digit (b.toNat % 16)]

def ofBytes (bytes : List UInt8) : String :=
  String.ofList (digits bytes)

/-- The bytes of a list of digits, two for each. -/
def bytesOf? : List Char → Option (List UInt8)
  | [] => some []
  | [_] => none
  | high :: low :: rest => do
    let h ← value? high
    let l ← value? low
    let bytes ← bytesOf? rest
    return UInt8.ofNat (16 * h + l) :: bytes

/-- The bytes of a text of digits, two for each. -/
def toBytes? (text : String) : Option (List UInt8) :=
  bytesOf? text.toList

theorem value?_digit {n : Nat} (h : n < 16) : value? (digit n) = some n := by
  have all : ∀ m : Fin 16, value? (digit m.val) = some m.val := by decide
  exact all ⟨n, h⟩

theorem bytesOf?_digits (bytes : List UInt8) : bytesOf? (digits bytes) = some bytes := by
  induction bytes with
  | nil => rfl
  | cons b rest ih =>
    have high : b.toNat / 16 < 16 := by have := b.toNat_lt; omega
    have low : b.toNat % 16 < 16 := Nat.mod_lt _ (by decide)
    have whole : UInt8.ofNat (16 * (b.toNat / 16) + b.toNat % 16) = b := by
      rw [Nat.div_add_mod, UInt8.ofNat_toNat]
    rw [digits] at ih
    simp only [digits, List.flatMap_cons, List.cons_append, List.nil_append, bytesOf?,
      value?_digit high, value?_digit low, Option.bind_eq_bind, Option.bind_some, ih, whole,
      Option.pure_def]

@[simp] theorem toBytes?_ofBytes (bytes : List UInt8) : toBytes? (ofBytes bytes) = some bytes := by
  simp [toBytes?, ofBytes, bytesOf?_digits]

end DocMapper.Hex
