import DocMapper.Value.ObjectId

/-!
# Series of object identifiers

Identifiers that the library makes itself are the members of a series, one after the other. A series
is fixed by its seed: under a seed that nobody else knows, its members are in nobody else's use.

Main statement: a member tells its number (`number?_member`), so members with different numbers
differ.
-/

namespace DocMapper

structure IdSeries where
  seed : UInt64 := 0
deriving DecidableEq

namespace IdSeries

/-- The bytes that all members begin with: the seed, with version and variant of a random UUID in
their places. -/
def head (series : IdSeries) : List UInt8 :=
  let byte (place : UInt64) := (series.seed >>> (8 * place)).toUInt8
  [byte 7, byte 6, byte 5, byte 4, byte 3, byte 2, 0x40, byte 1, 0x80, byte 0]

/-- The member with the given number; its last six bytes are the number. -/
def member (series : IdSeries) (n : Nat) : ObjectId where
  bytes := series.head ++
    [UInt8.ofNat (n >>> 40), UInt8.ofNat (n >>> 32), UInt8.ofNat (n >>> 24),
      UInt8.ofNat (n >>> 16), UInt8.ofNat (n >>> 8), UInt8.ofNat n]
  length_eq := rfl

def number? (series : IdSeries) (id : ObjectId) : Option Nat :=
  if id.bytes.take 10 = series.head then
    some ((id.bytes.drop 10).foldl (fun n b => 256 * n + b.toNat) 0)
  else none

/-- A number that six bytes can hold is read off the member it belongs to. -/
theorem number?_member (series : IdSeries) {n : Nat} (h : n < 281474976710656) :
    series.number? (series.member n) = some n := by
  have head : (series.member n).bytes.take 10 = series.head := rfl
  have digits : (series.member n).bytes.drop 10 =
      [UInt8.ofNat (n >>> 40), UInt8.ofNat (n >>> 32), UInt8.ofNat (n >>> 24),
        UInt8.ofNat (n >>> 16), UInt8.ofNat (n >>> 8), UInt8.ofNat n] := rfl
  simp only [number?, head, digits, if_true, List.foldl_cons, List.foldl_nil,
    UInt8.toNat_ofNat', Nat.shiftRight_eq_div_pow, Option.some.injEq]
  omega

end IdSeries

end DocMapper
