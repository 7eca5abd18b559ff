import Mathlib.Tactic.ByContra
import DocMapper.Proofs.Cbor.RoundTrip

/-!
# How deep a document may nest

A document that takes more levels than the reader has is written all the same, but never read
again: the reader refuses its bytes, whatever follows them. With the round trip of all other
documents this makes the bound exact.
-/

namespace DocMapper

namespace Cbor

/-- The reader takes nothing that begins with the bytes. -/
def Refuses {α : Type} (reader : Reader α) (bytes : List UInt8) : Prop :=
  ∀ rest, reader (bytes ++ rest) = none

namespace Reader

/-- An array is refused where no level is left for it. -/
theorem refuses_sequence {α : Type} {n : Nat} (bound : n < headLimit) (ofByte : UInt8 → Option α) :
    Refuses (sequence none ofByte) (Head.write 4 n) := by
  intro rest
  rw [sequence, reads_untagged_array bound rest]
  rfl

/-- An identifier is refused where no level is left for the array that holds it. -/
theorem refuses_objectId (id : ObjectId) : Refuses (objectId 0) (writeBytes id.bytes) := by
  intro rest
  have head := @reads_untagged_array 16 (by decide)
    (id.bytes.flatMap (fun b => Head.write 0 b.toNat) ++ rest)
  rw [objectId, writeBytes, id.length_eq, List.append_assoc, head]
  rfl

mutual

theorem refuses_value : ∀ (v : Value) (budget : Nat), budget < v.levels → v.widest < headLimit →
    Refuses (value budget) (writeValue v)
  | _, 0, _, _ => fun _ => by rw [value]
  | .null, budget + 1, beyond, _ | .bool _, budget + 1, beyond, _
  | .integer _, budget + 1, beyond, _ | .text _, budget + 1, beyond, _ => by
    rw [Value.levels] at beyond
    omega
  | .bytes bs, budget + 1, beyond, narrow => by
    intro rest
    rw [Value.levels] at beyond
    rw [Value.widest] at narrow
    obtain rfl : budget = 0 := by omega
    rw [value, writeValue, shape_writeShaped]
    simp only [Option.bind_eq_bind, Option.bind_some, if_true, writeBytes, List.append_assoc,
      refuses_sequence narrow _ _, Option.bind_none]
  | .id oid, budget + 1, beyond, _ => by
    intro rest
    rw [Value.levels] at beyond
    obtain rfl : budget = 0 := by omega
    rw [value, writeValue, shape_writeShaped]
    simp only [Option.bind_eq_bind, Option.bind_some, refuses_objectId oid rest, Option.bind_none]
  | .array items, 1, _, narrow => by
    intro rest
    rw [Value.widest] at narrow
    have bound : items.length < headLimit := by omega
    rw [value, writeValue, shape_writeShaped]
    simp only [Option.bind_eq_bind, Option.bind_some, element, List.append_assoc,
      refuses_sequence bound _ _, Option.bind_none]
  | .array items, budget + 2, beyond, narrow => by
    intro rest
    rw [Value.levels] at beyond
    rw [Value.widest] at narrow
    rw [value_writeArray (by omega), refuses_items items budget (by omega) (by omega) rest]
    rfl
  | .document entries, 1, _, narrow => by
    intro rest
    rw [Value.widest] at narrow
    have bound : entries.length < headLimit := by omega
    rw [value, writeValue, shape_writeShaped]
    simp only [Option.bind_eq_bind, Option.bind_some, entry, List.append_assoc,
      refuses_sequence bound _ _, Option.bind_none]
  | .document entries, budget + 2, beyond, narrow => by
    intro rest
    rw [Value.levels] at beyond
    rw [Value.widest] at narrow
    rw [value_writeDocument (by omega), refuses_entries entries budget (by omega) (by omega) rest]
    rfl

/-- Items are refused if one of them is beyond the budget: those before it are read. -/
theorem refuses_items : ∀ (items : List Value) (budget : Nat), budget < Value.itemLevels items →
    Value.widestItem items < headLimit →
      Refuses (times (value budget) items.length) (writeItems items)
  | [], _, beyond, _ => by
    rw [Value.itemLevels] at beyond
    omega
  | item :: others, budget, beyond, narrow => by
    intro rest
    rw [Value.itemLevels] at beyond
    rw [Value.widestItem] at narrow
    rw [List.length_cons, times, writeItems, List.append_assoc]
    by_cases here : budget < item.levels
    · simp only [refuses_value item budget here (by omega) _, Option.bind_eq_bind,
        Option.bind_none]
    · have first := reads_value item budget (by omega) (by omega) (writeItems others ++ rest)
      have later := refuses_items others budget (by omega) (by omega) rest
      simp only [first, later, Option.bind_eq_bind, Option.bind_some, Option.bind_none]

/-- Entries are refused if one of them is beyond the budget: those before it are read. -/
theorem refuses_entries : ∀ (entries : List (String × Value)) (budget : Nat),
    budget < Value.entryLevels entries → Value.widestEntry entries < headLimit →
      Refuses (times (keyed budget) entries.length) (writeEntries entries)
  | [], _, beyond, _ => by
    rw [Value.entryLevels] at beyond
    omega
  | (_, _) :: _, 0, _, _ => by
    intro rest
    rw [List.length_cons, times, keyed]
    rfl
  | (key, v) :: others, budget + 1, beyond, narrow => by
    intro rest
    rw [Value.entryLevels] at beyond
    rw [Value.widestEntry] at narrow
    have bound : (utf8 key).length < headLimit := by omega
    have pair := keyed_write bound (writeValue v) budget (writeEntries others ++ rest)
    simp only [List.append_assoc] at pair
    simp only [List.length_cons, times, writeEntries, List.append_assoc, pair]
    by_cases here : budget < v.levels
    · simp only [refuses_value v budget here (by omega) _, Option.map_none, Option.bind_eq_bind,
        Option.bind_none]
    · have first := reads_value v budget (by omega) (by omega) (writeEntries others ++ rest)
      have later := refuses_entries others (budget + 1) (by omega) (by omega) rest
      simp only [first, later, Option.map_some, Option.bind_eq_bind, Option.bind_some,
        Option.bind_none]

end

end Reader

/-- A document beyond the levels is not read, whatever follows its bytes. -/
theorem read?_write_of_lt_levels {doc : Document} (narrow : Document.widest doc < headLimit)
    (beyond : maxLevels < Document.levels doc) (rest : List UInt8) :
    read? (write doc ++ rest) = none := by
  rw [Document.levels, maxLevels] at beyond
  have entries : Value.widestEntry doc < headLimit := by
    rw [Document.widest] at narrow
    omega
  rw [read?_write_eq narrow, Reader.refuses_entries doc 255 (by omega) entries rest]
  rfl

/-- A document is read from its bytes, whatever follows them, exactly if it nests no deeper than the
reader follows. Its lengths are those of texts and lists in memory, which eight bytes can tell. -/
theorem read?_write_append {doc : Document} (narrow : Document.widest doc < headLimit)
    (rest : List UInt8) :
    read? (write doc ++ rest) = if Document.levels doc ≤ maxLevels then some doc else none := by
  split
  next within => exact read?_write_of_levels_le narrow within rest
  next beyond => exact read?_write_of_lt_levels narrow (Nat.lt_of_not_le beyond) rest

/-- Only a document that can be stored has the bytes of one. -/
theorem Storable.of_write_eq {doc other : Document} (storable : Storable doc)
    (same : write other = write doc) : Storable other := by
  have small : (write other).length < headLimit := same ▸ storable.size
  refine ⟨?_, small⟩
  by_contra beyond
  have refused := read?_write_of_lt_levels (widest_lt_of_length_lt small)
    (Nat.lt_of_not_le beyond) []
  rw [same, read?_write_of_levels_le storable.widest_lt storable.levels []] at refused
  cases refused

end Cbor

namespace Samples

def wrapped : Nat → Value
  | 0 => .null
  | n + 1 => .array [wrapped n]

theorem levels_wrapped (n : Nat) : (wrapped n).levels = 2 * n + 1 := by
  induction n with
  | zero => rfl
  | succ n ih =>
    rw [wrapped, Value.levels, Value.itemLevels, Value.itemLevels, ih]
    omega

theorem widest_wrapped_le (n : Nat) : (wrapped n).widest ≤ 1 := by
  induction n with
  | zero => exact Nat.zero_le _
  | succ n ih =>
    rw [wrapped, Value.widest, Value.widestItem, Value.widestItem, List.length_singleton]
    omega

/-- A document with a key twice, an empty key, and a value in arrays. -/
def nested (n : Nat) : Document :=
  [("k", wrapped n), ("", .integer Int64.minValue), ("k", .integer Int64.maxValue)]

theorem widest_nested_lt (n : Nat) : Document.widest (nested n) < Cbor.headLimit := by
  have := widest_wrapped_le n
  have key : (Cbor.utf8 "k").length = 1 := by decide +kernel
  have empty : (Cbor.utf8 "").length = 0 := by decide +kernel
  simp only [Document.widest, Document.size, nested, Value.widestEntry, key, empty, Value.widest,
    List.length_cons, List.length_nil, Cbor.headLimit]
  omega

theorem levels_nested (n : Nat) : Document.levels (nested n) = 2 * n + 3 := by
  simp only [Document.levels, nested, Value.entryLevels, levels_wrapped, Value.levels]
  omega

/-- A value may stand in 126 arrays, and in no more. -/
theorem read?_write_append_nested :
    Document.widest (nested 126) < Cbor.headLimit ∧ Document.widest (nested 127) < Cbor.headLimit ∧
    Cbor.read? (Cbor.write (nested 126) ++ [0xff]) = some (nested 126) ∧
    Cbor.read? (Cbor.write (nested 127) ++ [0xff]) = none := by
  have shallow := Cbor.read?_write_append (widest_nested_lt 126) [0xff]
  have deep := Cbor.read?_write_append (widest_nested_lt 127) [0xff]
  rw [levels_nested] at shallow deep
  exact ⟨widest_nested_lt 126, widest_nested_lt 127, shallow, deep⟩

end Samples

end DocMapper
