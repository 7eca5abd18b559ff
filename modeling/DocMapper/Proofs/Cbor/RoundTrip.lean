import DocMapper.Proofs.Cbor.Pieces

/-!
# Written documents are read again

The reader has a budget of levels, and `levels` is what a value needs of it: one for itself, one
more for the array that its items, bytes or entries stand in, and one more for each pair around a
nested value. Lengths are written in at most eight bytes, and `widest` is the longest one that a
value needs. A document within both bounds is read as it was written, whatever bytes follow.
-/

namespace DocMapper

namespace Value

mutual

/-- The levels that reading the value takes. -/
def levels : Value → Nat
  | .null | .bool _ | .integer _ | .text _ => 1
  | .bytes _ | .id _ => 2
  | .array items => 2 + itemLevels items
  | .document entries => 2 + entryLevels entries

/-- The levels that the items of an array take. -/
def itemLevels : List Value → Nat
  | [] => 0
  | item :: rest => max item.levels (itemLevels rest)

/-- The levels that the entries of a document take, pairs included. -/
def entryLevels : List (String × Value) → Nat
  | [] => 0
  | (_, value) :: rest => max (1 + value.levels) (entryLevels rest)

end

theorem levels_pos (value : Value) : 0 < value.levels := by
  cases value <;> simp only [levels] <;> omega

mutual

/-- The longest text, byte sequence, array or document in the value has this length. -/
def widest : Value → Nat
  | .null | .bool _ | .integer _ | .id _ => 0
  | .text s => (Cbor.utf8 s).length
  | .bytes bs => bs.length
  | .array items => max items.length (widestItem items)
  | .document entries => max entries.length (widestEntry entries)

def widestItem : List Value → Nat
  | [] => 0
  | item :: rest => max item.widest (widestItem rest)

/-- The longest length in the entries of a document, keys included. -/
def widestEntry : List (String × Value) → Nat
  | [] => 0
  | (key, value) :: rest => max (max (Cbor.utf8 key).length value.widest) (widestEntry rest)

end

end Value

/-- The levels that reading the document takes. -/
def Document.levels (doc : Document) : Nat :=
  1 + Value.entryLevels doc

/-- The longest length in the document, its own included. -/
def Document.widest (doc : Document) : Nat :=
  max (Document.size doc) (Value.widestEntry doc)

namespace Cbor

/-- The document is nested no deeper than the reader follows, and its byte form is no longer than a
length can tell. -/
structure Storable (doc : Document) : Prop where
  levels : Document.levels doc ≤ maxLevels
  size : (write doc).length < headLimit

theorem length_writeText_pos (text : String) : 0 < (writeText text).length := by
  have := Head.write_length_pos 3 (utf8 text).length
  rw [writeText, List.length_append]
  omega

/-- The bytes of a text are among those that it is written with. -/
theorem length_utf8_le (text : String) : (utf8 text).length ≤ (writeText text).length := by
  rw [writeText, List.length_append]
  omega

theorem length_le_writeShaped (shape : Shape) (contents : List UInt8) :
    contents.length ≤ (writeShaped shape contents).length := by
  rw [writeShaped, List.length_append]
  omega

theorem length_writeValue_pos (value : Value) : 0 < (writeValue value).length := by
  have shaped : ∀ shape contents, 0 < (writeShaped shape contents).length := by
    intro shape contents
    have := length_writeText_pos shape.name
    rw [writeShaped, List.length_append, List.length_append]
    omega
  cases value with
  | null => exact length_writeText_pos _
  | _ => exact shaped _ _

/-- Every item takes a byte. -/
theorem length_le_writeItems (items : List Value) : items.length ≤ (writeItems items).length := by
  induction items with
  | nil => simp
  | cons item rest ih =>
    have := length_writeValue_pos item
    rw [writeItems, List.length_append, List.length_cons]
    omega

/-- Every entry takes a byte. -/
theorem length_le_writeEntries (entries : List (String × Value)) :
    entries.length ≤ (writeEntries entries).length := by
  induction entries with
  | nil => simp
  | cons entry rest ih =>
    obtain ⟨key, value⟩ := entry
    have := length_writeValue_pos value
    simp only [writeEntries, List.length_append, List.length_cons]
    omega

/-- Every byte takes a byte. -/
theorem length_le_writeBytes (bytes : List UInt8) : bytes.length ≤ (writeBytes bytes).length := by
  have each : bytes.length ≤ (bytes.flatMap fun b => Head.write 0 b.toNat).length := by
    induction bytes with
    | nil => simp
    | cons b rest ih =>
      have := Head.write_length_pos 0 b.toNat
      rw [List.flatMap_cons, List.length_append, List.length_cons]
      omega
  rw [writeBytes, List.length_append]
  omega

mutual

/-- No length in a value is longer than the byte form of the value. -/
theorem widest_le_writeValue : ∀ v : Value, v.widest ≤ (writeValue v).length
  | .null | .bool _ | .integer _ | .id _ => Nat.zero_le _
  | .text s => by
    have := length_utf8_le s
    have := length_le_writeShaped .text (writeText s)
    rw [Value.widest, writeValue]
    omega
  | .bytes bs => by
    have := length_le_writeBytes bs
    have := length_le_writeShaped .bytes (writeBytes bs)
    rw [Value.widest, writeValue]
    omega
  | .array items => by
    have := length_le_writeItems items
    have := widestItem_le_writeItems items
    have := length_le_writeShaped .array (Head.write 4 items.length ++ writeItems items)
    rw [List.length_append] at this
    rw [Value.widest, writeValue]
    omega
  | .document entries => by
    have := length_le_writeEntries entries
    have := widestEntry_le_writeEntries entries
    have := length_le_writeShaped .document (Head.write 4 entries.length ++ writeEntries entries)
    rw [List.length_append] at this
    rw [Value.widest, writeValue]
    omega

theorem widestItem_le_writeItems : ∀ items : List Value,
    Value.widestItem items ≤ (writeItems items).length
  | [] => Nat.zero_le _
  | item :: rest => by
    have := widest_le_writeValue item
    have := widestItem_le_writeItems rest
    rw [Value.widestItem, writeItems, List.length_append]
    omega

theorem widestEntry_le_writeEntries : ∀ entries : List (String × Value),
    Value.widestEntry entries ≤ (writeEntries entries).length
  | [] => Nat.zero_le _
  | (key, value) :: rest => by
    have := length_utf8_le key
    have := widest_le_writeValue value
    have := widestEntry_le_writeEntries rest
    simp only [Value.widestEntry, writeEntries, List.length_append]
    omega

end

/-- No length in a document is longer than its byte form. -/
theorem widest_lt_of_length_lt {doc : Document} (small : (write doc).length < headLimit) :
    Document.widest doc < headLimit := by
  have := length_le_writeEntries doc
  have := widestEntry_le_writeEntries doc
  rw [write, List.length_append] at small
  rw [Document.widest, Document.size]
  omega

/-- What can be stored has no length that a head cannot tell. -/
theorem Storable.widest_lt {doc : Document} (storable : Storable doc) :
    Document.widest doc < headLimit :=
  widest_lt_of_length_lt storable.size

namespace Reader

theorem shape_writeShaped (shape : Shape) (contents rest : List UInt8) :
    Reader.shape (writeShaped shape contents ++ rest) = some (shape, contents ++ rest) := by
  rw [writeShaped, List.append_assoc]
  exact reads_shape shape (contents ++ rest)

/-- An entry is read as far as its value, whatever bytes that has. -/
theorem keyed_write {key : String} (bound : (utf8 key).length < headLimit) (bytes : List UInt8)
    (budget : Nat) (rest : List UInt8) :
    keyed (budget + 1) (Head.write 4 2 ++ (writeText key ++ bytes) ++ rest) =
      (value budget (bytes ++ rest)).map fun (v, rest) => ((key, v), rest) := by
  have head := @reads_untagged_array 2 (by decide) (writeText key ++ (bytes ++ rest))
  have name := reads_text bound (bytes ++ rest)
  simp only [keyed, pair, List.append_assoc, head, holds, Nat.le_refl, decide_true, if_true, name,
    Option.bind_eq_bind, Option.bind_some, Option.pure_def]
  cases value budget (bytes ++ rest) <;> rfl

theorem reads_keyed {key : String} {v : Value} {bytes : List UInt8} {budget : Nat}
    (bound : (utf8 key).length < headLimit) (reads : Reads (value budget) bytes v) :
    Reads (keyed (budget + 1)) (Head.write 4 2 ++ (writeText key ++ bytes)) (key, v) := by
  intro rest
  rw [keyed_write bound, reads rest]
  rfl

theorem value_writeArray {items : List Value} (bound : items.length < headLimit) (budget : Nat)
    (rest : List UInt8) :
    value (budget + 2) (writeValue (.array items) ++ rest) =
      (times (value budget) items.length (writeItems items ++ rest)).map fun (items, rest) =>
        (.array items, rest) := by
  have head := reads_untagged_array bound (writeItems items ++ rest)
  rw [value, writeValue, shape_writeShaped]
  simp only [Option.bind_eq_bind, Option.bind_some, element, sequence, List.append_assoc, head,
    Reader.items, Option.pure_def]
  cases times (value budget) items.length (writeItems items ++ rest) <;> rfl

theorem value_writeDocument {entries : List (String × Value)}
    (bound : entries.length < headLimit) (budget : Nat) (rest : List UInt8) :
    value (budget + 2) (writeValue (.document entries) ++ rest) =
      (times (keyed budget) entries.length (writeEntries entries ++ rest)).map
        fun (entries, rest) => (.document entries, rest) := by
  have head := reads_untagged_array bound (writeEntries entries ++ rest)
  rw [value, writeValue, shape_writeShaped]
  simp only [Option.bind_eq_bind, Option.bind_some, entry, sequence, List.append_assoc, head,
    Reader.items, Option.pure_def]
  cases times (keyed budget) entries.length (writeEntries entries ++ rest) <;> rfl

mutual

/-- A value within the budget is read as it was written. -/
theorem reads_value : ∀ (v : Value) (budget : Nat), v.levels ≤ budget → v.widest < headLimit →
    Reads (value budget) (writeValue v) v
  | v, 0, within, _ => absurd within (by have := v.levels_pos; omega)
  | .null, budget + 1, _, _ => by
    intro rest
    rw [value, writeValue, reads_shape_null rest]
    rfl
  | .bool b, budget + 1, _, _ => by
    intro rest
    rw [value, writeValue, shape_writeShaped]
    simp only [Option.bind_eq_bind, Option.bind_some, reads_bool b rest, Option.pure_def]
  | .integer n, budget + 1, _, _ => by
    intro rest
    rw [value, writeValue, shape_writeShaped]
    simp only [Option.bind_eq_bind, Option.bind_some, reads_int64 n rest, Option.pure_def]
  | .text s, budget + 1, _, narrow => by
    intro rest
    rw [Value.widest] at narrow
    rw [value, writeValue, shape_writeShaped]
    simp only [Option.bind_eq_bind, Option.bind_some, reads_text narrow rest, Option.pure_def]
  | .bytes bs, budget + 1, within, narrow => by
    intro rest
    rw [Value.levels] at within
    rw [Value.widest] at narrow
    have left : budget ≠ 0 := by omega
    rw [value, writeValue, shape_writeShaped]
    simp only [Option.bind_eq_bind, Option.bind_some, if_neg left, reads_bytes narrow rest,
      Option.pure_def]
  | .id oid, budget + 1, within, _ => by
    intro rest
    have left : 0 < budget := by
      rw [Value.levels] at within
      omega
    rw [value, writeValue, shape_writeShaped]
    simp only [Option.bind_eq_bind, Option.bind_some, reads_objectId left oid rest,
      Option.pure_def]
  | .array items, 1, within, _ => by
    rw [Value.levels] at within
    omega
  | .array items, budget + 2, within, narrow => by
    intro rest
    rw [Value.levels] at within
    rw [Value.widest] at narrow
    rw [value_writeArray (by omega), reads_items items budget (by omega) (by omega) rest]
    rfl
  | .document entries, 1, within, _ => by
    rw [Value.levels] at within
    omega
  | .document entries, budget + 2, within, narrow => by
    intro rest
    rw [Value.levels] at within
    rw [Value.widest] at narrow
    rw [value_writeDocument (by omega), reads_entries entries budget (by omega) (by omega) rest]
    rfl

/-- Items within the budget are read as they were written. -/
theorem reads_items : ∀ (items : List Value) (budget : Nat), Value.itemLevels items ≤ budget →
    Value.widestItem items < headLimit →
      Reads (times (value budget) items.length) (writeItems items) items
  | [], _, _, _ => fun _ => rfl
  | item :: others, budget, within, narrow => by
    intro rest
    rw [Value.itemLevels] at within
    rw [Value.widestItem] at narrow
    have first := reads_value item budget (by omega) (by omega) (writeItems others ++ rest)
    have later := reads_items others budget (by omega) (by omega) rest
    simp only [List.length_cons, times, writeItems, List.append_assoc, first, later,
      Option.bind_eq_bind, Option.bind_some, Option.pure_def]

/-- Entries within the budget are read as they were written. -/
theorem reads_entries : ∀ (entries : List (String × Value)) (budget : Nat),
    Value.entryLevels entries ≤ budget → Value.widestEntry entries < headLimit →
      Reads (times (keyed budget) entries.length) (writeEntries entries) entries
  | [], _, _, _ => fun _ => rfl
  | (_, v) :: _, 0, within, _ => by
    rw [Value.entryLevels] at within
    omega
  | (key, v) :: others, budget + 1, within, narrow => by
    intro rest
    rw [Value.entryLevels] at within
    rw [Value.widestEntry] at narrow
    have bound : (utf8 key).length < headLimit := by omega
    have first := reads_keyed bound (reads_value v budget (by omega) (by omega))
      (writeEntries others ++ rest)
    have later := reads_entries others (budget + 1) (by omega) (by omega) rest
    simp only [List.append_assoc] at first
    simp only [List.length_cons, times, writeEntries, List.append_assoc, first, later,
      Option.bind_eq_bind, Option.bind_some, Option.pure_def]

end

end Reader

theorem read?_write_eq {doc : Document} (narrow : Document.widest doc < headLimit)
    (rest : List UInt8) :
    read? (write doc ++ rest) =
      (Reader.times (Reader.keyed 255) doc.length (writeEntries doc ++ rest)).map Prod.fst := by
  have bound : doc.length < headLimit := by
    rw [Document.widest, Document.size] at narrow
    omega
  have head := Reader.reads_untagged_array bound (writeEntries doc ++ rest)
  have element : Reader.entry maxLevels = some (Reader.keyed 255) := rfl
  simp only [read?, write, Document.size, List.append_assoc, Reader.sequence, element, head,
    Option.bind_eq_bind, Option.bind_some, Reader.items]

/-- A document within the levels is read from its bytes, whatever follows them. -/
theorem read?_write_of_levels_le {doc : Document} (narrow : Document.widest doc < headLimit)
    (within : Document.levels doc ≤ maxLevels) (rest : List UInt8) :
    read? (write doc ++ rest) = some doc := by
  rw [Document.levels, maxLevels] at within
  have entries : Value.widestEntry doc < headLimit := by
    rw [Document.widest] at narrow
    omega
  rw [read?_write_eq narrow, Reader.reads_entries doc 255 (by omega) entries rest]
  rfl

end Cbor

end DocMapper
