import DocMapper.Proofs.Cbor.Depth
import DocMapper.Proofs.Cbor.Taking

/-!
# What was read is written and read again

The reader accepts more than is ever written, so that a document may come from bytes that are not
its own. Whatever the bytes, the document has no text and no list longer than they are, and it nests
as deep as the reader follows, with one exception. Bytes, identifiers and the empty array and
document may be spelled as a byte string, which takes no level, while they are written as arrays,
which take one: so they may stand on the last level.

The main result is that a document is read from its own bytes again exactly if nothing that a byte
string can spell stands on the last level.
-/

namespace DocMapper

/-! ### What a byte string can spell -/

/-- What a byte string can spell stands that many levels deep in the value. -/
inductive Value.SpelledAt : Nat → Value → Prop
  | bytes (bs : List UInt8) : SpelledAt 1 (.bytes bs)
  | id (oid : ObjectId) : SpelledAt 1 (.id oid)
  | emptyArray : SpelledAt 1 (.array [])
  | emptyDocument : SpelledAt 1 (.document [])
  | item {n : Nat} {items : List Value} {v : Value} (member : v ∈ items) (inner : SpelledAt n v) :
      SpelledAt (n + 2) (.array items)
  | entry {n : Nat} {entries : List (String × Value)} {key : String} {v : Value}
      (member : (key, v) ∈ entries) (inner : SpelledAt n v) : SpelledAt (n + 3) (.document entries)

/-- What a byte string can spell stands that many levels deep in the document. -/
inductive Document.SpelledAt : Nat → Document → Prop
  | entry {n : Nat} {doc : Document} {key : String} {v : Value} (member : (key, v) ∈ doc)
      (inner : v.SpelledAt n) : SpelledAt (n + 2) doc

namespace Value

variable {budget n : Nat} {v : Value} {items : List Value} {entries : List (String × Value)}
  {key : String}

theorem levels_le_itemLevels (member : v ∈ items) : v.levels ≤ itemLevels items := by
  induction items with
  | nil => cases member
  | cons first rest ih =>
    rw [itemLevels]
    obtain rfl | member := List.mem_cons.mp member
    · omega
    · have := ih member
      omega

theorem levels_lt_entryLevels (member : (key, v) ∈ entries) : v.levels < entryLevels entries := by
  induction entries with
  | nil => cases member
  | cons first rest ih =>
    obtain ⟨name, stored⟩ := first
    rw [entryLevels]
    obtain same | member := List.mem_cons.mp member
    · cases same
      omega
    · have := ih member
      omega

/-- What a byte string can spell takes one level more when it is written. -/
theorem SpelledAt.lt_levels (spelled : v.SpelledAt n) : n < v.levels := by
  induction spelled with
  | bytes | id | emptyArray | emptyDocument => simp [levels, itemLevels, entryLevels]
  | item member _ ih =>
    have := levels_le_itemLevels member
    rw [levels]
    omega
  | entry member _ ih =>
    have := levels_lt_entryLevels member
    rw [levels]
    omega

/-- The value takes the levels of a budget, or one more for what a byte string can spell. -/
def Within (budget : Nat) (v : Value) : Prop :=
  v.levels ≤ budget ∨ v.levels = budget + 1 ∧ v.SpelledAt budget

theorem itemLevels_of_within (within : ∀ v ∈ items, v.Within budget) :
    itemLevels items ≤ budget ∨
      itemLevels items = budget + 1 ∧ ∃ v ∈ items, v.SpelledAt budget := by
  induction items with
  | nil => exact .inl (Nat.zero_le _)
  | cons first rest ih =>
    obtain ⟨here, later⟩ := List.forall_mem_cons.mp within
    rw [itemLevels]
    obtain fits | ⟨exceeds, v, member, spelled⟩ := ih later
    · obtain fits' | ⟨exceeds', spelled'⟩ := here
      · exact .inl (by omega)
      · exact .inr ⟨by omega, first, List.mem_cons_self, spelled'⟩
    · refine .inr ⟨?_, v, List.mem_cons_of_mem _ member, spelled⟩
      obtain fits' | ⟨exceeds', -⟩ := here <;> omega

theorem entryLevels_of_within (within : ∀ entry ∈ entries, entry.2.Within budget) :
    entryLevels entries ≤ budget + 1 ∨
      entryLevels entries = budget + 2 ∧ ∃ entry ∈ entries, entry.2.SpelledAt budget := by
  induction entries with
  | nil => exact .inl (Nat.zero_le _)
  | cons first rest ih =>
    obtain ⟨here, later⟩ := List.forall_mem_cons.mp within
    rw [entryLevels]
    obtain fits | ⟨exceeds, entry, member, spelled⟩ := ih later
    · obtain fits' | ⟨exceeds', spelled'⟩ := here
      · exact .inl (by omega)
      · exact .inr ⟨by omega, first, List.mem_cons_self, spelled'⟩
    · refine .inr ⟨?_, entry, List.mem_cons_of_mem _ member, spelled⟩
      obtain fits' | ⟨exceeds', -⟩ := here <;> omega

theorem within_array (within : ∀ v ∈ items, v.Within budget) :
    (Value.array items).Within (budget + 2) := by
  rw [Within, levels]
  obtain fits | ⟨exceeds, v, member, spelled⟩ := itemLevels_of_within within
  · exact .inl (by omega)
  · exact .inr ⟨by omega, .item member spelled⟩

theorem within_document (within : ∀ entry ∈ entries, entry.2.Within budget) :
    (Value.document entries).Within (budget + 3) := by
  rw [Within, levels]
  obtain fits | ⟨exceeds, entry, member, spelled⟩ := entryLevels_of_within within
  · exact .inl (by omega)
  · exact .inr ⟨by omega, .entry member spelled⟩

theorem widestItem_le (each : ∀ v ∈ items, v.widest ≤ n) : widestItem items ≤ n := by
  induction items with
  | nil => exact Nat.zero_le _
  | cons first rest ih =>
    obtain ⟨here, later⟩ := List.forall_mem_cons.mp each
    have := ih later
    rw [widestItem]
    omega

theorem widestEntry_le
    (each : ∀ entry ∈ entries, max (Cbor.utf8 entry.1).length entry.2.widest ≤ n) :
    widestEntry entries ≤ n := by
  induction entries with
  | nil => exact Nat.zero_le _
  | cons first rest ih =>
    obtain ⟨here, later⟩ := List.forall_mem_cons.mp each
    have := ih later
    rw [widestEntry]
    omega

end Value

/-- What a byte string can spell takes one level more when the document is written. -/
theorem Document.SpelledAt.lt_levels {n : Nat} {doc : Document} (spelled : doc.SpelledAt n) :
    n < Document.levels doc := by
  cases spelled with
  | entry member inner =>
    have := inner.lt_levels
    have := Value.levels_lt_entryLevels member
    rw [Document.levels]
    omega

namespace Cbor

namespace Reader

variable {α : Type} {element : Reader α} {input rest : List UInt8}

/-! ### Values and entries -/

/-- How long an entry is: as its key, or the longest length in its value. -/
def entryLength (entry : String × Value) : Nat :=
  max (utf8 entry.1).length entry.2.widest

theorem yields_pair {value : Reader Value} {Good : Value → Prop}
    (yields : Yields value Value.widest Good) :
    Yields (pair value) entryLength (fun entry => Good entry.2) := by
  -- The key, and what stands behind it for the value.
  have parts : ∀ {input rest : List UInt8} {entry : String × Value},
      pair value input = some (entry, rest) → ∃ middle,
        value middle = some (entry.2, rest) ∧
          (utf8 entry.1).length + middle.length < input.length := by
    intro input rest entry read
    simp only [pair, Option.bind_eq_bind, Option.bind_eq_some_iff, Prod.exists] at read
    obtain ⟨head, middle, isHead, read⟩ := read
    have := untagged_length isHead
    split at read
    · split at read
      · simp only [Option.bind_eq_some_iff, Option.pure_def, Option.some.injEq, Prod.mk.injEq,
          Prod.exists] at read
        obtain ⟨key, behind, isKey, v, _, isValue, rfl, rfl⟩ := read
        have := text_length isKey
        exact ⟨behind, isValue, by simp only; omega⟩
      · cases read
    · cases read
  constructor
  · intro input rest entry read
    obtain ⟨middle, isValue, -⟩ := parts read
    exact yields.good isValue
  · intro input rest entry read
    obtain ⟨middle, isValue, key⟩ := parts read
    have := yields.takes isValue
    rw [entryLength]
    omega

theorem yields_nothing {length : α → Nat} (refuses : ∀ input, element input = none) :
    Yields element length (fun _ => False) where
  good {input} _ _ read := by
    rw [refuses input] at read
    cases read
  takes {input} _ _ read := by
    rw [refuses input] at read
    cases read

theorem yields_keyed {budget : Nat}
    (yields : Yields (value budget) Value.widest (Value.Within budget)) :
    Yields (keyed (budget + 1)) entryLength (fun entry => entry.2.Within budget) := by
  have isPair : keyed (budget + 1) = pair (value budget) := by
    funext input
    rw [keyed]
  rw [isPair]
  exact yields_pair yields

/-- What was read is within a budget, and no text and no list in it is longer than the bytes that it
takes. -/
def Fits (budget : Nat) (v : Value) (input rest : List UInt8) : Prop :=
  v.Within budget ∧ v.widest + rest.length < input.length

theorem fits_array {levels : Nat} {items : List Value}
    (ih : ∀ fewer < levels, Yields (value fewer) Value.widest (Value.Within fewer))
    (read : sequence (Reader.element levels) (fun _ => none) input = some (items, rest)) :
    Fits (levels + 1) (.array items) input rest := by
  have wide : ∀ Good,
      (∀ reader, Reader.element levels = some reader → Yields reader Value.widest Good) →
      (∀ item ∈ items, Good item) ∧ (Value.array items).widest + rest.length < input.length := by
    intro Good yields
    obtain ⟨good, count, each⟩ := sequence_all_none yields read
    have widest : Value.widestItem items ≤ input.length - rest.length - 1 := by
      apply Value.widestItem_le
      intro item member
      have := each item member
      omega
    refine ⟨good, ?_⟩
    rw [Value.widest]
    omega
  cases levels with
  | zero =>
    -- No level is left for an array, so there is a byte string, and no byte stands for a value.
    obtain ⟨nothing, narrow⟩ := wide (fun _ => False) (fun reader isReader => by cases isReader)
    obtain rfl := List.eq_nil_iff_forall_not_mem.mpr nothing
    exact ⟨.inr ⟨by simp [Value.levels, Value.itemLevels], .emptyArray⟩, narrow⟩
  | succ levels =>
    obtain ⟨within, narrow⟩ := wide (Value.Within levels) fun reader isReader => by
      cases isReader
      exact ih levels (Nat.lt_succ_self _)
    exact ⟨Value.within_array within, narrow⟩

theorem fits_document {levels : Nat} {entries : List (String × Value)}
    (ih : ∀ fewer < levels, Yields (value fewer) Value.widest (Value.Within fewer))
    (read : sequence (entry levels) (fun _ => none) input = some (entries, rest)) :
    Fits (levels + 1) (.document entries) input rest := by
  have wide : ∀ Good, (∀ reader, entry levels = some reader → Yields reader entryLength Good) →
      (∀ entry ∈ entries, Good entry) ∧
        (Value.document entries).widest + rest.length < input.length := by
    intro Good yields
    obtain ⟨good, count, each⟩ := sequence_all_none yields read
    have widest : Value.widestEntry entries ≤ input.length - rest.length - 1 := by
      apply Value.widestEntry_le
      intro entry member
      have := each entry member
      rw [entryLength] at this
      omega
    refine ⟨good, ?_⟩
    rw [Value.widest]
    omega
  match levels with
  | 0 =>
    obtain ⟨nothing, narrow⟩ := wide (fun _ => False) (fun reader isReader => by cases isReader)
    obtain rfl := List.eq_nil_iff_forall_not_mem.mpr nothing
    exact ⟨.inr ⟨by simp [Value.levels, Value.entryLevels], .emptyDocument⟩, narrow⟩
  | 1 =>
    -- A level is left for the array of the entries, and none for an entry in it.
    obtain ⟨nothing, narrow⟩ := wide (fun _ => False) fun reader isReader => by
      cases isReader
      exact yields_nothing fun input => by rw [keyed]
    obtain rfl := List.eq_nil_iff_forall_not_mem.mpr nothing
    exact ⟨.inl (by simp [Value.levels, Value.entryLevels]), narrow⟩
  | levels + 2 =>
    obtain ⟨within, narrow⟩ := wide (fun entry => entry.2.Within levels) fun reader isReader => by
      cases isReader
      exact yields_keyed (ih levels (by omega))
    exact ⟨Value.within_document within, narrow⟩

theorem fits_value {budget : Nat} {v : Value}
    (ih : ∀ fewer < budget, Yields (value fewer) Value.widest (Value.Within fewer))
    (read : value budget input = some (v, rest)) : Fits budget v input rest := by
  cases budget with
  | zero =>
    rw [value] at read
    cases read
  | succ levels =>
    have fewer : ∀ fewer < levels, Yields (value fewer) Value.widest (Value.Within fewer) :=
      fun fewer smaller => ih fewer (by omega)
    simp only [value, Option.bind_eq_bind, Option.bind_eq_some_iff, Prod.exists] at read
    obtain ⟨shape, middle, isShape, read⟩ := read
    have := shape_length isShape
    cases shape
    all_goals
      simp only [Option.bind_eq_some_iff, Option.pure_def, Option.some.injEq, Prod.mk.injEq,
        Prod.exists] at read
    case null =>
      obtain ⟨rfl, rfl⟩ := read
      exact ⟨.inl (by simp [Value.levels]), by rw [Value.widest]; omega⟩
    case bool =>
      obtain ⟨b, _, isBool, rfl, rfl⟩ := read
      have := bool_length isBool
      exact ⟨.inl (by simp [Value.levels]), by rw [Value.widest]; omega⟩
    case integer =>
      obtain ⟨n, _, isInteger, rfl, rfl⟩ := read
      have := int64_length isInteger
      exact ⟨.inl (by simp [Value.levels]), by rw [Value.widest]; omega⟩
    case text =>
      obtain ⟨s, _, isText, rfl, rfl⟩ := read
      have := text_length isText
      exact ⟨.inl (by simp [Value.levels]), by rw [Value.widest]; omega⟩
    case bytes =>
      obtain ⟨bs, _, areBytes, rfl, rfl⟩ := read
      have := byteSequence_length areBytes
      refine ⟨?_, by rw [Value.widest]; omega⟩
      cases levels with
      | zero => exact .inr ⟨by simp [Value.levels], .bytes bs⟩
      | succ => exact .inl (by simp [Value.levels])
    case id =>
      obtain ⟨oid, _, isId, rfl, rfl⟩ := read
      have := objectId_length isId
      refine ⟨?_, by rw [Value.widest]; omega⟩
      cases levels with
      | zero => exact .inr ⟨by simp [Value.levels], .id oid⟩
      | succ => exact .inl (by simp [Value.levels])
    case array =>
      obtain ⟨items, _, areItems, rfl, rfl⟩ := read
      obtain ⟨within, narrow⟩ := fits_array fewer areItems
      exact ⟨within, by omega⟩
    case document =>
      obtain ⟨entries, _, areEntries, rfl, rfl⟩ := read
      obtain ⟨within, narrow⟩ := fits_document fewer areEntries
      exact ⟨within, by omega⟩

theorem yields_value (budget : Nat) : Yields (value budget) Value.widest (Value.Within budget) := by
  induction budget using Nat.strongRecOn with
  | ind budget ih =>
    constructor
    · intro input rest v read
      exact (fits_value ih read).1
    · intro input rest v read
      exact (fits_value ih read).2

end Reader

/-- Whatever bytes a document was read from, no text and no list in it is longer than they are, and
it takes the levels that the reader follows, or one more for what a byte string can spell. -/
theorem fits_of_read? {bytes : List UInt8} {doc : Document} (isRead : read? bytes = some doc) :
    Document.widest doc < bytes.length ∧ (Document.levels doc ≤ maxLevels ∨
      Document.levels doc = maxLevels + 1 ∧ Document.SpelledAt maxLevels doc) := by
  rw [read?, Option.map_eq_some_iff] at isRead
  obtain ⟨⟨doc, rest⟩, areEntries, rfl⟩ := isRead
  obtain ⟨within, count, each⟩ := Reader.sequence_all_none (fun reader isReader => by
    cases isReader
    exact Reader.yields_keyed (Reader.yields_value 254)) areEntries
  show Document.widest doc < bytes.length ∧ (Document.levels doc ≤ maxLevels ∨
    Document.levels doc = maxLevels + 1 ∧ Document.SpelledAt maxLevels doc)
  constructor
  · have widest : Value.widestEntry doc ≤ bytes.length - 1 := by
      apply Value.widestEntry_le
      intro entry member
      have := each entry member
      rw [Reader.entryLength] at this
      omega
    rw [Document.widest, Document.size]
    omega
  · rw [Document.levels, maxLevels]
    obtain fits | ⟨exceeds, ⟨key, v⟩, member, spelled⟩ := Value.entryLevels_of_within within
    · exact .inl (by omega)
    · exact .inr ⟨by omega, .entry member spelled⟩

/-- What was read is written and read again, unless something that a byte string can spell stands on
the last level: then the bytes that are written are not read. The bytes are those in memory, whose
number eight bytes can tell. -/
theorem read?_write_of_read? {bytes : List UInt8} {doc : Document}
    (inMemory : bytes.length < headLimit) (isRead : read? bytes = some doc) :
    (¬ Document.SpelledAt maxLevels doc → read? (write doc) = some doc) ∧
      (Document.SpelledAt maxLevels doc → read? (write doc) = none) := by
  obtain ⟨shorter, fits⟩ := fits_of_read? isRead
  have narrow : Document.widest doc < headLimit := by omega
  constructor
  · intro nothing
    have within : Document.levels doc ≤ maxLevels := by
      obtain within | ⟨-, spelled⟩ := fits
      · exact within
      · exact absurd spelled nothing
    have again := read?_write_of_levels_le narrow within []
    rwa [List.append_nil] at again
  · intro spelled
    have refused := read?_write_of_lt_levels narrow spelled.lt_levels []
    rwa [List.append_nil] at refused

end Cbor

namespace Samples

def tucked : Nat → Value
  | 0 => .bytes [7]
  | n + 1 => .array [tucked n]

/-- The byte as a byte string, in as many arrays. -/
def tuckedLoosely : Nat → List UInt8
  | 0 => Cbor.writeShaped .bytes (Cbor.Head.write 2 1 ++ [7])
  | n + 1 => Cbor.writeShaped .array (Cbor.Head.write 4 1 ++ tuckedLoosely n)

/-- One entry, and bytes for its value. -/
def entryLoosely (bytes : List UInt8) : List UInt8 :=
  Cbor.Head.write 4 1 ++ (Cbor.Head.write 4 2 ++ (Cbor.writeText "k" ++ bytes))

/-- A byte in arrays in a document in a document. -/
def drawer (n : Nat) : Document :=
  [("k", .document [("k", tucked n)])]

def drawerLoosely (n : Nat) : List UInt8 :=
  entryLoosely (Cbor.writeShaped .document (entryLoosely (tuckedLoosely n)))

theorem spelledAt_tucked (n : Nat) : (tucked n).SpelledAt (2 * n + 1) := by
  induction n with
  | zero => exact .bytes [7]
  | succ n ih => exact .item (List.mem_singleton.mpr rfl) ih

theorem spelledAt_drawer (n : Nat) : Document.SpelledAt (2 * n + 6) (drawer n) :=
  .entry (List.mem_singleton.mpr rfl) (.entry (List.mem_singleton.mpr rfl) (spelledAt_tucked n))

theorem levels_drawer (n : Nat) : Document.levels (drawer n) = 2 * n + 7 := by
  have inner : (tucked n).levels = 2 * n + 2 := by
    induction n with
    | zero => rfl
    | succ n ih =>
      rw [tucked, Value.levels, Value.itemLevels, Value.itemLevels, ih]
      omega
  simp only [Document.levels, drawer, Value.entryLevels, Value.levels, inner]
  omega

section

open Cbor Cbor.Reader

theorem reads_tucked (spare n : Nat) :
    Reads (value (spare + 2 * n + 1)) (tuckedLoosely n) (tucked n) := by
  induction n with
  | zero =>
    intro rest
    have head : Reads untagged (Head.write 2 1) (.bytes (some 1)) :=
      reads_untagged (Head.reads_write (by omega) (by decide) fun _ => rfl) (by simp)
    rw [tuckedLoosely, value, shape_writeShaped]
    simp only [Option.bind_eq_bind, Option.bind_some, List.append_assoc, Reader.sequence, head _]
    rfl
  | succ n ih =>
    intro rest
    have head := @reads_untagged_array 1 (by decide) (tuckedLoosely n ++ rest)
    have inner : element (spare + 2 * (n + 1)) = some (value (spare + 2 * n + 1)) := rfl
    have item := ih rest
    rw [tuckedLoosely, value, shape_writeShaped]
    simp only [Option.bind_eq_bind, Option.bind_some, inner, Reader.sequence, List.append_assoc,
      head, items, times, item]
    rfl

/-- An entry with any bytes that its value is read from. -/
theorem reads_entryLoosely {bytes : List UInt8} {v : Value} {budget : Nat}
    (reads : Reads (value budget) bytes v) :
    Reads (Reader.sequence (some (keyed (budget + 1))) (fun _ => none)) (entryLoosely bytes)
      [("k", v)] := by
  intro rest
  have key : (utf8 "k").length < headLimit := by decide +kernel
  have first := reads_keyed key reads rest
  have head := @reads_untagged_array 1 (by decide)
    (Head.write 4 2 ++ (writeText "k" ++ bytes) ++ rest)
  rw [Reader.sequence, entryLoosely, List.append_assoc, head]
  simp only [Option.bind_eq_bind, Option.bind_some, items, times, first]
  rfl

theorem read?_drawerLoosely {n : Nat} (within : n ≤ 125) :
    read? (drawerLoosely n) = some (drawer n) := by
  obtain ⟨spare, isSpare⟩ := Nat.exists_eq_add_of_le' (Nat.mul_le_mul_left 2 within)
  have isEntry : entry maxLevels = some (keyed (spare + 2 * n + 4 + 1)) := by
    rw [maxLevels, show 256 = spare + 2 * n + 4 + 1 + 1 by omega, entry]
  have inner : Reads (value (spare + 2 * n + 4))
      (writeShaped .document (entryLoosely (tuckedLoosely n)))
      (.document [("k", tucked n)]) := by
    intro rest
    have entries := reads_entryLoosely (reads_tucked spare n) rest
    rw [value, shape_writeShaped]
    simp only [Option.bind_eq_bind, Option.bind_some, entry, entries]
    rfl
  have all := reads_entryLoosely inner []
  rw [List.append_nil] at all
  rw [read?, isEntry, drawerLoosely, all]
  rfl

end

/-- A byte string in 124 arrays is read and written and read again; in 125 it is read only once. -/
theorem read?_write_drawer :
    Cbor.read? (drawerLoosely 124) = some (drawer 124) ∧
    ¬ Document.SpelledAt Cbor.maxLevels (drawer 124) ∧
    Cbor.read? (Cbor.write (drawer 124)) = some (drawer 124) ∧
    Cbor.read? (drawerLoosely 125) = some (drawer 125) ∧
    Document.SpelledAt Cbor.maxLevels (drawer 125) ∧
    Cbor.read? (Cbor.write (drawer 125)) = none := by
  have first : Cbor.read? (drawerLoosely 124) = some (drawer 124) :=
    read?_drawerLoosely (by decide)
  have second : Cbor.read? (drawerLoosely 125) = some (drawer 125) :=
    read?_drawerLoosely (by decide)
  have nothing : ¬ Document.SpelledAt Cbor.maxLevels (drawer 124) := by
    intro spelled
    have := spelled.lt_levels
    rw [levels_drawer, Cbor.maxLevels] at this
    omega
  have spelled : Document.SpelledAt Cbor.maxLevels (drawer 125) := spelledAt_drawer 125
  have again := (Cbor.read?_write_of_read? (by decide +kernel) first).1 nothing
  have refused := (Cbor.read?_write_of_read? (by decide +kernel) second).2 spelled
  exact ⟨first, nothing, again, second, spelled, refused⟩

/-- A byte string in 125 arrays is read, and written as an array that is not. -/
theorem drawer_lost :
    Cbor.read? (drawerLoosely 125) = some (drawer 125) ∧
    Cbor.read? (Cbor.write (drawer 125)) = none := by
  have isRead : Cbor.read? (drawerLoosely 125) = some (drawer 125) :=
    read?_drawerLoosely (by decide)
  have narrow : Document.widest (drawer 125) < Cbor.headLimit := by decide +kernel
  have beyond : Cbor.maxLevels < Document.levels (drawer 125) := by
    rw [levels_drawer, Cbor.maxLevels]
    omega
  have refused := Cbor.read?_write_of_lt_levels narrow beyond []
  rw [List.append_nil] at refused
  exact ⟨isRead, refused⟩

end Samples

end DocMapper
