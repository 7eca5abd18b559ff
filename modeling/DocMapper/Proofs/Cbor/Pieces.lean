import Mathlib.Algebra.Ring.Nat
import DocMapper.Cbor.Reader
import DocMapper.Cbor.Writer

/-!
# Reading the pieces of written documents

A reader *reads* bytes as something if it takes exactly these bytes off the front of any input and
gives that thing back. The pieces that values are written with are read so: heads in the shortest
form, texts, integers, truth values, bytes, identifiers and the names of shapes. Lengths are
written in at most eight bytes, so each of them has to be below `headLimit`.
-/

namespace DocMapper.Cbor

/-- What the argument of a head can be at most, and one more. -/
def headLimit : Nat := 18446744073709551616

/-- The reader takes the bytes off any input and gives the item. -/
def Reads {α : Type} (reader : Reader α) (bytes : List UInt8) (item : α) : Prop :=
  ∀ rest, reader (bytes ++ rest) = some (item, rest)

/-! ### Heads -/

theorem ofBigEndian_bigEndian (width n : Nat) (bound : n < 256 ^ width) :
    ofBigEndian (bigEndian width n) = n := by
  induction width generalizing n with
  | zero =>
    have : n = 0 := by simpa using bound
    subst this
    rfl
  | succ width ih =>
    have smaller : n / 256 < 256 ^ width := by
      rw [Nat.pow_succ] at bound
      omega
    rw [bigEndian, ofBigEndian_append, ih _ smaller, UInt8.toNat_ofNat']
    omega

namespace Head

/-- The argument behind a first byte that announces `width` bytes of it. -/
private theorem argument?_bigEndian {info width n : Nat} (lower : 24 ≤ info) (upper : info < 28)
    (isWidth : 1 <<< (info - 24) = width) (bound : n < 256 ^ width) (rest : List UInt8) :
    argument? info (bigEndian width n ++ rest) = some (some n, rest) := by
  have taken := take?_append (bigEndian width n) rest
  rw [length_bigEndian] at taken
  rw [argument?]
  rw [if_neg (by omega), if_pos upper, isWidth, taken]
  show some (some (ofBigEndian (bigEndian width n)), rest) = _
  rw [ofBigEndian_bigEndian width n bound]

/-- A first byte tells its major type and its low five bits. -/
private theorem read?_first {major info : Nat} (isMajor : major < 8) (isInfo : info < 32)
    {argument : Option Nat} {head : Head} {input rest : List UInt8}
    (isArgument : argument? info input = some (argument, rest))
    (isHead : ofParts? major info argument = some head) :
    read? (UInt8.ofNat (major * 32 + info) :: input) = some (head, rest) := by
  have first : (UInt8.ofNat (major * 32 + info)).toNat = major * 32 + info := by
    rw [UInt8.toNat_ofNat']
    omega
  have low : (major * 32 + info) % 32 = info := by omega
  have high : (major * 32 + info) / 32 = major := by omega
  simp only [read?, first, low, high, isArgument, isHead, Option.bind_eq_bind, Option.bind_some,
    Option.pure_def]

/-- A head in the shortest form is read as it was written. -/
theorem reads_write {major n : Nat} {head : Head} (isMajor : major < 8) (bound : n < headLimit)
    (isHead : ∀ info, ofParts? major info (some n) = some head) :
    Reads read? (write major n) head := by
  intro rest
  rw [write]
  rw [headLimit] at bound
  split
  next small =>
    refine read?_first isMajor (by omega) ?_ (isHead n)
    simp [argument?, small]
  split
  next small =>
    exact read?_first isMajor (by omega)
      (argument?_bigEndian (by omega) (by omega) rfl small rest) (isHead 24)
  split
  next small =>
    exact read?_first isMajor (by omega)
      (argument?_bigEndian (by omega) (by omega) rfl small rest) (isHead 25)
  split
  next small =>
    exact read?_first isMajor (by omega)
      (argument?_bigEndian (by omega) (by omega) rfl small rest) (isHead 26)
  · exact read?_first isMajor (by omega)
      (argument?_bigEndian (by omega) (by omega) rfl bound rest) (isHead 27)

theorem write_length_pos (major n : Nat) : 0 < (write major n).length := by
  rw [write]
  split
  · simp
  split
  · simp
  split
  · simp
  split <;> simp

end Head

namespace Reader

theorem reads_tagged {bytes : List UInt8} {head : Head} (reads : Reads Head.read? bytes head)
    (noTag : ∀ n, head ≠ .tag n) : Reads tagged bytes ([], head) := by
  intro rest
  rw [tagged]
  split
  next failed =>
    rw [reads rest] at failed
    cases failed
  next n _ isTag =>
    rw [reads rest] at isTag
    cases isTag
    exact absurd rfl (noTag n)
  next found =>
    rw [reads rest] at found
    cases found
    rfl

theorem reads_untagged {bytes : List UInt8} {head : Head} (reads : Reads Head.read? bytes head)
    (noTag : ∀ n, head ≠ .tag n) : Reads untagged bytes head := by
  intro rest
  rw [untagged, reads_tagged reads noTag rest]
  rfl

theorem reads_untagged_array {n : Nat} (bound : n < headLimit) :
    Reads untagged (Head.write 4 n) (.array (some n)) :=
  reads_untagged (Head.reads_write (by omega) bound fun _ => rfl) (by simp)

theorem reads_untagged_map : Reads untagged (Head.write 5 1) (.map (some 1)) :=
  reads_untagged (Head.reads_write (by omega) (by decide) fun _ => rfl) (by simp)

theorem reads_untagged_text {n : Nat} (bound : n < headLimit) :
    Reads untagged (Head.write 3 n) (.text (some n)) :=
  reads_untagged (Head.reads_write (by omega) bound fun _ => rfl) (by simp)

end Reader

/-! ### Texts and shapes -/

/-- Every text is the text of its own bytes. -/
theorem ofUtf8?_utf8 (text : String) : ofUtf8? (utf8 text) = some text := by
  have same : (⟨(utf8 text).toArray⟩ : ByteArray) = text.toUTF8 := by
    simp [utf8]
  have valid : text.toUTF8.IsValidUTF8 := by
    simpa using text.isValidUTF8
  rw [ofUtf8?, same, String.fromUTF8?, dif_pos valid]
  rfl

theorem take?_utf8 (text : String) (rest : List UInt8) :
    take? (utf8 text).length (utf8 text ++ rest) = some (utf8 text, rest) :=
  take?_append (utf8 text) rest

namespace Shape

theorem ofName?_name (shape : Shape) : ofName? (utf8 shape.name) = some shape := by
  cases shape <;> decide +kernel

theorem length_name_lt (shape : Shape) : (utf8 shape.name).length < headLimit := by
  cases shape <;> decide +kernel

end Shape

namespace Reader

theorem reads_text {text : String} (bound : (utf8 text).length < headLimit) :
    Reads Reader.text (writeText text) text := by
  intro rest
  have head := reads_untagged_text bound (utf8 text ++ rest)
  simp only [Reader.text, writeText, List.append_assoc, head, Option.bind_eq_bind,
    Option.bind_some, textLength?, Reader.string, take?_utf8, Option.map_some]
  simp [List.mapM_cons, ofUtf8?_utf8, String.join]

theorem reads_shapeName (shape : Shape) :
    Reads (shapeName (utf8 shape.name).length) (utf8 shape.name) shape := by
  intro rest
  simp [shapeName, take?_utf8, Shape.ofName?_name]

theorem reads_shape_null : Reads Reader.shape (writeText Shape.null.name) .null := by
  intro rest
  have head := reads_untagged_text (Shape.length_name_lt .null) (utf8 Shape.null.name ++ rest)
  simp only [Reader.shape, writeText, List.append_assoc, head, Option.bind_eq_bind,
    Option.bind_some]
  exact reads_shapeName .null rest

/-- Any other shape is the key of a map with one entry. -/
theorem reads_shape (shape : Shape) :
    Reads Reader.shape (Head.write 5 1 ++ writeText shape.name) shape := by
  intro rest
  have outer := reads_untagged_map (writeText shape.name ++ rest)
  have head := reads_untagged_text (Shape.length_name_lt shape) (utf8 shape.name ++ rest)
  simp only [Reader.shape, List.append_assoc, outer, Option.bind_eq_bind, Option.bind_some]
  simp only [writeText, List.append_assoc, head, Option.bind_some]
  exact reads_shapeName shape rest

/-! ### Plain contents -/

theorem reads_bool (b : Bool) : Reads Reader.bool [if b then 0xf5 else 0xf4] b := by
  intro rest
  have head : ∀ b : Bool, Reads Head.read? [if b then 0xf5 else 0xf4]
      (.simple (if b then 21 else 20)) := by
    intro b rest
    cases b <;> rfl
  have untagged := reads_untagged (head b) (by simp) rest
  rw [Reader.bool, untagged]
  cases b <;> rfl

theorem reads_integer_positive {n : Nat} (bound : n < headLimit) :
    Reads Reader.integer (Head.write 0 n) (n : Int) := by
  intro rest
  have head : Reads Head.read? (Head.write 0 n) (.positive n) :=
    Head.reads_write (by omega) bound fun _ => rfl
  rw [Reader.integer, reads_tagged head (by simp) rest]
  rfl

/-- A negative number, by its distance from minus one. -/
theorem reads_integer_negative {n : Nat} (bound : n < headLimit) :
    Reads Reader.integer (Head.write 1 n) (-1 - n : Int) := by
  intro rest
  have head : Reads Head.read? (Head.write 1 n) (.negative n) :=
    Head.reads_write (by omega) bound fun _ => rfl
  rw [Reader.integer, reads_tagged head (by simp) rest]
  rfl

theorem reads_int64 (n : Int64) : Reads Reader.int64 (writeInteger n) n := by
  have lower : -9223372036854775808 ≤ n.toInt := n.le_toInt
  have upper : n.toInt < 9223372036854775808 := n.toInt_lt
  have read : Reads Reader.integer (writeInteger n) n.toInt := by
    rw [writeInteger]
    cases same : n.toInt with
    | ofNat k =>
      rw [same] at upper
      have small : (k : Int) < 9223372036854775808 := upper
      exact reads_integer_positive (by unfold headLimit; omega)
    | negSucc k =>
      rw [same] at lower
      have value : (-1 - k : Int) = Int.negSucc k := by omega
      show Reads Reader.integer (Head.write 1 k) (Int.negSucc k)
      rw [← value]
      exact reads_integer_negative (by unfold headLimit; omega)
  intro rest
  have range : Int64.minValue.toInt ≤ n.toInt ∧ n.toInt ≤ Int64.maxValue.toInt :=
    ⟨n.minValue_le_toInt, n.toInt_le⟩
  rw [Reader.int64, read rest]
  show (if _ then _ else _) = _
  rw [if_pos range, Int64.ofInt_toInt]
  rfl

theorem reads_byte (b : UInt8) : Reads Reader.byte (Head.write 0 b.toNat) b := by
  intro rest
  have bound : b.toNat < 256 := b.toNat_lt
  have read := @reads_integer_positive b.toNat (by unfold headLimit; omega) rest
  have range : (0 : Int) ≤ b.toNat ∧ (b.toNat : Int) < 256 := by omega
  simp [Reader.byte, read, range]

theorem reads_times {α : Type} {element : Reader α} {write : α → List UInt8} (items : List α)
    (each : ∀ item ∈ items, Reads element (write item) item) :
    Reads (times element items.length) (items.flatMap write) items := by
  induction items with
  | nil => exact fun rest => rfl
  | cons item items ih =>
    intro rest
    have first := each item List.mem_cons_self (items.flatMap write ++ rest)
    have others := ih (fun other member => each other (List.mem_cons_of_mem _ member)) rest
    simp only [List.length_cons, times, List.flatMap_cons, List.append_assoc, first, others,
      Option.bind_eq_bind, Option.bind_some, Option.pure_def]

/-- Bytes, where a level is left for the array that holds them. -/
theorem reads_bytes {bytes : List UInt8} (bound : bytes.length < headLimit) :
    Reads (sequence (some byte) some) (writeBytes bytes) bytes := by
  intro rest
  have head := reads_untagged_array bound
    (bytes.flatMap (fun b => Head.write 0 b.toNat) ++ rest)
  have all := reads_times bytes (fun b _ => reads_byte b) rest
  simp only [sequence, writeBytes, List.append_assoc, head, Option.bind_eq_bind,
    Option.bind_some, items, all]

/-- An identifier, where a level is left for the array that holds it. -/
theorem reads_objectId {levels : Nat} (left : 0 < levels) (id : ObjectId) :
    Reads (objectId levels) (writeBytes id.bytes) id := by
  intro rest
  have head := @reads_untagged_array 16 (by decide)
    (id.bytes.flatMap (fun b => Head.write 0 b.toNat) ++ rest)
  have all := reads_times id.bytes (fun b _ => reads_byte b) rest
  rw [id.length_eq] at all
  rw [objectId, writeBytes, id.length_eq, List.append_assoc, head]
  show (if _ then _ else _) = _
  rw [if_pos ⟨left, rfl⟩, all]
  simp

end Reader

end DocMapper.Cbor
