import DocMapper.Proofs.Cbor.Pieces

/-!
# What readers take

Whatever bytes a reader accepts, it takes some of them and hands on the rest. So what it gives is no
longer than what it took: a text or a byte sequence has its bytes among them, and a sequence has a
byte for each of its items. `Yields` says so of the reader of an item, together with a property of
the item, and both are carried from the items to their sequence.
-/

namespace DocMapper

namespace Cbor

theorem utf8_of_ofUtf8? {bytes : List UInt8} {text : String} (isText : ofUtf8? bytes = some text) :
    utf8 text = bytes := by
  rw [ofUtf8?, String.fromUTF8?] at isText
  split at isText
  · cases isText
    rfl
  · cases isText

theorem utf8_join {pieces : List (List UInt8)} {texts : List String}
    (areTexts : pieces.mapM ofUtf8? = some texts) : utf8 (String.join texts) = pieces.flatten := by
  induction pieces generalizing texts with
  | nil =>
    cases areTexts
    rfl
  | cons piece rest ih =>
    simp only [List.mapM_cons, Option.bind_eq_bind, Option.bind_eq_some_iff, Option.pure_def,
      Option.some.injEq] at areTexts
    obtain ⟨text, isText, others, areOthers, rfl⟩ := areTexts
    have first := utf8_of_ofUtf8? isText
    have later := ih areOthers
    rw [List.flatten_cons, ← first, ← later, String.join_cons]
    simp [utf8]

namespace Reader

/-! ### What readers take -/

theorem tagged_length {input rest : List UInt8} {item : List Nat × Head}
    (read : tagged input = some (item, rest)) : rest.length < input.length := by
  fun_induction tagged input generalizing item with
  | case1 => cases read
  | case2 input n rest' isTag shorter ih =>
    simp only [Option.map_eq_some_iff, Prod.mk.injEq, Prod.exists] at read
    obtain ⟨tags, head, rest'', read, -, rfl⟩ := read
    have := ih read
    omega
  | case3 input head rest' _ isHead =>
    cases read
    exact Head.read?_length isHead

theorem untagged_length {input rest : List UInt8} {head : Head}
    (read : untagged input = some (head, rest)) : rest.length < input.length := by
  simp only [untagged, Option.map_eq_some_iff, Prod.mk.injEq, Prod.exists] at read
  obtain ⟨tags, _, _, read, -, rfl⟩ := read
  exact tagged_length read

theorem chunks_length {length? : Head → Option (Option Nat)} {depth : Nat}
    {input rest : List UInt8} {pieces : List (List UInt8)}
    (read : chunks length? depth input = some (pieces, rest)) :
    pieces.flatten.length + rest.length ≤ input.length := by
  fun_induction chunks length? depth input generalizing pieces with
  | case1 | case4 | case6 => cases read
  | case2 =>
    cases read
    simp
    omega
  | case3 _ _ _ _ _ _ ih | case5 _ _ _ _ _ _ _ _ ih =>
    have := ih read
    omega
  | case7 depth input head rest' _ _ _ n _ chunk rest'' taken shorter ih =>
    simp only [Option.map_eq_some_iff, Prod.mk.injEq, Prod.exists] at read
    obtain ⟨more, _, read, rfl, rfl⟩ := read
    have := ih read
    have := (take?_eq_some taken).1
    simp_all
    omega

theorem string_length {length? : Head → Option (Option Nat)} {length : Option Nat}
    {input rest : List UInt8} {pieces : List (List UInt8)}
    (read : string length? length input = some (pieces, rest)) :
    pieces.flatten.length + rest.length ≤ input.length := by
  cases length with
  | none => exact chunks_length read
  | some n =>
    simp only [string, Option.map_eq_some_iff, Prod.mk.injEq, Prod.exists] at read
    obtain ⟨chunk, _, taken, rfl, rfl⟩ := read
    have := congrArg List.length (take?_eq_some taken).1
    rw [List.length_append] at this
    rw [List.flatten_singleton]
    omega

theorem text_length {input rest : List UInt8} {text : String}
    (read : Reader.text input = some (text, rest)) :
    (utf8 text).length + rest.length < input.length := by
  simp only [Reader.text, Option.bind_eq_bind, Option.bind_eq_some_iff, Option.pure_def,
    Option.some.injEq, Prod.mk.injEq, Prod.exists] at read
  obtain ⟨head, middle, isHead, length, -, pieces, _, arePieces, texts, areTexts, rfl, rfl⟩ := read
  have := untagged_length isHead
  have := string_length arePieces
  rw [utf8_join areTexts]
  omega

theorem integer_length {input rest : List UInt8} {n : Int}
    (read : integer input = some (n, rest)) : rest.length < input.length := by
  simp only [integer, Option.bind_eq_bind, Option.bind_eq_some_iff, Option.pure_def,
    Prod.exists] at read
  obtain ⟨tags, head, middle, isHead, read⟩ := read
  have := tagged_length isHead
  split at read
  · cases read
    assumption
  · cases read
    assumption
  · simp only [Option.bind_eq_some_iff, Option.some.injEq, Prod.mk.injEq, Prod.exists] at read
    obtain ⟨pieces, _, arePieces, -, rfl⟩ := read
    have := string_length arePieces
    omega
  · cases read

theorem int64_length {input rest : List UInt8} {n : Int64}
    (read : int64 input = some (n, rest)) : rest.length < input.length := by
  simp only [int64, Option.bind_eq_bind, Option.bind_eq_some_iff, Option.pure_def,
    Prod.exists] at read
  obtain ⟨number, middle, isNumber, read⟩ := read
  split at read
  · cases read
    exact integer_length isNumber
  · cases read

theorem byte_length {input rest : List UInt8} {b : UInt8} (read : byte input = some (b, rest)) :
    rest.length < input.length := by
  simp only [byte, Option.bind_eq_bind, Option.bind_eq_some_iff, Option.pure_def,
    Prod.exists] at read
  obtain ⟨number, middle, isNumber, read⟩ := read
  split at read
  · cases read
    exact integer_length isNumber
  · cases read

theorem bool_length {input rest : List UInt8} {b : Bool}
    (read : Reader.bool input = some (b, rest)) : rest.length < input.length := by
  simp only [Reader.bool, Option.bind_eq_bind, Option.bind_eq_some_iff, Option.pure_def,
    Prod.exists] at read
  obtain ⟨head, middle, isHead, read⟩ := read
  have := untagged_length isHead
  split at read <;> cases read <;> assumption

theorem shapeName_length {length : Nat} {input rest : List UInt8} {shape : Shape}
    (read : shapeName length input = some (shape, rest)) : rest.length ≤ input.length := by
  simp only [shapeName, Option.bind_eq_bind, Option.bind_eq_some_iff, Option.pure_def,
    Option.some.injEq, Prod.mk.injEq, Prod.exists] at read
  obtain ⟨name, _, taken, _, -, -, rfl⟩ := read
  exact take?_length taken

theorem shape_length {input rest : List UInt8} {shape : Shape}
    (read : Reader.shape input = some (shape, rest)) : rest.length < input.length := by
  simp only [Reader.shape, Option.bind_eq_bind, Option.bind_eq_some_iff, Prod.exists] at read
  obtain ⟨head, middle, isHead, read⟩ := read
  have := untagged_length isHead
  split at read
  · have := shapeName_length read
    omega
  · simp only [Option.bind_eq_some_iff, Prod.exists] at read
    obtain ⟨inner, within, isInner, read⟩ := read
    have := untagged_length isInner
    split at read
    · have := shapeName_length read
      omega
    · have := shapeName_length read
      omega
    · cases read
  · cases read

/-! ### One item after the other -/

/-- What the reader gives is as it should be, and it takes more bytes than the item is long. -/
structure Yields {α : Type} (reader : Reader α) (length : α → Nat) (Good : α → Prop) : Prop where
  good {input rest : List UInt8} {item : α} (read : reader input = some (item, rest)) : Good item
  takes {input rest : List UInt8} {item : α} (read : reader input = some (item, rest)) :
    length item + rest.length < input.length

/-- The reader reads the items one after the other; what is left is not longer than the input. -/
inductive Successive {α : Type} (element : Reader α) : List UInt8 → List α → List UInt8 → Prop
  | done {input rest : List UInt8} (shorter : rest.length ≤ input.length) :
      Successive element input [] rest
  | next {input middle rest : List UInt8} {item : α} {items : List α}
      (read : element input = some (item, middle)) (others : Successive element middle items rest) :
      Successive element input (item :: items) rest

variable {α : Type} {element : Reader α} {length : α → Nat} {Good : α → Prop}
  {input rest : List UInt8} {items : List α}

theorem successive_of_times {n : Nat} (read : times element n input = some (items, rest)) :
    Successive element input items rest := by
  induction n generalizing input items with
  | zero =>
    cases read
    exact .done (Nat.le_refl _)
  | succ n ih =>
    simp only [times, Option.bind_eq_bind, Option.bind_eq_some_iff, Option.pure_def,
      Option.some.injEq, Prod.mk.injEq, Prod.exists] at read
    obtain ⟨item, middle, first, others, _, later, rfl, rfl⟩ := read
    exact .next first (ih later)

theorem successive_of_untilStop {bound : Nat}
    (read : untilStop element bound input = some (items, rest)) :
    Successive element input items rest := by
  induction bound generalizing input items with
  | zero => cases read
  | succ bound ih =>
    rw [untilStop] at read
    split at read
    next isStop =>
      cases read
      exact .done (Nat.le_of_lt (Head.read?_length isStop))
    next =>
      simp only [Option.bind_eq_bind, Option.bind_eq_some_iff, Option.pure_def,
        Option.some.injEq, Prod.mk.injEq, Prod.exists] at read
      obtain ⟨item, middle, first, others, _, later, rfl, rfl⟩ := read
      exact .next first (ih later)

theorem successive_of_items {count : Option Nat}
    (read : Reader.items element count input = some (items, rest)) :
    Successive element input items rest := by
  cases count with
  | none => exact successive_of_untilStop read
  | some n => exact successive_of_times read

theorem Successive.shorter (yields : Yields element length Good)
    (successive : Successive element input items rest) : rest.length ≤ input.length := by
  induction successive with
  | done shorter => exact shorter
  | next read _ ih =>
    have := yields.takes read
    omega

/-- All items are as they should be, and together with what is left neither they nor their number
are longer than the input. -/
theorem Successive.all (yields : Yields element length Good)
    (successive : Successive element input items rest) :
    (∀ item ∈ items, Good item) ∧ items.length + rest.length ≤ input.length ∧
      ∀ item ∈ items, length item + rest.length ≤ input.length := by
  induction successive with
  | done shorter => simpa using shorter
  | next read others ih =>
    obtain ⟨good, count, each⟩ := ih
    have first := yields.takes read
    have := others.shorter yields
    refine ⟨List.forall_mem_cons.mpr ⟨yields.good read, good⟩, ?_, ?_⟩
    · rw [List.length_cons]
      omega
    · refine List.forall_mem_cons.mpr ⟨by omega, fun item member => ?_⟩
      have := each item member
      omega

/-- Items that bytes stand for: there are as many, and each comes from a byte. -/
theorem of_mapM_ofByte {ofByte : UInt8 → Option α} {bytes : List UInt8}
    (spelled : bytes.mapM ofByte = some items) :
    items.length = bytes.length ∧ ∀ item ∈ items, ∃ b, ofByte b = some item := by
  induction bytes generalizing items with
  | nil =>
    cases spelled
    simp
  | cons b bytes ih =>
    simp only [List.mapM_cons, Option.bind_eq_bind, Option.bind_eq_some_iff, Option.pure_def,
      Option.some.injEq] at spelled
    obtain ⟨item, isItem, others, areOthers, rfl⟩ := spelled
    obtain ⟨count, each⟩ := ih areOthers
    refine ⟨by simp [count], List.forall_mem_cons.mpr ⟨⟨b, isItem⟩, each⟩⟩

/-- The items of a sequence are as those of its reader, or each is spelled by a byte. -/
theorem sequence_all {reader : Option (Reader α)} {ofByte : UInt8 → Option α}
    (yields : ∀ element, reader = some element → Yields element length Good)
    (spelled : ∀ b item, ofByte b = some item → Good item ∧ length item = 0)
    (read : sequence reader ofByte input = some (items, rest)) :
    (∀ item ∈ items, Good item) ∧ items.length + rest.length < input.length ∧
      ∀ item ∈ items, length item + rest.length < input.length := by
  simp only [sequence, Option.bind_eq_bind, Option.bind_eq_some_iff, Prod.exists] at read
  obtain ⟨head, middle, isHead, read⟩ := read
  have := untagged_length isHead
  split at read
  · obtain ⟨element, isElement, read⟩ := Option.bind_eq_some_iff.mp read
    obtain ⟨good, count, each⟩ := (successive_of_items read).all (yields element isElement)
    refine ⟨good, by omega, fun item member => ?_⟩
    have := each item member
    omega
  · simp only [Option.bind_eq_some_iff, Option.pure_def, Option.some.injEq, Prod.mk.injEq,
      Prod.exists] at read
    obtain ⟨pieces, _, arePieces, spelt, areItems, rfl, rfl⟩ := read
    obtain ⟨count, each⟩ := of_mapM_ofByte areItems
    have := string_length arePieces
    have small : ∀ item ∈ spelt, Good item ∧ length item = 0 := by
      intro item member
      obtain ⟨b, isItem⟩ := each item member
      exact spelled b item isItem
    refine ⟨fun item member => (small item member).1, by omega, fun item member => ?_⟩
    have := (small item member).2
    omega
  · cases read

/-- No byte stands for an item of this sequence. -/
theorem sequence_all_none {reader : Option (Reader α)}
    (yields : ∀ element, reader = some element → Yields element length Good)
    (read : sequence reader (fun _ => none) input = some (items, rest)) :
    (∀ item ∈ items, Good item) ∧ items.length + rest.length < input.length ∧
      ∀ item ∈ items, length item + rest.length < input.length :=
  sequence_all yields (fun _ _ isItem => by cases isItem) read

theorem yields_byte : Yields byte (fun _ => 0) (fun _ => True) where
  good _ := trivial
  takes read := by
    have := byte_length read
    omega

/-- Bytes in an array, if a level is left for it, or in a byte string. -/
theorem byteSequence_length {levels : Nat} {input rest bs : List UInt8}
    (read : sequence (if levels = 0 then none else some byte) some input = some (bs, rest)) :
    bs.length + rest.length < input.length := by
  have yields : ∀ reader, (if levels = 0 then none else some byte) = some reader →
      Yields reader (fun _ => 0) (fun _ => True) := by
    intro reader isReader
    split at isReader <;> cases isReader
    exact yields_byte
  have spelled : ∀ b item : UInt8, some b = some item → True ∧ 0 = 0 := fun _ _ _ => by simp
  exact (sequence_all yields spelled read).2.1

theorem objectId_length {levels : Nat} {input rest : List UInt8} {id : ObjectId}
    (read : objectId levels input = some (id, rest)) : rest.length < input.length := by
  simp only [objectId, Option.bind_eq_bind, Option.bind_eq_some_iff, Prod.exists] at read
  obtain ⟨head, middle, isHead, read⟩ := read
  have := untagged_length isHead
  split at read
  · split at read
    · simp only [Option.bind_eq_some_iff, Option.pure_def, Option.some.injEq, Prod.mk.injEq,
        Prod.exists] at read
      obtain ⟨bytes, _, areBytes, _, -, -, rfl⟩ := read
      have := (successive_of_times areBytes).shorter yields_byte
      omega
    · cases read
  · simp only [Option.bind_eq_some_iff, Option.pure_def, Option.some.injEq, Prod.mk.injEq,
      Prod.exists] at read
    obtain ⟨pieces, _, arePieces, _, -, -, rfl⟩ := read
    have := string_length arePieces
    omega
  · cases read

end Reader

end Cbor

end DocMapper
