import DocMapper.Proofs.Cbor.Depth
import DocMapper.Proofs.Value.Keys

/-!
# Where repeated keys come from

A document that is made by inserting, removing and collecting has each key once. One that is read
has the keys that its bytes name, be it once or several times: the reader takes the entries as they
come.

The main result is that reading is the only source of repeated keys, and that they show: a key is
gone after it was removed, and the entries make the same document again, exactly where no key is
repeated. Bytes that were written for documents without repeated keys bring none.
-/

namespace DocMapper

namespace Document

variable {readable : List UInt8 → Prop} {doc : Document}

/-- The documents that can be made where some byte strings can be read: from nothing, by inserting
and removing, by collecting any entries, and by reading. -/
inductive Made (readable : List UInt8 → Prop) : Document → Prop
  | new : Made readable []
  | insert {doc : Document} (made : Made readable doc) (key : String) (value : Value) :
      Made readable (insert doc key value)
  | erase {doc : Document} (made : Made readable doc) (key : String) :
      Made readable (erase doc key)
  | ofEntries (entries : List (String × Value)) : Made readable (ofEntries entries)
  | read {bytes : List UInt8} {doc : Document} (isReadable : readable bytes)
      (isRead : Cbor.read? bytes = some doc) : Made readable doc

/-- The bytes begin with those of a document without repeated keys. -/
def Written (bytes : List UInt8) : Prop :=
  ∃ doc rest, (keys doc).Nodup ∧ widest doc < Cbor.headLimit ∧ bytes = Cbor.write doc ++ rest

/-- Only reading makes a document with a repeated key. -/
theorem Made.nodup_keys
    (sound : ∀ bytes doc, readable bytes → Cbor.read? bytes = some doc → (keys doc).Nodup)
    (made : Made readable doc) : (keys doc).Nodup := by
  induction made with
  | new => exact .nil
  | insert _ key value ih => exact Assoc.nodup_keys_insert key value ih
  | erase _ key ih => exact nodup_keys_erase key ih
  | ofEntries entries => exact nodup_keys_ofEntries entries
  | read isReadable isRead => exact sound _ _ isReadable isRead

/-- What is read from the bytes of a document without repeated keys is that document. -/
theorem Written.nodup_keys {bytes : List UInt8} (written : Written bytes)
    (isRead : Cbor.read? bytes = some doc) : (keys doc).Nodup := by
  obtain ⟨original, rest, distinct, narrow, rfl⟩ := written
  by_cases within : levels original ≤ Cbor.maxLevels
  · rw [Cbor.read?_write_of_levels_le narrow within] at isRead
    obtain rfl := Option.some.inj isRead
    exact distinct
  · rw [Cbor.read?_write_of_lt_levels narrow (Nat.lt_of_not_le within)] at isRead
    cases isRead

/-- After a key was removed it is still there if it stood in the document twice. -/
theorem contains_erase_self_iff (doc : Document) (key : String) :
    contains (erase doc key) key = true ↔ 1 < (keys doc).count key := by
  rw [contains_iff_mem_keys, keys_erase, ← List.count_pos_iff, List.count_erase_self]
  omega

theorem nodup_keys_iff_erase (doc : Document) :
    (keys doc).Nodup ↔ ∀ key, contains (erase doc key) key = false := by
  rw [List.nodup_iff_count_le_one]
  refine forall_congr' fun key => ?_
  rw [← Bool.not_eq_true, contains_erase_self_iff]
  omega

theorem nodup_keys_iff_ofEntries (doc : Document) : (keys doc).Nodup ↔ ofEntries doc = doc := by
  refine ⟨ofEntries_eq_self, fun same => ?_⟩
  rw [← same]
  exact nodup_keys_ofEntries doc

/-- No document that can be made repeats a key exactly if none that can be read does; and none does
where only the bytes of documents without repeated keys are read. Of any document at all, the keys
are distinct exactly if each is gone after it was removed, and exactly if its entries make the same
document again. -/
theorem nodup_keys_made_iff (readable : List UInt8 → Prop) :
    ((∀ doc, Made readable doc → (keys doc).Nodup) ↔
      ∀ bytes doc, readable bytes → Cbor.read? bytes = some doc → (keys doc).Nodup) ∧
    ((∀ bytes, readable bytes → Written bytes) → ∀ doc, Made readable doc → (keys doc).Nodup) ∧
    ∀ doc, ((keys doc).Nodup ↔ ∀ key, contains (erase doc key) key = false) ∧
      ((keys doc).Nodup ↔ ofEntries doc = doc) := by
  refine ⟨⟨?reading, ?making⟩, ?written, fun doc =>
    ⟨nodup_keys_iff_erase doc, nodup_keys_iff_ofEntries doc⟩⟩
  case reading =>
    intro distinct bytes doc isReadable isRead
    exact distinct doc (.read isReadable isRead)
  case making =>
    intro sound doc made
    exact made.nodup_keys sound
  case written =>
    intro onlyWritten doc made
    refine made.nodup_keys fun bytes _ isReadable isRead => ?_
    exact (onlyWritten bytes isReadable).nodup_keys isRead

end Document

namespace Samples

def twins : Document := [("k", .integer 1), ("k", .integer 2)]

/-- Bytes that name a key twice are read as they stand; the key outlasts its removal, and the
entries make another document. -/
theorem twins_read :
    Document.Made (fun _ => True) twins ∧ ¬ (Document.keys twins).Nodup ∧
      Document.contains (Document.erase twins "k") "k" = true ∧
      Document.ofEntries twins = [("k", .integer 2)] := by
  have narrow : Document.widest twins < Cbor.headLimit := by decide +kernel
  have isRead := Cbor.read?_write_of_levels_le narrow (by decide +kernel) []
  rw [List.append_nil] at isRead
  exact ⟨.read trivial isRead, by decide +kernel, by decide +kernel, by decide +kernel⟩

end Samples

end DocMapper
