import Mathlib.Data.List.Induction
import Mathlib.Data.List.Nodup
import DocMapper.Value.Document

/-!
# The keys of entries

The keys of a list of entries, and what the operations do to them: binding a key leaves the keys as
they are or adds it behind them, and erasing it takes its first entry away. Keys that are told apart
therefore stay so, and then every entry is the one that is found under its key. Collecting entries
under different keys gives back the entries.
-/

namespace DocMapper

namespace Assoc

variable {κ α : Type} [DecidableEq κ] {entries : List (κ × α)} {key : κ}

/-- A key that is bound keeps its place, and a new key goes last. -/
theorem keys_insert (key : κ) (value : α) (entries : List (κ × α)) :
    (insert key value entries).map Prod.fst =
      if key ∈ entries.map Prod.fst then entries.map Prod.fst
      else entries.map Prod.fst ++ [key] := by
  induction entries with
  | nil => simp [insert]
  | cons entry rest ih =>
    obtain ⟨k, v⟩ := entry
    rw [insert]
    by_cases same : k = key
    · simp [same]
    · rw [if_neg same, List.map_cons, ih]
      simp only [List.map_cons, List.mem_cons, Ne.symm same, false_or]
      split <;> rfl

theorem keys_erase (key : κ) (entries : List (κ × α)) :
    (erase key entries).map Prod.fst = (entries.map Prod.fst).erase key := by
  induction entries with
  | nil => rfl
  | cons entry rest ih =>
    obtain ⟨k, v⟩ := entry
    rw [erase, List.map_cons, List.erase_cons]
    by_cases same : k = key
    · simp [same]
    · simp [same, ih]

/-- Keys that are told apart stay so. -/
theorem nodup_keys_insert (key : κ) (value : α) (apart : (entries.map Prod.fst).Nodup) :
    ((insert key value entries).map Prod.fst).Nodup := by
  rw [keys_insert]
  split
  · exact apart
  next new => simpa using apart.concat new

/-- Where keys are told apart, every entry is the one that is found. -/
theorem lookup_eq_some_iff_mem {value : α} (apart : (entries.map Prod.fst).Nodup) :
    entries.lookup key = some value ↔ (key, value) ∈ entries := by
  induction entries with
  | nil => simp
  | cons entry rest ih =>
    obtain ⟨k, v⟩ := entry
    obtain ⟨fresh, later⟩ := List.nodup_cons.mp apart
    by_cases same : key = k
    · subst same
      have absent : (key, value) ∉ rest := fun member =>
        fresh (List.mem_map.mpr ⟨_, member, rfl⟩)
      simp [absent, eq_comm]
    · have differs : (key == k) = false := by simpa using same
      simp [List.lookup_cons, differs, ih later, same]

end Assoc

namespace Document

variable {doc : Document} {key : String} {value : Value}

theorem contains_iff_mem_keys : contains doc key = true ↔ key ∈ keys doc := by
  rw [contains, get?, List.lookup_isSome_iff, keys, List.mem_map]
  constructor
  · rintro ⟨entry, member, same⟩
    exact ⟨entry, member, (beq_iff_eq.mp same).symm⟩
  · rintro ⟨entry, member, rfl⟩
    exact ⟨entry, member, beq_self_eq_true _⟩

theorem get?_eq_none_of_not_mem (absent : key ∉ keys doc) : get? doc key = none := by
  rw [← contains_iff_mem_keys, contains, Option.isSome_iff_ne_none] at absent
  exact not_not.mp absent

theorem keys_insert (doc : Document) (key : String) (value : Value) :
    keys (insert doc key value) = if key ∈ keys doc then keys doc else keys doc ++ [key] :=
  Assoc.keys_insert key value doc

theorem keys_insert_of_not_mem (fresh : key ∉ keys doc) :
    keys (insert doc key value) = keys doc ++ [key] := by
  rw [keys_insert, if_neg fresh]

theorem keys_erase (doc : Document) (key : String) :
    keys (erase doc key) = (keys doc).erase key :=
  Assoc.keys_erase key doc

theorem nodup_keys_erase (key : String) (distinct : (keys doc).Nodup) :
    (keys (erase doc key)).Nodup := by
  rw [keys_erase]
  exact distinct.erase key

theorem get?_erase_self (key : String) (distinct : (keys doc).Nodup) :
    get? (erase doc key) key = none := by
  apply get?_eq_none_of_not_mem
  rw [keys_erase]
  exact distinct.not_mem_erase

theorem insert_of_not_mem (fresh : key ∉ keys doc) :
    insert doc key value = doc ++ [(key, value)] := by
  induction doc with
  | nil => rfl
  | cons entry rest ih =>
    obtain ⟨name, stored⟩ := entry
    obtain ⟨differs, later⟩ : key ≠ name ∧ key ∉ keys rest := by
      simpa [keys] using fresh
    rw [insert, Assoc.insert, if_neg (Ne.symm differs)]
    exact congrArg _ (ih later)

/-! ### Collecting entries -/

theorem ofEntries_concat (entries : List (String × Value)) (key : String) (value : Value) :
    ofEntries (entries ++ [(key, value)]) = insert (ofEntries entries) key value := by
  rw [ofEntries, List.foldl_append]
  rfl

theorem nodup_keys_ofEntries (entries : List (String × Value)) :
    (keys (ofEntries entries)).Nodup := by
  induction entries using List.reverseRecOn with
  | nil => exact .nil
  | append_singleton earlier entry ih =>
    rw [ofEntries_concat]
    exact Assoc.nodup_keys_insert _ _ ih

/-- Entries under different keys are collected as they are. -/
theorem ofEntries_eq_self (distinct : (keys doc).Nodup) : ofEntries doc = doc := by
  induction doc using List.reverseRecOn with
  | nil => rfl
  | append_singleton earlier entry ih =>
    rw [keys, List.map_append, List.nodup_append] at distinct
    obtain ⟨before, -, apart⟩ := distinct
    have fresh : entry.1 ∉ keys earlier := by
      intro member
      exact apart entry.1 member entry.1 (List.mem_singleton_self _) rfl
    rw [ofEntries_concat, ih before, insert_of_not_mem fresh]

end Document

end DocMapper
