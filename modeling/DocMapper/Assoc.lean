/-!
# Association lists

Finite maps as lists of pairs in which the first pair with a key decides. `insert` keeps the order
in which keys arrived, `insertSorted` keeps keys in the order of a comparison; `List.lookup` reads
both. The lemmas say what each operation does to a lookup.
-/

namespace DocMapper.Assoc

variable {κ α : Type} [DecidableEq κ]

/-- Binds `key` to `value`: in place where `key` is bound already, otherwise behind all entries. -/
def insert (key : κ) (value : α) : List (κ × α) → List (κ × α)
  | [] => [(key, value)]
  | (k, v) :: rest => if k = key then (key, value) :: rest else (k, v) :: insert key value rest

def erase (key : κ) : List (κ × α) → List (κ × α)
  | [] => []
  | (k, v) :: rest => if k = key then rest else (k, v) :: erase key rest

/-- Binds `key` to `value`: in place where `key` is bound already, otherwise in front of the first
greater key. -/
def insertSorted (lt : κ → κ → Bool) (key : κ) (value : α) : List (κ × α) → List (κ × α)
  | [] => [(key, value)]
  | (k, v) :: rest =>
    if k = key then (key, value) :: rest
    else if lt key k then (key, value) :: (k, v) :: rest
    else (k, v) :: insertSorted lt key value rest

@[simp] theorem lookup_insert_self (key : κ) (value : α) (entries : List (κ × α)) :
    (insert key value entries).lookup key = some value := by
  induction entries with
  | nil => simp [insert]
  | cons entry rest ih =>
    obtain ⟨k, v⟩ := entry
    by_cases h : k = key
    · simp [insert, h]
    · have hne : (key == k) = false := by simpa using fun e => h e.symm
      simp [insert, h, List.lookup_cons, hne, ih]

theorem lookup_insert_of_ne {key other : κ} (h : other ≠ key) (value : α)
    (entries : List (κ × α)) : (insert key value entries).lookup other = entries.lookup other := by
  induction entries with
  | nil =>
    have hne : (other == key) = false := by simpa using h
    simp [insert, List.lookup_cons, hne]
  | cons entry rest ih =>
    obtain ⟨k, v⟩ := entry
    by_cases hk : k = key
    · have hne : (other == key) = false := by simpa using h
      simp [insert, hk, List.lookup_cons, hne]
    · simp [insert, hk, List.lookup_cons, ih]

theorem lookup_erase_of_ne {key other : κ} (h : other ≠ key) (entries : List (κ × α)) :
    (erase key entries).lookup other = entries.lookup other := by
  induction entries with
  | nil => rfl
  | cons entry rest ih =>
    obtain ⟨k, v⟩ := entry
    by_cases hk : k = key
    · have hne : (other == key) = false := by simpa using h
      simp [erase, hk, List.lookup_cons, hne]
    · simp [erase, hk, List.lookup_cons, ih]

@[simp] theorem lookup_insertSorted_self (lt : κ → κ → Bool) (key : κ) (value : α)
    (entries : List (κ × α)) : (insertSorted lt key value entries).lookup key = some value := by
  induction entries with
  | nil => simp [insertSorted]
  | cons entry rest ih =>
    obtain ⟨k, v⟩ := entry
    by_cases h : k = key
    · simp [insertSorted, h]
    · have hne : (key == k) = false := by simpa using fun e => h e.symm
      by_cases hlt : lt key k <;> simp [insertSorted, h, hlt, List.lookup_cons, hne, ih]

theorem lookup_insertSorted_of_ne (lt : κ → κ → Bool) {key other : κ} (h : other ≠ key) (value : α)
    (entries : List (κ × α)) :
    (insertSorted lt key value entries).lookup other = entries.lookup other := by
  have hne : (other == key) = false := by simpa using h
  induction entries with
  | nil => simp [insertSorted, List.lookup_cons, hne]
  | cons entry rest ih =>
    obtain ⟨k, v⟩ := entry
    by_cases hk : k = key
    · simp [insertSorted, hk, List.lookup_cons, hne]
    · by_cases hlt : lt key k <;> simp [insertSorted, hk, hlt, List.lookup_cons, hne, ih]

theorem lookup_filter_ne_self (key : κ) (entries : List (κ × α)) :
    (entries.filter (·.1 != key)).lookup key = none := by
  rw [List.lookup_eq_none_iff]
  intro entry member
  have differs : entry.1 ≠ key := by simpa using (List.mem_filter.mp member).2
  simpa using differs.symm

theorem lookup_filter_ne_of_ne {key other : κ} (h : other ≠ key) (entries : List (κ × α)) :
    (entries.filter (·.1 != key)).lookup other = entries.lookup other := by
  induction entries with
  | nil => rfl
  | cons entry rest ih =>
    obtain ⟨k, v⟩ := entry
    by_cases hk : k = key
    · have hne : (other == key) = false := by simpa using h
      simp [hk, List.lookup_cons, hne, ih]
    · simp [hk, List.lookup_cons, ih]

end DocMapper.Assoc
