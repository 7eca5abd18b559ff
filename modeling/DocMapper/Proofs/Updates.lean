import DocMapper.Instance.Entity
import DocMapper.Proofs.Outcome

/-!
# Updates one after the other

Encoding writes the fields of an entity into a document one after the other, and decoding sets them
in an entity in the same way. `applyAll` is what both do once the values are known. Where no key is
updated twice, what is read under a key afterwards is what its update wrote, or what was there
before if the update had nothing to write.
-/

namespace DocMapper

variable {γ κ ν : Type}

/-- Writes the given values under their keys; a key without a value is left alone. -/
def applyAll (write : γ → κ → ν → γ) (updates : List (κ × Option ν)) (start : γ) : γ :=
  updates.foldl (fun current update => update.2.elim current (write current update.1)) start

section Reading

variable {write : γ → κ → ν → γ} {read : γ → κ → Option ν} {updates : List (κ × Option ν)}

private theorem read_update [DecidableEq κ]
    (same : ∀ current key value, read (write current key value) key = some value)
    (apart : ∀ current key other value, other ≠ key →
      read (write current key value) other = read current other)
    (current : γ) (update : κ × Option ν) (key : κ) :
    read (update.2.elim current (write current update.1)) key =
      if key = update.1 then update.2 <|> read current key else read current key := by
  obtain ⟨target, value⟩ := update
  cases value with
  | none => simp
  | some value =>
    by_cases here : key = target
    · subst here
      simp [same]
    · simp [here, apart current target key value here]

theorem read_applyAll_of_not_mem [DecidableEq κ]
    (same : ∀ current key value, read (write current key value) key = some value)
    (apart : ∀ current key other value, other ≠ key →
      read (write current key value) other = read current other)
    (start : γ) {key : κ} (absent : key ∉ updates.map Prod.fst) :
    read (applyAll write updates start) key = read start key := by
  induction updates generalizing start with
  | nil => rfl
  | cons update rest ih =>
    simp only [List.map_cons, List.mem_cons, not_or] at absent
    obtain ⟨here, later⟩ := absent
    exact (ih _ later).trans ((read_update same apart start update key).trans (if_neg here))

theorem read_applyAll_of_mem [DecidableEq κ]
    (same : ∀ current key value, read (write current key value) key = some value)
    (apart : ∀ current key other value, other ≠ key →
      read (write current key value) other = read current other)
    (start : γ) (once : (updates.map Prod.fst).Nodup) {key : κ} {value : Option ν}
    (member : (key, value) ∈ updates) :
    read (applyAll write updates start) key = (value <|> read start key) := by
  induction updates generalizing start with
  | nil => simp at member
  | cons update rest ih =>
    obtain ⟨here, later⟩ := List.nodup_cons.mp once
    have step := read_update same apart start update key
    rcases List.mem_cons.mp member with rfl | member
    · exact (read_applyAll_of_not_mem same apart _ here).trans (step.trans (if_pos rfl))
    · have elsewhere : key ≠ update.1 := by
        rintro rfl
        exact here (List.mem_map.mpr ⟨_, member, rfl⟩)
      rw [if_neg elsewhere] at step
      exact (ih _ later member).trans (by rw [step])

/-- A key that some update writes holds what is said of the values that are written under it. -/
theorem exists_read_applyAll [DecidableEq κ]
    (same : ∀ current key value, read (write current key value) key = some value)
    (apart : ∀ current key other value, other ≠ key →
      read (write current key value) other = read current other)
    (start : γ) {key : κ} {said : ν → Prop}
    (holds : ∀ update ∈ updates, update.1 = key → ∀ value, update.2 = some value → said value)
    (written : (∃ value, read start key = some value ∧ said value) ∨
      ∃ update ∈ updates, update.1 = key ∧ update.2.isSome = true) :
    ∃ value, read (applyAll write updates start) key = some value ∧ said value := by
  induction updates generalizing start with
  | nil => simpa [applyAll] using written
  | cons update rest ih =>
    have step := read_update same apart start update key
    refine ih _ (fun later member => holds later (List.mem_cons_of_mem _ member)) ?_
    -- Either this update decides what is under the key, or it leaves what was there.
    by_cases here : update.1 = key ∧ update.2.isSome = true
    · obtain ⟨rfl, isSome⟩ := here
      obtain ⟨value, isValue⟩ := Option.isSome_iff_exists.mp isSome
      refine .inl ⟨value, step.trans ?_, holds update List.mem_cons_self rfl value isValue⟩
      simp [isValue]
    · have kept : (if key = update.1 then update.2 <|> read start key else read start key) =
          read start key := by
        split
        next isKey =>
          have unset : update.2 = none := by simpa [isKey] using here
          simp [unset]
        · rfl
      rcases written with ⟨value, found, said⟩ | ⟨other, member, isKey, isSome⟩
      · exact .inl ⟨value, (step.trans kept).trans found, said⟩
      · rcases List.mem_cons.mp member with rfl | member
        · exact absurd ⟨isKey, isSome⟩ here
        · exact .inr ⟨other, member, isKey, isSome⟩

/-- What is read after updates of which something is known. -/
theorem read_applyAll_zip [DecidableEq κ] {α : Type} {key : α → κ} {items : List α}
    {values : List (Option ν)} {holds : α → Option ν → Prop}
    (same : ∀ current key value, read (write current key value) key = some value)
    (apart : ∀ current key other value, other ≠ key →
      read (write current key value) other = read current other)
    (start : γ) (all : List.Forall₂ holds items values) (once : (items.map key).Nodup) :
    (∀ a ∈ items, ∃ value, holds a value ∧
      read (applyAll write ((items.map key).zip values) start) (key a) =
        (value <|> read start (key a))) ∧
    ∀ other, other ∉ items.map key →
      read (applyAll write ((items.map key).zip values) start) other = read start other := by
  have keys : ((items.map key).zip values).map Prod.fst = items.map key :=
    List.map_fst_zip (by simp [all.length_eq])
  refine ⟨fun a member => ?_, fun other absent => ?_⟩
  · obtain ⟨i, bound, rfl⟩ := List.getElem_of_mem member
    have bound' : i < values.length := all.length_eq ▸ bound
    have here := (List.forall₂_iff_get.mp all).2 i bound bound'
    refine ⟨values[i], here, read_applyAll_of_mem same apart start (by rwa [keys]) ?_⟩
    exact List.mem_iff_getElem.mpr ⟨i, by rw [List.length_zip, List.length_map]; omega, by simp⟩
  · exact read_applyAll_of_not_mem same apart start (by rwa [keys])

end Reading

section Working

variable {ε α : Type} {write : γ → κ → ν → γ} {key : α → κ} {given : α → Except ε (Option ν)}
  {items : List α} {start result : γ}

/-- Updates whose values are worked out on the way: all values must come out well, and the result is
that of the updates with these values. -/
theorem foldlM_updates_eq_ok :
    items.foldlM (fun current a => do
      let value ← given a
      return value.elim current (write current (key a))) start = .ok result ↔
    ∃ values, List.Forall₂ (fun a value => given a = .ok value) items values ∧
      result = applyAll write ((items.map key).zip values) start := by
  induction items generalizing start with
  | nil => simp [applyAll, eq_comm]
  | cons a rest ih =>
    simp only [List.foldlM_cons, bind_assoc, pure_bind, Result.bind_eq_ok, ih]
    constructor
    · rintro ⟨value, first, values, others, rfl⟩
      exact ⟨value :: values, .cons first others, rfl⟩
    · rintro ⟨values, all, rfl⟩
      cases all with
      | cons first others => exact ⟨_, first, _, others, rfl⟩

/-- The updates can be worked out exactly if the value of each can. -/
theorem exists_foldlM_updates_iff :
    (∃ result, items.foldlM (fun current a => do
      let value ← given a
      return value.elim current (write current (key a))) start = .ok result) ↔
    ∀ a ∈ items, ∃ value, given a = .ok value := by
  simp only [foldlM_updates_eq_ok, ← Result.exists_forall₂_iff]
  constructor
  · rintro ⟨_, values, all, -⟩
    exact ⟨values, all⟩
  · rintro ⟨values, all⟩
    exact ⟨_, values, all, rfl⟩

/-- What is read after updates that were worked out on the way. -/
theorem read_foldlM_updates [DecidableEq κ] {read : γ → κ → Option ν}
    (same : ∀ current key value, read (write current key value) key = some value)
    (apart : ∀ current key other value, other ≠ key →
      read (write current key value) other = read current other)
    (done : items.foldlM (fun current a => do
      let value ← given a
      return value.elim current (write current (key a))) start = .ok result)
    (once : (items.map key).Nodup) :
    (∀ a ∈ items, ∃ value, given a = .ok value ∧
      read result (key a) = (value <|> read start (key a))) ∧
    ∀ other, other ∉ items.map key → read result other = read start other := by
  obtain ⟨values, all, rfl⟩ := foldlM_updates_eq_ok.mp done
  exact read_applyAll_zip same apart start all once

end Working

@[simp] theorem Entity.className_applyAll (updates : List (String × Option Property))
    (entity : Entity) : (applyAll Entity.set updates entity).className = entity.className := by
  induction updates generalizing entity with
  | nil => rfl
  | cons update rest ih =>
    obtain ⟨field, property⟩ := update
    apply (ih _).trans
    cases property <;> rfl

end DocMapper
