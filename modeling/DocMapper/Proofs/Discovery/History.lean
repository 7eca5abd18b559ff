import Mathlib.Data.List.Induction
import DocMapper.Proofs.Discovery.Steady

/-!
# Histories of questions

A mapper that was asked for some classes remembers what it made for them. Some of the questions
succeed and some fail, and each may leave descriptors behind, those of the supertypes that came
before the failure included. None of that shows in the answers: only complete descriptors are kept,
and they are the ones that a new mapper makes.
-/

namespace DocMapper

namespace Catalog

/-- The memory of a mapper that described nothing but these classes, in this order. -/
def asked (catalog : Catalog) (names : List ClassName) : Memory :=
  names.foldl (fun memory name => ((catalog.describe name).outcome memory).2) {}

variable {catalog : Catalog} {names : List ClassName} {name : ClassName}

theorem asked_append_singleton :
    catalog.asked (names ++ [name]) =
      ((catalog.describe name).outcome (catalog.asked names)).2 := by
  simp [asked]

/-- A question leaves correct descriptors alone and adds none but correct ones. -/
theorem sound_after_describe {memory : Memory} (sound : memory.Sound catalog) (name : ClassName) :
    ((catalog.describe name).outcome memory).2.Sound catalog := by
  obtain ⟨after, learns, outcome⟩ := (catalog.steady_describe name).outcome sound
  rw [outcome]
  exact learns.sound

/-- Whatever a mapper was asked for, the descriptors it keeps are the ones that the registered types
give. -/
theorem sound_asked (catalog : Catalog) (names : List ClassName) :
    (catalog.asked names).Sound catalog := by
  induction names using List.reverseRecOn with
  | nil => exact Memory.sound_empty catalog
  | append_singleton earlier name ih =>
    rw [asked_append_singleton]
    exact sound_after_describe ih name

/-- The answer after some questions is the one that a new mapper gives. -/
theorem describe_after_asked (catalog : Catalog) (names : List ClassName) (name : ClassName) :
    ((catalog.describe name).outcome (catalog.asked names)).1 = answer (catalog.describe name) :=
  (catalog.steady_describe name).result_eq (catalog.sound_asked names)

/-- Two mappers of the same types give a class the same descriptor, or refuse it with the same
error, whatever each was asked for before. -/
theorem describe_history_free (catalog : Catalog) (earlier other : List ClassName)
    (name : ClassName) :
    ((catalog.describe name).outcome (catalog.asked earlier)).1 =
      ((catalog.describe name).outcome (catalog.asked other)).1 :=
  (catalog.describe_after_asked earlier name).trans (catalog.describe_after_asked other name).symm

end Catalog

end DocMapper
