import Mathlib.Data.List.Induction
import Mathlib.Data.List.Nodup

/-!
# First occurrences

Keeping every item of a list where it first occurs, one item at a time from the front to the back:
this is how registries and batches grow.
-/

namespace DocMapper

variable {α : Type} [DecidableEq α]

theorem eraseDups_concat (items : List α) (a : α) :
    (items ++ [a]).eraseDups = if a ∈ items then items.eraseDups else items.eraseDups ++ [a] := by
  rw [List.eraseDups_append]
  by_cases member : a ∈ items <;> simp [List.removeAll, List.eraseDups_cons, member]

theorem nodup_eraseDups (items : List α) : items.eraseDups.Nodup := by
  induction items using List.reverseRecOn with
  | nil => exact .nil
  | append_singleton earlier a ih =>
    rw [eraseDups_concat]
    split
    · exact ih
    next new => simpa using ih.concat (mt List.mem_eraseDups.mp new)

/-- Items keep the order in which they first occur. -/
theorem pairwise_idxOf_eraseDups (items : List α) :
    items.eraseDups.Pairwise fun a b => items.idxOf a < items.idxOf b := by
  induction items using List.reverseRecOn with
  | nil => exact .nil
  | append_singleton earlier a ih =>
    have kept : ∀ b ∈ earlier.eraseDups, (earlier ++ [a]).idxOf b = earlier.idxOf b := by
      intro b member
      exact List.idxOf_append_of_mem (List.mem_eraseDups.mp member)
    have before : earlier.eraseDups.Pairwise fun b c =>
        (earlier ++ [a]).idxOf b < (earlier ++ [a]).idxOf c := by
      refine ih.imp_of_mem fun {b c} isFirst isFirst' lt => ?_
      rw [kept b isFirst, kept c isFirst']
      exact lt
    rw [eraseDups_concat]
    split
    · exact before
    next new =>
      refine List.pairwise_append.mpr ⟨before, List.pairwise_singleton _ _, ?_⟩
      intro b isFirst last isLast
      obtain rfl := List.mem_singleton.mp isLast
      rw [kept b isFirst, List.idxOf_append_of_notMem new]
      have := List.idxOf_lt_length_iff.mpr (List.mem_eraseDups.mp isFirst)
      omega

end DocMapper
