import Mathlib.Data.List.Induction
import Mathlib.Data.List.Nodup

/-!
# First occurrences

Dropping repetitions keeps every entry of a list at the place where it comes first. Whether entries
are changed before or after repetitions are dropped makes no difference, as long as those that have
become equal are dropped at the end.
-/

namespace Stencil

variable {α β : Type} [BEq α] [BEq β]

theorem head?_eraseDups (l : List α) : l.eraseDups.head? = l.head? := by
  cases l with
  | nil => rfl
  | cons a l => rw [List.eraseDups_cons, List.head?_cons, List.head?_cons]

variable [LawfulBEq α] [LawfulBEq β]

theorem eraseDups_cons_of_head? {l : List α} {a : α} (h : l.head? = some a) :
    (a :: l).eraseDups = l.eraseDups := by
  obtain ⟨l, rfl⟩ := List.head?_eq_some_iff.1 h
  simp [List.eraseDups_cons]

theorem eraseDups_concat_of_mem {l : List α} {a : α} (h : a ∈ l) :
    (l ++ [a]).eraseDups = l.eraseDups := by
  have hremoved : [a].removeAll l = [] := by
    simp [List.removeAll, h]
  rw [List.eraseDups_append, hremoved, List.eraseDups_nil, List.append_nil]

theorem eraseDups_concat_of_not_mem {l : List α} {a : α} (h : a ∉ l) :
    (l ++ [a]).eraseDups = l.eraseDups ++ [a] := by
  have hkept : [a].removeAll l = [a] := by
    simp [List.removeAll, h]
  rw [List.eraseDups_append, hkept]
  rfl

theorem nodup_eraseDups (l : List α) : l.eraseDups.Nodup := by
  induction l using List.reverseRecOn with
  | nil => simp
  | append_singleton l a ih =>
    by_cases h : a ∈ l
    · rw [eraseDups_concat_of_mem h]
      exact ih
    · rw [eraseDups_concat_of_not_mem h]
      refine ih.append (List.nodup_singleton a) ?_
      simpa using h

/-- Repetitions may be dropped before entries are changed as well as only after that. -/
theorem eraseDups_map_eraseDups (f : α → β) (l : List α) :
    (l.eraseDups.map f).eraseDups = (l.map f).eraseDups := by
  induction l using List.reverseRecOn with
  | nil => rfl
  | append_singleton l a ih =>
    by_cases h : a ∈ l
    · rw [eraseDups_concat_of_mem h, ih, List.map_append, List.map_singleton,
        eraseDups_concat_of_mem (List.mem_map_of_mem h)]
    · rw [eraseDups_concat_of_not_mem h, List.map_append, List.map_append, List.map_singleton]
      -- Entries that differ may become equal, on both sides alike.
      by_cases hf : f a ∈ l.map f
      · have hf' : f a ∈ l.eraseDups.map f := by simpa using hf
        rw [eraseDups_concat_of_mem hf, eraseDups_concat_of_mem hf', ih]
      · have hf' : f a ∉ l.eraseDups.map f := by simpa using hf
        rw [eraseDups_concat_of_not_mem hf, eraseDups_concat_of_not_mem hf', ih]

end Stencil
