import Mathlib.Data.List.Basic
import Mathlib.Data.List.TakeWhile

/-!
# A text cut at a delimiter

A text that has the delimiter is cut at its first occurrence in one way (`first_unique`), and the
`takeWhile` and `dropWhile` that make the cut are given by it. It may also be cut at its last one
(`exists_last`).
-/

namespace Delimiter

variable {α : Type} [DecidableEq α] {c : α} {a a' b b' : List α}

theorem takeWhile_first (h : c ∉ a) : (a ++ c :: b).takeWhile (· ≠ c) = a := by
  have hall : ∀ x ∈ a, decide (x ≠ c) = true := by
    intro x hx
    exact decide_eq_true fun heq => h (heq ▸ hx)
  rw [List.takeWhile_append_of_pos hall, List.takeWhile_cons_of_neg (by simp), List.append_nil]

theorem dropWhile_first (h : c ∉ a) : (a ++ c :: b).dropWhile (· ≠ c) = c :: b := by
  have hall : ∀ x ∈ a, decide (x ≠ c) = true := by
    intro x hx
    exact decide_eq_true fun heq => h (heq ▸ hx)
  rw [List.dropWhile_append_of_pos hall, List.dropWhile_cons_of_neg (by simp)]

/-- A text without the delimiter is not cut. -/
theorem takeWhile_none (h : c ∉ a) : a.takeWhile (· ≠ c) = a := by
  apply List.takeWhile_eq_self_iff.2
  intro x hx
  exact decide_eq_true fun heq => h (heq ▸ hx)

theorem first_unique (h : c ∉ a) (h' : c ∉ a') (heq : a ++ c :: b = a' ++ c :: b') :
    a = a' ∧ b = b' := by
  have htake : a = a' := by
    rw [← takeWhile_first (b := b) h, heq, takeWhile_first h']
  subst htake
  have hdrop := List.append_cancel_left heq
  exact ⟨rfl, (List.cons.inj hdrop).2⟩

omit [DecidableEq α] in
theorem exists_last {l : List α} (h : c ∈ l) : ∃ a b, l = a ++ c :: b ∧ c ∉ b := by
  obtain ⟨b, a, heq, hb⟩ := List.eq_append_cons_of_mem (List.mem_reverse.2 h)
  refine ⟨a.reverse, b.reverse, ?_, by simpa using hb⟩
  rw [← List.reverse_reverse l, heq]
  simp

end Delimiter
