import Mathlib.Data.List.Basic
import Mathlib.Data.List.Induction
import Mathlib.Data.List.Nodup

/-!
# Each element once, where it occurs first

`List.eraseDups` keeps the first of equal elements. A list that grows at its end gives a new element
only if it has not occurred (`eraseDups_concat`), so the result has each element once
(`nodup_eraseDups`), and a map that tells the elements apart commutes with it (`eraseDups_map`).
-/

namespace Dedup

variable {α β : Type} [BEq α] [LawfulBEq α] [BEq β] [LawfulBEq β]

theorem eraseDups_concat (l : List α) (a : α) :
    (l ++ [a]).eraseDups = if a ∈ l then l.eraseDups else l.eraseDups ++ [a] := by
  rw [List.eraseDups_append]
  by_cases h : a ∈ l
  · simp [h, List.removeAll]
  · simp [h, List.removeAll, List.eraseDups_cons]

theorem nodup_eraseDups (l : List α) : l.eraseDups.Nodup := by
  induction l using List.reverseRecOn with
  | nil => exact List.nodup_nil
  | append_singleton l a ih =>
    rw [eraseDups_concat]
    by_cases h : a ∈ l
    · rw [if_pos h]
      exact ih
    · rw [if_neg h, ← List.concat_eq_append]
      exact ih.concat (by rwa [List.mem_eraseDups])

/-- A map that is injective on the list. -/
theorem eraseDups_map {f : α → β} {l : List α}
    (hf : ∀ a ∈ l, ∀ b ∈ l, f a = f b → a = b) : (l.map f).eraseDups = l.eraseDups.map f := by
  induction l using List.reverseRecOn with
  | nil => rfl
  | append_singleton l a ih =>
    have hmem : f a ∈ l.map f ↔ a ∈ l := by
      rw [List.mem_map]
      constructor
      · intro h
        obtain ⟨b, hb, heq⟩ := h
        rwa [← hf b (List.mem_append_left _ hb) a (by simp) heq]
      · intro h
        exact ⟨a, h, rfl⟩
    rw [List.map_append, List.map_singleton, eraseDups_concat, eraseDups_concat,
      ih fun a ha b hb => hf a (List.mem_append_left _ ha) b (List.mem_append_left _ hb)]
    by_cases h : a ∈ l
    · rw [if_pos h, if_pos (hmem.2 h)]
    · rw [if_neg h, if_neg fun hc => h (hmem.1 hc), List.map_append, List.map_singleton]

end Dedup
