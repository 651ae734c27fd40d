import Mathlib.Data.List.Basic

/-!
# Occurrences of a pattern in a text

`OccursAt pattern text i` says that the pattern stands in the text from index `i` on. An occurrence
is the same thing in the text and in what is behind a part of it (`occursAt_drop`), and fixes the
text at each of its indices (`OccursAt.getElem?`), so that two occurrences that overlap can be
compared.
-/

namespace Search

variable {α : Type}

def OccursAt (pattern text : List α) (i : Nat) : Prop := pattern <+: text.drop i

namespace OccursAt

variable {pattern pattern' text : List α} {i k : Nat}

theorem getElem? (h : OccursAt pattern text i) (hk : k < pattern.length) :
    text[i + k]? = pattern[k]? := by
  obtain ⟨rest, hrest⟩ := h
  rw [← List.getElem?_drop, ← hrest, List.getElem?_append_left hk]

theorem le_length (h : OccursAt pattern text i) (hpos : 0 < pattern.length) :
    i + pattern.length ≤ text.length := by
  have hle := List.IsPrefix.length_le h
  rw [List.length_drop] at hle
  omega

theorem append_iff : OccursAt (pattern ++ pattern') text i ↔
    OccursAt pattern text i ∧ OccursAt pattern' text (i + pattern.length) := by
  unfold OccursAt
  rw [← List.drop_drop]
  constructor
  · rintro ⟨rest, hrest⟩
    rw [← hrest, List.append_assoc]
    refine ⟨List.prefix_append _ _, ?_⟩
    rw [List.drop_left]
    exact List.prefix_append _ _
  · rintro ⟨⟨rest, hrest⟩, h⟩
    rw [← hrest, List.drop_left] at h
    rw [← hrest]
    exact (List.prefix_append_right_inj pattern).2 h

/-- A first part of the pattern stands there too. -/
theorem of_prefix (h : OccursAt pattern text i) (hp : pattern' <+: pattern) :
    OccursAt pattern' text i := List.IsPrefix.trans hp h

end OccursAt

theorem occursAt_drop {pattern text : List α} {n i : Nat} :
    OccursAt pattern (text.drop n) i ↔ OccursAt pattern text (n + i) := by
  rw [OccursAt, OccursAt, List.drop_drop]

end Search
