import Mathlib.Data.List.Nodup
import Mathlib.Data.List.Perm.Basic

/-!
# Assignments of which the last one wins

A list assigns values to keys, from left to right, and a key may be assigned more than once
(`values`). What it keeps is the last value (`last`).

**Theorem (`last_perm`).** When each key is assigned once, the order of the assignments is without
effect.
-/

namespace LastWins

variable {κ ν : Type} [DecidableEq κ]

/-- The values that are assigned to a key, in order. -/
def values (l : List (κ × ν)) (k : κ) : List ν :=
  l.filterMap fun assignment => if assignment.1 = k then some assignment.2 else none

/-- The value a key is left with. -/
def last (l : List (κ × ν)) (k : κ) : Option ν := (values l k).getLast?

theorem values_cons_self (k : κ) (v : ν) (l : List (κ × ν)) :
    values ((k, v) :: l) k = v :: values l k := by
  simp [values]

theorem values_cons_of_ne {k k' : κ} (h : k' ≠ k) (v : ν) (l : List (κ × ν)) :
    values ((k', v) :: l) k = values l k := by
  simp [values, h]

@[simp] theorem mem_values {l : List (κ × ν)} {k : κ} {v : ν} : v ∈ values l k ↔ (k, v) ∈ l := by
  simp only [values, List.mem_filterMap]
  constructor
  · intro h
    obtain ⟨⟨k', v'⟩, hmem, heq⟩ := h
    by_cases hk : k' = k
    · rw [if_pos hk, Option.some.injEq] at heq
      subst hk heq
      exact hmem
    · rw [if_neg hk] at heq
      exact absurd heq (by simp)
  · intro h
    exact ⟨(k, v), h, if_pos rfl⟩

/-- The first assignment counts only for a key that is not assigned again. -/
theorem last_cons (k' : κ) (v : ν) (l : List (κ × ν)) (k : κ) :
    last ((k', v) :: l) k = (last l k).or (if k' = k then some v else none) := by
  by_cases h : k' = k
  · subst h
    rw [last, values_cons_self, if_pos rfl, List.getLast?_cons, last]
    cases (values l k').getLast? <;> rfl
  · rw [last, values_cons_of_ne h, if_neg h, Option.or_none, last]

/-- The last assignment counts. -/
theorem last_concat (l : List (κ × ν)) (k' : κ) (v : ν) (k : κ) :
    last (l ++ [(k', v)]) k = if k' = k then some v else last l k := by
  rw [last, values, List.filterMap_append]
  by_cases h : k' = k
  · simp [h]
  · simp [h, last, values]

theorem last_eq_none_iff {l : List (κ × ν)} {k : κ} : last l k = none ↔ k ∉ l.map Prod.fst := by
  rw [last, List.getLast?_eq_none_iff, List.eq_nil_iff_forall_not_mem]
  simp

theorem isSome_last_iff {l : List (κ × ν)} {k : κ} :
    (last l k).isSome = true ↔ k ∈ l.map Prod.fst := by
  rw [Option.isSome_iff_ne_none, ne_eq, last_eq_none_iff, not_not]

theorem mem_of_last {l : List (κ × ν)} {k : κ} {v : ν} (h : last l k = some v) : (k, v) ∈ l :=
  mem_values.1 (List.mem_of_getLast? h)

theorem last_eq_some_iff {l : List (κ × ν)} (hl : (l.map Prod.fst).Nodup) {k : κ} {v : ν} :
    last l k = some v ↔ (k, v) ∈ l := by
  refine ⟨mem_of_last, ?_⟩
  intro h
  have hkey : (last l k).isSome = true := isSome_last_iff.2 (List.mem_map.2 ⟨_, h, rfl⟩)
  obtain ⟨w, hw⟩ := Option.isSome_iff_exists.1 hkey
  have heq : (k, w) = (k, v) := List.inj_on_of_nodup_map hl (mem_of_last hw) h rfl
  rw [hw, (Prod.mk.inj heq).2]

/-- **The order of assignments to different keys is without effect.** -/
theorem last_perm {l l' : List (κ × ν)} (h : l.Perm l') (hl : (l.map Prod.fst).Nodup) :
    last l = last l' := by
  have hl' : (l'.map Prod.fst).Nodup := (h.map Prod.fst).nodup_iff.1 hl
  funext k
  apply Option.ext
  intro v
  rw [last_eq_some_iff hl, last_eq_some_iff hl', h.mem_iff]

end LastWins
