import Mathlib.Data.List.Induction
import Mathlib.Data.List.Nodup
import Mathlib.Data.List.Perm.Basic

/-!
# The last wanted element, or the first of all

A loop over a list remembers the index of the last element it wants, and starts from index 0
(`lastIndex`). What it chooses is the last wanted element, or the first element when it wants none
(`choose_eq`).

With at most one element, or exactly one wanted, the choice is the same for every order of the list
(`choose_eq_of_perm`). Otherwise a list without duplicates gives another choice when it is read
backwards (`choose_reverse_ne`).
-/

namespace Choice

variable {α : Type} (wanted : α → Bool)

/-- The index a loop is left with that notes each wanted element. -/
def lastIndex (l : List α) : Nat :=
  l.zipIdx.foldl (fun chosen x => if wanted x.1 then x.2 else chosen) 0

def choose (l : List α) : Option α := l[lastIndex wanted l]?

theorem lastIndex_concat (l : List α) (a : α) :
    lastIndex wanted (l ++ [a]) = if wanted a then l.length else lastIndex wanted l := by
  rw [lastIndex, List.zipIdx_append, List.foldl_append, Nat.zero_add]
  rfl

theorem lastIndex_lt {l : List α} (h : l ≠ []) : lastIndex wanted l < l.length := by
  induction l using List.reverseRecOn with
  | nil => exact absurd rfl h
  | append_singleton l a ih =>
    rw [lastIndex_concat, List.length_append, List.length_singleton]
    by_cases ha : wanted a = true
    · rw [if_pos ha]
      exact Nat.lt_succ_self _
    · rw [if_neg ha]
      by_cases hl : l = []
      · rw [hl]
        exact Nat.zero_lt_one
      · exact Nat.lt_succ_of_lt (ih hl)

theorem choose_eq (l : List α) :
    choose wanted l = ((l.filter wanted).getLast?).or l.head? := by
  induction l using List.reverseRecOn with
  | nil => rfl
  | append_singleton l a ih =>
    rw [choose, lastIndex_concat, List.filter_append]
    by_cases ha : wanted a = true
    · rw [if_pos ha, List.filter_cons_of_pos ha]
      simp
    · rw [if_neg ha, List.filter_cons_of_neg ha]
      by_cases hl : l = []
      · rw [hl]
        rfl
      · rw [List.getElem?_append_left (lastIndex_lt wanted hl), List.head?_append_of_ne_nil _ hl,
          List.filter_nil, List.append_nil]
        exact ih

theorem choose_isSome {l : List α} (h : l ≠ []) : (choose wanted l).isSome := by
  rw [choose, List.getElem?_eq_getElem (lastIndex_lt wanted h), Option.isSome_some]

theorem mem_of_choose {l : List α} {a : α} (h : choose wanted l = some a) : a ∈ l :=
  List.mem_of_getElem? h

/-- **If there is a wanted element, the choice is wanted.** -/
theorem wanted_of_choose {l : List α} {a b : α} (hb : b ∈ l) (hwanted : wanted b = true)
    (h : choose wanted l = some a) : wanted a = true := by
  rw [choose_eq] at h
  have hne : l.filter wanted ≠ [] := List.ne_nil_of_mem (List.mem_filter.2 ⟨hb, hwanted⟩)
  rw [List.getLast?_eq_some_getLast hne, Option.some_or] at h
  have hmem := List.getLast_mem hne
  rw [Option.some.inj h] at hmem
  exact (List.mem_filter.1 hmem).2

/-! ## Every order -/

theorem choose_eq_of_perm {l l' : List α} (hperm : l'.Perm l)
    (h : l.length ≤ 1 ∨ (l.filter wanted).length = 1) : choose wanted l' = choose wanted l := by
  rcases h with h | h
  · rcases Nat.le_one_iff_eq_zero_or_eq_one.1 h with h | h
    · obtain rfl := List.length_eq_zero_iff.1 h
      rw [hperm.eq_nil]
    · obtain ⟨a, rfl⟩ := List.length_eq_one_iff.1 h
      rw [List.perm_singleton.1 hperm]
  · obtain ⟨a, ha⟩ := List.length_eq_one_iff.1 h
    have ha' : l'.filter wanted = [a] := by
      have hfilter := hperm.filter wanted
      rw [ha] at hfilter
      exact List.perm_singleton.1 hfilter
    rw [choose_eq, choose_eq, ha, ha']
    rfl

theorem head_ne_getLast {l : List α} (hnodup : l.Nodup) (h : 2 ≤ l.length) :
    l.head? ≠ l.getLast? := by
  match l with
  | a :: b :: rest =>
    intro heq
    rw [List.head?_cons, List.getLast?_cons_cons,
      List.getLast?_eq_some_getLast (List.cons_ne_nil b rest)] at heq
    have hmem := List.getLast_mem (List.cons_ne_nil b rest)
    rw [← Option.some.inj heq] at hmem
    exact (List.nodup_cons.1 hnodup).1 hmem

/-- Read backwards, the list gives another choice. -/
theorem choose_reverse_ne {l : List α} (hnodup : l.Nodup) (hlength : 2 ≤ l.length)
    (hwanted : (l.filter wanted).length ≠ 1) : choose wanted l.reverse ≠ choose wanted l := by
  rw [choose_eq, choose_eq, List.filter_reverse, List.getLast?_reverse, List.head?_reverse]
  by_cases hnone : l.filter wanted = []
  · rw [hnone]
    exact (head_ne_getLast hnodup hlength).symm
  · have htwo : 2 ≤ (l.filter wanted).length := by
      have hpos := List.length_pos_iff.2 hnone
      omega
    have hne := head_ne_getLast (hnodup.filter wanted) htwo
    rw [List.head?_eq_some_head hnone, List.getLast?_eq_some_getLast hnone] at hne ⊢
    exact hne

end Choice
