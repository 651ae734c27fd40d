import Mathlib

/-!
# Binary search in a table

`search` halves the part of a table in which the row with a key can be.

**Theorem (`search_eq_some_iff`).** In a table whose keys ascend a row is found by its key, and
nothing else is.

**Theorem (`finds_iff_ascends`).** If no two rows have the same key, every row is found by its key
exactly if the keys ascend.
-/

namespace BinarySearch

variable {α κ : Type} [LinearOrder κ] (key : α → κ) (table : Array α)

/-- The row with the key `k` among those from `lo` up to `hi`. -/
def search (k : κ) (lo hi : Nat) (h : hi ≤ table.size) : Option α :=
  if hlt : lo < hi then
    let mid := lo + (hi - lo) / 2
    let row := table[mid]
    if key row = k then some row
    else if key row < k then search k (mid + 1) hi h
    else search k lo mid (by omega)
  else none
termination_by hi - lo

/-- The keys of the rows from `lo` up to `hi` ascend. -/
def Ascends (lo hi : Nat) (h : hi ≤ table.size) : Prop :=
  ∀ i j, lo ≤ i → (hij : i < j) → (hj : j < hi) → key table[i] < key table[j]

variable {key table} {k : κ} {lo hi : Nat} {h : hi ≤ table.size}

/-- A row that is found is one of those searched. -/
theorem exists_of_search {row : α} (hfound : search key table k lo hi h = some row) :
    ∃ i, ∃ hi' : i < hi, lo ≤ i ∧ table[i] = row ∧ key row = k := by
  fun_induction search key table k lo hi h with
  | case1 lo hi h hlt mid row' heq =>
    obtain rfl := Option.some.inj hfound
    exact ⟨mid, by omega, by omega, rfl, heq⟩
  | case2 lo hi h hlt mid row' hne hless ih =>
    obtain ⟨i, hi', hle, hrow⟩ := ih hfound
    exact ⟨i, hi', by omega, hrow⟩
  | case3 lo hi h hlt mid row' hne hless ih =>
    obtain ⟨i, hi', hle, hrow⟩ := ih hfound
    exact ⟨i, by omega, hle, hrow⟩
  | case4 => cases hfound

/-- In a part whose keys ascend each row is found. -/
theorem search_of_ascends {i : Nat} (hsorted : Ascends key table lo hi h) (hle : lo ≤ i)
    (hi' : i < hi) (hk : key table[i] = k) : search key table k lo hi h = some table[i] := by
  fun_induction search key table k lo hi h with
  | case1 lo hi h hlt mid row heq =>
    obtain hless | rfl | hmore := Nat.lt_trichotomy i mid
    · exact absurd hk ((hsorted i mid hle hless (by omega)).trans_eq heq).ne
    · rfl
    · exact absurd hk (heq.symm.trans_lt (hsorted mid i (by omega) hmore hi')).ne'
  | case2 lo hi h hlt mid row hne hless ih =>
    refine ih (fun a b hlo hab hhi => hsorted a b (by omega) hab hhi) ?_ hi' hk
    by_contra hleft
    obtain hlt' | rfl : i < mid ∨ i = mid := by omega
    · exact absurd hk ((hsorted i mid hle hlt' (by omega)).trans hless).ne
    · exact hne hk
  | case3 lo hi h hlt mid row hne hless ih =>
    have hmid : i < mid := by
      by_contra hright
      obtain hlt' | rfl : mid < i ∨ mid = i := by omega
      · exact hless (hk ▸ hsorted mid i (by omega) hlt' hi')
      · exact hne hk
    exact ih (fun a b hlo hab hhi => hsorted a b hlo hab (by omega)) hle hmid hk
  | case4 => omega

/-- **In a table whose keys ascend a row is found by its key.** -/
theorem search_eq_some_iff (hsorted : Ascends key table 0 table.size le_rfl) {row : α} :
    search key table k 0 table.size le_rfl = some row ↔ row ∈ table ∧ key row = k := by
  constructor
  · intro hfound
    obtain ⟨i, hi', -, rfl, hk⟩ := exists_of_search hfound
    exact ⟨Array.getElem_mem hi', hk⟩
  · rintro ⟨hmem, hk⟩
    obtain ⟨i, hi', rfl⟩ := Array.getElem_of_mem hmem
    exact search_of_ascends hsorted (Nat.zero_le i) hi' hk

/-- No two rows have the same key. -/
def Distinct (key : α → κ) (table : Array α) : Prop :=
  ∀ i j, (hi : i < table.size) → (hj : j < table.size) → key table[i] = key table[j] → i = j

section
variable {mid : Nat} (hmid : mid = lo + (hi - lo) / 2) (hlt : mid < hi)
include hmid

theorem search_step : search key table k lo hi h =
    if key table[mid] = k then some table[mid]
    else if key table[mid] < k then search key table k (mid + 1) hi h
    else search key table k lo mid (by omega) := by
  subst hmid
  rw [search, dif_pos (by omega)]

/-- A row in front of the middle is found in front of it, one behind the middle behind it. -/
theorem found_in_half (hdistinct : Distinct key table) {i : Nat} (hi' : i < hi)
    (hfound : (search key table (key table[i]) lo hi h).isSome) :
    (i < mid → key table[i] < key table[mid] ∧
      (search key table (key table[i]) lo mid (by omega)).isSome) ∧
    (mid < i → key table[mid] < key table[i] ∧
      (search key table (key table[i]) (mid + 1) hi h).isSome) := by
  rw [search_step hmid hlt] at hfound
  have hother (hne : i ≠ mid) : key table[mid] ≠ key table[i] := fun heq =>
    hne (hdistinct mid i (by omega) (by omega) heq).symm
  constructor
  · intro hleft
    rw [if_neg (hother (by omega))] at hfound
    split_ifs at hfound with hless
    · obtain ⟨row, hrow⟩ := Option.isSome_iff_exists.1 hfound
      obtain ⟨j, hj, hlow, rfl, hk⟩ := exists_of_search hrow
      have := hdistinct j i (by omega) (by omega) hk
      omega
    · exact ⟨lt_of_le_of_ne (not_lt.1 hless) (hother (by omega)).symm, hfound⟩
  · intro hright
    rw [if_neg (hother (by omega))] at hfound
    split_ifs at hfound with hless
    · exact ⟨hless, hfound⟩
    · obtain ⟨row, hrow⟩ := Option.isSome_iff_exists.1 hfound
      obtain ⟨j, hj, hlow, rfl, hk⟩ := exists_of_search hrow
      have := hdistinct j i (by omega) (by omega) hk
      omega

end

/-- Where each row is found the keys ascend. -/
theorem ascends_of_found (hdistinct : Distinct key table)
    (hfound : ∀ i, lo ≤ i → (hi' : i < hi) → (search key table (key table[i]) lo hi h).isSome) :
    Ascends key table lo hi h := by
  induction hn : hi - lo using Nat.strong_induction_on generalizing lo hi with
  | _ n ih =>
    intro i j hlo hij hj
    obtain ⟨mid, hmid⟩ : ∃ mid, mid = lo + (hi - lo) / 2 := ⟨_, rfl⟩
    have hlt : mid < hi := by omega
    have hhalf (a) (hle : lo ≤ a) (ha : a < hi) :=
      found_in_half hmid hlt hdistinct ha (hfound a hle ha)
    have hleft := ih (mid - lo) (by omega) (h := by omega)
      (fun a hle ha => ((hhalf a hle (by omega)).1 ha).2) rfl
    have hright := ih (hi - (mid + 1)) (by omega)
      (fun a hle ha => ((hhalf a (by omega) ha).2 (by omega)).2) rfl
    have hi' := hhalf i hlo (by omega)
    have hj' := hhalf j (by omega) hj
    obtain hlow | heq | hhigh := Nat.lt_trichotomy i mid
    · obtain hlow' | heq' | hhigh' := Nat.lt_trichotomy j mid
      · exact hleft i j hlo hij hlow'
      · subst heq'
        exact (hi'.1 hlow).1
      · exact (hi'.1 hlow).1.trans (hj'.2 hhigh').1
    · subst heq
      exact (hj'.2 hij).1
    · exact hright i j (by omega) hij hj

theorem ascends_of_isChain (hchain : (table.toList.map key).IsChain (· < ·)) :
    Ascends key table 0 table.size le_rfl := by
  intro i j _ hij hj
  have hpairwise := List.pairwise_map.1 (List.isChain_iff_pairwise.1 hchain)
  have hlength : table.toList.length = table.size := Array.length_toList
  exact List.pairwise_iff_getElem.1 hpairwise i j (by omega) (by omega) hij

theorem distinct_of_ascends (hsorted : Ascends key table 0 table.size le_rfl) :
    Distinct key table := by
  intro i j hi hj heq
  obtain hlt | rfl | hgt := Nat.lt_trichotomy i j
  · exact absurd heq (hsorted i j (Nat.zero_le i) hlt hj).ne
  · rfl
  · exact absurd heq (hsorted j i (Nat.zero_le j) hgt hi).ne'

/-- **Every row is found by its key exactly if the keys ascend.** -/
theorem finds_iff_ascends (hdistinct : Distinct key table) :
    (∀ row ∈ table, search key table (key row) 0 table.size le_rfl = some row) ↔
      Ascends key table 0 table.size le_rfl := by
  constructor
  · intro hfound
    refine ascends_of_found hdistinct fun i _ hi' => ?_
    rw [hfound _ (Array.getElem_mem hi')]
    rfl
  · intro hsorted row hmem
    exact (search_eq_some_iff hsorted).2 ⟨hmem, rfl⟩

end BinarySearch
