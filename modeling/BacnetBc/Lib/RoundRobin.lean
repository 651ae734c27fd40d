import BacnetBc.Lib.LastWins
import Mathlib.Data.List.FinRange
import Mathlib.Data.List.Induction
import Mathlib.Data.List.Dedup
import Mathlib.Data.List.Perm.Subperm
import Mathlib.Data.Nat.ModEq

/-!
# A table that forgets in turn

A `Table` has `n` slots for keys with their values. A key that has a slot gets its new value there;
a new key takes the slot whose turn it is, and the key that was there is forgotten. Nothing but a
new key moves the turn on.

**Theorem (`lookup_run`).** A key is found exactly if it is one of the last `n` that were new
(`inserted`), and then with the last value it was given (`remembered`).

**Theorem (`recall_of_few`).** As long as there were no more than `n` different keys, all of them
are found.
-/

namespace RoundRobin

open LastWins

variable {κ ν : Type} {n : Nat}

/-! ## The last of a list -/

/-- The last `n` of a list. -/
def window (n : Nat) (ins : List κ) : List κ := ins.drop (ins.length - n)

theorem mem_window {ins : List κ} {k : κ} :
    k ∈ window n ins ↔ ∃ m, ∃ h : m < ins.length, ins.length ≤ m + n ∧ ins[m] = k := by
  rw [window, List.mem_iff_getElem]
  constructor
  · rintro ⟨i, hi, rfl⟩
    rw [List.length_drop] at hi
    exact ⟨ins.length - n + i, by omega, by omega, List.getElem_drop.symm⟩
  · rintro ⟨m, hm, hlast, rfl⟩
    refine ⟨m - (ins.length - n), by rw [List.length_drop]; omega, ?_⟩
    rw [List.getElem_drop]
    congr 1
    omega

/-- Two of the last `n` have different slots. -/
theorem eq_of_mod_eq {m m' count : Nat} (h : m < count) (hlast : count ≤ m + n) (h' : m' < count)
    (hlast' : count ≤ m' + n) (heq : m % n = m' % n) : m = m' := by
  wlog hle : m ≤ m' generalizing m m'
  · exact (this h' hlast' h hlast heq.symm (by omega)).symm
  have hdvd : n ∣ m' - m := (Nat.modEq_iff_dvd' hle).1 heq
  by_contra hne
  have := Nat.le_of_dvd (by omega) hdvd
  omega

/-! ## The table -/

structure Table (κ ν : Type) (n : Nat) where
  slots : Vector (Option (κ × ν)) n
  next : Fin n

def empty (κ ν : Type) (h : 0 < n) : Table κ ν n := ⟨Vector.replicate n none, ⟨0, h⟩⟩

variable [DecidableEq κ]

/-- The first slot with this key. -/
def slotOf (r : Table κ ν n) (k : κ) : Option (Fin n) :=
  (List.finRange n).find? fun i => r.slots[i].map Prod.fst = some k

def lookup (r : Table κ ν n) (k : κ) : Option ν :=
  (slotOf r k).bind fun i => r.slots[i].map Prod.snd

def remember (r : Table κ ν n) (k : κ) (v : ν) : Table κ ν n :=
  match slotOf r k with
  | some i => { r with slots := r.slots.set i (some (k, v)) }
  | none =>
    { slots := r.slots.set r.next (some (k, v))
      next := ⟨(r.next + 1) % n, Nat.mod_lt _ (Nat.zero_lt_of_lt r.next.isLt)⟩ }

/-- The table after a row of keys with their values. -/
def run (r : Table κ ν n) (heard : List (κ × ν)) : Table κ ν n :=
  heard.foldl (fun r e => remember r e.1 e.2) r

/-! ## The keys that were new -/

/-- The keys that took a slot, the oldest first. -/
def inserted (n : Nat) (keys : List κ) : List κ :=
  keys.foldl (fun ins k => if k ∈ window n ins then ins else ins ++ [k]) []

/-- What is left of a row of keys with their values. -/
def remembered (n : Nat) (heard : List (κ × ν)) (k : κ) : Option ν :=
  if k ∈ window n (inserted n (heard.map Prod.fst)) then last heard k else none

theorem inserted_concat (keys : List κ) (k : κ) : inserted n (keys ++ [k]) =
    if k ∈ window n (inserted n keys) then inserted n keys else inserted n keys ++ [k] := by
  rw [inserted, List.foldl_append]
  rfl

/-! ## What the slots hold -/

/-- Each of the last `n` keys has its slot there, with the last value it was given. -/
structure Holds (r : Table κ ν n) (ins : List κ) (heard : List (κ × ν)) : Prop where
  next : r.next.val = ins.length % n
  slot : ∀ m (h : m < ins.length), ins.length ≤ m + n → ∀ i : Fin n, i.val = m % n →
    ∃ v, r.slots[i] = some (ins[m], v) ∧ last heard ins[m] = some v
  back : ∀ i : Fin n, r.slots[i] = none ∨
    ∃ m, m < ins.length ∧ ins.length ≤ m + n ∧ i.val = m % n
  distinct : ∀ m m' (h : m < ins.length) (h' : m' < ins.length), ins.length ≤ m + n →
    ins.length ≤ m' + n → ins[m] = ins[m'] → m = m'

theorem holds_empty (h : 0 < n) : Holds (empty κ ν h) [] [] where
  next := (Nat.zero_mod n).symm
  slot m hm := absurd hm (Nat.not_lt_zero m)
  back i := .inl (by simp [empty])
  distinct m _ hm := absurd hm (Nat.not_lt_zero m)

section
variable {r : Table κ ν n} {ins : List κ} {heard : List (κ × ν)} {k : κ} {v : ν}

theorem key_of_slotOf {i : Fin n} (h : slotOf r k = some i) : ∃ v, r.slots[i] = some (k, v) := by
  have hkey := List.find?_some h
  rw [decide_eq_true_eq] at hkey
  obtain ⟨⟨k', v⟩, hslot, rfl⟩ := Option.map_eq_some_iff.1 hkey
  exact ⟨v, hslot⟩

theorem not_mem_of_slotOf (h : slotOf r k = none) (i : Fin n) (v : ν) :
    r.slots[i] ≠ some (k, v) := by
  intro hslot
  have hnone := List.find?_eq_none.1 h i (List.mem_finRange i)
  rw [hslot] at hnone
  exact hnone (decide_eq_true rfl)

/-- A key with a slot is one of the last `n`. -/
theorem Holds.exists_of_slot (h : Holds r ins heard) {i : Fin n}
    (hslot : r.slots[i] = some (k, v)) :
    ∃ m, ∃ hm : m < ins.length, ins.length ≤ m + n ∧ i.val = m % n ∧ ins[m] = k ∧
      last heard k = some v := by
  obtain hnone | ⟨m, hm, hlast, hi⟩ := h.back i
  · rw [hslot] at hnone
    cases hnone
  obtain ⟨v', hslot', hv⟩ := h.slot m hm hlast i hi
  rw [hslot] at hslot'
  obtain ⟨rfl, rfl⟩ := Prod.mk.inj (Option.some.inj hslot')
  exact ⟨m, hm, hlast, hi, rfl, hv⟩

theorem Holds.slotOf_isSome (h : Holds r ins heard) :
    (slotOf r k).isSome ↔ k ∈ window n ins := by
  rw [mem_window]
  constructor
  · intro hsome
    obtain ⟨i, hi⟩ := Option.isSome_iff_exists.1 hsome
    obtain ⟨v, hslot⟩ := key_of_slotOf hi
    obtain ⟨m, hm, hlast, -, hk, -⟩ := h.exists_of_slot hslot
    exact ⟨m, hm, hlast, hk⟩
  · rintro ⟨m, hm, hlast, rfl⟩
    by_contra hnone
    rw [Option.not_isSome_iff_eq_none] at hnone
    have hpos : 0 < n := by omega
    obtain ⟨v, hslot, -⟩ := h.slot m hm hlast ⟨m % n, Nat.mod_lt m hpos⟩ rfl
    exact not_mem_of_slotOf hnone _ v hslot

/-- A key that is known keeps its slot. -/
theorem Holds.remember_known (h : Holds r ins heard) {i : Fin n} (hi : slotOf r k = some i)
    (v : ν) : Holds (remember r k v) ins (heard ++ [(k, v)]) := by
  obtain ⟨v₀, hslot⟩ := key_of_slotOf hi
  obtain ⟨m, hm, hlast, him, hk, -⟩ := h.exists_of_slot hslot
  have hremember : remember r k v = { r with slots := r.slots.set i (some (k, v)) } := by
    rw [remember, hi]
  rw [hremember]
  refine ⟨h.next, fun m' hm' hlast' j hj => ?_, fun j => ?_, h.distinct⟩
  · by_cases heq : m' = m
    · subst heq
      obtain rfl : j = i := Fin.ext (hj.trans him.symm)
      refine ⟨v, ?_, ?_⟩
      · rw [hk]
        simp
      · rw [hk, last_concat, if_pos rfl]
    · have hne : j ≠ i := fun hji => heq (eq_of_mod_eq hm' hlast' hm hlast
        (hj.symm.trans ((congrArg Fin.val hji).trans him)))
      obtain ⟨v', hslot', hv'⟩ := h.slot m' hm' hlast' j hj
      refine ⟨v', ?_, ?_⟩
      · have hval : i.val ≠ j.val := fun hval => hne (Fin.ext hval.symm)
        simpa [Vector.getElem_set_ne, hval] using hslot'
      · have hkey : k ≠ ins[m'] := fun hkey => heq (h.distinct m' m hm' hm hlast' hlast
          (hkey.symm.trans hk.symm))
        rw [last_concat, if_neg hkey, hv']
  · by_cases hji : j = i
    · exact .inr ⟨m, hm, hlast, hji ▸ him⟩
    · obtain hnone | hback := h.back j
      · have hval : i.val ≠ j.val := fun hval => hji (Fin.ext hval.symm)
        exact .inl (by simpa [Vector.getElem_set_ne, hval] using hnone)
      · exact .inr hback

/-- A new key takes the slot of the oldest of the last `n`. -/
theorem Holds.remember_new (h : Holds r ins heard) (hnone : slotOf r k = none) (v : ν) :
    Holds (remember r k v) (ins ++ [k]) (heard ++ [(k, v)]) := by
  have hpos : 0 < n := Nat.zero_lt_of_lt r.next.isLt
  have hremember : remember r k v =
      { slots := r.slots.set r.next (some (k, v))
        next := ⟨(r.next + 1) % n, Nat.mod_lt _ hpos⟩ } := by
    rw [remember, hnone]
  rw [hremember]
  have hlen : (ins ++ [k]).length = ins.length + 1 := by simp
  refine ⟨?_, fun m hm hlast i hi => ?_, fun i => ?_, fun m m' hm hm' hlast hlast' hkey => ?_⟩
  · change (r.next.val + 1) % n = _
    rw [hlen, h.next, Nat.mod_add_mod]
  · rw [hlen] at hm hlast
    obtain hold | rfl := Nat.lt_succ_iff_lt_or_eq.1 hm
    · have hne : i ≠ r.next := fun hin => absurd
        (eq_of_mod_eq hm hlast (Nat.lt_succ_self _) (by omega)
          (hi.symm.trans ((congrArg Fin.val hin).trans h.next))) (Nat.ne_of_lt hold)
      have hval : r.next.val ≠ i.val := fun hval => hne (Fin.ext hval.symm)
      obtain ⟨v', hslot, hv'⟩ := h.slot m hold (by omega) i hi
      have hkey : k ≠ ins[m] := fun hkey => not_mem_of_slotOf hnone i v' (hkey ▸ hslot)
      refine ⟨v', ?_, ?_⟩
      · simpa [Vector.getElem_set_ne, hval, List.getElem_append_left hold] using hslot
      · rw [List.getElem_append_left hold, last_concat, if_neg hkey, hv']
    · obtain rfl : i = r.next := Fin.ext (hi.trans h.next.symm)
      refine ⟨v, by simp, ?_⟩
      rw [List.getElem_concat_length rfl, last_concat, if_pos rfl]
  · by_cases hin : i = r.next
    · exact .inr ⟨ins.length, by omega, by omega, hin ▸ h.next⟩
    · have hval : r.next.val ≠ i.val := fun hval => hin (Fin.ext hval.symm)
      obtain hempty | ⟨m, hm, hlast, him⟩ := h.back i
      · exact .inl (by simpa [Vector.getElem_set_ne, hval] using hempty)
      · -- the `n`th before the new one had the slot that is taken now
        have hne : ins.length ≠ m + n := fun hc => hval (by rw [h.next, hc, Nat.add_mod_right, him])
        exact .inr ⟨m, by omega, by omega, him⟩
  · rw [hlen] at hm hm' hlast hlast'
    have hnew : ∀ j (hj : j < ins.length), ins.length ≤ j + n → ins[j] ≠ k := by
      intro j hj hjlast hjk
      have hsome := h.slotOf_isSome.2 (mem_window.2 ⟨j, hj, hjlast, hjk⟩)
      rw [hnone] at hsome
      cases hsome
    obtain hold | rfl := Nat.lt_succ_iff_lt_or_eq.1 hm <;>
      obtain hold' | rfl := Nat.lt_succ_iff_lt_or_eq.1 hm'
    · rw [List.getElem_append_left hold, List.getElem_append_left hold'] at hkey
      exact h.distinct m m' hold hold' (by omega) (by omega) hkey
    · rw [List.getElem_append_left hold, List.getElem_concat_length rfl] at hkey
      exact absurd hkey (hnew m hold (by omega))
    · rw [List.getElem_append_left hold', List.getElem_concat_length rfl] at hkey
      exact absurd hkey.symm (hnew m' hold' (by omega))
    · rfl

/-- One step: what the table holds, after one more key. -/
theorem Holds.remember (h : Holds r ins heard) (k : κ) (v : ν) :
    Holds (remember r k v) (if k ∈ window n ins then ins else ins ++ [k]) (heard ++ [(k, v)]) := by
  by_cases hmem : k ∈ window n ins
  · rw [if_pos hmem]
    obtain ⟨i, hi⟩ := Option.isSome_iff_exists.1 (h.slotOf_isSome.2 hmem)
    exact h.remember_known hi v
  · rw [if_neg hmem]
    have hnone : slotOf r k = none := by
      rw [← Option.not_isSome_iff_eq_none, h.slotOf_isSome]
      exact hmem
    exact h.remember_new hnone v

theorem Holds.lookup (h : Holds r ins heard) (k : κ) :
    lookup r k = if k ∈ window n ins then last heard k else none := by
  rw [RoundRobin.lookup]
  by_cases hmem : k ∈ window n ins
  · obtain ⟨i, hi⟩ := Option.isSome_iff_exists.1 (h.slotOf_isSome.2 hmem)
    obtain ⟨v, hslot⟩ := key_of_slotOf hi
    obtain ⟨m, hm, -, -, -, hv⟩ := h.exists_of_slot hslot
    rw [if_pos hmem, hi, hv, Option.bind_some, hslot]
    rfl
  · have hnone : slotOf r k = none := by
      rw [← Option.not_isSome_iff_eq_none, h.slotOf_isSome]
      exact hmem
    rw [if_neg hmem, hnone, Option.bind_none]

end

/-! ## Runs -/

theorem run_concat (r : Table κ ν n) (heard : List (κ × ν)) (k : κ) (v : ν) :
    run r (heard ++ [(k, v)]) = remember (run r heard) k v := by
  rw [run, List.foldl_append]
  rfl

theorem holds_run (hpos : 0 < n) (heard : List (κ × ν)) :
    Holds (run (empty κ ν hpos) heard) (inserted n (heard.map Prod.fst)) heard := by
  induction heard using List.reverseRecOn with
  | nil => exact holds_empty hpos
  | append_singleton heard e ih =>
    rw [run_concat, List.map_append, List.map_singleton, inserted_concat]
    exact ih.remember e.1 e.2

/-- **What is found after a row of keys.** -/
theorem lookup_run (hpos : 0 < n) (heard : List (κ × ν)) (k : κ) :
    lookup (run (empty κ ν hpos) heard) k = remembered n heard k :=
  (holds_run hpos heard).lookup k

/-! ## Few keys -/

/-- With no more than `n` different keys each of them is new once. -/
theorem inserted_of_few {keys : List κ} (h : keys.dedup.length ≤ n) :
    (inserted n keys).Nodup ∧ ∀ k, k ∈ inserted n keys ↔ k ∈ keys := by
  induction keys using List.reverseRecOn with
  | nil => exact ⟨List.nodup_nil, fun _ => Iff.rfl⟩
  | append_singleton keys k ih =>
    have hsub : keys.dedup.Subperm (keys ++ [k]).dedup := by
      refine (List.nodup_dedup keys).subperm fun k' hk' => ?_
      rw [List.mem_dedup] at hk' ⊢
      exact List.mem_append_left _ hk'
    obtain ⟨hnodup, hmem⟩ := ih (hsub.length_le.trans h)
    have hlen : (inserted n keys).length ≤ n := by
      refine le_trans (List.Subperm.length_le (hnodup.subperm fun k' hk' => ?_))
        (hsub.length_le.trans h)
      exact List.mem_dedup.2 ((hmem k').1 hk')
    have hwindow : window n (inserted n keys) = inserted n keys := by
      rw [window, Nat.sub_eq_zero_of_le hlen, List.drop_zero]
    rw [inserted_concat, hwindow]
    by_cases hk : k ∈ inserted n keys
    · rw [if_pos hk]
      refine ⟨hnodup, fun k' => ?_⟩
      rw [hmem, List.mem_append, List.mem_singleton]
      exact ⟨.inl, fun h' => h'.elim id fun heq => heq ▸ (hmem k).1 hk⟩
    · rw [if_neg hk]
      refine ⟨?_, fun k' => ?_⟩
      · rw [← List.concat_eq_append]
        exact hnodup.concat hk
      · rw [List.mem_append, List.mem_append, hmem]

theorem recall_of_few {heard : List (κ × ν)} (h : (heard.map Prod.fst).dedup.length ≤ n) (k : κ) :
    remembered n heard k = last heard k := by
  obtain ⟨hnodup, hmem⟩ := inserted_of_few h
  have hlen : (inserted n (heard.map Prod.fst)).length ≤ n := by
    refine le_trans (List.Subperm.length_le (List.Nodup.subperm hnodup fun k' hk' => ?_)) h
    exact List.mem_dedup.2 ((hmem k').1 hk')
  rw [remembered, window, Nat.sub_eq_zero_of_le hlen, List.drop_zero]
  by_cases hk : k ∈ inserted n (heard.map Prod.fst)
  · rw [if_pos hk]
  · rw [if_neg hk]
    exact (last_eq_none_iff.2 fun hc => hk ((hmem k).2 hc)).symm

end RoundRobin
