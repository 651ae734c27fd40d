import BacnetBc.Lib.Fifo
import Mathlib

/-!
# Slots that are polled in turn

`serve` polls the slots one after the other, from `next` on and around, until one of them has a
result. The slot behind it is the first one of the next time; when none had a result, the first one
moves on by one.

**Theorem (`serve_cases`).** Each time a given slot is either polled, or it comes nearer to being
the first (`turn`).

**Theorem (`served_of_calls`).** So a queue that waits in one of `n` slots gives up its first `m`
elements within `n * m` times, whatever the other slots do.
-/

namespace Rotation

open Trajectory Fifo

variable {τ β : Type} {n : Nat}

/-- The slots from `next` on. -/
def order (next : Fin n) : List (Fin n) := (List.finRange n).map fun k => next + k

/-- Poll these slots until one has a result. -/
def scan (poll : τ → τ × Option β) :
    List (Fin n) → (Fin n → τ) → (Fin n → τ) × Option (Fin n × β)
  | [], slots => (slots, none)
  | i :: rest, slots =>
    match poll (slots i) with
    | (slot, some result) => (Function.update slots i slot, some (i, result))
    | (slot, none) => scan poll rest (Function.update slots i slot)

/-- The slots, and the first one for the next time. -/
structure Slots (τ : Type) (n : Nat) where
  slots : Fin n → τ
  next : Fin n

def serve [NeZero n] (poll : τ → τ × Option β) (r : Slots τ n) : Slots τ n × Option (Fin n × β) :=
  match scan poll (order r.next) r.slots with
  | (slots, some (i, result)) => (⟨slots, i + 1⟩, some (i, result))
  | (slots, none) => (⟨slots, r.next + 1⟩, none)

/-- How many slots are polled before this one. -/
def turn (next j : Fin n) : Nat := (j - next).val

theorem turn_lt (next j : Fin n) : turn next j < n := (j - next).isLt

/-! ## One scan -/

/-- The result, if it is the one of this slot. -/
def resultFor (j : Fin n) (found : Option (Fin n × β)) : Option β :=
  found.bind fun p => if p.1 = j then some p.2 else none

theorem resultFor_of_ne {i j : Fin n} (h : i ≠ j) (result : β) :
    resultFor j (some (i, result)) = none := if_neg h

/-- A slot that is not there is left alone. -/
theorem scan_of_not_mem (poll : τ → τ × Option β) {order : List (Fin n)} (slots : Fin n → τ)
    {j : Fin n} (hj : j ∉ order) :
    (scan poll order slots).1 j = slots j ∧ resultFor j (scan poll order slots).2 = none := by
  induction order generalizing slots with
  | nil => exact ⟨rfl, rfl⟩
  | cons i rest ih =>
    obtain ⟨hji, hrest⟩ := not_or.1 (mt List.mem_cons.2 hj)
    rw [scan]
    rcases poll (slots i) with ⟨slot, _ | result⟩
    · obtain ⟨hkept, hresult⟩ := ih (Function.update slots i slot) hrest
      exact ⟨hkept.trans (Function.update_of_ne hji _ _), hresult⟩
    · exact ⟨Function.update_of_ne hji _ _, resultFor_of_ne (Ne.symm hji) result⟩

/-- A scan that polls a slot, or that stops before it. -/
theorem scan_cases (poll : τ → τ × Option β) {order : List (Fin n)} (hnodup : order.Nodup)
    (slots : Fin n → τ) {j : Fin n} (hj : j ∈ order) :
    ((scan poll order slots).1 j = (poll (slots j)).1 ∧
        resultFor j (scan poll order slots).2 = (poll (slots j)).2) ∨
      ((scan poll order slots).1 j = slots j ∧ ∃ before i result after,
        order = before ++ i :: after ∧ j ∈ after ∧ i ≠ j ∧
          (scan poll order slots).2 = some (i, result)) := by
  induction order generalizing slots with
  | nil => cases hj
  | cons i rest ih =>
    obtain ⟨hnot, hnodup⟩ := List.nodup_cons.1 hnodup
    rw [scan]
    by_cases hji : j = i
    · -- it is this slot's turn
      subst hji
      left
      rcases hpoll : poll (slots j) with ⟨slot, _ | result⟩
      · obtain ⟨hkept, hresult⟩ := scan_of_not_mem poll (Function.update slots j slot) hnot
        exact ⟨hkept.trans (Function.update_self _ _ _), hresult⟩
      · exact ⟨Function.update_self _ _ _, if_pos rfl⟩
    · have hrest : j ∈ rest := (List.mem_cons.1 hj).resolve_left hji
      rcases poll (slots i) with ⟨slot, _ | result⟩
      · have hsame : Function.update slots i slot j = slots j := Function.update_of_ne hji _ _
        have hlater := ih hnodup (Function.update slots i slot) hrest
        rw [hsame] at hlater
        obtain hpolled | ⟨hkept, before, k, result, after, horder, hafter, hne, hresult⟩ := hlater
        · exact .inl hpolled
        · exact .inr ⟨hkept, i :: before, k, result, after, by rw [horder]; rfl, hafter, hne,
            hresult⟩
      · exact .inr ⟨Function.update_of_ne hji _ _, [], i, result, rest, rfl, hrest, Ne.symm hji,
          rfl⟩

theorem getElem_order {next j : Fin n} {q : Nat} (h : (order next)[q]? = some j) :
    ∃ hq : q < n, j = next + ⟨q, hq⟩ := by
  obtain ⟨hq, hj⟩ := List.getElem?_eq_some_iff.1 h
  have hlt : q < n := by simpa [order] using hq
  refine ⟨hlt, ?_⟩
  rw [← hj]
  simp [order]

theorem nodup_order (next : Fin n) : (order next).Nodup := by
  have hinjective : Function.Injective fun k : Fin n => next + k := fun _ _ h => add_left_cancel h
  exact (List.nodup_finRange n).map hinjective

section
variable [NeZero n]

theorem mem_order (next j : Fin n) : j ∈ order next :=
  List.mem_map.2 ⟨j - next, List.mem_finRange _, by rw [add_comm, sub_add_cancel]⟩

/-- What comes behind a slot in the order is nearer to the slot behind that one. -/
theorem turn_lt_turn {next i j : Fin n} {before after : List (Fin n)}
    (h : order next = before ++ i :: after) (hj : j ∈ after) :
    turn (i + 1) j < turn next j := by
  obtain ⟨t, ht, rfl⟩ := List.mem_iff_getElem.1 hj
  have hi : (order next)[before.length]? = some i := by
    rw [h, List.getElem?_append_right (le_refl _), Nat.sub_self, List.getElem?_cons_zero]
  have hat : (order next)[before.length + 1 + t]? = some after[t] := by
    rw [h, List.getElem?_append_right (by omega),
      show before.length + 1 + t - before.length = t + 1 by omega, List.getElem?_cons_succ,
      List.getElem?_eq_getElem ht]
  obtain ⟨hp, rfl⟩ := getElem_order hi
  obtain ⟨hq, hjat⟩ := getElem_order hat
  rw [hjat, turn, turn, add_assoc next, add_sub_add_left_eq_sub, add_sub_cancel_left]
  have hone : (⟨before.length, hp⟩ : Fin n) + 1 = ⟨before.length + 1, by omega⟩ := by
    apply Fin.ext
    rw [Fin.val_add, Fin.val_one', Nat.add_mod_mod]
    have hlt : before.length + 1 < n := by omega
    exact Nat.mod_eq_of_lt hlt
  rw [hone, Fin.sub_val_of_le (Fin.mk_le_mk.2 (Nat.le_add_right _ _))]
  dsimp only
  omega

/-- **A slot is polled, or it comes nearer.** -/
theorem serve_cases (poll : τ → τ × Option β) (r : Slots τ n) (j : Fin n) :
    ((serve poll r).1.slots j = (poll (r.slots j)).1 ∧
        resultFor j (serve poll r).2 = (poll (r.slots j)).2) ∨
      ((serve poll r).1.slots j = r.slots j ∧ resultFor j (serve poll r).2 = none ∧
        turn (serve poll r).1.next j < turn r.next j) := by
  obtain hpolled | ⟨hkept, before, i, result, after, horder, hafter, hne, hresult⟩ :=
    scan_cases poll (nodup_order r.next) r.slots (mem_order r.next j)
  · left
    rw [serve]
    rcases hscan : scan poll (order r.next) r.slots with ⟨slots, _ | ⟨i, found⟩⟩
    · rwa [hscan] at hpolled
    · rwa [hscan] at hpolled
  · right
    rw [serve]
    rcases hscan : scan poll (order r.next) r.slots with ⟨slots, found⟩
    rw [hscan] at hresult hkept
    dsimp only at hresult hkept
    subst hresult
    exact ⟨hkept, resultFor_of_ne hne result, turn_lt_turn horder hafter⟩

end

/-! ## A queue in a slot -/

/-- What a step does to a queue whose turn comes nearer: it may add to the queue, or the slots are
polled, and the queue comes nearer or gives up its first element. -/
structure Happens (n : Nat) {α : Type} (queue queue' : List α) (turn turn' : Nat) (takes : List α)
    (calls : Nat) : Prop where
  lt : turn' < n
  cases : takes = [] ∧ queue <+: queue' ∧ calls + turn' ≤ turn ∨
    calls ≤ 1 ∧ ∃ a, takes = [a] ∧ a :: queue' = queue

/-- **A queue is served.** -/
theorem served_of_calls {S E F α : Type} {step : S → E → Except F S} {Inv : S → Prop}
    {queue : S → List α} {turn : S → Nat} {takes : S → E → List α} {calls : S → E → Nat}
    (hinv : ∀ s e s', Inv s → step s e = .ok s' → Inv s')
    (h : ∀ s e s', Inv s → step s e = .ok s' → queue s ≠ [] →
      Happens n (queue s) (queue s') (turn s) (turn s') (takes s e) (calls s e))
    {s t : S} {es : List E} (hs : Inv s) (hfinal : final step s es = .ok t) (hturn : turn s < n)
    {m : Nat} (hm : m ≤ (queue s).length)
    (hcalls : n * m + turn s < (outputs step (fun s e => [calls s e]) s es).sum + n) :
    (queue s).take m <+: outputs step takes s es := by
  induction es generalizing s m with
  | nil =>
    cases m with
    | zero => exact List.nil_prefix
    | succ m =>
      rw [outputs, List.sum_nil, Nat.mul_succ] at hcalls
      omega
  | cons e es ih =>
    cases m with
    | zero => exact List.nil_prefix
    | succ m =>
      cases hse : step s e with
      | error _ =>
        rw [final, hse] at hfinal
        cases hfinal
      | ok s' =>
        rw [final_cons_ok hse] at hfinal
        rw [outputs_cons_ok hse, List.sum_append, List.sum_singleton] at hcalls
        rw [outputs_cons_ok hse]
        have hne : queue s ≠ [] := by
          rintro hnil
          rw [hnil] at hm
          exact Nat.not_succ_le_zero m hm
        have hinv' := hinv s e s' hs hse
        obtain ⟨hturn', ⟨htakes, ⟨more, hmore⟩, hnearer⟩ | ⟨hcall, a, htakes, hgives⟩⟩ :=
          h s e s' hs hse hne
        · have hlength : m + 1 ≤ (queue s').length := by
            rw [← hmore, List.length_append]
            omega
          have htail := ih hinv' hfinal hturn' hlength (by omega)
          rw [← hmore, List.take_append_of_le_length hm] at htail
          rwa [htakes]
        · rw [← hgives, List.length_cons, Nat.succ_le_succ_iff] at hm
          rw [Nat.mul_succ] at hcalls
          have htail := ih hinv' hfinal hturn' hm (by omega)
          rw [htakes, ← hgives, List.take_succ_cons]
          exact List.cons_prefix_cons.2 ⟨rfl, htail⟩

end Rotation
