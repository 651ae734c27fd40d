import BacnetBc.Lib.Memory
import Mathlib.Tactic.SplitIfs

/-!
# What a computation on memory returns

`Returns x P`: the computation `x` runs into no fault, and what it returns has `P`. The rules follow
the structure of the computation, so that a proof reads like the program: `bind` for a step and the
rest, `ite` for a branch, `read` and `slice` for an access that lies inside.
-/

namespace Memory

variable {α β : Type} {P : α → Prop} {Q : β → Prop}

/-- The computation comes to a value that has `P`. -/
def Returns (x : Access α) (P : α → Prop) : Prop := ∃ a, x = .ok a ∧ P a

namespace Returns

theorem ok {a : α} (h : P a) : Returns (.ok a) P := ⟨a, rfl, h⟩

theorem pure {a : α} (h : P a) : Returns (Pure.pure a : Access α) P := ⟨a, rfl, h⟩

theorem of_eq {x : Access α} {a : α} (hx : x = .ok a) (h : P a) : Returns x P := ⟨a, hx, h⟩

theorem imp {x : Access α} {P' : α → Prop} (hx : Returns x P) (h : ∀ a, P a → P' a) :
    Returns x P' := by
  obtain ⟨a, rfl, ha⟩ := hx
  exact ⟨a, rfl, h a ha⟩

theorem bind {x : Access α} {f : α → Access β} (hx : Returns x P)
    (hf : ∀ a, P a → Returns (f a) Q) : Returns (x >>= f) Q := by
  obtain ⟨a, rfl, ha⟩ := hx
  exact hf a ha

theorem ite {c : Prop} [Decidable c] {x y : Access α} (hx : c → Returns x P)
    (hy : ¬ c → Returns y P) : Returns (if c then x else y) P := by
  split_ifs with h
  · exact hx h
  · exact hy h

theorem read {buffer : List α} {i : Nat} (h : i < buffer.length) :
    Returns (Memory.read buffer i) fun a => buffer[i]? = some a :=
  ⟨buffer[i], read_of_lt h, List.getElem?_eq_getElem h⟩

theorem slice {buffer : List α} {start count : Nat} (h : start + count ≤ buffer.length) :
    Returns (Memory.slice buffer start count) fun part =>
      part = (buffer.drop start).take count :=
  ⟨_, slice_of_le h, rfl⟩

end Returns

end Memory
