import Mathlib.Data.List.TakeDrop
import Mathlib.Data.Nat.Basic

/-!
# Reading a string in chunks

Chunk `n` begins where the chunk before it ended and holds at most `counts n` elements, fewer where
the string ends. `position` is where it begins.

**Theorem (`take_position_succ`).** The elements in front of a chunk, and the chunk, are the
elements in front of the next one. With positive counts the positions come to the end of the string
(`position_of_length_le`).
-/

namespace Chunks

variable {α : Type}

/-- Where chunk `n` of a string of this length begins. -/
def position (length : Nat) (counts : Nat → Nat) : Nat → Nat
  | 0 => 0
  | n + 1 => min length (position length counts n + counts n)

/-- Chunk `n`. -/
def chunk (content : List α) (counts : Nat → Nat) (n : Nat) : List α :=
  (content.drop (position content.length counts n)).take (counts n)

section

variable (length : Nat) (counts : Nat → Nat)

theorem position_le (n : Nat) : position length counts n ≤ length := by
  cases n with
  | zero => exact Nat.zero_le _
  | succ n => exact min_le_left _ _

/-- Each chunk with a positive count moves on. -/
theorem min_le_position {counts : Nat → Nat} (hpos : ∀ n, 0 < counts n) (n : Nat) :
    min length n ≤ position length counts n := by
  induction n with
  | zero => exact min_le_right _ _
  | succ n ih =>
    have hcount := hpos n
    show min length (n + 1) ≤ min length (position length counts n + counts n)
    omega

theorem position_of_length_le {length : Nat} {counts : Nat → Nat} (hpos : ∀ n, 0 < counts n)
    {n : Nat} (hn : length ≤ n) :
    position length counts n = length := by
  have hmin := min_le_position length hpos n
  have hle := position_le length counts n
  omega

end

theorem length_chunk (content : List α) (counts : Nat → Nat) (n : Nat) :
    (chunk content counts n).length =
      min (counts n) (content.length - position content.length counts n) := by
  rw [chunk, List.length_take, List.length_drop]

theorem position_succ (content : List α) (counts : Nat → Nat) (n : Nat) :
    position content.length counts (n + 1) =
      position content.length counts n + (chunk content counts n).length := by
  have hle := position_le content.length counts n
  rw [length_chunk]
  show min content.length (position content.length counts n + counts n) = _
  omega

theorem take_position_succ (content : List α) (counts : Nat → Nat) (n : Nat) :
    content.take (position content.length counts n) ++ chunk content counts n =
      content.take (position content.length counts (n + 1)) := by
  have htake : chunk content counts n =
      (content.drop (position content.length counts n)).take (chunk content counts n).length := by
    rw [length_chunk, chunk, ← List.take_take, ← List.length_drop, List.take_length]
  rw [position_succ, List.take_add, ← htake]

end Chunks
