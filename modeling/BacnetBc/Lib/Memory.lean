import Mathlib.Data.List.Basic
import Mathlib.Data.List.TakeDrop
import Mathlib.Data.Nat.Basic

/-!
# Bounded memory

A C program reads and writes memory through an index that nothing checks. Here every access is
checked: it gives a value, or the fault that the program would have run into.

* `read` is one octet of a buffer.
* `slice` is `memcpy` out of a buffer, `blit` is `memcpy` into a region of fixed size.
* `splice` is what a copy leaves behind, and `overwrite` is the same on a string that may have to
  grow first: a gap between its end and the start of the copy is filled.

**Theorem (`blit_padded`).** A region that holds a string followed by filler holds, after a copy
that fits, the overwritten string followed by filler.
-/

namespace Memory

/-- Why an access has no meaning. `diverged` is a loop that did not come to its end. -/
inductive Fault
  | readOutside (index : Nat)
  | writeOutside (index : Nat)
  | diverged
deriving DecidableEq, Repr

/-- A computation on memory. -/
abbrev Access (α : Type) := Except Fault α

/-- An octet buffer, or a string of octets. -/
abbrev Octets := List UInt8

instance : LawfulBEq Octets := inferInstance

variable {α β : Type}

/-- A step that gives a value, and the rest of the computation. -/
theorem ok_bind (a : α) (f : α → Access β) : (Except.ok a >>= f) = f a := rfl

theorem bind_eq_ok {x : Access α} {f : α → Access β} {b : β} :
    (x >>= f) = .ok b ↔ ∃ a, x = .ok a ∧ f a = .ok b := by
  cases x with
  | error fault =>
    constructor
    · intro h
      cases h
    · rintro ⟨a, h, -⟩
      cases h
  | ok a =>
    rw [ok_bind]
    constructor
    · exact fun h => ⟨a, rfl, h⟩
    · rintro ⟨a', ha, h⟩
      rwa [Except.ok.inj ha]

/-! ## Reading -/

/-- The element at `index`, if the buffer has one. -/
def read (buffer : List α) (index : Nat) : Access α :=
  match buffer[index]? with
  | some a => .ok a
  | none => .error (.readOutside index)

theorem read_of_lt {buffer : List α} {index : Nat} (h : index < buffer.length) :
    read buffer index = .ok buffer[index] := by
  simp [read, List.getElem?_eq_getElem h]

/-- Copy `count` elements from `start` on, if the buffer has them. -/
def slice (buffer : List α) (start count : Nat) : Access (List α) :=
  if start + count ≤ buffer.length then .ok ((buffer.drop start).take count)
  else .error (.readOutside (start + count - 1))

theorem slice_of_le {buffer : List α} {start count : Nat} (h : start + count ≤ buffer.length) :
    slice buffer start count = .ok ((buffer.drop start).take count) := if_pos h

/-! ## Copying -/

/-- `data` in place of what stood at `start`. -/
def splice (region : List α) (start : Nat) (data : List α) : List α :=
  region.take start ++ data ++ region.drop (start + data.length)

/-- Copy `data` to `start`, if it fits into the region. -/
def blit (region : List α) (start : Nat) (data : List α) : Access (List α) :=
  if start + data.length ≤ region.length then .ok (splice region start data)
  else .error (.writeOutside (start + data.length))

/-- The string after `data` was written at `start`: a gap is filled with `filler`, and the string
grows as far as it must. -/
def overwrite (filler : α) (content : List α) (start : Nat) (data : List α) : List α :=
  splice (content ++ List.replicate (start - content.length) filler) start data

theorem length_splice {region data : List α} {start : Nat} (h : start ≤ region.length) :
    (splice region start data).length = max region.length (start + data.length) := by
  simp only [splice, List.length_append, List.length_take, List.length_drop]
  omega

theorem blit_eq_ok_iff {region data out : List α} {start : Nat} :
    blit region start data = .ok out ↔
      start + data.length ≤ region.length ∧ out = splice region start data := by
  unfold blit
  split_ifs with h
  · simp [h, eq_comm]
  · simp [h]

theorem length_blit {region data out : List α} {start : Nat}
    (h : blit region start data = .ok out) : out.length = region.length := by
  obtain ⟨hfit, rfl⟩ := blit_eq_ok_iff.1 h
  rw [length_splice (by omega)]
  omega

theorem length_overwrite (filler : α) (content : List α) (start : Nat) (data : List α) :
    (overwrite filler content start data).length = max content.length (start + data.length) := by
  rw [overwrite, length_splice (by simp; omega)]
  simp only [List.length_append, List.length_replicate]
  omega

theorem overwrite_of_le {filler : α} {content data : List α} {start : Nat}
    (h : start ≤ content.length) : overwrite filler content start data =
      splice content start data := by
  rw [overwrite, Nat.sub_eq_zero_of_le h, List.replicate_zero, List.append_nil]

/-- Two copies, the second where the first one ended, are one. -/
theorem overwrite_append {filler : α} {content : List α} {start : Nat} (h : start ≤ content.length)
    (data data' : List α) :
    overwrite filler (overwrite filler content start data) (start + data.length) data' =
      overwrite filler content start (data ++ data') := by
  have hprefix : (content.take start ++ data).length = start + data.length := by
    rw [List.length_append, List.length_take, min_eq_left h]
  have hle : start + data.length ≤ (splice content start data).length := by
    rw [length_splice h]
    exact le_max_right _ _
  rw [overwrite_of_le h, overwrite_of_le h, overwrite_of_le hle]
  have hdrop : (content.take start ++ data).drop (start + data.length + data'.length) = [] :=
    List.drop_eq_nil_of_le (by omega)
  have htake : (content.take start ++ data ++ content.drop (start + data.length)).take
      (start + data.length) = content.take start ++ data := List.take_left' hprefix
  unfold splice
  rw [htake, List.drop_append, hdrop, List.nil_append, List.drop_drop, hprefix,
    List.append_assoc _ data, List.length_append]
  congr 2
  omega

/-! ## Strings in a region of fixed size -/

/-- The region holds `content`, and `filler` after it. -/
def Padded (filler : α) (region content : List α) : Prop :=
  region = content ++ List.replicate (region.length - content.length) filler

theorem Padded.length_le {filler : α} {region content : List α} (h : Padded filler region content) :
    content.length ≤ region.length := by
  have := congrArg List.length h
  simp only [List.length_append, List.length_replicate] at this
  omega

theorem Padded.take {filler : α} {region content : List α} (h : Padded filler region content) :
    region.take content.length = content := by
  conv_lhs => rw [h]
  simp

theorem padded_replicate (filler : α) (n : Nat) : Padded filler (List.replicate n filler) [] := by
  simp [Padded]

/-- A region that holds a string and filler after it already holds the string with any gap
filled. -/
theorem Padded.extend {filler : α} {region content : List α} (h : Padded filler region content)
    {k : Nat} (hk : content.length + k ≤ region.length) :
    Padded filler region (content ++ List.replicate k filler) := by
  have hsplit : region.length - content.length =
      k + (region.length - (content.length + k)) := by omega
  unfold Padded at h ⊢
  simp only [List.length_append, List.length_replicate]
  rw [List.append_assoc, ← List.replicate_add, ← hsplit]
  exact h

theorem Padded.splice {filler : α} {region content data : List α} {start : Nat}
    (h : Padded filler region content) (hstart : start ≤ content.length)
    (hfit : start + data.length ≤ region.length) :
    Padded filler (splice region start data) (splice content start data) := by
  have hlen : (Memory.splice region start data).length = region.length := by
    rw [length_splice (by omega)]; omega
  unfold Padded
  rw [hlen, length_splice hstart]
  unfold Padded at h
  unfold Memory.splice
  rw [List.append_assoc, List.append_assoc, List.append_assoc]
  congr 1
  · conv_lhs => rw [h]
    rw [List.take_append_of_le_length hstart]
  congr 1
  conv_lhs => rw [h]
  rw [List.drop_append, List.drop_replicate]
  congr 2
  omega

/-- **A copy into a region overwrites the string the region holds.** -/
theorem blit_padded {filler : α} {region content data out : List α} {start : Nat}
    (h : Padded filler region content) (hblit : blit region start data = .ok out) :
    Padded filler out (overwrite filler content start data) := by
  obtain ⟨hfit, rfl⟩ := blit_eq_ok_iff.1 hblit
  have hle := h.length_le
  have hgap : Padded filler region
      (content ++ List.replicate (start - content.length) filler) := h.extend (by omega)
  exact hgap.splice (by simp; omega) hfit

end Memory
