import Mathlib.Data.UInt

/-!
# Single-precision values as bit patterns

A `float` that a program only copies and compares needs no arithmetic: it is its 32 bits, and the
comparison `!=` of IEEE 754, under which a NaN differs from everything and the two zeros do not
differ.

`SameNumber` is the finest relation that a copy guarded by `!=` can keep (`assign_sameNumber`): the
bits agree, or both are zeros.
-/

/-- A single-precision value: its 32 bits. -/
structure Single where
  bits : UInt32
deriving DecidableEq, Repr

namespace Single

/-- The bits without the sign. -/
def magnitude (a : Single) : UInt32 := a.bits &&& 0x7FFFFFFF

def isZero (a : Single) : Bool := a.magnitude == 0

/-- All exponent bits set, and a fraction. -/
def isNaN (a : Single) : Bool := 0x7F800000 < a.magnitude

/-- Both are the same number: the bits agree, or both are zeros. -/
def SameNumber (a b : Single) : Prop := a = b ∨ (a.isZero ∧ b.isZero)

instance (a b : Single) : Decidable (SameNumber a b) :=
  inferInstanceAs (Decidable (a = b ∨ (a.isZero ∧ b.isZero)))

/-- The comparison `a != b`. -/
def differs (a b : Single) : Bool := a.isNaN || b.isNaN || !decide (SameNumber a b)

theorem SameNumber.refl (a : Single) : SameNumber a a := Or.inl rfl

theorem SameNumber.symm {a b : Single} (h : SameNumber a b) : SameNumber b a := by
  rcases h with rfl | ⟨ha, hb⟩
  · exact .refl a
  · exact Or.inr ⟨hb, ha⟩

theorem SameNumber.trans {a b c : Single} (h₁ : SameNumber a b) (h₂ : SameNumber b c) :
    SameNumber a c := by
  rcases h₁ with rfl | ⟨ha, hb⟩
  · exact h₂
  · rcases h₂ with rfl | ⟨-, hc⟩
    · exact Or.inr ⟨ha, hb⟩
    · exact Or.inr ⟨ha, hc⟩

theorem sameNumber_of_not_differs {a b : Single} (h : a.differs b = false) : SameNumber a b := by
  simp only [differs, Bool.or_eq_false_iff, Bool.not_eq_false', decide_eq_true_eq] at h
  exact h.2

/-- `if (cell != value) cell = value`. -/
def assign (cell value : Single) : Single := if cell.differs value then value else cell

/-- A guarded copy that changes the cell puts the value there. -/
theorem assign_of_ne {cell value : Single} (h : cell.assign value ≠ cell) :
    cell.assign value = value := by
  unfold assign at h ⊢
  split_ifs at h ⊢
  · rfl
  · exact absurd rfl h

/-- **A guarded copy leaves the number that was copied.** -/
theorem assign_sameNumber (cell value : Single) : SameNumber (cell.assign value) value := by
  unfold assign
  split_ifs with h
  · exact .refl value
  · exact sameNumber_of_not_differs (by simpa using h)

end Single
