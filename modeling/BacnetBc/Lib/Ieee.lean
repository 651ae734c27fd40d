import Mathlib.Data.Nat.Log
import Mathlib.Tactic.Ring
import Mathlib.Tactic.SplitIfs

/-!
# Binary floating-point formats

A number of an IEEE 754 binary format is a sign and a pattern: the exponent field and the fraction
field, read as one natural number. Patterns count upwards: the finite numbers, infinity, the NaNs.

**Units.** Every finite number is a multiple of the format's smallest positive number, so a finite
pattern stands for a natural number of these (`decode`), and arithmetic on finite numbers is
arithmetic of natural numbers followed by one rounding (`encode`), to nearest and to even.

**Theorem (`convert_convert`).** A conversion to a wider format and back gives a finite pattern
again as it was, infinity as infinity and a NaN as a NaN.
-/

namespace Ieee

/-! ## Formats -/

/-- A binary interchange format: the widths of its two fields. -/
structure Format where
  fractionBits : Nat
  exponentBits : Nat

def binary32 : Format := ⟨23, 8⟩

def binary64 : Format := ⟨52, 11⟩

namespace Format

variable (F : Format)

/-- The pattern of infinity. The NaNs lie above it. -/
def infinity : Nat := (2 ^ F.exponentBits - 1) * 2 ^ F.fractionBits

/-- The number 1 is `2 ^ unit` of the smallest positive number. -/
def unit : Nat := 2 ^ (F.exponentBits - 1) - 2 + F.fractionBits

/-- A NaN with the bit that makes it quiet. -/
def quietNaN (payload : Nat) : Nat := F.infinity + (2 ^ (F.fractionBits - 1) ||| payload)

/-- What a finite pattern stands for, in units of the smallest positive number. -/
def decode (m : Nat) : Nat :=
  if m / 2 ^ F.fractionBits = 0 then m
  else (2 ^ F.fractionBits + m % 2 ^ F.fractionBits) * 2 ^ (m / 2 ^ F.fractionBits - 1)

end Format

/-- `n / 2 ^ k`, rounded to nearest and to even. -/
def shiftRound (n k : Nat) : Nat :=
  let q := n / 2 ^ k
  let twice := 2 * (n % 2 ^ k)
  if 2 ^ k < twice ∨ (twice = 2 ^ k ∧ q % 2 = 1) then q + 1 else q

/-- The pattern of `n / 2 ^ k` units. A carry out of the fraction moves on to the exponent. -/
def Format.encode (F : Format) (n k : Nat) : Nat :=
  let dropped := max k (Nat.log 2 n - F.fractionBits)
  min F.infinity (shiftRound n dropped + (dropped - k) * 2 ^ F.fractionBits)

/-- The payload of a NaN, aligned to the left in the other format. -/
def payload (F G : Format) (m : Nat) : Nat :=
  let fraction := m % 2 ^ F.fractionBits
  if F.fractionBits ≤ G.fractionBits then fraction * 2 ^ (G.fractionBits - F.fractionBits)
  else fraction / 2 ^ (F.fractionBits - G.fractionBits)

/-- The conversion of a pattern from one format to another. A NaN becomes a quiet NaN. -/
def convert (F G : Format) (m : Nat) : Nat :=
  if F.infinity < m then G.quietNaN (payload F G m)
  else if m = F.infinity then G.infinity
  else G.encode (F.decode m * 2 ^ (G.unit - F.unit)) (F.unit - G.unit)

/-- The sum of two signed patterns. -/
def add (F : Format) (a b : Bool × Nat) : Bool × Nat :=
  if F.infinity < a.2 then (a.1, F.quietNaN (payload F F a.2))
  else if F.infinity < b.2 then (b.1, F.quietNaN (payload F F b.2))
  else if a.2 = F.infinity then
    if b.2 = F.infinity ∧ a.1 ≠ b.1 then (true, F.quietNaN 0) else a
  else if b.2 = F.infinity then b
  else
    let signed (x : Bool × Nat) : Int := if x.1 then -F.decode x.2 else F.decode x.2
    let sum := signed a + signed b
    if sum = 0 then (a.1 && b.1, 0) else (sum < 0, F.encode sum.natAbs 0)

/-! ## Significand and exponent -/

/-- The number `q * 2 ^ j` in units, with as short a significand as the format allows. -/
structure Canonical (F : Format) (q j : Nat) : Prop where
  lt : q < 2 ^ (F.fractionBits + 1)
  le : j = 0 ∨ 2 ^ F.fractionBits ≤ q

variable {F G : Format} {q j m n : Nat}

theorem exists_canonical (F : Format) (m : Nat) :
    ∃ q j, Canonical F q j ∧ m = q + j * 2 ^ F.fractionBits := by
  have hpos : 0 < 2 ^ F.fractionBits := Nat.two_pow_pos _
  by_cases h : m / 2 ^ F.fractionBits = 0
  · have hlt : m < 2 ^ F.fractionBits := (Nat.div_eq_zero_iff_lt hpos).1 h
    refine ⟨m, 0, ⟨?_, Or.inl rfl⟩, by rw [Nat.zero_mul, Nat.add_zero]⟩
    rw [Nat.pow_succ]
    omega
  · have hmod := Nat.mod_lt m hpos
    have hdiv := Nat.div_add_mod' m (2 ^ F.fractionBits)
    refine ⟨2 ^ F.fractionBits + m % 2 ^ F.fractionBits, m / 2 ^ F.fractionBits - 1,
      ⟨?_, Or.inr (Nat.le_add_right _ _)⟩, ?_⟩
    · rw [Nat.pow_succ]
      omega
    · have hsucc : m / 2 ^ F.fractionBits = m / 2 ^ F.fractionBits - 1 + 1 :=
        (Nat.succ_pred_eq_of_pos (Nat.pos_of_ne_zero h)).symm
      rw [hsucc, Nat.succ_mul] at hdiv
      omega

/-- The pattern of a canonical number stands for it. -/
theorem Canonical.decode (h : Canonical F q j) :
    F.decode (q + j * 2 ^ F.fractionBits) = q * 2 ^ j := by
  have hpos : 0 < 2 ^ F.fractionBits := Nat.two_pow_pos _
  have hlt := h.lt
  rw [Nat.pow_succ] at hlt
  rw [Format.decode, Nat.add_mul_div_right _ _ hpos, Nat.add_mul_mod_self_right]
  by_cases hq : q < 2 ^ F.fractionBits
  · have hj : j = 0 := h.le.resolve_right (Nat.not_le.2 hq)
    rw [hj, Nat.div_eq_of_lt hq, if_pos rfl, Nat.zero_mul, Nat.pow_zero, Nat.mul_one, Nat.add_zero]
  · have hone : q / 2 ^ F.fractionBits = 1 := by
      rw [Nat.div_eq_iff hpos]
      omega
    have hrest : q % 2 ^ F.fractionBits = q - 2 ^ F.fractionBits := by
      rw [Nat.mod_eq_sub_mod (by omega), Nat.mod_eq_of_lt (by omega)]
    rw [hone, hrest, if_neg (by omega), Nat.add_sub_cancel_left,
      Nat.add_sub_cancel' (Nat.not_lt.1 hq)]

/-- A number with a short significand is canonical for another significand. -/
theorem exists_canonical_mul (h : q < 2 ^ (F.fractionBits + 1)) (e : Nat) :
    ∃ q' j', Canonical F q' j' ∧ q * 2 ^ e = q' * 2 ^ j' := by
  induction e with
  | zero => exact ⟨q, 0, ⟨h, Or.inl rfl⟩, rfl⟩
  | succ e ih =>
    obtain ⟨q', j', hc, heq⟩ := ih
    rw [Nat.pow_succ, ← Nat.mul_assoc, heq]
    by_cases hq : 2 ^ F.fractionBits ≤ q'
    · exact ⟨q', j' + 1, ⟨hc.lt, Or.inr hq⟩, by rw [Nat.pow_succ, Nat.mul_assoc]⟩
    · have hj : j' = 0 := hc.le.resolve_right hq
      refine ⟨q' * 2, 0, ⟨?_, Or.inl rfl⟩, by rw [hj, Nat.pow_zero]; omega⟩
      rw [Nat.pow_succ]
      omega

/-! ## Encoding without loss -/

theorem shiftRound_mul (n k : Nat) : shiftRound (n * 2 ^ k) k = n := by
  have hpos := Nat.two_pow_pos k
  simp only [shiftRound, Nat.mul_mod_left, Nat.mul_div_cancel n hpos]
  rw [if_neg]
  omega

/-- A canonical number is encoded as its pattern, if that is not past infinity. -/
theorem Canonical.encode (h : Canonical F q j) (k : Nat) :
    F.encode (q * 2 ^ (j + k)) k = min F.infinity (q + j * 2 ^ F.fractionBits) := by
  have hdropped : max k (Nat.log 2 (q * 2 ^ (j + k)) - F.fractionBits) = j + k := by
    by_cases hq : q < 2 ^ F.fractionBits
    · have hj : j = 0 := h.le.resolve_right (Nat.not_le.2 hq)
      have hlog : Nat.log 2 (q * 2 ^ (j + k)) ≤ F.fractionBits + k := by
        refine (Nat.log_mono_right (Nat.mul_le_mul_right _ hq.le)).trans ?_
        rw [← Nat.pow_add, Nat.log_pow Nat.one_lt_two, hj, Nat.zero_add]
      omega
    · have hlt := h.lt
      have hlog : Nat.log 2 (q * 2 ^ (j + k)) = F.fractionBits + (j + k) := by
        have hne : q * 2 ^ (j + k) ≠ 0 := by
          have := Nat.two_pow_pos F.fractionBits
          exact Nat.mul_ne_zero (by omega) (Nat.two_pow_pos _).ne'
        rw [Nat.log_eq_iff (Or.inr ⟨Nat.one_lt_two, hne⟩), Nat.add_right_comm, Nat.pow_add,
          Nat.pow_add 2 (F.fractionBits + 1)]
        exact ⟨Nat.mul_le_mul_right _ (Nat.not_lt.1 hq),
          Nat.mul_lt_mul_of_pos_right hlt (Nat.two_pow_pos _)⟩
      omega
  rw [Format.encode, hdropped, shiftRound_mul, Nat.add_sub_cancel]

/-- A number below `2 ^ (fractionBits + 2 ^ exponentBits - 2)` units is finite. -/
theorem Canonical.lt_infinity (h : Canonical F q j) (hw : 2 ≤ F.exponentBits)
    (hlt : q * 2 ^ j < 2 ^ (F.fractionBits + (2 ^ F.exponentBits - 2))) :
    q + j * 2 ^ F.fractionBits < F.infinity := by
  by_contra hnot
  have hfour : 2 ^ 2 ≤ 2 ^ F.exponentBits := Nat.pow_le_pow_right (by omega) hw
  have hshort := h.lt
  have hpos := Nat.two_pow_pos F.fractionBits
  have hj : 2 ^ F.exponentBits - 2 ≤ j := by
    by_contra hj
    have hle : (j + 2) * 2 ^ F.fractionBits ≤ F.infinity :=
      Nat.mul_le_mul_right _ (by omega)
    rw [Nat.add_mul] at hle
    rw [Nat.pow_succ] at hshort
    omega
  have hq : 2 ^ F.fractionBits ≤ q := h.le.resolve_left (by omega)
  have hle : 2 ^ (F.fractionBits + (2 ^ F.exponentBits - 2)) ≤ q * 2 ^ j := by
    rw [Nat.pow_add]
    exact Nat.mul_le_mul hq (Nat.pow_le_pow_right (by omega) hj)
  omega

/-- The finite patterns stand for numbers below that bound. -/
theorem Canonical.mul_lt (h : Canonical F q j) (hw : 2 ≤ F.exponentBits)
    (hfinite : q + j * 2 ^ F.fractionBits < F.infinity) :
    q * 2 ^ j < 2 ^ (F.fractionBits + (2 ^ F.exponentBits - 2)) := by
  have hfour : 2 ^ 2 ≤ 2 ^ F.exponentBits := Nat.pow_le_pow_right (by omega) hw
  have hpos := Nat.two_pow_pos F.fractionBits
  have hj : j + 3 ≤ 2 ^ F.exponentBits := by
    by_cases hzero : j = 0
    · omega
    · have hq : 2 ^ F.fractionBits ≤ q := h.le.resolve_left hzero
      have hlt : (j + 1) * 2 ^ F.fractionBits < F.infinity := by
        rw [Nat.succ_mul]
        omega
      have := Nat.lt_of_mul_lt_mul_right hlt
      omega
  calc q * 2 ^ j < 2 ^ (F.fractionBits + 1) * 2 ^ j :=
        Nat.mul_lt_mul_of_pos_right h.lt (Nat.two_pow_pos j)
    _ = 2 ^ (F.fractionBits + 1 + j) := (Nat.pow_add _ _ _).symm
    _ ≤ 2 ^ (F.fractionBits + (2 ^ F.exponentBits - 2)) :=
        Nat.pow_le_pow_right (by omega) (by omega)

/-- A number with a short significand is encoded without loss. -/
theorem decode_encode (hw : 2 ≤ F.exponentBits) (hq : q < 2 ^ (F.fractionBits + 1)) {e : Nat}
    (hlt : q * 2 ^ e < 2 ^ (F.fractionBits + (2 ^ F.exponentBits - 2))) :
    F.encode (q * 2 ^ e) 0 < F.infinity ∧ F.decode (F.encode (q * 2 ^ e) 0) = q * 2 ^ e := by
  obtain ⟨q', j', hc, heq⟩ := exists_canonical_mul (F := F) hq e
  rw [heq] at hlt ⊢
  have hfinite := hc.lt_infinity hw hlt
  have hencode := hc.encode 0
  rw [Nat.add_zero, Nat.min_eq_right hfinite.le] at hencode
  rw [hencode]
  exact ⟨hfinite, hc.decode⟩

/-- A natural number that the significand holds is encoded without loss. -/
theorem decode_encode_natural (hw : 2 ≤ F.exponentBits) {p : Nat} (hn : n < 2 ^ p)
    (hp : p ≤ F.fractionBits + 1)
    (hrange : p + F.unit ≤ F.fractionBits + (2 ^ F.exponentBits - 2)) :
    F.encode (n * 2 ^ F.unit) 0 < F.infinity ∧
      F.decode (F.encode (n * 2 ^ F.unit) 0) = n * 2 ^ F.unit := by
  refine decode_encode hw (hn.trans_le (Nat.pow_le_pow_right (by omega) hp)) ?_
  calc n * 2 ^ F.unit < 2 ^ p * 2 ^ F.unit :=
        Nat.mul_lt_mul_of_pos_right hn (Nat.two_pow_pos _)
    _ = 2 ^ (p + F.unit) := (Nat.pow_add _ _ _).symm
    _ ≤ _ := Nat.pow_le_pow_right (by omega) hrange

/-! ## Conversions -/

/-- Every number of `F` is one of `G`. -/
structure Format.Within (F G : Format) : Prop where
  exponentBits : 2 ≤ F.exponentBits
  exponentBits' : 2 ≤ G.exponentBits
  fractionBits : F.fractionBits ≤ G.fractionBits
  unit : F.unit ≤ G.unit
  range : F.fractionBits + (2 ^ F.exponentBits - 2) + (G.unit - F.unit) ≤
    G.fractionBits + (2 ^ G.exponentBits - 2)

theorem binary32_within_binary64 : binary32.Within binary64 := by
  constructor <;> decide

theorem infinity_lt_quietNaN (F : Format) (p : Nat) : F.infinity < F.quietNaN p := by
  have hpos := Nat.two_pow_pos (F.fractionBits - 1)
  have hle : 2 ^ (F.fractionBits - 1) ≤ 2 ^ (F.fractionBits - 1) ||| p := Nat.left_le_or
  unfold Format.quietNaN
  omega

theorem convert_nan (G : Format) (h : F.infinity < m) : G.infinity < convert F G m := by
  rw [convert, if_pos h]
  exact infinity_lt_quietNaN G _

theorem convert_infinity (F G : Format) : convert F G F.infinity = G.infinity := by
  rw [convert, if_neg (Nat.lt_irrefl _), if_pos rfl]

/-- A conversion to a wider format is exact. -/
theorem convert_wider (h : F.Within G) (hm : m < F.infinity) :
    convert F G m < G.infinity ∧
      G.decode (convert F G m) = F.decode m * 2 ^ (G.unit - F.unit) := by
  obtain ⟨q, j, hc, rfl⟩ := exists_canonical F m
  have hshort : q < 2 ^ (G.fractionBits + 1) :=
    hc.lt.trans_le (Nat.pow_le_pow_right (by omega) (Nat.succ_le_succ h.fractionBits))
  have hlt : q * 2 ^ (j + (G.unit - F.unit)) <
      2 ^ (G.fractionBits + (2 ^ G.exponentBits - 2)) := by
    rw [Nat.pow_add, ← Nat.mul_assoc]
    calc q * 2 ^ j * 2 ^ (G.unit - F.unit)
        < 2 ^ (F.fractionBits + (2 ^ F.exponentBits - 2)) * 2 ^ (G.unit - F.unit) :=
          Nat.mul_lt_mul_of_pos_right (hc.mul_lt h.exponentBits hm) (Nat.two_pow_pos _)
      _ = 2 ^ (F.fractionBits + (2 ^ F.exponentBits - 2) + (G.unit - F.unit)) :=
          (Nat.pow_add _ _ _).symm
      _ ≤ _ := Nat.pow_le_pow_right (by omega) h.range
  have hzero : F.unit - G.unit = 0 := Nat.sub_eq_zero_of_le h.unit
  have hdecode := decode_encode h.exponentBits' hshort hlt
  rw [convert, if_neg (Nat.lt_asymm hm), if_neg hm.ne, hc.decode, hzero, Nat.mul_assoc,
    ← Nat.pow_add]
  exact hdecode

/-- **A conversion to a wider format and back** loses nothing but the payload of a NaN. -/
theorem convert_convert (h : F.Within G) :
    (m ≤ F.infinity → convert G F (convert F G m) = m) ∧
      (F.infinity < m → F.infinity < convert G F (convert F G m)) := by
  constructor
  · intro hm
    rcases Nat.lt_or_eq_of_le hm with hm | rfl
    · obtain ⟨hfinite, hdecode⟩ := convert_wider h hm
      have hzero : F.unit - G.unit = 0 := Nat.sub_eq_zero_of_le h.unit
      rw [convert, if_neg (Nat.lt_asymm hfinite), if_neg hfinite.ne, hdecode, hzero, Nat.pow_zero,
        Nat.mul_one]
      obtain ⟨q, j, hc, rfl⟩ := exists_canonical F m
      rw [hc.decode, Nat.mul_assoc, ← Nat.pow_add, hc.encode, Nat.min_eq_right hm.le]
    · rw [convert_infinity, convert_infinity]
  · intro hm
    exact convert_nan F (convert_nan G hm)

end Ieee
