import BacnetBc.Lib.Ieee
import BacnetBc.Lib.Single

/-!
# Single and double precision

`float` and `double` as bit patterns, with the conversions between them and unsigned integers.

**Theorem (`toSingle_toDouble`).** A `float` kept as a `double` comes back with the same value: the
bits agree, or both are NaNs, since a conversion quiets a signalling NaN.

**Theorem (`toUInt32?_ofUInt32`).** An unsigned integer kept as a `double` comes back.
-/

open Ieee

/-! ## Bits and patterns -/

namespace Single

def negative (a : Single) : Bool := 2 ^ 31 ≤ a.bits.toNat

def pattern (a : Single) : Nat := a.bits.toNat % 2 ^ 31

def ofPattern (x : Bool × Nat) : Single := ⟨UInt32.ofNat ((if x.1 then 2 ^ 31 else 0) + x.2)⟩

/-- Both are the same value. All NaNs are one value. -/
def SameValue (a b : Single) : Prop := a = b ∨ (a.isNaN ∧ b.isNaN)

instance (a b : Single) : Decidable (SameValue a b) :=
  inferInstanceAs (Decidable (a = b ∨ (a.isNaN ∧ b.isNaN)))

end Single

/-- A double-precision value: its 64 bits. -/
structure Double where
  bits : UInt64
deriving DecidableEq, Repr

namespace Double

def negative (a : Double) : Bool := 2 ^ 63 ≤ a.bits.toNat

def pattern (a : Double) : Nat := a.bits.toNat % 2 ^ 63

def ofPattern (x : Bool × Nat) : Double := ⟨UInt64.ofNat ((if x.1 then 2 ^ 63 else 0) + x.2)⟩

end Double

/-! ## Conversions -/

namespace Single

/-- `(double)a`. -/
def toDouble (a : Single) : Double :=
  .ofPattern (a.negative, convert binary32 binary64 a.pattern)

/-- `(float)u`. -/
def ofUInt32 (u : UInt32) : Single :=
  ofPattern (false, binary32.encode (u.toNat * 2 ^ binary32.unit) 0)

def add (a b : Single) : Single :=
  ofPattern (Ieee.add binary32 (a.negative, a.pattern) (b.negative, b.pattern))

def sub (a b : Single) : Single :=
  ofPattern (Ieee.add binary32 (a.negative, a.pattern) (!b.negative, b.pattern))

end Single

namespace Double

/-- `(float)a`. -/
def toSingle (a : Double) : Single :=
  .ofPattern (a.negative, convert binary64 binary32 a.pattern)

/-- `(double)u`. -/
def ofUInt32 (u : UInt32) : Double :=
  ofPattern (false, binary64.encode (u.toNat * 2 ^ binary64.unit) 0)

/-- `(uint32_t)a`, which is undefined if what is left without the fraction does not fit. -/
def toUInt32? (a : Double) : Option UInt32 :=
  let whole := binary64.decode a.pattern / 2 ^ binary64.unit
  if binary64.infinity ≤ a.pattern then none
  else if 2 ^ 32 ≤ whole ∨ (a.negative = true ∧ whole ≠ 0) then none
  else some (UInt32.ofNat whole)

end Double

/-! ## There and back -/

theorem convert_lt {F G : Format} {m : Nat} (hf : 0 < G.fractionBits)
    (hp : payload F G m < 2 ^ G.fractionBits) :
    convert F G m < 2 ^ (G.fractionBits + G.exponentBits) := by
  have hfrac := Nat.two_pow_pos G.fractionBits
  have hexp := Nat.two_pow_pos G.exponentBits
  have hinf : G.infinity + 2 ^ G.fractionBits = 2 ^ (G.fractionBits + G.exponentBits) := by
    rw [Format.infinity, ← Nat.succ_mul, Nat.succ_eq_add_one, Nat.sub_add_cancel hexp, Nat.mul_comm,
      Nat.pow_add]
  have hquiet : 2 ^ (G.fractionBits - 1) < 2 ^ G.fractionBits :=
    Nat.pow_lt_pow_right (by omega) (by omega)
  have hor := Nat.or_lt_two_pow hquiet hp
  have hencode (n k : Nat) : G.encode n k ≤ G.infinity := Nat.min_le_left _ _
  unfold convert Format.quietNaN
  split_ifs
  · omega
  · omega
  · exact (hencode _ _).trans_lt (by omega)

namespace Single

theorem ofPattern_pattern (a : Single) : ofPattern (a.negative, a.pattern) = a := by
  have hlt := a.bits.toNat_lt
  have hbits : (if a.negative then 2 ^ 31 else 0) + a.pattern = a.bits.toNat := by
    unfold negative pattern
    simp only [decide_eq_true_eq]
    split_ifs <;> omega
  rw [ofPattern]
  dsimp only
  rw [hbits, UInt32.ofNat_toNat]

theorem bits_ofPattern {s : Bool} {m : Nat} (h : m < 2 ^ 31) :
    (ofPattern (s, m)).bits.toNat = (if s then 2 ^ 31 else 0) + m := by
  have hlt : (if s then 2 ^ 31 else 0) + m < 2 ^ 32 := by
    split_ifs <;> omega
  exact UInt32.toNat_ofNat_of_lt' hlt

theorem pattern_ofPattern {s : Bool} {m : Nat} (h : m < 2 ^ 31) :
    (ofPattern (s, m)).pattern = m := by
  rw [pattern, bits_ofPattern h]
  split_ifs <;> omega

theorem isNaN_iff {a : Single} : a.isNaN = true ↔ binary32.infinity < a.pattern := by
  have hmagnitude : a.magnitude.toNat = a.pattern := by
    rw [magnitude, UInt32.toNat_and, pattern]
    exact Nat.and_two_pow_sub_one_eq_mod _ 31
  rw [isNaN, decide_eq_true_eq, UInt32.lt_iff_toNat_lt, hmagnitude]
  exact Iff.rfl

end Single

namespace Double

theorem bits_ofPattern {s : Bool} {m : Nat} (h : m < 2 ^ 63) :
    (ofPattern (s, m)).bits.toNat = (if s then 2 ^ 63 else 0) + m := by
  have hlt : (if s then 2 ^ 63 else 0) + m < 2 ^ 64 := by
    split_ifs <;> omega
  exact UInt64.toNat_ofNat_of_lt' hlt

theorem pattern_ofPattern {s : Bool} {m : Nat} (h : m < 2 ^ 63) :
    (ofPattern (s, m)).pattern = m := by
  rw [pattern, bits_ofPattern h]
  split_ifs <;> omega

theorem negative_ofPattern {s : Bool} {m : Nat} (h : m < 2 ^ 63) :
    (ofPattern (s, m)).negative = s := by
  rw [negative, bits_ofPattern h]
  cases s with
  | true => simp
  | false =>
    simp only [Bool.false_eq_true, if_false, decide_eq_false_iff_not]
    omega

end Double

theorem convert_binary64_lt (m : Nat) : convert binary32 binary64 m < 2 ^ 63 := by
  refine convert_lt (G := binary64) (by decide) ?_
  have hlt : m % 2 ^ 23 < 2 ^ 23 := Nat.mod_lt _ (Nat.two_pow_pos 23)
  show m % 2 ^ 23 * 2 ^ 29 < 2 ^ 52
  omega

theorem convert_binary32_lt (m : Nat) : convert binary64 binary32 m < 2 ^ 31 := by
  refine convert_lt (G := binary32) (by decide) ?_
  have hlt : m % 2 ^ 52 < 2 ^ 52 := Nat.mod_lt _ (Nat.two_pow_pos 52)
  show m % 2 ^ 52 / 2 ^ 29 < 2 ^ 23
  omega

namespace Single

/-- **A `float` kept as a `double`** comes back with its value. -/
theorem toSingle_toDouble (a : Single) : a.toDouble.toSingle.SameValue a := by
  have hwide := convert_binary64_lt a.pattern
  have hback : a.toDouble.toSingle =
      ofPattern (a.negative, convert binary64 binary32 (convert binary32 binary64 a.pattern)) := by
    rw [toDouble, Double.toSingle, Double.pattern_ofPattern hwide, Double.negative_ofPattern hwide]
  obtain ⟨hsame, hnan⟩ := convert_convert (m := a.pattern) binary32_within_binary64
  rw [hback]
  by_cases h : binary32.infinity < a.pattern
  · right
    rw [isNaN_iff, isNaN_iff, pattern_ofPattern (convert_binary32_lt _)]
    exact ⟨hnan h, h⟩
  · left
    rw [hsame (Nat.not_lt.1 h), ofPattern_pattern]

end Single

namespace Double

/-- **An unsigned integer kept as a `double`** comes back. -/
theorem toUInt32?_ofUInt32 (u : UInt32) : (ofUInt32 u).toUInt32? = some u := by
  have hu := u.toNat_lt
  obtain ⟨hfinite, hdecode⟩ := decode_encode_natural (F := binary64) (by decide) hu (by decide)
    (by decide)
  have hlt : binary64.encode (u.toNat * 2 ^ binary64.unit) 0 < 2 ^ 63 :=
    hfinite.trans (by decide)
  simp only [toUInt32?, ofUInt32, pattern_ofPattern hlt, negative_ofPattern hlt, hdecode,
    Nat.mul_div_cancel _ (Nat.two_pow_pos _)]
  rw [if_neg (Nat.not_le.2 hfinite), if_neg, UInt32.ofNat_toNat]
  rintro (hbig | ⟨hneg, -⟩)
  · omega
  · cases hneg

end Double
