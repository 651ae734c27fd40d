import BacnetBc.Lib.Memory
import Mathlib

/-!
# Decimal numbers in text

* `text` writes a number as `std::to_string` does, in octets.
* `value` is what a row of digits stands for.

**Theorem (`value_text`).** The text of a number stands for that number.
-/

namespace Decimal

open Memory

def isDigit (octet : UInt8) : Bool := 0x30 ≤ octet && octet ≤ 0x39

/-- The number that digits stand for. -/
def value (digits : Octets) : Nat :=
  digits.foldl (fun sofar octet => 10 * sofar + (octet.toNat - 0x30)) 0

/-- The octet of a character that needs only one. -/
def octetOf (c : Char) : UInt8 := UInt8.ofNat c.toNat

/-- The digits of a number, the most significant one first. -/
def text (n : Nat) : Octets := (Nat.toDigits 10 n).map octetOf

theorem toNat_octetOf {c : Char} (h : c.isDigit = true) : (octetOf c).toNat = c.toNat := by
  have hle : c.toNat ≤ 57 := by
    simp only [Char.isDigit, Bool.and_eq_true, decide_eq_true_eq] at h
    exact UInt32.le_iff_toNat_le.1 h.2
  rw [octetOf, UInt8.toNat_ofNat', Nat.mod_eq_of_lt (by omega)]

theorem text_ne_nil (n : Nat) : text n ≠ [] := by
  simp [text]

theorem length_text_le {n k : Nat} (hk : 0 < k) : (text n).length ≤ k ↔ n < 10 ^ k := by
  rw [text, List.length_map]
  exact Nat.length_toDigits_le_iff (by decide) hk

theorem isDigit_of_mem_text {n : Nat} {octet : UInt8} (h : octet ∈ text n) :
    isDigit octet = true := by
  obtain ⟨c, hc, rfl⟩ := List.mem_map.1 h
  have hdigit : c.isDigit = true := Nat.isDigit_of_mem_toDigits (by decide) (by decide) hc
  have hnat := toNat_octetOf hdigit
  simp only [Char.isDigit, Bool.and_eq_true, decide_eq_true_eq] at hdigit
  have hlow : 48 ≤ c.toNat := UInt32.le_iff_toNat_le.1 hdigit.1
  have hhigh : c.toNat ≤ 57 := UInt32.le_iff_toNat_le.1 hdigit.2
  simp only [isDigit, Bool.and_eq_true, decide_eq_true_eq, UInt8.le_iff_toNat_le, hnat]
  exact ⟨hlow, hhigh⟩

/-- **The text of a number stands for it.** -/
theorem value_text (n : Nat) : value (text n) = n := by
  have hfold : ∀ (cs : List Char) (sofar : Nat), (∀ c ∈ cs, c.isDigit = true) →
      (cs.map octetOf).foldl (fun sofar octet => 10 * sofar + (octet.toNat - 0x30)) sofar =
        Nat.ofDigitChars 10 cs sofar := by
    intro cs
    induction cs with
    | nil => intro sofar _; rfl
    | cons c cs ih =>
      intro sofar h
      obtain ⟨hc, hcs⟩ := List.forall_mem_cons.1 h
      rw [List.map_cons, List.foldl_cons, ih _ hcs, Nat.ofDigitChars_cons, toNat_octetOf hc]
      rfl
  have hdigits : ∀ c ∈ Nat.toDigits 10 n, c.isDigit = true := by
    intro c hc
    exact Nat.isDigit_of_mem_toDigits (by decide) (by decide) hc
  rw [value, text, hfold _ _ hdigits, Nat.ofDigitChars_ten_toDigits]

/-! ## Numbers written in two ways -/

theorem value_append_singleton (digits : Octets) (octet : UInt8) :
    value (digits ++ [octet]) = 10 * value digits + (octet.toNat - 0x30) := by
  rw [value, value, List.foldl_append, List.foldl_cons, List.foldl_nil]

/-- Zeros in front make no difference. -/
theorem value_zeros (k : Nat) (digits : Octets) :
    value (List.replicate k 0x30 ++ digits) = value digits := by
  induction k with
  | zero => rfl
  | succ k ih =>
    rw [List.replicate_succ, List.cons_append, ← ih, value, value, List.foldl_cons]
    rfl

theorem digit_inj {a b : UInt8} (ha : isDigit a = true) (hb : isDigit b = true)
    (h : a.toNat - 0x30 = b.toNat - 0x30) : a = b := by
  simp only [isDigit, Bool.and_eq_true, decide_eq_true_eq, UInt8.le_iff_toNat_le] at ha hb
  have hlow : (0x30 : UInt8).toNat = 0x30 := rfl
  apply UInt8.toNat_inj.1
  omega

theorem digit_lt {a : UInt8} (h : isDigit a = true) : a.toNat - 0x30 < 10 := by
  simp only [isDigit, Bool.and_eq_true, decide_eq_true_eq, UInt8.le_iff_toNat_le] at h
  have hhigh : (0x39 : UInt8).toNat = 0x39 := rfl
  omega

/-- As many digits for the same number are the same digits. -/
theorem eq_of_value_eq {digits digits' : Octets} (h : ∀ octet ∈ digits, isDigit octet = true)
    (h' : ∀ octet ∈ digits', isDigit octet = true) (hlength : digits.length = digits'.length)
    (hvalue : value digits = value digits') : digits = digits' := by
  induction digits using List.reverseRecOn generalizing digits' with
  | nil => exact (List.length_eq_zero_iff.1 hlength.symm).symm
  | append_singleton digits a ih =>
    rcases List.eq_nil_or_concat digits' with rfl | ⟨digits', b, rfl⟩
    · simp at hlength
    rw [List.concat_eq_append] at h' hlength hvalue ⊢
    rw [value_append_singleton, value_append_singleton] at hvalue
    rw [List.length_append, List.length_append, List.length_singleton, List.length_singleton]
      at hlength
    have ha := h a (List.mem_append_right _ (List.mem_singleton_self a))
    have hb := h' b (List.mem_append_right _ (List.mem_singleton_self b))
    have halt := digit_lt ha
    have hblt := digit_lt hb
    have hlast : a = b := digit_inj ha hb (by omega)
    have hfront : digits = digits' :=
      ih (fun octet hmem => h octet (List.mem_append_left _ hmem))
        (fun octet hmem => h' octet (List.mem_append_left _ hmem)) (by omega) (by omega)
    rw [hfront, hlast]

/-- **Digits for the same number differ in the zeros in front of them.** -/
theorem value_eq_iff {digits digits' : Octets} (h : ∀ octet ∈ digits, isDigit octet = true)
    (h' : ∀ octet ∈ digits', isDigit octet = true) :
    value digits = value digits' ↔
      ∃ k, digits' = List.replicate k 0x30 ++ digits ∨
        digits = List.replicate k 0x30 ++ digits' := by
  have hzeros {k : Nat} {digits : Octets} (h : ∀ octet ∈ digits, isDigit octet = true) :
      ∀ octet ∈ List.replicate k 0x30 ++ digits, isDigit octet = true := by
    intro octet hmem
    rcases List.mem_append.1 hmem with hmem | hmem
    · rw [List.eq_of_mem_replicate hmem]
      decide
    · exact h octet hmem
  constructor
  · intro hvalue
    rcases Nat.le_total digits.length digits'.length with hle | hle
    · refine ⟨digits'.length - digits.length, .inl ?_⟩
      apply eq_of_value_eq h' (hzeros h)
      · rw [List.length_append, List.length_replicate]
        omega
      · rw [value_zeros, hvalue]
    · refine ⟨digits.length - digits'.length, .inr ?_⟩
      apply eq_of_value_eq h (hzeros h')
      · rw [List.length_append, List.length_replicate]
        omega
      · rw [value_zeros, hvalue]
  · rintro ⟨k, rfl | rfl⟩
    · rw [value_zeros]
    · rw [value_zeros]

end Decimal
