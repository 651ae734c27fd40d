import BacnetBc.Lib.Memory
import Mathlib

/-!
# Octets in base 16

* `pair` writes an octet as `%02x` does, `text` a row of octets.
* `value` is what a row of digits stands for, in either case.

**Theorem (`value_pair`).** The two digits of an octet stand for it, and each octet of a row is
found at its place in the text (`pairAt_text`).
-/

namespace Hex

open Memory

/-- What a digit stands for. -/
def digitValue? (octet : UInt8) : Option Nat :=
  if 0x30 ≤ octet ∧ octet ≤ 0x39 then some (octet.toNat - 0x30)
  else if 0x61 ≤ octet ∧ octet ≤ 0x66 then some (octet.toNat - 0x57)
  else if 0x41 ≤ octet ∧ octet ≤ 0x46 then some (octet.toNat - 0x37)
  else none

def isDigit (octet : UInt8) : Bool := (digitValue? octet).isSome

/-- The number that digits stand for. -/
def value (digits : Octets) : Nat :=
  digits.foldl (fun sofar octet => 16 * sofar + (digitValue? octet).getD 0) 0

/-- The digit for a number below 16. -/
def digit (n : Nat) : UInt8 := if n < 10 then .ofNat (0x30 + n) else .ofNat (0x57 + n)

/-- `%02x`. -/
def pair (octet : UInt8) : Octets := [digit (octet.toNat / 16), digit (octet.toNat % 16)]

def text (octets : Octets) : Octets := octets.flatMap pair

/-! ## Digits -/

theorem digitValue?_digit {n : Nat} (h : n < 16) : digitValue? (digit n) = some n := by
  have hall : ∀ k : Fin 16, digitValue? (digit k) = some k.val := by decide
  exact hall ⟨n, h⟩

/-- White space and signs are below the digits. -/
theorem le_of_isDigit {octet : UInt8} (h : isDigit octet = true) : 0x30 ≤ octet := by
  rw [isDigit, digitValue?] at h
  split_ifs at h with hdecimal hlower hupper
  · exact hdecimal.1
  · exact UInt8.le_trans (by decide) hlower.1
  · exact UInt8.le_trans (by decide) hupper.1
  · cases h

theorem isDigit_digit {n : Nat} (h : n < 16) : isDigit (digit n) = true := by
  rw [isDigit, digitValue?_digit h]
  rfl

theorem high_lt (octet : UInt8) : octet.toNat / 16 < 16 := by
  have hlt := octet.toNat_lt
  omega

theorem low_lt (octet : UInt8) : octet.toNat % 16 < 16 := Nat.mod_lt _ (by decide)

theorem isDigit_of_mem_pair {octet o : UInt8} (h : o ∈ pair octet) : isDigit o = true := by
  rcases List.mem_cons.1 h with rfl | h
  · exact isDigit_digit (high_lt octet)
  · rw [List.mem_singleton.1 h]
    exact isDigit_digit (low_lt octet)

/-- **The two digits of an octet stand for it.** -/
theorem value_pair (octet : UInt8) : value (pair octet) = octet.toNat := by
  have hhigh := digitValue?_digit (high_lt octet)
  have hlow := digitValue?_digit (low_lt octet)
  rw [value, pair, List.foldl_cons, List.foldl_cons, List.foldl_nil, hhigh, hlow,
    Option.getD_some, Option.getD_some]
  omega

/-! ## Rows of octets -/

theorem text_cons (octet : UInt8) (octets : Octets) :
    text (octet :: octets) = pair octet ++ text octets := List.flatMap_cons

theorem length_text (octets : Octets) : (text octets).length = 2 * octets.length := by
  induction octets with
  | nil => rfl
  | cons octet octets ih =>
    have hpair : (pair octet).length = 2 := rfl
    rw [text_cons, List.length_append, ih, hpair, List.length_cons]
    omega

theorem isDigit_of_mem_text {octets : Octets} {o : UInt8} (h : o ∈ text octets) :
    isDigit o = true := by
  obtain ⟨octet, -, hmem⟩ := List.mem_flatMap.1 h
  exact isDigit_of_mem_pair hmem

/-- The two octets of a text that stand for the octet at `index`. -/
def pairAt (text : Octets) (index : Nat) : Octets := (text.drop (2 * index)).take 2

/-- **Each octet has its place in the text.** -/
theorem pairAt_text {octets : Octets} {index : Nat} (h : index < octets.length) :
    pairAt (text octets) index = pair octets[index] := by
  induction octets generalizing index with
  | nil => cases h
  | cons octet octets ih =>
    rw [text_cons]
    cases index with
    | zero => rfl
    | succ index =>
      have hstep : pairAt (pair octet ++ text octets) (index + 1) = pairAt (text octets) index :=
        rfl
      rw [hstep, ih (Nat.lt_of_succ_lt_succ h), List.getElem_cons_succ]

end Hex
