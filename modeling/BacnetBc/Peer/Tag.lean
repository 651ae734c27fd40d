import BacnetBc.Lib.Memory
import BacnetBc.Lib.Single
import Mathlib.Data.UInt
import Mathlib.Tactic.SplitIfs

/-!
# The BACnet tag reader

`ReadTag` reads one tag of cl. 20.2.1 from an octet buffer; `ContentUnsigned`, `ContentReal` and
`ContentStatusFlagsFault` read its content. Every octet is read through `Memory.read`, so an index
past the buffer is a fault.

**Theorem (`readTag_eq`).** `ReadTag` never faults; `tagAt` is what it returns. A tag it returns has
its content inside the buffer (`tagAt_bounds`).

Over it, `tags` is the list of tags that a loop `while (ReadTag(..)) position = tag.next` meets
(`tags_eq`), and `unsignedOf`, `realOf` and `faultOf` are the contents as values.
-/

namespace BacnetBc

open Memory

/-! ## Tags -/

inductive TagKind
  | value
  | opening
  | closing
deriving DecidableEq, Repr

structure Tag where
  number : UInt8
  isContext : Bool
  kind : TagKind
  /-- Content octets, of a value tag. -/
  length : UInt32
  /-- Where the content starts. -/
  content : Nat
  /-- Where the following tag starts. -/
  next : Nat
deriving DecidableEq, Repr

/-- `count` octets from `position`, most significant first, shifted into `value`. -/
def bigEndian (octets : Octets) (position : Nat) : Nat → UInt32 → Access UInt32
  | 0, value => .ok value
  | count + 1, value => do
    let octet ← read octets position
    bigEndian octets (position + 1) count (value <<< 8 ||| octet.toUInt32)

/-- The tag number and the position after it: an extended number is the next octet. -/
def readTagNumber (octets : Octets) (position : Nat) (initial : UInt8) :
    Access (Option (UInt8 × Nat)) :=
  if initial >>> 4 = 15 then
    if octets.length ≤ position then .ok none
    else do
      let number ← read octets position
      return some (number, position + 1)
  else .ok (some (initial >>> 4, position))

/-- A length that does not fit the initial octet: one octet up to 253, else two or four more. -/
def readExtendedLength (octets : Octets) (position : Nat) : Access (Option (UInt32 × Nat)) :=
  if octets.length ≤ position then .ok none
  else do
    let extended ← read octets position
    if extended < 254 then return some (extended.toUInt32, position + 1)
    else
      let lengthOctets := if extended = 254 then 2 else 4
      if octets.length < position + 1 + lengthOctets then return none
      else
        let length ← bigEndian octets (position + 1) lengthOctets 0
        return some (length, position + 1 + lengthOctets)

/-- The kind, the content length and the position of the content. -/
def readTagLength (octets : Octets) (position : Nat) (number : UInt8) (isContext : Bool)
    (lengthValueType : UInt8) : Access (Option (TagKind × UInt32 × Nat)) :=
  if isContext = true ∧ lengthValueType = 6 then .ok (some (.opening, 0, position))
  else if isContext = true ∧ lengthValueType = 7 then .ok (some (.closing, 0, position))
  -- an application BOOLEAN: the value is in the tag itself
  else if isContext = false ∧ number = 1 then .ok (some (.value, 0, position))
  else if lengthValueType < 5 then .ok (some (.value, lengthValueType.toUInt32, position))
  else do
    match ← readExtendedLength octets position with
    | none => return none
    | some (length, content) => return some (.value, length, content)

/-- `ReadTag`. -/
def readTag (octets : Octets) (position : Nat) : Access (Option Tag) :=
  if octets.length ≤ position then .ok none
  else do
    let initial ← read octets position
    let isContext := initial &&& 0x08 != 0
    match ← readTagNumber octets (position + 1) initial with
    | none => return none
    | some (number, position) =>
      match ← readTagLength octets position number isContext (initial &&& 0x07) with
      | none => return none
      | some (kind, length, content) =>
        let next := content + length.toNat
        if next ≤ octets.length then return some ⟨number, isContext, kind, length, content, next⟩
        else return none

/-! ## Contents -/

/-- `ContentUnsigned`: at most four octets. -/
def contentUnsigned (octets : Octets) (tag : Tag) : Access UInt32 :=
  bigEndian octets tag.content (min tag.length.toNat 4) 0

/-- `ContentReal`: the REAL of an application REAL tag. -/
def contentReal (octets : Octets) (tag : Tag) : Access (Option Single) :=
  if tag.isContext = true ∨ tag.kind ≠ .value ∨ tag.number ≠ 4 ∨ tag.length ≠ 4 then .ok none
  else do
    let bits ← contentUnsigned octets tag
    return some ⟨bits⟩

/-- `ContentStatusFlagsFault`: bit 1 of an application BIT STRING. -/
def contentStatusFlagsFault (octets : Octets) (tag : Tag) : Access (Option Bool) :=
  if tag.isContext = true ∨ tag.kind ≠ .value ∨ tag.number ≠ 8 ∨ tag.length < 2 then .ok none
  else do
    -- octet 0 counts the unused bits
    let flags ← read octets (tag.content + 1)
    return some (flags &&& 0x40 != 0)

/-! ## The reader does not leave the buffer -/

theorem bigEndian_eq {octets : Octets} {position count : Nat} (h : position + count ≤ octets.length)
    (value : UInt32) :
    bigEndian octets position count value = .ok (((octets.drop position).take count).foldl
      (fun v octet => v <<< 8 ||| octet.toUInt32) value) := by
  induction count generalizing position value with
  | zero => rfl
  | succ count ih =>
    have hlt : position < octets.length := by omega
    rw [bigEndian, read_of_lt hlt, List.drop_eq_getElem_cons hlt, List.take_succ_cons,
      List.foldl_cons]
    exact ih (by omega) _

theorem readTagNumber_spec (octets : Octets) (position : Nat) (initial : UInt8) :
    ∃ r, readTagNumber octets position initial = .ok r ∧
      ∀ number after, r = some (number, after) → position ≤ after := by
  unfold readTagNumber
  split_ifs with hx hp
  · exact ⟨none, rfl, by simp⟩
  · rw [read_of_lt (by omega)]
    refine ⟨_, rfl, fun number after h => ?_⟩
    simp only [Option.some.injEq, Prod.mk.injEq] at h
    omega
  · refine ⟨_, rfl, fun number after h => ?_⟩
    simp only [Option.some.injEq, Prod.mk.injEq] at h
    omega

theorem readExtendedLength_spec (octets : Octets) (position : Nat) :
    ∃ r, readExtendedLength octets position = .ok r ∧
      ∀ length after, r = some (length, after) → position ≤ after := by
  unfold readExtendedLength
  split_ifs with hp
  · exact ⟨none, rfl, by simp⟩
  · have hlt : position < octets.length := by omega
    rw [read_of_lt hlt]
    set extended := octets[position]
    by_cases hx : extended < 254
    · refine ⟨some (extended.toUInt32, position + 1), ?_, ?_⟩
      · simp [hx, bind, Except.bind, pure, Except.pure]
      · intro length after h
        simp only [Option.some.injEq, Prod.mk.injEq] at h
        omega
    · set lengthOctets := if extended = 254 then 2 else 4
      by_cases hl : octets.length < position + 1 + lengthOctets
      · exact ⟨none, by simp [hx, hl, lengthOctets, bind, Except.bind, pure, Except.pure], by simp⟩
      · obtain ⟨length, hlength⟩ :
            ∃ length, bigEndian octets (position + 1) lengthOctets 0 = .ok length :=
          ⟨_, bigEndian_eq (by omega) 0⟩
        refine ⟨some (length, position + 1 + lengthOctets), ?_, ?_⟩
        · simp only [bind, Except.bind, hx, if_false, pure, Except.pure]
          rw [if_neg hl, hlength]
        · intro length after h
          simp only [Option.some.injEq, Prod.mk.injEq] at h
          omega

theorem readTagLength_spec (octets : Octets) (position : Nat) (number : UInt8) (isContext : Bool)
    (lengthValueType : UInt8) :
    ∃ r, readTagLength octets position number isContext lengthValueType = .ok r ∧
      ∀ kind length content, r = some (kind, length, content) → position ≤ content := by
  have here (kind : TagKind) (length : UInt32) :
      ∃ r, (.ok (some (kind, length, position)) : Access (Option (TagKind × UInt32 × Nat))) =
        .ok r ∧ ∀ k l content, r = some (k, l, content) → position ≤ content :=
    ⟨_, rfl, fun k l content h => by simp only [Option.some.injEq, Prod.mk.injEq] at h; omega⟩
  unfold readTagLength
  split_ifs
  · exact here _ _
  · exact here _ _
  · exact here _ _
  · exact here _ _
  · obtain ⟨r, hr, hafter⟩ := readExtendedLength_spec octets position
    rw [hr]
    cases r with
    | none => exact ⟨none, rfl, by simp⟩
    | some la =>
      obtain ⟨length, after⟩ := la
      refine ⟨some (.value, length, after), rfl, ?_⟩
      intro k l content h
      simp only [Option.some.injEq, Prod.mk.injEq] at h
      have := hafter length after rfl
      omega

/-- What `ReadTag` guarantees about a tag it returns. -/
structure Tag.Within (tag : Tag) (position octetCount : Nat) : Prop where
  lt_content : position < tag.content
  next_eq : tag.next = tag.content + tag.length.toNat
  next_le : tag.next ≤ octetCount

theorem readTag_spec (octets : Octets) (position : Nat) :
    ∃ r, readTag octets position = .ok r ∧
      ∀ tag, r = some tag → tag.Within position octets.length := by
  unfold readTag
  split_ifs with hp
  · exact ⟨none, rfl, by simp⟩
  · have hlt : position < octets.length := by omega
    rw [read_of_lt hlt]
    set initial := octets[position]
    obtain ⟨rn, hrn, hafter⟩ := readTagNumber_spec octets (position + 1) initial
    simp only [bind, Except.bind, hrn]
    rcases rn with _ | ⟨number, after⟩
    · exact ⟨none, rfl, by simp⟩
    · have hn := hafter number after rfl
      obtain ⟨rl, hrl, hcontent⟩ :=
        readTagLength_spec octets after number (initial &&& 0x08 != 0) (initial &&& 0x07)
      simp only [hrl]
      rcases rl with _ | ⟨kind, length, content⟩
      · exact ⟨none, rfl, by simp⟩
      · have hc := hcontent kind length content rfl
        by_cases hnext : content + length.toNat ≤ octets.length
        · simp only [hnext, if_true]
          refine ⟨_, rfl, ?_⟩
          intro tag h
          obtain rfl := Option.some.inj h
          exact ⟨show position < content by omega, rfl, hnext⟩
        · simp only [hnext, if_false]
          exact ⟨none, rfl, by simp⟩

/-- What `ReadTag` returns. -/
def tagAt (octets : Octets) (position : Nat) : Option Tag :=
  match readTag octets position with
  | .ok r => r
  | .error _ => none

/-- **`ReadTag` reads within the buffer.** -/
theorem readTag_eq (octets : Octets) (position : Nat) :
    readTag octets position = .ok (tagAt octets position) := by
  obtain ⟨r, hr, -⟩ := readTag_spec octets position
  simp [tagAt, hr]

theorem tagAt_bounds {octets : Octets} {position : Nat} {tag : Tag}
    (h : tagAt octets position = some tag) : tag.Within position octets.length := by
  obtain ⟨r, hr, hw⟩ := readTag_spec octets position
  rw [readTag_eq] at hr
  exact hw tag (by rw [← Except.ok.inj hr, h])

/-! ## Contents as values -/

/-- The first four content octets as a number. -/
def unsignedOf (octets : Octets) (tag : Tag) : UInt32 :=
  ((octets.drop tag.content).take (min tag.length.toNat 4)).foldl
    (fun v octet => v <<< 8 ||| octet.toUInt32) 0

/-- The REAL that the tag is, if it is one. -/
def realOf (octets : Octets) (tag : Tag) : Option Single :=
  if tag.isContext = true ∨ tag.kind ≠ .value ∨ tag.number ≠ 4 ∨ tag.length ≠ 4 then none
  else some ⟨unsignedOf octets tag⟩

/-- The FAULT bit of the BIT STRING that the tag is, if it is one of two octets or more. -/
def faultOf (octets : Octets) (tag : Tag) : Option Bool :=
  if tag.isContext = true ∨ tag.kind ≠ .value ∨ tag.number ≠ 8 ∨ tag.length < 2 then none
  else (octets[tag.content + 1]?).map fun flags => flags &&& 0x40 != 0

section
variable {octets : Octets} {position : Nat} {tag : Tag} (h : tagAt octets position = some tag)
include h

theorem contentUnsigned_eq : contentUnsigned octets tag = .ok (unsignedOf octets tag) := by
  obtain ⟨-, hnext, hle⟩ := tagAt_bounds h
  exact bigEndian_eq (by omega) 0

theorem contentReal_eq : contentReal octets tag = .ok (realOf octets tag) := by
  unfold contentReal realOf
  split_ifs
  · rfl
  · rw [contentUnsigned_eq h]
    rfl

theorem contentStatusFlagsFault_eq :
    contentStatusFlagsFault octets tag = .ok (faultOf octets tag) := by
  obtain ⟨-, hnext, hle⟩ := tagAt_bounds h
  unfold contentStatusFlagsFault faultOf
  split_ifs with hk
  · rfl
  · have h2 : 2 ≤ tag.length.toNat := by
      have hge : ¬ tag.length < 2 := fun hlt => hk (Or.inr (Or.inr (Or.inr hlt)))
      rw [UInt32.lt_iff_toNat_lt] at hge
      exact Nat.le_of_not_lt hge
    have hlt : tag.content + 1 < octets.length := by omega
    rw [read_of_lt hlt, List.getElem?_eq_getElem hlt]
    rfl

end

/-! ## The tags a loop meets -/

/-- The tags from `position` on, each starting where the one before it ends. -/
def tagsFrom (octets : Octets) : Nat → Nat → List Tag
  | 0, _ => []
  | fuel + 1, position =>
    match tagAt octets position with
    | none => []
    | some tag => tag :: tagsFrom octets fuel tag.next

/-- Each tag is longer than nothing, so that as many rounds as there are octets reach the end. -/
theorem tagsFrom_succ {octets : Octets} {fuel position : Nat}
    (h : octets.length < fuel + position) :
    tagsFrom octets (fuel + 1) position = tagsFrom octets fuel position := by
  induction fuel generalizing position with
  | zero =>
    have : tagAt octets position = none := by
      by_contra hne
      obtain ⟨tag, htag⟩ := Option.ne_none_iff_exists'.1 hne
      obtain ⟨hlt, hnext, hle⟩ := tagAt_bounds htag
      omega
    simp [tagsFrom, this]
  | succ fuel ih =>
    rw [tagsFrom, tagsFrom]
    cases htag : tagAt octets position with
    | none => rfl
    | some tag =>
      obtain ⟨hlt, hnext, hle⟩ := tagAt_bounds htag
      simp only [List.cons.injEq, true_and]
      exact ih (by omega)

/-- All tags of the buffer from `position` on. -/
def tags (octets : Octets) (position : Nat) : List Tag :=
  tagsFrom octets (octets.length + 1) position

theorem tagsFrom_eq_of_le {octets : Octets} {fuel position : Nat}
    (h : octets.length < fuel + position) {fuel' : Nat} (hle : fuel ≤ fuel') :
    tagsFrom octets fuel' position = tagsFrom octets fuel position := by
  induction fuel', hle using Nat.le_induction with
  | base => rfl
  | succ fuel' hle ih => rw [tagsFrom_succ (by omega), ih]

theorem tags_eq (octets : Octets) (position : Nat) :
    tags octets position =
      match tagAt octets position with
      | none => []
      | some tag => tag :: tags octets tag.next := by
  rw [tags, tagsFrom]
  cases htag : tagAt octets position with
  | none => rfl
  | some tag =>
    obtain ⟨hlt, hnext, hle⟩ := tagAt_bounds htag
    simp only [List.cons.injEq, true_and]
    exact (tagsFrom_eq_of_le (by omega) (Nat.le_succ octets.length)).symm

theorem head?_tags (octets : Octets) (position : Nat) :
    (tags octets position).head? = tagAt octets position := by
  rw [tags_eq]
  cases tagAt octets position <;> rfl

end BacnetBc
