import BacnetBc.Log.Decode

/-!
# The two tag readers

`ReadTag` reads the tags of a peer's answer, and `DecodeTagHeader` those that are logged. The first
one asks for the content too, and knows that an application BOOLEAN has none.

**Theorem (`tagAt_eq_iff`).** Behind the header that `DecodeTagHeader` finds stands the tag that
`ReadTag` finds, if its content is in the frame. They differ exactly on application tags that
`ReadTag` accepts and that are a BOOLEAN with a value other than zero or have one of the two
length/value/type bits that are kept for opening and closing tags.
-/

namespace BacnetBc

open Memory

namespace Log

/-- The kind of tag that a header begins. -/
def TagHeader.kind (h : TagHeader) : TagKind :=
  if h.isOpeningTag then .opening else if h.isClosingTag then .closing else .value

/-- The tag that a header at `offset` begins, if its content is in the frame. -/
def TagHeader.tag (h : TagHeader) (frame : Octets) (offset : Nat) : Option Tag :=
  let content := offset + h.headerLength
  let next := content + h.length.toNat
  if next ≤ frame.length then
    some ⟨h.tagNumber, h.contextSpecific, h.kind, h.length, content, next⟩
  else none

/-- What `DecodeTagHeader` finds. -/
def tagHeaderAt (frame : Octets) (offset : Nat) : Option TagHeader :=
  match decodeTagHeader frame offset with
  | .ok r => r
  | .error _ => none

theorem decodeTagHeader_eq (frame : Octets) (offset : Nat) :
    decodeTagHeader frame offset = .ok (tagHeaderAt frame offset) := by
  obtain ⟨r, hr, -⟩ := decodeTagHeader_returns frame offset
  rw [tagHeaderAt, hr]

/-- An application BOOLEAN that is not zero, or an application tag with the bits of an opening or a
closing tag, as far as `ReadTag` accepts it. -/
def Differs (frame : Octets) (offset : Nat) : Prop :=
  ∃ b0 ∈ frame[offset]?, ∃ tag ∈ tagAt frame offset, tag.isContext = false ∧
    (tag.number = 1 ∧ b0 &&& 0x07 ≠ 0 ∨ 6 ≤ b0 &&& 0x07)

/-! ## Behind the tag number -/

section
variable {frame : Octets} {offset : Nat} {b0 number : UInt8} {pos : Nat}

theorem tagAt_of_outside (h : frame.length ≤ offset) : tagAt frame offset = none := by
  rw [tagAt, readTag, if_pos h]

theorem tagHeaderAt_of_outside (h : frame.length ≤ offset) : tagHeaderAt frame offset = none := by
  rw [tagHeaderAt, decodeTagHeader, if_pos h]

variable (hlt : offset < frame.length) (hb0 : frame[offset] = b0)
include hlt hb0

theorem tagAt_of_no_number (hnumber : readTagNumber frame (offset + 1) b0 = .ok none) :
    tagAt frame offset = none := by
  rw [tagAt, readTag, if_neg (by omega), read_of_lt hlt, hb0, ok_bind, hnumber]
  rfl

theorem tagHeaderAt_of_no_number (hnumber : readTagNumber frame (offset + 1) b0 = .ok none) :
    tagHeaderAt frame offset = none := by
  rw [tagHeaderAt, decodeTagHeader, if_neg (by omega), read_of_lt hlt, hb0, ok_bind, hnumber]
  rfl

variable (hnumber : readTagNumber frame (offset + 1) b0 = .ok (some (number, pos)))
include hnumber

theorem tagAt_of_number {kind : TagKind} {length : UInt32} {content : Nat}
    (h : readTagLength frame pos number (b0 &&& 0x08 != 0) (b0 &&& 0x07) =
      .ok (some (kind, length, content))) :
    tagAt frame offset = if content + length.toNat ≤ frame.length then
      some ⟨number, b0 &&& 0x08 != 0, kind, length, content, content + length.toNat⟩ else none := by
  rw [tagAt, readTag, if_neg (by omega), read_of_lt hlt, hb0, ok_bind, hnumber, ok_bind]
  dsimp only
  rw [h, ok_bind]
  dsimp only
  split_ifs <;> rfl

theorem tagAt_of_no_length
    (h : readTagLength frame pos number (b0 &&& 0x08 != 0) (b0 &&& 0x07) = .ok none) :
    tagAt frame offset = none := by
  rw [tagAt, readTag, if_neg (by omega), read_of_lt hlt, hb0, ok_bind, hnumber, ok_bind]
  dsimp only
  rw [h]
  rfl

/-- The header, and where the content begins. -/
def headerOf (number : UInt8) (isContext : Bool) (offset : Nat) (r : TagKind × UInt32 × Nat) :
    TagHeader where
  tagNumber := number
  contextSpecific := isContext
  isOpeningTag := r.1 = .opening
  isClosingTag := r.1 = .closing
  length := r.2.1
  headerLength := r.2.2 - offset

/-- Apart from the special application tags both read the same length. -/
theorem tagHeaderAt_of_length {r : Option (TagKind × UInt32 × Nat)}
    (hplain : ¬ ((b0 &&& 0x08 != 0) = false ∧ (number = 1 ∧ b0 &&& 0x07 ≠ 0 ∨ 6 ≤ b0 &&& 0x07)))
    (h : readTagLength frame pos number (b0 &&& 0x08 != 0) (b0 &&& 0x07) = .ok r) :
    tagHeaderAt frame offset = r.map (headerOf number (b0 &&& 0x08 != 0) offset) := by
  rw [tagHeaderAt, decodeTagHeader, if_neg (by omega), read_of_lt hlt, hb0, ok_bind, hnumber,
    ok_bind]
  dsimp only
  unfold readTagLength at h
  have hbits : (b0 &&& 0x07).toNat ≤ 7 := Nat.and_le_right
  generalize (b0 &&& 0x08 != 0) = isContext at hplain h
  generalize b0 &&& 0x07 = lvt at hplain h hbits
  by_cases hopening : isContext = true ∧ lvt = 6
  · rw [if_pos hopening] at h ⊢
    obtain rfl := Except.ok.inj h
    rfl
  rw [if_neg hopening] at h ⊢
  by_cases hclosing : isContext = true ∧ lvt = 7
  · rw [if_pos hclosing] at h ⊢
    obtain rfl := Except.ok.inj h
    rfl
  rw [if_neg hclosing] at h ⊢
  by_cases hboolean : isContext = false ∧ number = 1
  · -- only the BOOLEAN without a value is left
    have hzero : lvt = 0 := by
      by_contra hne
      exact hplain ⟨hboolean.1, .inl ⟨hboolean.2, hne⟩⟩
    rw [if_pos hboolean] at h
    obtain rfl := Except.ok.inj h
    rw [hzero]
    rfl
  rw [if_neg hboolean] at h
  by_cases hshort : lvt < 5
  · have hle : lvt ≤ 4 := by
      rw [UInt8.lt_iff_toNat_lt] at hshort
      exact UInt8.le_iff_toNat_le.2 (Nat.le_of_lt_succ hshort)
    rw [if_pos hshort] at h
    obtain rfl := Except.ok.inj h
    rw [if_pos hle]
    rfl
  rw [if_neg hshort] at h
  have hfive : lvt = 5 := by
    rw [UInt8.lt_iff_toNat_lt] at hshort
    rw [← UInt8.toNat_inj] at hopening hclosing ⊢
    rw [UInt8.le_iff_toNat_le] at hplain
    simp only [UInt8.reduceToNat] at *
    cases isContext with
    | true =>
      simp only [true_and] at hopening hclosing
      omega
    | false =>
      simp only [true_and, not_or] at hplain
      omega
  rw [if_neg (by rw [hfive]; decide), if_pos hfive]
  obtain ⟨l, hl, -⟩ := readExtendedLength_spec frame pos
  rw [hl, ok_bind] at h ⊢
  cases l with
  | none =>
    obtain rfl := Except.ok.inj h
    rfl
  | some l =>
    obtain rfl := Except.ok.inj h
    rfl

end

/-! ## Agreement -/

theorem tag_headerOf {frame : Octets} {offset content : Nat} (h : offset ≤ content) (number : UInt8)
    (isContext : Bool) (kind : TagKind) (length : UInt32) :
    (headerOf number isContext offset (kind, length, content)).tag frame offset =
      if content + length.toNat ≤ frame.length then
        some ⟨number, isContext, kind, length, content, content + length.toNat⟩ else none := by
  have hcontent : offset + (content - offset) = content := by omega
  have hkind : (headerOf number isContext offset (kind, length, content)).kind = kind := by
    cases kind <;> rfl
  rw [TagHeader.tag, hkind]
  simp only [headerOf, hcontent]

theorem readExtendedLength_lt {frame : Octets} {pos after : Nat} {length : UInt32}
    (h : readExtendedLength frame pos = .ok (some (length, after))) : pos < after := by
  unfold readExtendedLength at h
  by_cases houtside : frame.length ≤ pos
  · rw [if_pos houtside] at h
    cases h
  rw [if_neg houtside, read_of_lt (by omega), ok_bind] at h
  generalize frame[pos] = extended at h
  by_cases hone : extended < 254
  · rw [if_pos hone] at h
    injection h with h
    injection h with h
    injection h with _ hafter
    omega
  rw [if_neg hone] at h
  dsimp only at h
  by_cases hshort : frame.length < pos + 1 + if extended = 254 then 2 else 4
  · rw [if_pos hshort] at h
    cases h
  rw [if_neg hshort, bigEndian_eq (by omega), ok_bind] at h
  injection h with h
  injection h with h
  injection h with _ hafter
  omega

/-- A BOOLEAN has no content octets for `ReadTag`, and some for `DecodeTagHeader`. -/
theorem tagHeaderAt_boolean {frame : Octets} {offset pos : Nat} {b0 : UInt8}
    (hlt : offset < frame.length) (hb0 : frame[offset] = b0)
    (hnumber : readTagNumber frame (offset + 1) b0 = .ok (some (1, pos)))
    (hclass : (b0 &&& 0x08 != 0) = false) (hvalue : b0 &&& 0x07 ≠ 0) {h : TagHeader}
    (hh : tagHeaderAt frame offset = some h) : h.length ≠ 0 ∨ pos < offset + h.headerLength := by
  rw [tagHeaderAt, decodeTagHeader, if_neg (by omega), read_of_lt hlt, hb0, ok_bind, hnumber,
    ok_bind] at hh
  dsimp only at hh
  rw [hclass, if_neg (by simp), if_neg (by simp)] at hh
  by_cases hshort : b0 &&& 0x07 ≤ 4
  · rw [if_pos hshort] at hh
    obtain rfl := Option.some.inj hh
    refine .inl fun hzero => hvalue ?_
    rw [← UInt32.toNat_inj, UInt8.toNat_toUInt32] at hzero
    rw [← UInt8.toNat_inj]
    exact hzero
  rw [if_neg hshort] at hh
  by_cases hfive : b0 &&& 0x07 = 5
  · rw [if_pos hfive] at hh
    obtain ⟨l, hl, -⟩ := readExtendedLength_spec frame pos
    rw [hl, ok_bind] at hh
    cases l with
    | none => cases hh
    | some l =>
      obtain rfl := Option.some.inj hh
      have hafter := readExtendedLength_lt hl
      refine .inr ?_
      show pos < offset + (l.2 - offset)
      omega
  · rw [if_neg hfive] at hh
    cases hh

/-- With the bits of an opening or a closing tag `DecodeTagHeader` takes no application tag. -/
theorem tagHeaderAt_of_six_le {frame : Octets} {offset pos : Nat} {b0 number : UInt8}
    (hlt : offset < frame.length) (hb0 : frame[offset] = b0)
    (hnumber : readTagNumber frame (offset + 1) b0 = .ok (some (number, pos)))
    (hclass : (b0 &&& 0x08 != 0) = false) (hsix : 6 ≤ b0 &&& 0x07) :
    tagHeaderAt frame offset = none := by
  have hshort : ¬ b0 &&& 0x07 ≤ 4 := by
    rw [UInt8.le_iff_toNat_le] at hsix ⊢
    simp only [UInt8.reduceToNat] at hsix ⊢
    omega
  have hfive : b0 &&& 0x07 ≠ 5 := by
    intro heq
    rw [heq] at hsix
    exact absurd hsix (by decide)
  rw [tagHeaderAt, decodeTagHeader, if_neg (by omega), read_of_lt hlt, hb0, ok_bind, hnumber,
    ok_bind]
  dsimp only
  rw [hclass, if_neg (by simp), if_neg (by simp), if_neg hshort, if_neg hfive]
  rfl

/-- The tag that is read has the class and the number that were read first. -/
theorem tagAt_class {frame : Octets} {offset pos : Nat} {b0 number : UInt8} {tag : Tag}
    (hlt : offset < frame.length) (hb0 : frame[offset] = b0)
    (hnumber : readTagNumber frame (offset + 1) b0 = .ok (some (number, pos)))
    (htag : tagAt frame offset = some tag) :
    tag.isContext = (b0 &&& 0x08 != 0) ∧ tag.number = number := by
  obtain ⟨r, hr, -⟩ := readTagLength_spec frame pos number (b0 &&& 0x08 != 0) (b0 &&& 0x07)
  cases r with
  | none =>
    rw [tagAt_of_no_length hlt hb0 hnumber hr] at htag
    cases htag
  | some r =>
    rw [tagAt_of_number hlt hb0 hnumber hr] at htag
    split_ifs at htag
    obtain rfl := Option.some.inj htag
    exact ⟨rfl, rfl⟩

theorem tag_eq_some {h : TagHeader} {frame : Octets} {offset : Nat} {tag : Tag}
    (htag : h.tag frame offset = some tag) :
    tag.length = h.length ∧ tag.content = offset + h.headerLength := by
  unfold TagHeader.tag at htag
  dsimp only at htag
  split_ifs at htag
  obtain rfl := Option.some.inj htag
  exact ⟨rfl, rfl⟩

theorem readTagNumber_le {frame : Octets} {offset pos : Nat} {b0 number : UInt8}
    (hlt : offset < frame.length)
    (h : readTagNumber frame (offset + 1) b0 = .ok (some (number, pos))) : pos ≤ frame.length := by
  unfold readTagNumber at h
  split_ifs at h with hextended hend
  · cases h
  · rw [read_of_lt (by omega), ok_bind] at h
    injection h with h
    injection h with h
    injection h with _ hpos
    omega
  · injection h with h
    injection h with h
    injection h with _ hpos
    omega

theorem readTagLength_boolean (frame : Octets) (pos : Nat) (lvt : UInt8) {isContext : Bool}
    (hclass : isContext = false) :
    readTagLength frame pos 1 isContext lvt = .ok (some (.value, 0, pos)) := by
  rw [readTagLength, hclass, if_neg (by simp), if_neg (by simp), if_pos ⟨rfl, rfl⟩]

/-- A BOOLEAN is read with the length 0. -/
theorem tagAt_boolean {frame : Octets} {offset pos : Nat} {b0 : UInt8} {tag : Tag}
    (hlt : offset < frame.length) (hb0 : frame[offset] = b0)
    (hnumber : readTagNumber frame (offset + 1) b0 = .ok (some (1, pos)))
    (hclass : (b0 &&& 0x08 != 0) = false) (htag : tagAt frame offset = some tag) :
    tag.length = 0 ∧ tag.content = pos := by
  have hlength := readTagLength_boolean frame pos (b0 &&& 0x07) hclass
  rw [tagAt_of_number hlt hb0 hnumber hlength] at htag
  split_ifs at htag
  obtain rfl := Option.some.inj htag
  exact ⟨rfl, rfl⟩

theorem differs_of_special {frame : Octets} {offset pos : Nat} {b0 number : UInt8} {tag : Tag}
    (hlt : offset < frame.length) (hb0 : frame[offset] = b0)
    (hnumber : readTagNumber frame (offset + 1) b0 = .ok (some (number, pos)))
    (htag : tagAt frame offset = some tag)
    (hspecial : (b0 &&& 0x08 != 0) = false ∧ (number = 1 ∧ b0 &&& 0x07 ≠ 0 ∨ 6 ≤ b0 &&& 0x07)) :
    Differs frame offset := by
  obtain ⟨hclass, hnum⟩ := tagAt_class hlt hb0 hnumber htag
  refine ⟨b0, ?_, tag, htag, hclass.trans hspecial.1, ?_⟩
  · rw [List.getElem?_eq_getElem hlt, hb0]
    rfl
  · rw [hnum]
    exact hspecial.2

/-- A special tag that `ReadTag` does not accept is none for `DecodeTagHeader` either. -/
theorem tagHeaderAt_of_special {frame : Octets} {offset pos : Nat} {b0 number : UInt8}
    (hlt : offset < frame.length) (hb0 : frame[offset] = b0)
    (hnumber : readTagNumber frame (offset + 1) b0 = .ok (some (number, pos)))
    (htag : tagAt frame offset = none)
    (hspecial : (b0 &&& 0x08 != 0) = false ∧ (number = 1 ∧ b0 &&& 0x07 ≠ 0 ∨ 6 ≤ b0 &&& 0x07)) :
    tagHeaderAt frame offset = none := by
  obtain ⟨hclass, ⟨rfl, -⟩ | hsix⟩ := hspecial
  · have hlength := readTagLength_boolean frame pos (b0 &&& 0x07) hclass
    rw [tagAt_of_number hlt hb0 hnumber hlength,
      if_pos (by simpa using readTagNumber_le hlt hnumber)] at htag
    cases htag
  · exact tagHeaderAt_of_six_le hlt hb0 hnumber hclass hsix

theorem tagAt_eq_of_not_differs {frame : Octets} {offset : Nat} (h : ¬ Differs frame offset) :
    tagAt frame offset = (tagHeaderAt frame offset).bind (TagHeader.tag · frame offset) := by
  by_cases houtside : frame.length ≤ offset
  · rw [tagAt_of_outside houtside, tagHeaderAt_of_outside houtside]
    rfl
  have hlt : offset < frame.length := by omega
  obtain ⟨b0, hb0⟩ : ∃ b0, frame[offset] = b0 := ⟨_, rfl⟩
  obtain ⟨rn, hnumber, hpos⟩ := readTagNumber_spec frame (offset + 1) b0
  cases rn with
  | none =>
    rw [tagAt_of_no_number hlt hb0 hnumber, tagHeaderAt_of_no_number hlt hb0 hnumber]
    rfl
  | some rn =>
    obtain ⟨number, pos⟩ := rn
    have hle := hpos number pos rfl
    by_cases hspecial : (b0 &&& 0x08 != 0) = false ∧
        (number = 1 ∧ b0 &&& 0x07 ≠ 0 ∨ 6 ≤ b0 &&& 0x07)
    · have htag : tagAt frame offset = none := by
        by_contra hne
        obtain ⟨tag, htag⟩ := Option.ne_none_iff_exists'.1 hne
        exact h (differs_of_special hlt hb0 hnumber htag hspecial)
      rw [htag, tagHeaderAt_of_special hlt hb0 hnumber htag hspecial]
      rfl
    · obtain ⟨rl, hlength, hcontent⟩ :=
        readTagLength_spec frame pos number (b0 &&& 0x08 != 0) (b0 &&& 0x07)
      rw [tagHeaderAt_of_length hlt hb0 hnumber hspecial hlength]
      cases rl with
      | none => exact tagAt_of_no_length hlt hb0 hnumber hlength
      | some r =>
        obtain ⟨kind, length, content⟩ := r
        have hafter := hcontent kind length content rfl
        rw [tagAt_of_number hlt hb0 hnumber hlength]
        exact (tag_headerOf (by omega) _ _ _ _).symm

theorem tagAt_ne_of_differs {frame : Octets} {offset : Nat} (h : Differs frame offset) :
    tagAt frame offset ≠ (tagHeaderAt frame offset).bind (TagHeader.tag · frame offset) := by
  obtain ⟨b0, hget, tag, htag, hclass, hspecial⟩ := h
  obtain ⟨hlt, hb0⟩ := List.getElem?_eq_some_iff.1 hget
  intro heq
  rw [htag] at heq
  obtain ⟨header, hheader, htag'⟩ := Option.bind_eq_some_iff.1 heq.symm
  obtain ⟨rn, hnumber, -⟩ := readTagNumber_spec frame (offset + 1) b0
  cases rn with
  | none =>
    rw [tagHeaderAt_of_no_number hlt hb0 hnumber] at hheader
    cases hheader
  | some rn =>
    obtain ⟨number, pos⟩ := rn
    obtain ⟨hclass', rfl⟩ := tagAt_class hlt hb0 hnumber htag
    rw [hclass] at hclass'
    rcases hspecial with ⟨hone, hvalue⟩ | hsix
    · rw [hone] at hnumber
      obtain ⟨hzero, hcontent⟩ := tagAt_boolean hlt hb0 hnumber hclass'.symm htag
      obtain ⟨hlength, hbegins⟩ := tag_eq_some htag'
      rcases tagHeaderAt_boolean hlt hb0 hnumber hclass'.symm hvalue hheader with hne | hafter
      · exact hne (hlength.symm.trans hzero)
      · omega
    · rw [tagHeaderAt_of_six_le hlt hb0 hnumber hclass'.symm hsix] at hheader
      cases hheader

/-- **The two readers agree, the special application tags apart.** -/
theorem tagAt_eq_iff (frame : Octets) (offset : Nat) :
    tagAt frame offset = (tagHeaderAt frame offset).bind (TagHeader.tag · frame offset) ↔
      ¬ Differs frame offset :=
  ⟨fun heq h => tagAt_ne_of_differs h heq, tagAt_eq_of_not_differs⟩

end Log

end BacnetBc
