import BacnetBc.Log.Tags
import BacnetBc.Peer.Broadcast

/-!
# The object and the property of a request

A ReadProperty-Request, a ReadProperty-ACK and a WriteProperty-Request begin with the object, the
property and, for an array, the index (`NamedProperty`), in any form of the lengths that holds them.
What follows is nothing, or the opening tag of the value.

**Theorem (`decodeObjectAndProperty_encode`).** `DecodeObjectAndProperty` finds what was written.
-/

namespace BacnetBc

open Memory

namespace Log

/-! ## As it is written -/

/-- A number of 1 to 4 octets. -/
structure ContextUnsigned where
  count : Nat
  value : Nat
  form : LengthForm
  count_pos : 0 < count
  count_le : count ≤ 4
  value_lt : value < 256 ^ count
  fits : form.Fits count

theorem ContextUnsigned.fits_octets (u : ContextUnsigned) :
    u.form.Fits (bigEndianOctets u.count u.value).length := by
  rw [length_bigEndianOctets]
  exact u.fits

/-- A context tag is no application-tagged BOOLEAN, whatever its number. -/
theorem ContextUnsigned.notBoolean (number : UInt8) : true = true ∨ number ≠ 1 := .inl rfl

/-- It stands under a context tag. -/
def ContextUnsigned.item (u : ContextUnsigned) (number : UInt8) : Item :=
  .primitive ⟨number, true, u.form, bigEndianOctets u.count u.value, u.fits_octets,
    notBoolean number⟩

structure NamedProperty where
  objectType : Nat
  objectInstance : Nat
  objectType_lt : objectType < 2 ^ 10
  objectInstance_lt : objectInstance < 2 ^ 22
  objectForm : LengthForm
  objectForm_fits : objectForm.Fits 4
  property : ContextUnsigned
  arrayIndex : Option ContextUnsigned
  rest : Octets
  rest_head : ∀ first ∈ rest.head?, first = 0x3E

namespace NamedProperty

/-- The object identifier is one number of four octets. -/
def objectIdentifier (p : NamedProperty) : ContextUnsigned where
  count := 4
  value := p.objectType * 2 ^ 22 + p.objectInstance
  form := p.objectForm
  count_pos := by decide
  count_le := le_rfl
  value_lt := by
    have h := p.objectType_lt
    have h' := p.objectInstance_lt
    omega
  fits := p.objectForm_fits

def encode (p : NamedProperty) : Octets :=
  (p.objectIdentifier.item 0).encode ++ ((p.property.item 1).encode ++
    ((p.arrayIndex.elim [] fun index => (index.item 2).encode) ++ p.rest))

/-- What is logged of it. -/
def logged (p : NamedProperty) : ObjectProperty where
  objectType := UInt16.ofNat p.objectType
  objectInstance := UInt32.ofNat p.objectInstance
  propertyId := UInt32.ofNat p.property.value
  arrayIndex := p.arrayIndex.map fun index => UInt32.ofNat index.value

end NamedProperty

/-! ## One number -/

/-- A context tag that `ReadTag` reads has a header. -/
theorem decodeTagHeader_of_context {frame : Octets} {offset : Nat} {tag : Tag}
    (htag : tagAt frame offset = some tag) (hcontext : tag.isContext = true) :
    ∃ h, decodeTagHeader frame offset = .ok (some h) ∧ h.tag frame offset = some tag := by
  have hsame : ¬ Differs frame offset := by
    rintro ⟨b0, _, tag', htag', hclass, _⟩
    obtain rfl := Option.some.inj (htag.symm.trans htag')
    rw [hcontext] at hclass
    cases hclass
  have hbind := tagAt_eq_of_not_differs hsame
  rw [htag] at hbind
  obtain ⟨h, hh, htag'⟩ := Option.bind_eq_some_iff.1 hbind.symm
  exact ⟨h, by rw [decodeTagHeader_eq, hh], htag'⟩

/-- What the header of a written number says, and its value. -/
theorem exists_header_item (before after : Octets) (u : ContextUnsigned) (number : UInt8) :
    let frame := before ++ ((u.item number).encode ++ after)
    ∃ h, decodeTagHeader frame before.length = .ok (some h) ∧ h.contextSpecific = true ∧
      h.tagNumber = number ∧ h.length.toNat = u.count ∧
      before.length + h.headerLength + u.count = (before ++ (u.item number).encode).length ∧
      bigEndian frame (before.length + h.headerLength) u.count 0 = .ok (UInt32.ofNat u.value) := by
  intro frame
  obtain ⟨tag, htag, htoken, hnext⟩ := tagAt_encode before after (u.item number)
  have hwithin := tagAt_bounds htag
  have hcontext : tag.isContext = true := congrArg Token.isContext htoken
  have hnumber : tag.number = number := congrArg Token.number htoken
  have hcontent : (frame.drop tag.content).take tag.length.toNat =
      bigEndianOctets u.count u.value := congrArg Token.content htoken
  have hlength : tag.length.toNat = u.count := by
    rw [← hwithin.length_content_token, htoken]
    exact length_bigEndianOctets u.count u.value
  obtain ⟨h, hh, htag'⟩ := decodeTagHeader_of_context htag hcontext
  have hfields := htag'
  unfold TagHeader.tag at hfields
  dsimp only at hfields
  split_ifs at hfields
  obtain rfl := Option.some.inj hfields
  have hle := hwithin.next_le
  refine ⟨h, hh, hcontext, hnumber, hlength, ?_, ?_⟩
  · rw [← hlength]
    exact hnext
  · rw [bigEndian_eq (by rw [← hlength]; exact hle), ← hlength, hcontent,
      foldl_bigEndianOctets u.count_le u.value_lt]

theorem decodeContextUnsigned_item (before after : Octets) (u : ContextUnsigned)
    (number : UInt8) :
    decodeContextUnsigned (before ++ ((u.item number).encode ++ after)) before.length number =
      .ok (some (UInt32.ofNat u.value, (before ++ (u.item number).encode).length)) := by
  obtain ⟨h, hh, hcontext, hnumber, hlength, hend, hvalue⟩ :=
    exists_header_item before after u number
  have hpos := u.count_pos
  have hle := u.count_le
  have hzero : h.length ≠ 0 := by
    rw [Ne, ← UInt32.toNat_inj, hlength]
    exact hpos.ne'
  have hfour : ¬ 4 < h.length := by
    rw [UInt32.lt_iff_toNat_lt, hlength]
    exact not_lt.2 hle
  unfold decodeContextUnsigned
  rw [hh, ok_bind]
  dsimp only
  rw [hlength, if_neg, hvalue, ok_bind, hend]
  · rfl
  · rw [hcontext, hnumber, hend]
    simp [hzero, hfour]

/-! ## The object and the property -/

/-- What follows the property without an index is not taken for one. -/
theorem decodeContextUnsigned_rest (before : Octets) {rest : Octets}
    (hrest : ∀ first ∈ rest.head?, first = 0x3E) :
    decodeContextUnsigned (before ++ rest) before.length 2 = .ok none := by
  unfold decodeContextUnsigned
  cases rest with
  | nil =>
    rw [decodeTagHeader, if_pos (by simp)]
    rfl
  | cons first rest =>
    obtain rfl : first = 0x3E := hrest first rfl
    have hnumber : readTagNumber (before ++ 0x3E :: rest) (before.length + 1) 0x3E =
        .ok (some (3, before.length + 1)) := rfl
    rw [decodeTagHeader, if_neg (by simp), read_append_cons, ok_bind, hnumber]
    rfl

/-- Type and instance taken out of an object identifier. -/
theorem objectIdentifier_parts {objectType objectInstance : Nat} (htype : objectType < 2 ^ 10)
    (hinstance : objectInstance < 2 ^ 22) :
    (UInt32.ofNat (objectType * 2 ^ 22 + objectInstance) >>> 22 &&& 0x3FF).toUInt16 =
        UInt16.ofNat objectType ∧
      UInt32.ofNat (objectType * 2 ^ 22 + objectInstance) &&& 0x3FFFFF =
        UInt32.ofNat objectInstance := by
  have hsum : objectType * 2 ^ 22 + objectInstance < 2 ^ 32 := by omega
  have hvalue : (UInt32.ofNat (objectType * 2 ^ 22 + objectInstance)).toNat =
      objectType * 2 ^ 22 + objectInstance := by
    rw [UInt32.toNat_ofNat', Nat.mod_eq_of_lt hsum]
  constructor
  · rw [← UInt16.toNat_inj, UInt32.toNat_toUInt16, UInt32.toNat_and, UInt32.toNat_shiftRight,
      hvalue, UInt16.toNat_ofNat']
    have hmask : (0x3FF : UInt32).toNat = 2 ^ 10 - 1 := rfl
    have hshift : (22 : UInt32).toNat % 32 = 22 := rfl
    rw [hmask, hshift, Nat.and_two_pow_sub_one_eq_mod, Nat.shiftRight_eq_div_pow]
    omega
  · rw [← UInt32.toNat_inj, UInt32.toNat_and, hvalue, UInt32.toNat_ofNat']
    have hmask : (0x3FFFFF : UInt32).toNat = 2 ^ 22 - 1 := rfl
    rw [hmask, Nat.and_two_pow_sub_one_eq_mod]
    omega

theorem decodeContextUnsigned_index (before : Octets) (p : NamedProperty) :
    ∃ r, decodeContextUnsigned (before ++
        ((p.arrayIndex.elim [] fun index => (index.item 2).encode) ++ p.rest)) before.length 2 =
          .ok r ∧
      r.map Prod.fst = p.arrayIndex.map fun index => UInt32.ofNat index.value := by
  cases p.arrayIndex with
  | none => exact ⟨none, decodeContextUnsigned_rest before p.rest_head, rfl⟩
  | some index => exact ⟨_, decodeContextUnsigned_item before p.rest index 2, rfl⟩

/-- **What was written is found.** -/
theorem decodeObjectAndProperty_encode (before : Octets) (p : NamedProperty) :
    decodeObjectAndProperty (before ++ p.encode) before.length = .ok (some p.logged) := by
  obtain ⟨index, hindex⟩ : ∃ index, index =
      (p.arrayIndex.elim [] fun index => (index.item 2).encode) ++ p.rest := ⟨_, rfl⟩
  obtain ⟨object, hobject⟩ : ∃ object, object = (p.objectIdentifier.item 0).encode := ⟨_, rfl⟩
  obtain ⟨property, hproperty⟩ : ∃ property, property = (p.property.item 1).encode := ⟨_, rfl⟩
  have hencode : p.encode = object ++ (property ++ index) := by
    rw [hobject, hproperty, hindex]
    rfl
  obtain ⟨h, hh, hcontext, hnumber, hlength, hend, hvalue⟩ :=
    exists_header_item before (property ++ index) p.objectIdentifier 0
  rw [← hobject] at hh hend hvalue
  have hfour : h.length = 4 := UInt32.toNat_inj.1 hlength
  have hcount : p.objectIdentifier.count = 4 := rfl
  rw [hcount] at hend hvalue
  obtain ⟨htype, hinstance⟩ := objectIdentifier_parts p.objectType_lt p.objectInstance_lt
  have hpropertyRead := decodeContextUnsigned_item (before ++ object) index p.property 1
  obtain ⟨r, hr, hrvalue⟩ := decodeContextUnsigned_index (before ++ object ++ property) p
  rw [← hproperty, List.append_assoc] at hpropertyRead
  rw [← hindex, List.append_assoc, List.append_assoc] at hr
  rw [hencode]
  unfold decodeObjectAndProperty
  rw [hh, ok_bind]
  dsimp only
  rw [if_neg, hvalue, ok_bind, hend, hpropertyRead, ok_bind]
  · dsimp only
    rw [hr, ok_bind]
    show Except.ok _ = Except.ok _
    rw [hrvalue]
    exact congrArg Except.ok (congrArg some (by
      rw [NamedProperty.logged, ← htype, ← hinstance]
      rfl))
  · rw [hcontext, hnumber, hfour, hend]
    simp

end Log

end BacnetBc
