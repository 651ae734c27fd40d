import BacnetBc.Peer.Answer

/-!
# Tags as a peer writes them

A peer writes a list of items: opening and closing tags, application BOOLEANs, and primitive values
in any form of the length that holds it. Reading gives tags with positions; a `Token` is a tag
without its position, and with its content octets.

**Theorem (`map_token_tags`).** The tags of a written list of items are the tokens of the items.

The two ACK loops see tokens only: `presentValueIn` and `membersIn` are `presentValueOf` and
`membersOf` on the tokens of the tags.
-/

namespace BacnetBc

open Memory

/-! ## Tokens -/

/-- What a tag says, wherever it stands. -/
structure Token where
  number : UInt8
  isContext : Bool
  kind : TagKind
  content : Octets
deriving DecidableEq, Repr

/-- The tag without its position. -/
def Tag.token (octets : Octets) (tag : Tag) : Token where
  number := tag.number
  isContext := tag.isContext
  kind := tag.kind
  content := (octets.drop tag.content).take tag.length.toNat

namespace Token

/-- The first four content octets as a number. -/
def unsigned (t : Token) : UInt32 :=
  (t.content.take 4).foldl (fun v octet => v <<< 8 ||| octet.toUInt32) 0

/-- The REAL that the token is, if it is one. -/
def real (t : Token) : Option Single :=
  if t.isContext = true ∨ t.kind ≠ .value ∨ t.number ≠ 4 ∨ t.content.length ≠ 4 then none
  else some ⟨t.unsigned⟩

/-- Bit 1 of the BIT STRING that the token is, if it is one of two octets or more. -/
def fault (t : Token) : Option Bool :=
  if t.isContext = true ∨ t.kind ≠ .value ∨ t.number ≠ 8 then none
  else (t.content[1]?).map fun flags => flags &&& 0x40 != 0

/-- A context tag `number` with a value. -/
def IsContextValue (t : Token) (number : UInt8) : Prop :=
  t.isContext = true ∧ t.kind = .value ∧ t.number = number

/-- The opening tag `number`. -/
def Opens (t : Token) (number : UInt8) : Prop :=
  t.isContext = true ∧ t.kind = .opening ∧ t.number = number

instance (t : Token) (number : UInt8) : Decidable (t.IsContextValue number) :=
  inferInstanceAs (Decidable (_ ∧ _ ∧ _))

instance (t : Token) (number : UInt8) : Decidable (t.Opens number) :=
  inferInstanceAs (Decidable (_ ∧ _ ∧ _))

end Token

theorem Tag.Within.length_content_token {octets : Octets} {tag : Tag} {position : Nat}
    (h : tag.Within position octets.length) :
    (tag.token octets).content.length = tag.length.toNat := by
  obtain ⟨-, hnext, hle⟩ := h
  simp only [Tag.token, List.length_take, List.length_drop]
  omega

theorem unsignedOf_eq_token (octets : Octets) (tag : Tag) :
    unsignedOf octets tag = (tag.token octets).unsigned := by
  simp only [unsignedOf, Token.unsigned, Tag.token, List.take_take, Nat.min_comm]

theorem realOf_eq_token {octets : Octets} {tag : Tag} {position : Nat}
    (h : tag.Within position octets.length) : realOf octets tag = (tag.token octets).real := by
  have hlength : tag.length ≠ 4 ↔ (tag.token octets).content.length ≠ 4 := by
    rw [h.length_content_token, Ne, ← UInt32.toNat_inj]
    rfl
  simp only [realOf, Token.real, unsignedOf_eq_token, hlength]
  rfl

theorem faultOf_eq_token (octets : Octets) (tag : Tag) :
    faultOf octets tag = (tag.token octets).fault := by
  have hcontent : (tag.token octets).content[1]? =
      if tag.length < 2 then none else octets[tag.content + 1]? := by
    have hlt : tag.length < 2 ↔ tag.length.toNat < 2 := UInt32.lt_iff_toNat_lt
    simp only [Tag.token, hlt, List.getElem?_take, List.getElem?_drop]
    split_ifs <;> first | rfl | omega
  unfold faultOf Token.fault
  rw [hcontent]
  by_cases hlt : tag.length < 2
  · simp only [hlt, or_true, if_true, Option.map_none, ite_self]
  · simp only [hlt, or_false, if_false]
    rfl

/-! ## Numbers, most significant octet first -/

/-- The last `count` octets of a number, most significant first. -/
def bigEndianOctets : Nat → Nat → Octets
  | 0, _ => []
  | count + 1, value => bigEndianOctets count (value / 256) ++ [UInt8.ofNat value]

@[simp] theorem length_bigEndianOctets (count value : Nat) :
    (bigEndianOctets count value).length = count := by
  induction count generalizing value with
  | zero => rfl
  | succ count ih => simp [bigEndianOctets, ih]

/-- One octet shifted into a number that has room for it. -/
theorem shiftLeft_or_octet {value : Nat} (h : value < 2 ^ 32) :
    UInt32.ofNat (value / 256) <<< 8 ||| (UInt8.ofNat value).toUInt32 = UInt32.ofNat value := by
  apply UInt32.toNat_inj.1
  have hhigh : value / 256 < 2 ^ 24 := by omega
  have hlow : value % 256 < 2 ^ 8 := Nat.mod_lt value (by decide)
  simp only [UInt32.toNat_or, UInt32.toNat_shiftLeft, UInt32.toNat_ofNat', UInt8.toNat_toUInt32,
    UInt8.toNat_ofNat', UInt32.toNat_ofNat, Nat.reducePow, Nat.reduceMod]
  rw [Nat.mod_eq_of_lt (by omega : value / 256 < 4294967296),
    Nat.mod_eq_of_lt (by omega : value < 4294967296), Nat.mod_eq_of_lt (by
      rw [Nat.shiftLeft_eq]
      omega : (value / 256) <<< 8 < 4294967296),
    ← Nat.shiftLeft_add_eq_or_of_lt hlow, Nat.shiftLeft_eq]
  omega

/-- **Big-endian octets read back.** -/
theorem foldl_bigEndianOctets {count value : Nat} (hcount : count ≤ 4) (h : value < 256 ^ count) :
    (bigEndianOctets count value).foldl (fun (v : UInt32) octet => v <<< 8 ||| octet.toUInt32) 0 =
      UInt32.ofNat value := by
  induction count generalizing value with
  | zero =>
    obtain rfl : value = 0 := by simpa using h
    rfl
  | succ count ih =>
    have hdiv : value / 256 < 256 ^ count := by
      rw [Nat.div_lt_iff_lt_mul (by decide), ← Nat.pow_succ]
      exact h
    have h32 : value < 2 ^ 32 := lt_of_lt_of_le h (by
      rw [show (2 : Nat) ^ 32 = 256 ^ 4 from rfl]
      exact Nat.pow_le_pow_right (by decide) hcount)
    rw [bigEndianOctets, List.foldl_append, ih (by omega) hdiv]
    exact shiftLeft_or_octet h32

/-! ## Items -/

/-- Where the length of a primitive value stands: in the initial octet, or in one, two or four
octets after it. -/
inductive LengthForm
  | inline
  | octet
  | twoOctets
  | fourOctets
deriving DecidableEq, Repr

namespace LengthForm

/-- The form has room for this length. -/
def Fits : LengthForm → Nat → Prop
  | inline, length => length < 5
  | octet, length => length < 254
  | twoOctets, length => length < 2 ^ 16
  | fourOctets, length => length < 2 ^ 32

instance (form : LengthForm) (length : Nat) : Decidable (form.Fits length) := by
  cases form <;> exact inferInstanceAs (Decidable (_ < _))

/-- The length/value/type bits of the initial octet. -/
def lengthValueType : LengthForm → Nat → UInt8
  | inline, length => UInt8.ofNat length
  | _, _ => 5

/-- The length octets after the initial octet and the tag number. -/
def octets : LengthForm → Nat → Octets
  | inline, _ => []
  | octet, length => [UInt8.ofNat length]
  | twoOctets, length => 254 :: bigEndianOctets 2 length
  | fourOctets, length => 255 :: bigEndianOctets 4 length

end LengthForm

/-- A primitive value, other than an application BOOLEAN, as it is written. -/
structure Primitive where
  number : UInt8
  isContext : Bool
  form : LengthForm
  content : Octets
  fits : form.Fits content.length
  notBoolean : isContext = true ∨ number ≠ 1

/-- What a peer writes. -/
inductive Item
  | opening (number : UInt8)
  | closing (number : UInt8)
  /-- The value is in the tag itself. -/
  | boolean (value : Bool)
  | primitive (p : Primitive)

/-- The initial octet, and the tag number if it does not fit there. -/
def initialOctets (number : UInt8) (isContext : Bool) (lengthValueType : UInt8) : Octets :=
  let low := (if isContext then 0x08 else 0) ||| lengthValueType
  if number < 15 then [number <<< 4 ||| low] else [0xF0 ||| low, number]

namespace Item

def encode : Item → Octets
  | opening number => initialOctets number true 6
  | closing number => initialOctets number true 7
  | boolean value => initialOctets 1 false (if value then 1 else 0)
  | primitive p => initialOctets p.number p.isContext (p.form.lengthValueType p.content.length) ++
      (p.form.octets p.content.length ++ p.content)

def token : Item → Token
  | opening number => ⟨number, true, .opening, []⟩
  | closing number => ⟨number, true, .closing, []⟩
  | boolean _ => ⟨1, false, .value, []⟩
  | primitive p => ⟨p.number, p.isContext, .value, p.content⟩

end Item

/-- The items, one after the other. -/
def encodeItems (items : List Item) : Octets := items.flatMap Item.encode

/-! ## Reading what was written -/

theorem read_append_cons (before : Octets) (octet : UInt8) (after : Octets) :
    read (before ++ octet :: after) before.length = .ok octet := by
  rw [read_of_lt (by simp)]
  simp

/-- The initial octet of a short tag number, taken apart. -/
theorem initialOctet_parts : ∀ number < 15, ∀ isContext : Bool, ∀ bits < 8,
    let initial := UInt8.ofNat number <<< 4 |||
      ((if isContext then 0x08 else 0) ||| UInt8.ofNat bits)
    initial >>> 4 = UInt8.ofNat number ∧ (initial &&& 0x08 != 0) = isContext ∧
      initial &&& 0x07 = UInt8.ofNat bits := by
  decide

/-- The initial octet of an extended tag number, taken apart. -/
theorem extendedOctet_parts : ∀ isContext : Bool, ∀ bits < 8,
    let initial := (0xF0 : UInt8) ||| ((if isContext then 0x08 else 0) ||| UInt8.ofNat bits)
    initial >>> 4 = 15 ∧ (initial &&& 0x08 != 0) = isContext ∧ initial &&& 0x07 =
      UInt8.ofNat bits := by
  decide

/-- `ReadTag` behind the tag number. -/
def readTagBody (octets : Octets) (number : UInt8) (isContext : Bool) (lengthValueType : UInt8)
    (position : Nat) : Access (Option Tag) := do
  match ← readTagLength octets position number isContext lengthValueType with
  | none => return none
  | some (kind, length, content) =>
    let next := content + length.toNat
    if next ≤ octets.length then return some ⟨number, isContext, kind, length, content, next⟩
    else return none

theorem readTag_initialOctets (before after : Octets) (number : UInt8) (isContext : Bool)
    {lengthValueType : UInt8} (h : lengthValueType < 8) :
    readTag (before ++ (initialOctets number isContext lengthValueType ++ after)) before.length =
      readTagBody (before ++ (initialOctets number isContext lengthValueType ++ after))
        number isContext
        lengthValueType (before ++ initialOctets number isContext lengthValueType).length := by
  have hbits : lengthValueType.toNat < 8 := UInt8.lt_iff_toNat_lt.1 h
  by_cases hnumber : number < 15
  · obtain ⟨hnum, hclass, hlvt⟩ := initialOctet_parts number.toNat (UInt8.lt_iff_toNat_lt.1 hnumber)
      isContext lengthValueType.toNat hbits
    simp only [UInt8.ofNat_toNat] at hnum hclass hlvt
    have hne : number ≠ 15 := fun heq => by
      rw [heq] at hnumber
      exact absurd hnumber (by decide)
    simp only [initialOctets, if_pos hnumber, List.cons_append, List.nil_append]
    generalize number <<< 4 ||| ((if isContext = true then 8 else 0) ||| lengthValueType) = initial
      at hnum hclass hlvt
    have hposition : (before ++ [initial]).length = before.length + 1 := by simp
    rw [hposition]
    unfold readTag
    rw [if_neg (by simp), read_append_cons]
    simp only [bind, Except.bind, readTagNumber, hnum, if_neg hne, hclass, hlvt]
    rfl
  · obtain ⟨hnum, hclass, hlvt⟩ := extendedOctet_parts isContext lengthValueType.toNat hbits
    simp only [UInt8.ofNat_toNat] at hnum hclass hlvt
    simp only [initialOctets, if_neg hnumber, List.cons_append, List.nil_append]
    generalize (0xF0 : UInt8) ||| ((if isContext = true then 8 else 0) ||| lengthValueType) =
      initial at hnum hclass hlvt
    have hread : read (before ++ initial :: number :: after) (before.length + 1) = .ok number := by
      have hsplit := read_append_cons (before ++ [initial]) number after
      simpa using hsplit
    have hposition : (before ++ [initial, number]).length = before.length + 1 + 1 := by simp
    rw [hposition]
    unfold readTag
    rw [if_neg (by simp), read_append_cons]
    simp only [bind, Except.bind, readTagNumber, hnum, if_true, hclass, hlvt, hread]
    rw [if_neg (by simp)]
    simp only [pure, Except.pure]
    rfl

/-- A tag without content octets. -/
theorem readTagBody_empty {octets : Octets} {number : UInt8} {isContext : Bool}
    {lengthValueType : UInt8} {position : Nat} {kind : TagKind}
    (h : readTagLength octets position number isContext lengthValueType =
      .ok (some (kind, 0, position))) (hle : position ≤ octets.length) :
    readTagBody octets number isContext lengthValueType position =
      .ok (some ⟨number, isContext, kind, 0, position, position⟩) := by
  simp only [readTagBody, h, bind, Except.bind, UInt32.toNat_zero, Nat.add_zero, if_pos hle]
  rfl

/-- A length of two or four octets behind the octet that announces it. -/
theorem readExtendedLength_bigEndian (before after : Octets) {announced : UInt8}
    {count length : Nat}
    (hannounced : ¬ announced < 254) (hcount : (if announced = 254 then 2 else 4) = count)
    (h : length < 256 ^ count) :
    readExtendedLength (before ++ (announced :: bigEndianOctets count length ++ after))
      before.length = .ok (some (UInt32.ofNat length,
        (before ++ announced :: bigEndianOctets count length).length)) := by
  have hcount4 : count ≤ 4 := by
    rw [← hcount]
    split_ifs <;> omega
  rw [List.cons_append]
  set octets := before ++ announced :: (bigEndianOctets count length ++ after) with hoctets
  have hlength : octets.length = before.length + 1 + count + after.length := by
    simp only [hoctets, List.length_append, List.length_cons, length_bigEndianOctets]
    omega
  have hdrop : (octets.drop (before.length + 1)).take count = bigEndianOctets count length := by
    have hsplit : octets = (before ++ [announced]) ++ (bigEndianOctets count length ++ after) := by
      simp [hoctets]
    have hbefore : before.length + 1 = (before ++ [announced]).length := by simp
    rw [hsplit, hbefore, List.drop_left, List.take_left' (length_bigEndianOctets count length)]
  have hvalue : bigEndian octets (before.length + 1) count 0 = .ok (UInt32.ofNat length) := by
    rw [bigEndian_eq (by omega), hdrop, foldl_bigEndianOctets hcount4 h]
  unfold readExtendedLength
  rw [if_neg (by omega), hoctets, read_append_cons, ← hoctets]
  simp only [bind, Except.bind, if_neg hannounced, hcount]
  rw [if_neg (by omega), hvalue]
  simp only [pure, Except.pure, List.length_append, List.length_cons, length_bigEndianOctets,
    Nat.add_right_comm, Nat.add_assoc]

/-- The length octets read back. -/
theorem readExtendedLength_octets (before after : Octets) {form : LengthForm}
    (hform : form ≠ .inline) {length : Nat} (h : form.Fits length) :
    readExtendedLength (before ++ (form.octets length ++ after)) before.length =
      .ok (some (UInt32.ofNat length, (before ++ form.octets length).length)) := by
  cases form with
  | inline => exact absurd rfl hform
  | octet =>
    have hlt : length < 254 := h
    have hoctet : UInt8.ofNat length < 254 := by
      rw [UInt8.lt_iff_toNat_lt, UInt8.toNat_ofNat', Nat.mod_eq_of_lt (by omega)]
      exact hlt
    have hvalue : (UInt8.ofNat length).toUInt32 = UInt32.ofNat length := by
      apply UInt32.toNat_inj.1
      rw [UInt8.toNat_toUInt32, UInt8.toNat_ofNat', UInt32.toNat_ofNat',
        Nat.mod_eq_of_lt (by omega), Nat.mod_eq_of_lt (by omega)]
    simp only [LengthForm.octets, List.cons_append, List.nil_append]
    unfold readExtendedLength
    rw [if_neg (by simp), read_append_cons]
    simp only [bind, Except.bind, if_pos hoctet, hvalue, List.length_append, List.length_singleton]
    rfl
  | twoOctets => exact readExtendedLength_bigEndian before after (by decide) rfl h
  | fourOctets => exact readExtendedLength_bigEndian before after (by decide) rfl h

theorem LengthForm.Fits.lt {form : LengthForm} {length : Nat} (h : form.Fits length) :
    length < 2 ^ 32 := by
  cases form with
  | inline => exact Nat.lt_trans (show length < 5 from h) (by decide)
  | octet => exact Nat.lt_trans (show length < 254 from h) (by decide)
  | twoOctets => exact Nat.lt_trans (show length < 2 ^ 16 from h) (by decide)
  | fourOctets => exact h

/-- The content of a primitive value stands right behind its length octets. -/
theorem readTagLength_primitive (before after : Octets) (p : Primitive) :
    readTagLength (before ++ (p.form.octets p.content.length ++ after)) before.length p.number
        p.isContext (p.form.lengthValueType p.content.length) =
      .ok (some (.value, UInt32.ofNat p.content.length,
        (before ++ p.form.octets p.content.length).length)) := by
  have hboolean : ¬ (p.isContext = false ∧ p.number = 1) := by
    rintro ⟨hclass, hnumber⟩
    rcases p.notBoolean with h | h
    · exact Bool.false_ne_true (hclass.symm.trans h)
    · exact h hnumber
  have hfits := p.fits
  by_cases hform : p.form = .inline
  · rw [hform] at hfits ⊢
    have hlt : p.content.length < 5 := hfits
    have hshort : ∀ length < 5, UInt8.ofNat length ≠ 6 ∧ UInt8.ofNat length ≠ 7 ∧
        UInt8.ofNat length < 5 ∧ (UInt8.ofNat length).toUInt32 = UInt32.ofNat length := by decide
    obtain ⟨h6, h7, h5, hvalue⟩ := hshort p.content.length hlt
    show readTagLength _ _ _ _ (UInt8.ofNat p.content.length) = _
    unfold readTagLength
    rw [if_neg fun h => h6 h.2, if_neg fun h => h7 h.2, if_neg hboolean, if_pos h5, hvalue]
    simp [LengthForm.octets]
  · have hlvt : p.form.lengthValueType p.content.length = 5 := by
      cases hf : p.form with
      | inline => exact absurd hf hform
      | octet | twoOctets | fourOctets => rfl
    have h6 : (5 : UInt8) ≠ 6 := by decide
    have h7 : (5 : UInt8) ≠ 7 := by decide
    unfold readTagLength
    rw [hlvt, if_neg fun h => h6 h.2, if_neg fun h => h7 h.2, if_neg hboolean, if_neg (by decide),
      readExtendedLength_octets before after hform hfits]
    rfl

theorem tagAt_eq_some {octets : Octets} {position : Nat} {tag : Tag}
    (h : readTag octets position = .ok (some tag)) : tagAt octets position = some tag := by
  rw [readTag_eq] at h
  exact Except.ok.inj h

/-- A tag that stands alone is read back. -/
theorem tagAt_initialOctets (before after : Octets) {number : UInt8} {isContext : Bool}
    {lengthValueType : UInt8} {kind : TagKind} (hbits : lengthValueType < 8)
    (hread : ∀ octets position, readTagLength octets position number isContext lengthValueType =
      .ok (some (kind, 0, position))) :
    ∃ tag, tagAt (before ++ (initialOctets number isContext lengthValueType ++ after))
        before.length = some tag ∧
      tag.token (before ++ (initialOctets number isContext lengthValueType ++ after)) =
        ⟨number, isContext, kind, []⟩ ∧
      tag.next = (before ++ initialOctets number isContext lengthValueType).length := by
  set next := (before ++ initialOctets number isContext lengthValueType).length
  refine ⟨⟨number, isContext, kind, 0, next, next⟩, tagAt_eq_some ?_, ?_, rfl⟩
  · rw [readTag_initialOctets before after number isContext hbits]
    apply readTagBody_empty (hread _ _)
    simp only [List.length_append]
    omega
  · simp [Tag.token]

theorem LengthForm.lengthValueType_lt {form : LengthForm} {length : Nat} (h : form.Fits length) :
    form.lengthValueType length < 8 := by
  cases form with
  | inline =>
    have hlt : length < 5 := h
    have hshort : ∀ n < 5, UInt8.ofNat n < 8 := by decide
    exact hshort length hlt
  | octet | twoOctets | fourOctets => exact (by decide : (5 : UInt8) < 8)

/-- **A written item is read back**, with its content where it was written. -/
theorem tagAt_encode (before after : Octets) (item : Item) :
    ∃ tag, tagAt (before ++ (item.encode ++ after)) before.length = some tag ∧
      tag.token (before ++ (item.encode ++ after)) = item.token ∧
      tag.next = (before ++ item.encode).length := by
  cases item with
  | opening number =>
    exact tagAt_initialOctets before after (by decide)
      fun octets position => by simp [readTagLength]
  | closing number =>
    exact tagAt_initialOctets before after (by decide)
      fun octets position => by simp [readTagLength]
  | boolean value =>
    have hbits : (if value then 1 else 0 : UInt8) < 8 := by cases value <;> decide
    have hread : ∀ octets position, readTagLength octets position 1 false (if value then 1 else 0) =
        .ok (some (.value, 0, position)) := fun octets position => by simp [readTagLength]
    exact tagAt_initialOctets before after hbits hread
  | primitive p =>
    have hfits := p.fits
    obtain ⟨initial, hinitial⟩ : ∃ initial, initial =
        initialOctets p.number p.isContext (p.form.lengthValueType p.content.length) := ⟨_, rfl⟩
    obtain ⟨lengthOctets, hlengthOctets⟩ : ∃ lengthOctets, lengthOctets =
        p.form.octets p.content.length := ⟨_, rfl⟩
    have hencode : Item.encode (.primitive p) = initial ++ (lengthOctets ++ p.content) := by
      rw [hinitial, hlengthOctets]
      rfl
    have hlength : (UInt32.ofNat p.content.length).toNat = p.content.length := by
      rw [UInt32.toNat_ofNat', Nat.mod_eq_of_lt hfits.lt]
    refine ⟨⟨p.number, p.isContext, .value, UInt32.ofNat p.content.length,
      (before ++ initial ++ lengthOctets).length,
      (before ++ initial ++ lengthOctets).length + (UInt32.ofNat p.content.length).toNat⟩,
      tagAt_eq_some ?_, ?_, ?_⟩
    · have hbody := readTagLength_primitive (before ++ initial) (p.content ++ after) p
      rw [← hlengthOctets] at hbody
      rw [hencode, List.append_assoc, List.append_assoc, hinitial,
        readTag_initialOctets before _ p.number p.isContext (LengthForm.lengthValueType_lt hfits),
        ← hinitial, ← List.append_assoc before, readTagBody, hbody]
      simp only [bind, Except.bind]
      rw [if_pos (by simp only [hlength, List.length_append]; omega)]
      rfl
    · simp only [Tag.token, hlength]
      have hoctets : before ++ (Item.encode (.primitive p) ++ after) =
          (before ++ initial ++ lengthOctets) ++ (p.content ++ after) := by simp [hencode]
      rw [hoctets, List.drop_left, List.take_left]
      rfl
    · simp only [hlength, hencode, List.length_append]
      omega

/-! ## All tags of a list of items -/

theorem tags_encodeItems (before : Octets) (items : List Item) :
    (tags (before ++ encodeItems items) before.length).map
        (Tag.token (before ++ encodeItems items)) = items.map Item.token := by
  induction items generalizing before with
  | nil =>
    rw [tags_eq, tagAt_of_length_le (by simp [encodeItems])]
    rfl
  | cons item items ih =>
    obtain ⟨tag, htag, htoken, hnext⟩ := tagAt_encode before (encodeItems items) item
    have hcons : encodeItems (item :: items) = item.encode ++ encodeItems items := rfl
    rw [hcons, tags_eq, htag]
    simp only [List.map_cons, htoken, hnext]
    rw [← List.append_assoc, ih (before ++ item.encode)]

/-- **What is written is read**: the tags of a list of items are its tokens. -/
theorem map_token_tags {before octets : Octets} {items : List Item}
    (h : octets = before ++ encodeItems items) {position : Nat}
      (hposition : before.length = position) :
    (tags octets position).map (Tag.token octets) = items.map Item.token := by
  rw [h, ← hposition]
  exact tags_encodeItems before items

/-! ## What the loops see -/

theorem within_of_mem_tagsFrom {octets : Octets} {fuel position : Nat} {tag : Tag}
    (h : tag ∈ tagsFrom octets fuel position) : ∃ start, tag.Within start octets.length := by
  induction fuel generalizing position with
  | zero => simp [tagsFrom] at h
  | succ fuel ih =>
    rw [tagsFrom] at h
    cases htag : tagAt octets position with
    | none => simp [htag] at h
    | some first =>
      simp only [htag] at h
      rcases List.mem_cons.1 h with rfl | h
      · exact ⟨position, tagAt_bounds htag⟩
      · exact ih h

theorem within_of_mem_tags {octets : Octets} {position : Nat} {tag : Tag}
    (h : tag ∈ tags octets position) : ∃ start, tag.Within start octets.length :=
  within_of_mem_tagsFrom h

/-- `propertyAfter` on tokens. -/
def Token.propertyAfter (number : UInt8) (property : UInt32) (t : Token) : UInt32 :=
  if t.IsContextValue number then t.unsigned else property

theorem propertyAfter_eq_token (octets : Octets) (number : UInt8) (property : UInt32) (tag : Tag) :
    propertyAfter octets number property tag =
      (tag.token octets).propertyAfter number property := by
  unfold propertyAfter Token.propertyAfter
  rw [unsignedOf_eq_token]
  rfl

/-- `presentValueIn` on tokens. -/
def presentValueOf : UInt32 → List Token → Option Single
  | _, [] => none
  | property, t :: rest =>
    if t.Opens 3 then
      if property = propertyIdentifierPresentValue then rest.head?.bind Token.real else none
    else presentValueOf (t.propertyAfter 1 property) rest

/-- `membersIn` on tokens. -/
def membersOf : UInt32 → List Token → List (UInt32 × Token)
  | _, [] => []
  | property, t :: rest =>
    if t.Opens 4 then rest.head?.toList.map (property, ·) ++ membersOf property rest
    else membersOf (t.propertyAfter 2 property) rest

theorem presentValueIn_eq_token {octets : Octets} {ts : List Tag}
    (h : ∀ tag ∈ ts, ∃ start, tag.Within start octets.length) (property : UInt32) :
    presentValueIn octets property ts =
      presentValueOf property (ts.map (Tag.token octets)) := by
  induction ts generalizing property with
  | nil => rfl
  | cons tag ts ih =>
    rw [List.map_cons, presentValueOf]
    by_cases ho : tag.Opens 3
    · have hot : (tag.token octets).Opens 3 := ho
      rw [if_pos hot, presentValueIn, List.dropWhile_cons_of_neg (by simpa using ho),
        List.takeWhile_cons_of_neg (by simpa using ho)]
      cases ts with
      | nil => simp
      | cons valueTag ts =>
        obtain ⟨start, hwithin⟩ := h valueTag (by simp)
        simp only [List.foldl_nil, List.map_cons, List.head?_cons, Option.bind_some]
        rw [realOf_eq_token hwithin]
        rfl
    · have hot : ¬ (tag.token octets).Opens 3 := ho
      rw [if_neg hot, presentValueIn_cons ho, propertyAfter_eq_token]
      exact ih (fun t ht => h t (List.mem_cons_of_mem tag ht)) _

theorem membersIn_eq_token (octets : Octets) (property : UInt32) (ts : List Tag) :
    (membersIn octets property ts).map (Prod.map id (Tag.token octets)) =
      membersOf property (ts.map (Tag.token octets)) := by
  induction ts generalizing property with
  | nil => rfl
  | cons tag ts ih =>
    rw [List.map_cons, membersOf, membersIn]
    by_cases ho : tag.Opens 4
    · have hot : (tag.token octets).Opens 4 := ho
      rw [if_pos ho, if_pos hot, List.map_append, ih]
      cases ts <;> rfl
    · have hot : ¬ (tag.token octets).Opens 4 := ho
      rw [if_neg ho, if_neg hot, ih, propertyAfter_eq_token]

/-- `MultipleReading.absorb` on tokens. -/
def MultipleReading.absorbToken (r : MultipleReading) (m : UInt32 × Token) : MultipleReading :=
  if m.1 = propertyIdentifierPresentValue then { r with humidity := m.2.real }
  else if m.1 = propertyIdentifierStatusFlags then { r with fault := m.2.fault }
  else r

theorem membersIn_subset {octets : Octets} {property : UInt32} {ts : List Tag} {m : UInt32 × Tag}
    (h : m ∈ membersIn octets property ts) : m.2 ∈ ts := by
  induction ts generalizing property with
  | nil => simp [membersIn] at h
  | cons tag ts ih =>
    rw [membersIn] at h
    split_ifs at h
    · rcases List.mem_append.1 h with h | h
      · cases ts with
        | nil => simp at h
        | cons valueTag ts =>
          obtain rfl : m = (property, valueTag) := by simpa using h
          simp
      · exact List.mem_cons_of_mem tag (ih h)
    · exact List.mem_cons_of_mem tag (ih h)

theorem multipleReading_eq_token (apdu : Octets) :
    multipleReading apdu = (membersOf 0 ((tags apdu 3).map (Tag.token apdu))).foldl
      MultipleReading.absorbToken ⟨none, none⟩ := by
  rw [← membersIn_eq_token, List.foldl_map, multipleReading]
  apply List.foldl_ext
  intro r m hm
  obtain ⟨start, hwithin⟩ := within_of_mem_tags (membersIn_subset hm)
  simp only [MultipleReading.absorb, MultipleReading.absorbToken, Prod.map_fst, Prod.map_snd, id,
    realOf_eq_token hwithin, faultOf_eq_token]

end BacnetBc
