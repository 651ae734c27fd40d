import BacnetBc.Lib.Memory
import Mathlib.Data.UInt

/-!
# Little-endian fields

Numbers of 16 and 32 bits in a buffer, the low octet first. A format writes its fields one after the
other (`put16`, `put32`, and `encode` for a record of them) and reads them at an offset (`get16`,
`get32`), through the checked reads of `Memory`.

**Reading what was written** (`get16_field`, `get32_field`). A field of a record reads back at its
offset, whatever stands before and after the record.

**Reading inside a part** (`get16_within`, `get32_within`, `slice_within`). What lies inside one
part of a buffer is read as from that part alone.
-/

namespace Memory

variable {α : Type}

/-! ## Parts of a buffer -/

/-- A read inside one part of a buffer. -/
theorem read_within (before : List α) {part : List α} (after : List α) {index : Nat}
    (h : index < part.length) :
    read (before ++ (part ++ after)) (before.length + index) = read part index := by
  rw [read_of_lt h, read_of_lt (by simp only [List.length_append]; omega)]
  rw [List.getElem_append_right (Nat.le_add_right _ _)]
  simp only [Nat.add_sub_cancel_left]
  rw [List.getElem_append_left h]

theorem slice_within (before : List α) {part : List α} (after : List α) {start count : Nat}
    (h : start + count ≤ part.length) :
    slice (before ++ (part ++ after)) (before.length + start) count = slice part start count := by
  rw [slice_of_le h, slice_of_le (by simp only [List.length_append]; omega), List.drop_append,
    List.drop_eq_nil_of_le (Nat.le_add_right _ _), Nat.add_sub_cancel_left, List.nil_append,
    List.drop_append_of_le_length (by omega),
    List.take_append_of_le_length (by rw [List.length_drop]; omega)]

/-- A part read as a whole. -/
theorem slice_part (before part after : List α) :
    slice (before ++ (part ++ after)) before.length part.length = .ok part := by
  have h := slice_within before after (le_of_eq (Nat.zero_add part.length))
  rw [Nat.add_zero] at h
  rw [h, slice_of_le (le_of_eq (Nat.zero_add part.length)), List.drop_zero, List.take_length]

/-! ## Two halves of a number -/

/-- The high half and the low half, put together modulo their sizes. -/
theorem shiftLeft_or_mod {v k : Nat} (h : v < 2 ^ k * 2 ^ k) :
    (v >>> k % 2 ^ k) <<< k % (2 ^ k * 2 ^ k) ||| v % 2 ^ k % 2 ^ k = v := by
  have hpos : 0 < 2 ^ k := Nat.two_pow_pos k
  have hhigh : v / 2 ^ k < 2 ^ k := Nat.div_lt_of_lt_mul h
  have hsum : v / 2 ^ k * 2 ^ k + v % 2 ^ k = v := Nat.div_add_mod' v (2 ^ k)
  have hlt : v / 2 ^ k * 2 ^ k < 2 ^ k * 2 ^ k := Nat.mul_lt_mul_of_pos_right hhigh hpos
  rw [Nat.shiftRight_eq_div_pow, Nat.mod_eq_of_lt hhigh, Nat.mod_mod, Nat.shiftLeft_eq,
    Nat.mod_eq_of_lt hlt, ← Nat.shiftLeft_eq, ← Nat.shiftLeft_add_eq_or_of_lt (Nat.mod_lt v hpos),
    Nat.shiftLeft_eq, hsum]

/-! ## Fields of 16 bits -/

def get16 (octets : Octets) (position : Nat) : Access UInt16 := do
  return (← read octets position).toUInt16 ||| (← read octets (position + 1)).toUInt16 <<< 8

def put16 (v : UInt16) : Octets := [(v &&& 0xFF).toUInt8, (v >>> 8).toUInt8]

theorem get16_of_le {octets : Octets} {position : Nat} (h : position + 2 ≤ octets.length) :
    ∃ v, get16 octets position = .ok v := by
  rw [get16, read_of_lt (by omega : position < octets.length),
    read_of_lt (by omega : position + 1 < octets.length)]
  exact ⟨_, rfl⟩

theorem get16_within (before : Octets) {part : Octets} (after : Octets) {position : Nat}
    (h : position + 2 ≤ part.length) :
    get16 (before ++ (part ++ after)) (before.length + position) = get16 part position := by
  rw [get16, get16, Nat.add_assoc, read_within before after (by omega : position < part.length),
    read_within before after (by omega : position + 1 < part.length)]

/-- The two octets are the number again. -/
theorem octets16 (v : UInt16) :
    (v &&& 0xFF).toUInt8.toUInt16 ||| (v >>> 8).toUInt8.toUInt16 <<< 8 = v := by
  have hlt := v.toNat_lt
  have hmask : v.toNat &&& 255 = v.toNat % 2 ^ 8 := Nat.and_two_pow_sub_one_eq_mod _ 8
  rw [UInt16.or_comm, ← UInt16.toNat_inj]
  simp only [UInt16.toNat_or, UInt16.toNat_shiftLeft, UInt8.toNat_toUInt16, UInt16.toNat_toUInt8,
    UInt16.toNat_shiftRight, UInt16.toNat_and, UInt16.toNat_ofNat, Nat.reducePow, Nat.reduceMod,
    hmask]
  exact @shiftLeft_or_mod v.toNat 8 hlt

/-! ## Fields of 32 bits -/

def get32 (octets : Octets) (position : Nat) : Access UInt32 := do
  return (← get16 octets position).toUInt32 ||| (← get16 octets (position + 2)).toUInt32 <<< 16

def put32 (v : UInt32) : Octets := put16 (v &&& 0xFFFF).toUInt16 ++ put16 (v >>> 16).toUInt16

theorem get32_of_le {octets : Octets} {position : Nat} (h : position + 4 ≤ octets.length) :
    ∃ v, get32 octets position = .ok v := by
  obtain ⟨low, hlow⟩ := get16_of_le (by omega : position + 2 ≤ octets.length)
  obtain ⟨high, hhigh⟩ := get16_of_le (by omega : position + 2 + 2 ≤ octets.length)
  rw [get32, hlow, hhigh]
  exact ⟨_, rfl⟩

theorem get32_within (before : Octets) {part : Octets} (after : Octets) {position : Nat}
    (h : position + 4 ≤ part.length) :
    get32 (before ++ (part ++ after)) (before.length + position) = get32 part position := by
  rw [get32, get32, Nat.add_assoc,
    get16_within before after (by omega : position + 2 ≤ part.length),
    get16_within before after (by omega : position + 2 + 2 ≤ part.length)]

theorem octets32 (v : UInt32) :
    (v &&& 0xFFFF).toUInt16.toUInt32 ||| (v >>> 16).toUInt16.toUInt32 <<< 16 = v := by
  have hlt := v.toNat_lt
  have hmask : v.toNat &&& 65535 = v.toNat % 2 ^ 16 := Nat.and_two_pow_sub_one_eq_mod _ 16
  rw [UInt32.or_comm, ← UInt32.toNat_inj]
  simp only [UInt32.toNat_or, UInt32.toNat_shiftLeft, UInt16.toNat_toUInt32, UInt32.toNat_toUInt16,
    UInt32.toNat_shiftRight, UInt32.toNat_and, UInt32.toNat_ofNat, Nat.reducePow, Nat.reduceMod,
    hmask]
  exact @shiftLeft_or_mod v.toNat 16 hlt

/-- The four octets are the number again. -/
theorem octets32_put16 (v : UInt32) :
    (((v &&& 0xFFFF).toUInt16 &&& 0xFF).toUInt8.toUInt16 |||
        ((v &&& 0xFFFF).toUInt16 >>> 8).toUInt8.toUInt16 <<< 8).toUInt32 |||
      (((v >>> 16).toUInt16 &&& 0xFF).toUInt8.toUInt16 |||
        ((v >>> 16).toUInt16 >>> 8).toUInt8.toUInt16 <<< 8).toUInt32 <<< 16 = v := by
  rw [octets16, octets16, octets32]

/-! ## Records -/

inductive Field
  | u16 (v : UInt16)
  | u32 (v : UInt32)

namespace Field

def octets : Field → Octets
  | u16 v => put16 v
  | u32 v => put32 v

def width : Field → Nat
  | u16 _ => 2
  | u32 _ => 4

theorem length_octets (field : Field) : field.octets.length = field.width := by
  cases field <;> rfl

end Field

/-- The fields of a record, one after the other. -/
def encode (fields : List Field) : Octets := fields.flatMap Field.octets

theorem length_encode (fields : List Field) :
    (encode fields).length = (fields.map Field.width).sum := by
  induction fields with
  | nil => rfl
  | cons field fields ih =>
    rw [encode, List.flatMap_cons, List.length_append, field.length_octets, List.map_cons,
      List.sum_cons, ← ih, encode]

/-- A record, taken apart at one of its fields. -/
theorem encode_split {fields : List Field} {k : Nat} {field : Field}
    (h : fields[k]? = some field) :
    encode fields = encode (fields.take k) ++ (field.octets ++ encode (fields.drop (k + 1))) := by
  obtain ⟨hk, rfl⟩ := List.getElem?_eq_some_iff.1 h
  conv_lhs => rw [← List.take_append_drop k fields, List.drop_eq_getElem_cons hk]
  rw [encode, List.flatMap_append, List.flatMap_cons]
  rfl

theorem exists_field_split {fields : List Field} {k offset : Nat} {field : Field}
    (before after : Octets)
    (h : fields[k]? = some field) (hoffset : ((fields.take k).map Field.width).sum = offset) :
    ∃ before' after', before ++ (encode fields ++ after) = before' ++ (field.octets ++ after') ∧
      before.length + offset = before'.length := by
  refine ⟨before ++ encode (fields.take k), encode (fields.drop (k + 1)) ++ after, ?_, ?_⟩
  · rw [encode_split h]
    simp only [List.append_assoc]
  · rw [List.length_append, length_encode, hoffset]

/-- **A field of 16 bits reads back.** -/
theorem get16_field {fields : List Field} {offset : Nat} {v : UInt16} (before after : Octets)
    (k : Nat) (h : fields[k]? = some (.u16 v))
    (hoffset : ((fields.take k).map Field.width).sum = offset) :
    get16 (before ++ (encode fields ++ after)) (before.length + offset) = .ok v := by
  obtain ⟨before', after', hsplit, hlength⟩ := exists_field_split before after h hoffset
  have hpart : 0 + 2 ≤ (Field.u16 v).octets.length := le_of_eq ((Field.u16 v).length_octets).symm
  rw [hsplit, hlength, ← Nat.add_zero before'.length, get16_within before' after' hpart]
  exact congrArg Except.ok (octets16 v)

/-- **A field of 32 bits reads back.** -/
theorem get32_field {fields : List Field} {offset : Nat} {v : UInt32} (before after : Octets)
    (k : Nat) (h : fields[k]? = some (.u32 v))
    (hoffset : ((fields.take k).map Field.width).sum = offset) :
    get32 (before ++ (encode fields ++ after)) (before.length + offset) = .ok v := by
  obtain ⟨before', after', hsplit, hlength⟩ := exists_field_split before after h hoffset
  have hpart : 0 + 4 ≤ (Field.u32 v).octets.length := le_of_eq ((Field.u32 v).length_octets).symm
  rw [hsplit, hlength, ← Nat.add_zero before'.length, get32_within before' after' hpart]
  exact congrArg Except.ok (octets32_put16 v)

end Memory
