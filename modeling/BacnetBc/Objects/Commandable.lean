import BacnetBc.Lib.Double
import BacnetBc.Peer.Controller
import Mathlib.Logic.Function.Basic

/-!
# Commandable values

A commandable value is a Priority_Array of 16 slots and a Relinquish_Default. A slot is null or
holds a commanded value, which is kept as a `double` whatever the object's type.

A write names a priority octet. It goes to the slot of the octet's effective priority
(`effectivePriority`), which is 16 if the octet is not one of 1 to 16. A read names a slot by an
array index, from 1 on (`prioritySlot?`).
-/

namespace BacnetBc

/-! ## Slots -/

/-- `BACNET_PRIORITY_ARRAY_SIZE`. -/
def bacnetPriorityArraySize : Nat := 16

/-- An index into `isSet` and `value`: the slot of priority `i + 1`. -/
abbrev Slot := Fin bacnetPriorityArraySize

/-- `EffectivePriority`. -/
def effectivePriority (priority : UInt8) : UInt8 :=
  if 1 ≤ priority ∧ priority.toNat ≤ bacnetPriorityArraySize then priority else 16

theorem effectivePriority_bounds (priority : UInt8) :
    1 ≤ (effectivePriority priority).toNat ∧
      (effectivePriority priority).toNat ≤ bacnetPriorityArraySize := by
  unfold effectivePriority
  split_ifs with h
  · exact ⟨UInt8.le_iff_toNat_le.1 h.1, h.2⟩
  · decide

/-- The index `p - 1` of a priority octet. -/
def slotOf (priority : UInt8) : Slot :=
  ⟨(effectivePriority priority).toNat - 1, by
    have := effectivePriority_bounds priority
    omega⟩

/-- The slot of an array index, if it is one of `Priority_Array[1..16]`. -/
def prioritySlot? (useArrayIndex : Bool) (propertyArrayIndex : UInt32) : Option Slot :=
  if h : useArrayIndex = true ∧ 1 ≤ propertyArrayIndex.toNat ∧
      propertyArrayIndex.toNat ≤ bacnetPriorityArraySize then
    some ⟨propertyArrayIndex.toNat - 1, by omega⟩
  else none

/-- The array index of a slot. -/
def arrayIndexOf (slot : Slot) : UInt32 := UInt32.ofNat (slot.val + 1)

theorem toNat_arrayIndexOf (slot : Slot) : (arrayIndexOf slot).toNat = slot.val + 1 := by
  have hlt : slot.val < 16 := slot.isLt
  exact UInt32.toNat_ofNat_of_lt' (by show slot.val + 1 < 2 ^ 32; omega)

@[simp] theorem prioritySlot?_arrayIndexOf (slot : Slot) :
    prioritySlot? true (arrayIndexOf slot) = some slot := by
  have hindex := toNat_arrayIndexOf slot
  have hlt := slot.isLt
  have hrange : true = true ∧ 1 ≤ (arrayIndexOf slot).toNat ∧
      (arrayIndexOf slot).toNat ≤ bacnetPriorityArraySize := ⟨rfl, by omega, by omega⟩
  rw [prioritySlot?, dif_pos hrange]
  simp only [hindex, Nat.add_sub_cancel]

/-- The slots that a read can name are the 16 slots. -/
theorem prioritySlot?_eq_some_iff {useArrayIndex : Bool} {propertyArrayIndex : UInt32}
    {slot : Slot} : prioritySlot? useArrayIndex propertyArrayIndex = some slot ↔
      useArrayIndex = true ∧ propertyArrayIndex = arrayIndexOf slot := by
  constructor
  · intro h
    unfold prioritySlot? at h
    split_ifs at h with hrange
    obtain rfl := Option.some.inj h
    refine ⟨hrange.1, UInt32.toNat_inj.1 ?_⟩
    rw [toNat_arrayIndexOf]
    exact (Nat.sub_add_cancel hrange.2.1).symm
  · rintro ⟨rfl, rfl⟩
    exact prioritySlot?_arrayIndexOf slot

/-! ## The value -/

/-- `Commandable`. -/
structure Commandable where
  isSet : Slot → Bool
  value : Slot → Double
  relinquishDefault : Double

/-- `{ { false }, { 0 }, relinquishDefault }`. -/
def Commandable.initial (relinquishDefault : Double) : Commandable where
  isSet := fun _ => false
  value := fun _ => ⟨0⟩
  relinquishDefault := relinquishDefault

/-- `CommandWrite`. -/
def commandWrite (c : Commandable) (priority : UInt8) (value : Double) : Commandable :=
  { c with
    isSet := Function.update c.isSet (slotOf priority) true
    value := Function.update c.value (slotOf priority) value }

/-- `CommandRelinquish`. -/
def commandRelinquish (c : Commandable) (priority : UInt8) : Commandable :=
  { c with isSet := Function.update c.isSet (slotOf priority) false }

namespace Commandable

/-- What a slot holds, or nothing if it is null. -/
def slot (c : Commandable) (i : Slot) : Option Double :=
  if c.isSet i then some (c.value i) else none

@[simp] theorem slot_initial (relinquishDefault : Double) (i : Slot) :
    (initial relinquishDefault).slot i = none := rfl

@[simp] theorem slot_commandWrite_self (c : Commandable) (priority : UInt8) (value : Double) :
    (commandWrite c priority value).slot (slotOf priority) = some value := by
  simp [slot, commandWrite]

@[simp] theorem slot_commandRelinquish_self (c : Commandable) (priority : UInt8) :
    (commandRelinquish c priority).slot (slotOf priority) = none := by
  simp [slot, commandRelinquish]

theorem slot_commandWrite_of_ne (c : Commandable) {priority : UInt8} (value : Double) {i : Slot}
    (h : i ≠ slotOf priority) : (commandWrite c priority value).slot i = c.slot i := by
  simp only [slot, commandWrite, Function.update_of_ne h]

theorem slot_commandRelinquish_of_ne (c : Commandable) {priority : UInt8} {i : Slot}
    (h : i ≠ slotOf priority) : (commandRelinquish c priority).slot i = c.slot i := by
  simp only [slot, commandRelinquish, Function.update_of_ne h]

end Commandable

/-! ## The three outputs -/

/-- The globals `g_analogOutput`, `g_binaryOutput` and `g_multiStateOutput`. -/
inductive Output
  | analog
  | binary
  | multiState
deriving DecidableEq, Repr

def objectTypeAnalogOutput : UInt16 := 1
def objectTypeBinaryOutput : UInt16 := 4
def objectTypeMultiStateOutput : UInt16 := 14

/-- `ANALOG_OUTPUT_INSTANCE`, `BINARY_OUTPUT_INSTANCE` and `MULTI_STATE_OUTPUT_INSTANCE`. -/
def outputInstance : UInt32 := 1

/-- `GetCommandable`. -/
def getCommandable (objectType : UInt16) (objectInstance : UInt32) : Option Output :=
  if objectType = objectTypeAnalogOutput ∧ objectInstance = outputInstance then some .analog
  else if objectType = objectTypeBinaryOutput ∧ objectInstance = outputInstance then some .binary
  else if objectType = objectTypeMultiStateOutput ∧ objectInstance = outputInstance then
    some .multiState
  else none

namespace Output

def objectType : Output → UInt16
  | analog => objectTypeAnalogOutput
  | binary => objectTypeBinaryOutput
  | multiState => objectTypeMultiStateOutput

/-- The Relinquish_Default, `20.0`, `0.0` and `1.0`. -/
def relinquishDefault : Output → Double
  | analog => ⟨0x4034000000000000⟩
  | binary => ⟨0⟩
  | multiState => ⟨0x3FF0000000000000⟩

/-- The outputs at power-on. -/
def atPowerOn (o : Output) : Commandable := .initial o.relinquishDefault

end Output

@[simp] theorem getCommandable_objectType (o : Output) :
    getCommandable o.objectType outputInstance = some o := by
  cases o <;> decide

theorem getCommandable_eq_some_iff {objectType : UInt16} {objectInstance : UInt32} {o : Output} :
    getCommandable objectType objectInstance = some o ↔
      objectType = o.objectType ∧ objectInstance = outputInstance := by
  constructor
  · intro h
    unfold getCommandable at h
    split_ifs at h with ha hb hm
    · obtain rfl := Option.some.inj h
      exact ha
    · obtain rfl := Option.some.inj h
      exact hb
    · obtain rfl := Option.some.inj h
      exact hm
  · rintro ⟨rfl, rfl⟩
    exact getCommandable_objectType o

/-! ## Reading a slot -/

def propertyIdentifierPriorityArray : UInt32 := 87

/-- `ReadPrioritySlot`: whether the slot is commanded, and its value. -/
def readPrioritySlot (c : Commandable) (propertyIdentifier : UInt32) (useArrayIndex : Bool)
    (propertyArrayIndex : UInt32) : Option (Bool × Double) :=
  if propertyIdentifier ≠ propertyIdentifierPriorityArray then none
  else
    (prioritySlot? useArrayIndex propertyArrayIndex).map fun i => (c.isSet i, c.value i)

end BacnetBc
