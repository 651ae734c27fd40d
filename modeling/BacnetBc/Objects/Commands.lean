import BacnetBc.Lib.Trajectory
import BacnetBc.Objects.Application

/-!
# The outputs over whole runs of writes

A `SetCall` is a call of one of the four Set callbacks that can reach an output. An accepted one
that names the Present_Value of an output commands one of its slots (`Commands`); what it leaves
there is a `double` (`WrittenValue.stored`).

**One call** (`set_slot`). A call changes the slot it commands and no other; a refused call changes
nothing (`set_refused`).

**Theorem (`outputs_commanded`).** After every run of calls each slot is served as the last command
to it says (`LastCommand`), by the typed Get callback and by `GetPropertyBool`; and the answers for
Binary Output 1 and Multi-state Output 1 are always within their ranges.
-/

namespace BacnetBc

open Memory Trajectory

/-! ## Calls -/

/-- A written value; `null` is the value of `SetPropertyNull`. -/
inductive WrittenValue
  | real (value : Single)
  | enumerated (value : UInt32)
  | unsigned (value : UInt32)
  | null
deriving DecidableEq, Repr

/-- A call of a Set callback. A write to a certificate file looks at the time and the folder. -/
structure SetCall where
  reference : PropertyReference
  priority : UInt8
  value : WrittenValue
  now : Int
  disk : CertDisk

namespace Application

variable {L : Layout}

def set (app : Application L) (call : SetCall) : Application L × Except (Option Nat) Unit :=
  match call.value with
  | .real value => app.setPropertyReal call.reference value call.priority
  | .enumerated value => app.setPropertyEnumerated call.reference value call.priority
  | .unsigned value =>
    app.setPropertyUnsignedInteger call.now call.disk call.reference value call.priority
  | .null => app.setPropertyNull call.reference call.priority

/-- The application after a call. -/
def setStep (app : Application L) (call : SetCall) : Access (Application L) := .ok (app.set call).1

/-- The call names the Present_Value of the output. -/
def Names (app : Application L) (call : SetCall) (o : Output) : Prop :=
  call.reference.deviceInstance = app.options.deviceInstance ∧
    call.reference.objectType = o.objectType ∧ call.reference.objectInstance = outputInstance ∧
    call.reference.propertyIdentifier = propertyIdentifierPresentValue

instance (app : Application L) (call : SetCall) (o : Output) : Decidable (app.Names call o) :=
  inferInstanceAs (Decidable (_ ∧ _ ∧ _ ∧ _))

/-- The call is accepted and commands this slot: a write, or a relinquish if its value is null. -/
def Commands (app : Application L) (call : SetCall) (o : Output) (slot : Slot) : Prop :=
  (app.set call).2 = .ok () ∧ app.Names call o ∧ slotOf call.priority = slot

end Application

namespace WrittenValue

/-- What a write of the value to the output leaves in the slot, if it is accepted. -/
def stored : Output → WrittenValue → Option (Option Double)
  | .analog, .real value => some (some value.toDouble)
  | .binary, .enumerated value => if value > 1 then none else some (some (.ofUInt32 value))
  | .multiState, .unsigned value =>
    if value < 1 ∨ value > multiStateOutputNumberOfStates then none
    else some (some (.ofUInt32 value))
  | _, .null => some none
  | _, _ => none

/-- Both are the same value. -/
def Same : WrittenValue → WrittenValue → Prop
  | .real a, .real b => a.SameValue b
  | a, b => a = b

end WrittenValue

/-! ## One call -/

namespace Application

variable {L : Layout} {app : Application L} {call : SetCall} {o : Output}

theorem isDataLinkPort_of_output {p : PropertyReference} (h : p.objectType = o.objectType)
    (dataLink : DataLink) : app.isDataLinkPort p dataLink = false := by
  have hne : p.objectType ≠ objectTypeNetworkPort := by
    rw [h]
    cases o <;> decide
  simp [isDataLinkPort, hne]

theorem isScCertificateFile_of_output {p : PropertyReference} (h : p.objectType = o.objectType) :
    app.isScCertificateFile p = false := by
  have hne : p.objectType ≠ objectTypeFile := by
    rw [h]
    cases o <;> decide
  simp [isScCertificateFile, hne]

section
variable {p : PropertyReference} (priority : UInt8)

theorem setPropertyReal_of_output (hdevice : p.deviceInstance = app.options.deviceInstance)
    (houtput : getCommandable p.objectType p.objectInstance = some o)
    (hproperty : p.propertyIdentifier = propertyIdentifierPresentValue) (value : Single) :
    app.setPropertyReal p value priority =
      if o = .analog then
        (app.command o (commandWrite (app.outputs o) priority value.toDouble), .ok ())
      else (app, .error none) := by
  have htype := (getCommandable_eq_some_iff.1 houtput).1
  rw [setPropertyReal, if_neg (not_not.2 hdevice), houtput]
  cases o <;> simp only [htype, hproperty] <;> rfl

theorem setPropertyEnumerated_of_output (hdevice : p.deviceInstance = app.options.deviceInstance)
    (houtput : getCommandable p.objectType p.objectInstance = some o)
    (hproperty : p.propertyIdentifier = propertyIdentifierPresentValue) (value : UInt32) :
    app.setPropertyEnumerated p value priority =
      if o = .binary then
        if value > 1 then (app, .error (some errorValueOutOfRange))
        else (app.command o (commandWrite (app.outputs o) priority (.ofUInt32 value)), .ok ())
      else (app, .error none) := by
  have htype := (getCommandable_eq_some_iff.1 houtput).1
  rw [setPropertyEnumerated, if_neg (not_not.2 hdevice), houtput]
  cases o <;> simp only [htype, hproperty] <;> rfl

theorem setPropertyUnsignedInteger_of_output
    (hdevice : p.deviceInstance = app.options.deviceInstance)
    (houtput : getCommandable p.objectType p.objectInstance = some o)
    (hproperty : p.propertyIdentifier = propertyIdentifierPresentValue) (now : Int) (d : CertDisk)
    (value : UInt32) :
    app.setPropertyUnsignedInteger now d p value priority =
      if o = .multiState then
        if value < 1 ∨ value > multiStateOutputNumberOfStates then
          (app, .error (some errorValueOutOfRange))
        else (app.command o (commandWrite (app.outputs o) priority (.ofUInt32 value)), .ok ())
      else (app, .error none) := by
  have htype := (getCommandable_eq_some_iff.1 houtput).1
  have hport : p.objectType ≠ objectTypeNetworkPort := by
    rw [htype]
    cases o <;> decide
  rw [setPropertyUnsignedInteger, if_neg (not_not.2 hdevice), isDataLinkPort_of_output htype,
    if_neg Bool.false_ne_true, if_neg fun h => hport h.1, isScCertificateFile_of_output htype,
    if_neg fun h => Bool.false_ne_true h.1, houtput]
  cases o <;> simp only [htype, hproperty] <;> rfl

theorem setPropertyNull_of_output (hdevice : p.deviceInstance = app.options.deviceInstance)
    (houtput : getCommandable p.objectType p.objectInstance = some o)
    (hproperty : p.propertyIdentifier = propertyIdentifierPresentValue) :
    app.setPropertyNull p priority =
      (app.command o (commandRelinquish (app.outputs o) priority), .ok ()) := by
  rw [setPropertyNull, if_neg (not_not.2 hdevice), houtput]
  exact if_pos hproperty

end

/-- A call that names an output stores its value in the slot of its priority, or is refused. -/
theorem set_of_names (h : app.Names call o) :
    (call.value.stored o = none ∧ ∃ error, app.set call = (app, .error error)) ∨
      ∃ c, app.set call = (app.command o c, .ok ()) ∧
        c.relinquishDefault = (app.outputs o).relinquishDefault ∧
        call.value.stored o = some (c.slot (slotOf call.priority)) ∧
        ∀ i ≠ slotOf call.priority, c.slot i = (app.outputs o).slot i := by
  obtain ⟨hdevice, htype, hinstance, hproperty⟩ := h
  have houtput := getCommandable_eq_some_iff.2 ⟨htype, hinstance⟩
  have hwrite (v : Double) : ∀ i ≠ slotOf call.priority,
      (commandWrite (app.outputs o) call.priority v).slot i = (app.outputs o).slot i :=
    fun i hi => (app.outputs o).slot_commandWrite_of_ne v hi
  unfold set
  cases call.value with
  | real value =>
    dsimp only
    rw [setPropertyReal_of_output call.priority hdevice houtput hproperty]
    cases o with
    | analog =>
      exact Or.inr ⟨_, rfl, rfl, by rw [Commandable.slot_commandWrite_self]; rfl, hwrite _⟩
    | _ => exact Or.inl ⟨rfl, _, rfl⟩
  | enumerated value =>
    dsimp only
    rw [setPropertyEnumerated_of_output call.priority hdevice houtput hproperty]
    cases o with
    | binary =>
      rw [if_pos rfl, WrittenValue.stored]
      split_ifs with hrange
      · exact Or.inl ⟨rfl, _, rfl⟩
      · exact Or.inr ⟨_, rfl, rfl, by rw [Commandable.slot_commandWrite_self], hwrite _⟩
    | _ => exact Or.inl ⟨rfl, _, rfl⟩
  | unsigned value =>
    dsimp only
    rw [setPropertyUnsignedInteger_of_output call.priority hdevice houtput hproperty]
    cases o with
    | multiState =>
      rw [if_pos rfl, WrittenValue.stored]
      split_ifs with hrange
      · exact Or.inl ⟨rfl, _, rfl⟩
      · exact Or.inr ⟨_, rfl, rfl, by rw [Commandable.slot_commandWrite_self], hwrite _⟩
    | _ => exact Or.inl ⟨rfl, _, rfl⟩
  | null =>
    dsimp only
    rw [setPropertyNull_of_output call.priority hdevice houtput hproperty]
    refine Or.inr ⟨_, rfl, rfl, ?_, fun i hi => (app.outputs o).slot_commandRelinquish_of_ne hi⟩
    rw [Commandable.slot_commandRelinquish_self]
    cases o <;> rfl

/-! ### Calls that name no output -/

theorem resizeCertificateFile_spec (app : Application L) (now : Int) (d : CertDisk)
    (fileInstance newSize : UInt32) :
    (∃ error, app.resizeCertificateFile now d fileInstance newSize = (app, .error error)) ∨
      ∃ store, app.resizeCertificateFile now d fileInstance newSize =
        ({ app with store := store }, .ok ()) := by
  unfold resizeCertificateFile Store.resize
  split_ifs
  · exact Or.inl ⟨_, rfl⟩
  · exact Or.inl ⟨_, rfl⟩
  · cases app.store.stage now d fileInstance.toNat with
    | none => exact Or.inl ⟨_, rfl⟩
    | some staged => exact Or.inr ⟨_, rfl⟩

theorem setDataLinkPortUnsigned_spec (app : Application L) (p : PropertyReference)
    (value : UInt32) :
    (∃ error, app.setDataLinkPortUnsigned p value = (app, .error error)) ∨
      ∃ app', app.setDataLinkPortUnsigned p value = (app', .ok ()) ∧ app'.outputs = app.outputs ∧
        SameIdentity app app' := by
  unfold setDataLinkPortUnsigned
  split_ifs
  · exact Or.inl ⟨_, rfl⟩
  · exact Or.inr ⟨_, rfl, rfl, rfl, rfl⟩
  · exact Or.inr ⟨_, rfl, rfl, rfl, rfl⟩
  · exact Or.inr ⟨_, rfl, rfl, .refl app⟩

/-- A look at `GetCommandable` that comes to the same for every output. -/
theorem commandable_eq {α : Type} {f : Output → α} {r : α} {objectType : UInt16}
    {objectInstance : UInt32}
    (h : ∀ o, getCommandable objectType objectInstance = some o → f o = r) :
    (match getCommandable objectType objectInstance with
      | some o => f o
      | none => r) = r := by
  cases houtput : getCommandable objectType objectInstance with
  | none => rfl
  | some o => exact h o houtput

/-- What a call that names no output does: nothing to the outputs. -/
theorem set_of_not_names (h : ∀ o, ¬ app.Names call o) :
    (∃ error, app.set call = (app, .error error)) ∨
      ∃ app', app.set call = (app', .ok ()) ∧ app'.outputs = app.outputs ∧
        SameIdentity app app' := by
  by_cases hdevice : call.reference.deviceInstance ≠ app.options.deviceInstance
  · left
    unfold set
    cases call.value with
    | real value => exact ⟨_, if_pos hdevice⟩
    | enumerated value => exact ⟨_, if_pos hdevice⟩
    | unsigned value => exact ⟨_, if_pos hdevice⟩
    | null => exact ⟨_, if_pos hdevice⟩
  · have hproperty : ∀ o, getCommandable call.reference.objectType call.reference.objectInstance =
        some o → call.reference.propertyIdentifier ≠ propertyIdentifierPresentValue := by
      intro o houtput hpresent
      obtain ⟨htype, hinstance⟩ := getCommandable_eq_some_iff.1 houtput
      exact h o ⟨not_not.1 hdevice, htype, hinstance, hpresent⟩
    unfold set
    cases call.value with
    | real value =>
      left
      refine ⟨none, (if_neg hdevice).trans (commandable_eq fun o houtput => if_neg ?_)⟩
      exact fun hp => hproperty o houtput hp.2
    | enumerated value =>
      left
      refine ⟨none, (if_neg hdevice).trans (commandable_eq fun o houtput => if_neg ?_)⟩
      exact fun hp => hproperty o houtput hp.2
    | unsigned value =>
      dsimp only
      rw [setPropertyUnsignedInteger, if_neg hdevice]
      by_cases hmstp : app.isDataLinkPort call.reference .mstp = true
      · rw [if_pos hmstp]
        exact app.setDataLinkPortUnsigned_spec call.reference value
      · rw [if_neg hmstp]
        by_cases hnetwork : call.reference.objectType = objectTypeNetworkPort ∧
            call.reference.objectInstance = activeNetworkPortInstance app.options.dataLink ∧
            call.reference.propertyIdentifier = propertyIdentifierNetworkNumber
        · rw [if_pos hnetwork]
          exact Or.inr ⟨_, rfl, rfl, .refl app⟩
        · rw [if_neg hnetwork]
          by_cases hfile : app.isScCertificateFile call.reference = true ∧
              call.reference.propertyIdentifier = propertyIdentifierFileSize
          · rw [if_pos hfile]
            rcases app.resizeCertificateFile_spec call.now call.disk call.reference.objectInstance
              value with herror | ⟨store, heq⟩
            · exact Or.inl herror
            · exact Or.inr ⟨_, heq, rfl, rfl, rfl⟩
          · left
            refine ⟨none, (if_neg hfile).trans (commandable_eq fun o houtput => if_neg ?_)⟩
            exact fun hp => hproperty o houtput hp.2
    | null =>
      left
      refine ⟨none, (if_neg hdevice).trans (commandable_eq fun o houtput => if_neg ?_)⟩
      exact hproperty o houtput

/-! ### What every call does -/

theorem Names.unique {o' : Output} (h : app.Names call o) (h' : app.Names call o') : o = o' := by
  have htype : o.objectType = o'.objectType := h.2.1.symm.trans h'.2.1
  revert htype
  cases o <;> cases o' <;> decide

theorem set_identity (app : Application L) (call : SetCall) :
    SameIdentity app (app.set call).1 := by
  by_cases hnames : ∃ o, app.Names call o
  · obtain ⟨o, ho⟩ := hnames
    rcases set_of_names ho with ⟨-, e, heq⟩ | ⟨c, heq, -⟩
    · rw [heq]
      exact .refl app
    · rw [heq]
      exact ⟨rfl, rfl⟩
  · rcases set_of_not_names (not_exists.1 hnames) with ⟨e, heq⟩ | ⟨app', heq, -, hsame⟩
    · rw [heq]
      exact .refl app
    · rw [heq]
      exact hsame

/-- **A refused call changes nothing.** -/
theorem set_refused {error : Option Nat} (h : (app.set call).2 = .error error) :
    (app.set call).1 = app := by
  by_cases hnames : ∃ o, app.Names call o
  · obtain ⟨o, ho⟩ := hnames
    rcases set_of_names ho with ⟨-, e, heq⟩ | ⟨c, heq, -⟩
    · rw [heq]
    · rw [heq] at h
      cases h
  · rcases set_of_not_names (not_exists.1 hnames) with ⟨e, heq⟩ | ⟨app', heq, -⟩
    · rw [heq]
    · rw [heq] at h
      cases h

/-- What a call puts into a slot, if it commands it. -/
def touch (o : Output) (i : Slot) (app : Application L) (call : SetCall) : Option (Option Double) :=
  if app.Names call o ∧ slotOf call.priority = i then call.value.stored o else none

/-- **A call changes the slot that it commands**, and no other. -/
theorem set_slot (app : Application L) (call : SetCall) (o : Output) (i : Slot) :
    ((app.set call).1.outputs o).slot i =
      (touch o i app call).getD ((app.outputs o).slot i) := by
  unfold touch
  by_cases hnames : ∃ o', app.Names call o'
  · obtain ⟨o', ho'⟩ := hnames
    rcases set_of_names ho' with ⟨hstored, e, heq⟩ | ⟨c, heq, -, hstored, hrest⟩
    · rw [heq]
      split_ifs with h
      · obtain rfl := ho'.unique h.1
        rw [hstored, Option.getD_none]
      · rfl
    · rw [heq]
      by_cases ho : o = o'
      · subst ho
        dsimp only
        rw [command_outputs, Function.update_self]
        split_ifs with h
        · rw [hstored, h.2, Option.getD_some]
        · exact hrest i fun hi => h ⟨ho', hi.symm⟩
      · rw [if_neg fun h => ho (h.1.unique ho')]
        dsimp only
        rw [command_outputs, Function.update_of_ne ho]
        rfl
  · have hnone : ¬ (app.Names call o ∧ slotOf call.priority = i) := fun h => hnames ⟨o, h.1⟩
    rw [if_neg hnone, Option.getD_none]
    rcases set_of_not_names (not_exists.1 hnames) with ⟨e, heq⟩ | ⟨app', heq, houtputs, -⟩
    · rw [heq]
    · rw [heq, houtputs]

/-- The slots a call commands are those that it puts something into. -/
theorem commands_iff {i : Slot} : app.Commands call o i ↔ (touch o i app call).isSome = true := by
  unfold Commands touch
  constructor
  · rintro ⟨hok, hnames, hslot⟩
    rw [if_pos ⟨hnames, hslot⟩]
    rcases set_of_names hnames with ⟨-, e, heq⟩ | ⟨c, -, -, hstored, -⟩
    · rw [heq] at hok
      cases hok
    · rw [hstored]
      rfl
  · intro h
    split_ifs at h with hnames
    · refine ⟨?_, hnames⟩
      rcases set_of_names hnames.1 with ⟨hstored, -⟩ | ⟨c, heq, -⟩
      · rw [hstored] at h
        cases h
      · rw [heq]
    · cases h

end Application

/-! ## What is served -/

/-- The answer for a `double`, in the data type of the output. -/
def Output.convert : Output → Double → Served WrittenValue
  | analog, value => (Application.castReal value).map .real
  | binary, value => (Application.castUnsigned value).map .enumerated
  | multiState, value => (Application.castUnsigned value).map .unsigned

theorem Application.castUnsigned_ofUInt32 (u : UInt32) :
    castUnsigned (.ofUInt32 u) = .value u := by
  rw [castUnsigned, Double.toUInt32?_ofUInt32]

/-- What was stored is served with its value. -/
theorem convert_stored {o : Output} {w : WrittenValue} {v : Double}
    (h : w.stored o = some (some v)) : ∃ w', o.convert v = .value w' ∧ w'.Same w := by
  cases o with
  | analog =>
    cases w with
    | real value =>
      obtain rfl : value.toDouble = v := Option.some.inj (Option.some.inj h)
      exact ⟨_, rfl, value.toSingle_toDouble⟩
    | _ => cases h
  | binary =>
    cases w with
    | enumerated value =>
      rw [WrittenValue.stored] at h
      split_ifs at h
      obtain rfl : Double.ofUInt32 value = v := Option.some.inj (Option.some.inj h)
      refine ⟨.enumerated value, ?_, rfl⟩
      rw [Output.convert, Application.castUnsigned_ofUInt32]
      rfl
    | _ => cases h
  | multiState =>
    cases w with
    | unsigned value =>
      rw [WrittenValue.stored] at h
      split_ifs at h
      obtain rfl : Double.ofUInt32 value = v := Option.some.inj (Option.some.inj h)
      refine ⟨.unsigned value, ?_, rfl⟩
      rw [Output.convert, Application.castUnsigned_ofUInt32]
      rfl
    | _ => cases h

namespace Application

variable {L : Layout} {app : Application L} {call : SetCall} {o : Output}

/-- The Get callback of the output's data type. -/
def getTyped (app : Application L) (d : CertDisk) (o : Output) (p : PropertyReference) :
    Served WrittenValue :=
  match o with
  | .analog => (app.getPropertyReal p).map .real
  | .binary => (app.getPropertyEnumerated p).map .enumerated
  | .multiState => (app.getPropertyUnsignedInteger d p).map .unsigned

/-- A read of one slot of an output's Priority_Array. -/
def slotReference (app : Application L) (o : Output) (i : Slot) : PropertyReference where
  deviceInstance := app.options.deviceInstance
  objectType := o.objectType
  objectInstance := outputInstance
  propertyIdentifier := propertyIdentifierPriorityArray
  useArrayIndex := true
  propertyArrayIndex := arrayIndexOf i

/-- The read names the output, and this device. -/
def Of (app : Application L) (p : PropertyReference) (o : Output) : Prop :=
  p.deviceInstance = app.options.deviceInstance ∧ p.objectType = o.objectType ∧
    p.objectInstance = outputInstance

section
variable {p : PropertyReference} (h : app.Of p o)
include h

theorem getPropertyReal_output :
    app.getPropertyReal p =
      if o = .analog then serveCommandable (app.outputs o) p castReal .declined
      else .declined := by
  obtain ⟨hdevice, htype, hinstance⟩ := h
  have hport (dataLink : DataLink) : app.isDataLinkPort p dataLink = false :=
    isDataLinkPort_of_output htype dataLink
  have hnone : app.getDataLinkPortReal p = none := by
    unfold getDataLinkPortReal
    simp [hport]
  have houtput := getCommandable_eq_some_iff.2 ⟨htype, hinstance⟩
  rw [getPropertyReal, if_neg (not_not.2 hdevice), hnone, houtput]
  cases o <;> simp only [htype] <;> rfl

theorem servedUnits_output (hne : o ≠ .analog) : servedUnits p = .declined := by
  unfold servedUnits
  rw [h.2.1]
  cases o with
  | analog => exact absurd rfl hne
  | _ => simp [Output.objectType, objectTypeBinaryOutput, objectTypeMultiStateOutput,
      objectTypeAnalogInput, objectTypeAnalogOutput, objectTypeNetworkPort]

theorem getPropertyEnumerated_output :
    app.getPropertyEnumerated p =
      if o = .binary then
        serveCommandable (app.outputs o) p castUnsigned
          (if p.propertyIdentifier = propertyIdentifierPolarity then .value polarityNormal
          else servedUnits p)
      else servedUnits p := by
  obtain ⟨hdevice, htype, hinstance⟩ := h
  have houtput := getCommandable_eq_some_iff.2 ⟨htype, hinstance⟩
  rw [getPropertyEnumerated, if_neg (not_not.2 hdevice), houtput]
  cases o <;> simp only [htype] <;> simp [Output.objectType, objectTypeAnalogOutput,
    objectTypeBinaryOutput, objectTypeMultiStateOutput, objectTypeSchedule, objectTypeCalendar,
    objectTypeAnalogValue, objectTypeBinaryInput]

theorem getPropertyUnsignedInteger_output (d : CertDisk) :
    app.getPropertyUnsignedInteger d p =
      if o = .multiState then
        serveCommandable (app.outputs o) p castUnsigned
          (if p.propertyIdentifier = propertyIdentifierNumberOfStates then
            .value multiStateOutputNumberOfStates
          else .declined)
      else .declined := by
  obtain ⟨hdevice, htype, hinstance⟩ := h
  have houtput := getCommandable_eq_some_iff.2 ⟨htype, hinstance⟩
  have hport (dataLink : DataLink) : app.isDataLinkPort p dataLink = false :=
    isDataLinkPort_of_output htype dataLink
  have hnone : app.getDataLinkPortUnsigned p = none := by
    unfold getDataLinkPortUnsigned
    cases o <;> simp [hport, htype, Output.objectType, objectTypeAnalogOutput,
      objectTypeBinaryOutput, objectTypeMultiStateOutput, objectTypeDevice]
  have hsize : app.servedFileSize p = .declined := by
    unfold servedFileSize
    cases o <;> simp [htype, Output.objectType, objectTypeAnalogOutput, objectTypeBinaryOutput,
      objectTypeMultiStateOutput, objectTypeFile]
  rw [getPropertyUnsignedInteger, if_neg (not_not.2 hdevice), hnone,
    isScCertificateFile_of_output htype, houtput, hsize]
  cases o <;> simp only [htype] <;> simp [Output.objectType, objectTypeAnalogOutput,
    objectTypeBinaryOutput, objectTypeMultiStateOutput, objectTypeMultiStateInput,
    objectTypeDevice, objectTypeNetworkPort]

end

theorem readPrioritySlot_slotReference (app : Application L) (c : Commandable) (o : Output)
    (i : Slot) : readPrioritySlot c (app.slotReference o i).propertyIdentifier
      (app.slotReference o i).useArrayIndex (app.slotReference o i).propertyArrayIndex =
        some (c.isSet i, c.value i) := by
  refine (if_neg (fun h => h rfl)).trans ?_
  exact congrArg (Option.map _) (prioritySlot?_arrayIndexOf i)

/-- **A slot is served** by the typed Get callback if it is not null. -/
theorem getTyped_slot (app : Application L) (d : CertDisk) (o : Output) (i : Slot) :
    app.getTyped d o (app.slotReference o i) =
      ((app.outputs o).slot i).elim .declined o.convert := by
  have hread := app.readPrioritySlot_slotReference (app.outputs o) o i
  have hof : app.Of (app.slotReference o i) o := ⟨rfl, rfl, rfl⟩
  unfold getTyped Commandable.slot
  cases o with
  | analog =>
    dsimp only
    rw [getPropertyReal_output hof, if_pos rfl, serveCommandable, hread]
    cases (app.outputs .analog).isSet i <;> rfl
  | binary =>
    dsimp only
    rw [getPropertyEnumerated_output hof, if_pos rfl, serveCommandable, hread]
    cases (app.outputs .binary).isSet i <;> rfl
  | multiState =>
    dsimp only
    rw [getPropertyUnsignedInteger_output hof d, if_pos rfl, serveCommandable, hread]
    cases (app.outputs .multiState).isSet i <;> rfl

/-- `GetPropertyBool` says whether it is null. -/
theorem getPropertyBool_slot (app : Application L) (o : Output) (i : Slot) :
    app.getPropertyBool (app.slotReference o i) = .value ((app.outputs o).slot i).isNone := by
  have houtput : getCommandable (app.slotReference o i).objectType
      (app.slotReference o i).objectInstance = some o := getCommandable_objectType o
  have hslot : prioritySlot? (app.slotReference o i).useArrayIndex
      (app.slotReference o i).propertyArrayIndex = some i := prioritySlot?_arrayIndexOf i
  have hproperty : (app.slotReference o i).propertyIdentifier = propertyIdentifierPriorityArray :=
    rfl
  refine (if_neg (fun h => h rfl)).trans ?_
  rw [houtput]
  dsimp only
  rw [if_pos hproperty, hslot, Commandable.slot]
  cases hset : (app.outputs o).isSet i <;> simp [hset]

/-! ### Ranges -/

/-- The answer is not a number outside the range. -/
def Within (low high : UInt32) (answer : Served UInt32) : Prop :=
  answer ≠ .undefined ∧ ∀ v, answer = .value v → low ≤ v ∧ v ≤ high

/-- What the number callbacks answer for the read is within a range. -/
structure ServedIn (app : Application L) (d : CertDisk) (p : PropertyReference)
    (low high : UInt32) : Prop where
  real : app.getPropertyReal p = .declined
  enumerated : Within low high (app.getPropertyEnumerated p)
  unsigned : Within low high (app.getPropertyUnsignedInteger d p)

theorem within_declined {low high : UInt32} : Within low high .declined :=
  ⟨nofun, fun _ h => nomatch h⟩

theorem within_value {low high v : UInt32} (hlow : low ≤ v) (hhigh : v ≤ high) :
    Within low high (.value v) := by
  refine ⟨nofun, ?_⟩
  intro v' h
  obtain rfl : v = v' := by simpa using h
  exact ⟨hlow, hhigh⟩

theorem within_stored_binary {w : WrittenValue} {v : Double}
    (h : w.stored .binary = some (some v)) : Within 0 1 (castUnsigned v) := by
  cases w with
  | enumerated value =>
    rw [WrittenValue.stored] at h
    split_ifs at h with hrange
    obtain rfl : Double.ofUInt32 value = v := Option.some.inj (Option.some.inj h)
    rw [castUnsigned_ofUInt32]
    exact within_value (UInt32.zero_le) (UInt32.not_lt.1 hrange)
  | _ => cases h

theorem within_stored_multiState {w : WrittenValue} {v : Double}
    (h : w.stored .multiState = some (some v)) :
    Within 1 multiStateOutputNumberOfStates (castUnsigned v) := by
  cases w with
  | unsigned value =>
    rw [WrittenValue.stored] at h
    split_ifs at h with hrange
    obtain rfl : Double.ofUInt32 value = v := Option.some.inj (Option.some.inj h)
    rw [castUnsigned_ofUInt32]
    obtain ⟨hlow, hhigh⟩ := not_or.1 hrange
    exact within_value (UInt32.not_lt.1 hlow) (UInt32.not_lt.1 hhigh)
  | _ => cases h

/-- A property of every answer holds of what a commandable value serves. -/
theorem serveCommandable_spec {α : Type} {c : Commandable} {p : PropertyReference}
    {convert : Double → Served α} {rest : Served α} (P : Served α → Prop) (hnone : P .declined)
    (hslot : ∀ i v, c.slot i = some v → P (convert v)) (hdefault : P (convert c.relinquishDefault))
    (hrest : P rest) : P (serveCommandable c p convert rest) := by
  unfold serveCommandable readPrioritySlot
  split_ifs
  · exact hdefault
  · exact hrest
  · cases prioritySlot? p.useArrayIndex p.propertyArrayIndex with
    | none => exact hdefault
    | some i =>
      have hi := hslot i (c.value i)
      unfold Commandable.slot at hi
      dsimp only [Option.map_some]
      split_ifs with hset
      · exact hi (if_pos hset)
      · exact hnone
  · cases prioritySlot? p.useArrayIndex p.propertyArrayIndex with
    | none => exact hrest
    | some i =>
      have hi := hslot i (c.value i)
      unfold Commandable.slot at hi
      dsimp only [Option.map_some]
      split_ifs with hset
      · exact hi (if_pos hset)
      · exact hnone

end Application

/-! ## Runs -/

namespace Application

variable {L : Layout} {app : Application L} {call : SetCall} {o : Output}

/-- What every run keeps: what a slot holds has been stored there by a write. -/
structure Sound (options : CommandLineOptions) (app : Application L) : Prop where
  deviceInstance : app.options.deviceInstance = options.deviceInstance
  relinquishDefault : ∀ o, (app.outputs o).relinquishDefault = o.relinquishDefault
  stored : ∀ o i v, (app.outputs o).slot i = some v →
    ∃ w : WrittenValue, w.stored o = some (some v)

theorem sound_start (L : Layout) (options : CommandLineOptions) (host : HostAddressing) :
    (start L options host).Sound options where
  deviceInstance := rfl
  relinquishDefault := fun _ => rfl
  stored := fun _ _ _ h => nomatch h

theorem Sound.set {options : CommandLineOptions} (h : app.Sound options) (call : SetCall) :
    (app.set call).1.Sound options := by
  refine ⟨(set_identity app call).deviceInstance.trans h.deviceInstance, ?_, ?_⟩
  · intro o
    by_cases hnames : ∃ o', app.Names call o'
    · obtain ⟨o', ho'⟩ := hnames
      rcases set_of_names ho' with ⟨-, e, heq⟩ | ⟨c, heq, hdefault, -⟩
      · rw [heq]
        exact h.relinquishDefault o
      · rw [heq]
        dsimp only
        rw [command_outputs]
        by_cases hoo : o = o'
        · subst hoo
          rw [Function.update_self, hdefault]
          exact h.relinquishDefault o
        · rw [Function.update_of_ne hoo]
          exact h.relinquishDefault o
    · rcases set_of_not_names (not_exists.1 hnames) with ⟨e, heq⟩ | ⟨app', heq, houtputs, -⟩
      · rw [heq]
        exact h.relinquishDefault o
      · rw [heq, houtputs]
        exact h.relinquishDefault o
  · intro o i v hv
    rw [set_slot, touch] at hv
    split_ifs at hv with hcommands
    · cases hstored : call.value.stored o with
      | none =>
        rw [hstored] at hv
        exact h.stored o i v hv
      | some left =>
        rw [hstored, Option.getD_some] at hv
        exact ⟨call.value, by rw [hstored, hv]⟩
    · exact h.stored o i v hv

theorem sound_of_run (L : Layout) (options : CommandLineOptions) (host : HostAddressing)
    (calls : List SetCall) :
    ∀ app ∈ states setStep (start L options host) calls, app.Sound options := by
  refine invariant (Sound options) ?_ (sound_start L options host) calls
  intro app call app' h hstep
  obtain rfl := Except.ok.inj hstep
  exact h.set call

/-- **Binary Output 1 and Multi-state Output 1 stay within their ranges.** -/
theorem Sound.servedIn {options : CommandLineOptions} (h : app.Sound options) (d : CertDisk)
    {p : PropertyReference} :
    (app.Of p .binary → app.ServedIn d p 0 1) ∧
      (app.Of p .multiState → app.ServedIn d p 1 multiStateOutputNumberOfStates) := by
  constructor
  · intro hof
    have hreal := (getPropertyReal_output hof).trans (if_neg nofun)
    have hunsigned := (getPropertyUnsignedInteger_output hof d).trans (if_neg nofun)
    have hserved : Within 0 1 (app.getPropertyEnumerated p) := by
      rw [getPropertyEnumerated_output hof, if_pos rfl, servedUnits_output hof nofun]
      refine serveCommandable_spec _ within_declined (fun i v hv => ?_) ?_ ?_
      · obtain ⟨w, hw⟩ := h.stored .binary i v hv
        exact within_stored_binary hw
      · have hdefault : castUnsigned Output.binary.relinquishDefault = .value 0 := by
          decide +kernel
        rw [h.relinquishDefault, hdefault]
        exact within_value (by decide) (by decide)
      · split_ifs
        · exact within_value (by decide) (by decide)
        · exact within_declined
    exact ⟨hreal, hserved, hunsigned ▸ within_declined⟩
  · intro hof
    have hreal := (getPropertyReal_output hof).trans (if_neg nofun)
    have henumerated := ((getPropertyEnumerated_output hof).trans (if_neg nofun)).trans
      (servedUnits_output hof nofun)
    have hserved : Within 1 multiStateOutputNumberOfStates
        (app.getPropertyUnsignedInteger d p) := by
      rw [getPropertyUnsignedInteger_output hof d, if_pos rfl]
      refine serveCommandable_spec _ within_declined (fun i v hv => ?_) ?_ ?_
      · obtain ⟨w, hw⟩ := h.stored .multiState i v hv
        exact within_stored_multiState hw
      · have hdefault : castUnsigned Output.multiState.relinquishDefault = .value 1 := by
          decide +kernel
        rw [h.relinquishDefault, hdefault]
        exact within_value (by decide) (by decide)
      · split_ifs
        · exact within_value (by decide) (by decide)
        · exact within_declined
    exact ⟨hreal, henumerated ▸ within_declined, hserved⟩

/-- The last command to a slot in a run of calls: the value written, or nothing if it was a
relinquish or there has been none. -/
inductive LastCommand (app : Application L) (calls : List SetCall) (o : Output) (i : Slot) :
    Option WrittenValue → Prop
  | never (h : ∀ p ∈ steps setStep app calls, ¬ p.1.Commands p.2 o i) :
    LastCommand app calls o i none
  | last {before after : List SetCall} {call : SetCall} {u w : Application L}
    (hcalls : calls = before ++ call :: after) (hbefore : final setStep app before = .ok u)
    (hcommands : u.Commands call o i) (hstep : setStep u call = .ok w)
    (hafter : ∀ p ∈ steps setStep w after, ¬ p.1.Commands p.2 o i) :
    LastCommand app calls o i (if call.value = .null then none else some call.value)

/-- The answer for a slot whose last command was this. -/
def Answers (command : Option WrittenValue) (answer : Served WrittenValue) : Prop :=
  match command with
  | none => answer = .declined
  | some w => ∃ w', answer = .value w' ∧ w'.Same w

theorem stored_null (o : Output) : WrittenValue.null.stored o = some none := by
  cases o <;> rfl

/-- Only the null value relinquishes. -/
theorem eq_null_of_stored {w : WrittenValue} (h : w.stored o = some none) : w = .null := by
  cases w with
  | null => rfl
  | _ =>
    cases o <;> simp only [WrittenValue.stored, reduceCtorEq, Option.some.injEq] at h <;>
      split_ifs at h <;> cases h

/-- What a command has left in a slot answers for the command. -/
theorem answers_stored {w : WrittenValue} {left : Option Double} (h : w.stored o = some left) :
    left.isNone = (if w = .null then none else some w).isNone ∧
      Answers (if w = .null then none else some w) (left.elim .declined o.convert) := by
  cases left with
  | none =>
    rw [if_pos (eq_null_of_stored h)]
    exact ⟨rfl, rfl⟩
  | some v =>
    have hne : w ≠ .null := by
      rintro rfl
      rw [stored_null] at h
      cases h
    rw [if_neg hne]
    exact ⟨rfl, convert_stored h⟩

/-- **A slot at the end of a run** is served as the last command to it says. -/
theorem answers_lastCommand {options : CommandLineOptions} {host : HostAddressing}
    {calls : List SetCall} (h : final setStep (start L options host) calls = .ok app) (o : Output)
    (i : Slot) :
    ∃ c, LastCommand (start L options host) calls o i c ∧
      app.getPropertyBool (app.slotReference o i) = .value c.isNone ∧
      ∀ d, Answers c (app.getTyped d o (app.slotReference o i)) := by
  have hstep : ∀ (s : Application L) (call : SetCall) (s' : Application L),
      setStep s call = .ok s' →
        (s'.outputs o).slot i = (touch o i s call).getD ((s.outputs o).slot i) := by
    intro s call s' heq
    obtain rfl := Except.ok.inj heq
    exact set_slot s call o i
  have huntouched : ∀ {s : Application L} {call : SetCall}, touch o i s call = none →
      ¬ s.Commands call o i := by
    intro s call hnone hcommands
    rw [commands_iff, hnone] at hcommands
    cases hcommands
  rcases last_touch hstep h with ⟨hnever, hsame⟩ |
    ⟨before, call, after, u, w, rfl, hbefore, hcall, htouch, hafter⟩
  · refine ⟨none, .never fun p hp => huntouched (hnever p hp), ?_, ?_⟩
    · rw [getPropertyBool_slot, hsame]
      rfl
    · intro d
      rw [getTyped_slot, hsame]
      exact rfl
  · have hcommands : u.Commands call o i := commands_iff.2 (by rw [htouch]; rfl)
    have hstored : call.value.stored o = some ((app.outputs o).slot i) := by
      rw [touch, if_pos hcommands.2] at htouch
      exact htouch
    obtain ⟨hnone, hanswers⟩ := answers_stored hstored
    refine ⟨_, .last rfl hbefore hcommands hcall fun p hp => huntouched (hafter p hp), ?_, ?_⟩
    · rw [getPropertyBool_slot, hnone]
    · intro d
      rw [getTyped_slot]
      exact hanswers

/-- **The outputs over a run of writes.** -/
theorem outputs_commanded (L : Layout) (options : CommandLineOptions) (host : HostAddressing)
    (calls : List SetCall) :
    (∃ app, final setStep (start L options host) calls = .ok app ∧
      ∀ o i, ∃ c, LastCommand (start L options host) calls o i c ∧
        app.getPropertyBool (app.slotReference o i) = .value c.isNone ∧
        ∀ d, Answers c (app.getTyped d o (app.slotReference o i))) ∧
    (∀ p ∈ steps setStep (start L options host) calls,
      (∀ error, (p.1.set p.2).2 = .error error → (p.1.set p.2).1 = p.1) ∧
      ∀ o i, ¬ p.1.Commands p.2 o i →
        (p.1.set p.2).1.getPropertyBool ((p.1.set p.2).1.slotReference o i) =
          p.1.getPropertyBool (p.1.slotReference o i) ∧
        ∀ d, (p.1.set p.2).1.getTyped d o ((p.1.set p.2).1.slotReference o i) =
          p.1.getTyped d o (p.1.slotReference o i)) ∧
    ∀ app ∈ states setStep (start L options host) calls, ∀ d p,
      (app.Of p .binary → app.ServedIn d p 0 1) ∧
        (app.Of p .multiState → app.ServedIn d p 1 multiStateOutputNumberOfStates) := by
  refine ⟨?_, ?_, ?_⟩
  · refine ⟨_, final_eq_foldl (fun _ _ => rfl) _ calls, ?_⟩
    intro o i
    exact answers_lastCommand (final_eq_foldl (fun _ _ => rfl) _ calls) o i
  · intro p _
    refine ⟨fun error h => set_refused h, ?_⟩
    intro o i hcommands
    have hslot : ((p.1.set p.2).1.outputs o).slot i = (p.1.outputs o).slot i := by
      rw [commands_iff, Option.not_isSome_iff_eq_none] at hcommands
      rw [set_slot, hcommands, Option.getD_none]
    refine ⟨?_, ?_⟩
    · rw [getPropertyBool_slot, getPropertyBool_slot, hslot]
    · intro d
      rw [getTyped_slot, getTyped_slot, hslot]
  · intro app happ d p
    exact (sound_of_run L options host calls app happ).servedIn d

end Application

end BacnetBc
