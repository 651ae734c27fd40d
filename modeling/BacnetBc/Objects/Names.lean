import BacnetBc.CommandLine.Scans
import BacnetBc.Objects.Restart

/-!
# Object_Name

`GetPropertyCharString` serves the Object_Name of every object: a colour for each fixed object and
for the Network Port of the data link, the purpose of each certificate file, and for the Device the
name of `--deviceName`.

**The objects** (`objects`) are those that `main` adds for the data link.

**Theorem (`distinct_names_iff`).** The names of the objects are pairwise different exactly when the
name of `--deviceName` is none of the others'. `ParseDeviceNameArg` does not look at these.
-/

namespace BacnetBc

open Memory

/-! ## The callback -/

structure ObjectReference where
  objectType : UInt16
  objectInstance : UInt32
deriving DecidableEq, Repr

/-- The object that a read or a write is about. -/
def PropertyReference.object (p : PropertyReference) : ObjectReference :=
  ⟨p.objectType, p.objectInstance⟩

/-- The strings that are settled at start-up: `g_deviceName` and `g_firmwareRevision`. -/
structure DeviceStrings where
  deviceName : Octets
  firmwareRevision : Octets
deriving DecidableEq

/-- A string as the stack takes it over. -/
structure CharacterString where
  value : Octets
  encodingType : UInt8
deriving DecidableEq

def objectTypeNotificationClass : UInt16 := 15
def objectTypeTrendLog : UInt16 := 20
def objectTypeTrendLogMultiple : UInt16 := 27
def propertyIdentifierApplicationSoftwareVersion : UInt32 := 12
def propertyIdentifierDescription : UInt32 := 28
def propertyIdentifierFileType : UInt32 := 43
def propertyIdentifierFirmwareRevision : UInt32 := 44
def propertyIdentifierModelName : UInt32 := 70
def propertyIdentifierObjectName : UInt32 := 77
def propertyIdentifierVendorName : UInt32 := 121
def errorCodeInvalidArrayIndex : Nat := 42
def characterStringEncodingUtf8 : UInt8 := 0

def appVersion : Octets := octetsOf "1.3.1"

def deviceDescription : Octets :=
  octetsOf ("Chipkin CAS BACnet Stack example - B-BC (Building Controller) profile, " ++
    "the series capstone. Demonstrates DS-RP/RPM/WP/WPM-A/B, intrinsic " ++
    "alarming, SCHED-E-B, trending, DM-DCC-B, DM-TS-B/UTC-B, DM-RD-B, and " ++ "DM-BR-B.")

def vendorName : Octets := octetsOf "Chipkin Automation Systems"

def modelName : Octets := octetsOf "CAS BACnet Stack Example - B-BC"

/-- `ReturnCharacterString`: a string that is too long for the stack's buffer is cut. -/
def returnCharacterString (text : Octets) (maxElementCount : UInt32) : CharacterString :=
  let length := UInt32.ofNat text.length
  ⟨text.take (if maxElementCount < length then maxElementCount else length).toNat,
    characterStringEncodingUtf8⟩

/-- `stateText`. -/
def stateText : List Octets := [octetsOf "On", octetsOf "Off", octetsOf "Auto"]

/-- `DataLinkPortName`. -/
def dataLinkPortName (dataLink : DataLink) (object : ObjectReference) : Option Octets :=
  if object ≠ ⟨objectTypeNetworkPort, activeNetworkPortInstance dataLink⟩ then none
  else
    match dataLink with
    | .ipv6 => some (octetsOf "Cerulean")
    | .mstp => some (octetsOf "Amber")
    | .sc => some (octetsOf "Teal")
    | .ipv4 => none

/-- `CertificateFileName`. -/
def certificateFileName (fileInstance : UInt32) : Octets :=
  if fileInstance.toNat = fileOperationalCertificateInstance then octetsOf "Operational Certificate"
  else if fileInstance.toNat = fileIssuerCertificate1Instance then octetsOf "Issuer Certificate 1"
  else if fileInstance.toNat = fileIssuerCertificate2Instance then octetsOf "Issuer Certificate 2"
  else if fileInstance.toNat = fileCertificateSigningRequestInstance then
    octetsOf "Certificate Signing Request"
  else octetsOf "?"

/-- The Object_Name of an object other than the Device, in `GetPropertyCharString`. -/
def colourName (dataLink : DataLink) (object : ObjectReference) : Option Octets :=
  if object = ⟨objectTypeAnalogInput, objectInstance1⟩ then some (octetsOf "Bronze")
  else if object = ⟨objectTypeBinaryInput, objectInstance1⟩ then some (octetsOf "Emerald")
  else if object = ⟨objectTypeMultiStateInput, objectInstance1⟩ then some (octetsOf "Hot Pink")
  else if object = ⟨objectTypeAnalogOutput, outputInstance⟩ then some (octetsOf "Chartreuse")
  else if object = ⟨objectTypeBinaryOutput, outputInstance⟩ then some (octetsOf "Fuchsia")
  else if object = ⟨objectTypeAnalogValue, objectInstance1⟩ then some (octetsOf "Diamond")
  else if object = ⟨objectTypeNotificationClass, objectInstance1⟩ then some (octetsOf "Crimson")
  else if object = ⟨objectTypeMultiStateOutput, outputInstance⟩ then some (octetsOf "Indigo")
  else if object = ⟨objectTypeNetworkPort, networkPortInstance⟩ then some (octetsOf "Vermilion")
  else if let some name := dataLinkPortName dataLink object then some name
  else if dataLink = .sc ∧ object.objectType = objectTypeFile ∧
      Application.isCertificateFile object.objectInstance = true then
    some (certificateFileName object.objectInstance)
  else if object = ⟨objectTypeSchedule, objectInstance1⟩ then some (octetsOf "Saffron")
  else if object = ⟨objectTypeCalendar, objectInstance1⟩ then some (octetsOf "Cream")
  else if object = ⟨objectTypeFile, objectInstance1⟩ then some (octetsOf "Ivory")
  else if object = ⟨objectTypeTrendLog, objectInstance1⟩ then some (octetsOf "Lilac")
  else if object = ⟨objectTypeTrendLogMultiple, objectInstance1⟩ then some (octetsOf "Magenta")
  else none

namespace Application

variable {L : Layout}

/-- The Device object. -/
def device (app : Application L) : ObjectReference :=
  ⟨objectTypeDevice, app.options.deviceInstance⟩

/-- The text that `GetPropertyCharString` serves for a property other than State_Text. -/
def servedText (app : Application L) (strings : DeviceStrings) (p : PropertyReference) :
    Option Octets :=
  if p.propertyIdentifier = propertyIdentifierObjectName then
    if p.object = app.device then some strings.deviceName
    else colourName app.options.dataLink p.object
  else if p.object = ⟨objectTypeFile, objectInstance1⟩ ∧
      p.propertyIdentifier = propertyIdentifierFileType then
    some (octetsOf "application/octet-stream")
  else if app.isScCertificateFile p = true ∧
      p.propertyIdentifier = propertyIdentifierFileType then
    some (octetsOf "application/x-pem-file")
  else if p.object = app.device then
    if p.propertyIdentifier = propertyIdentifierDescription then some deviceDescription
    else if p.propertyIdentifier = propertyIdentifierVendorName then some vendorName
    else if p.propertyIdentifier = propertyIdentifierModelName then some modelName
    else if p.propertyIdentifier = propertyIdentifierFirmwareRevision then
      some strings.firmwareRevision
    else if p.propertyIdentifier = propertyIdentifierApplicationSoftwareVersion then
      some appVersion
    else none
  else none

/-- `GetPropertyCharString`: it declines, or names an error, or serves a string. -/
def getPropertyCharString (app : Application L) (strings : DeviceStrings) (p : PropertyReference)
    (maxElementCount : UInt32) : Except (Option Nat) CharacterString :=
  if p.deviceInstance ≠ app.options.deviceInstance then .error none
  else if p.object = ⟨objectTypeMultiStateInput, objectInstance1⟩ ∧
      p.propertyIdentifier = propertyIdentifierStateText ∧ p.useArrayIndex = true then
    if 1 ≤ p.propertyArrayIndex ∧ p.propertyArrayIndex ≤ multiStateInputNumberOfStates then
      .ok (returnCharacterString (stateText.getD (p.propertyArrayIndex.toNat - 1) [])
        maxElementCount)
    else .error (some errorCodeInvalidArrayIndex)
  else
    match app.servedText strings p with
    | some text => .ok (returnCharacterString text maxElementCount)
    | none => .error none

/-! ## The objects -/

/-- The certificate files that `AddNetworkPort` of the node adds. -/
def certificateFiles : List ObjectReference :=
  [fileOperationalCertificateInstance, fileIssuerCertificate1Instance,
    fileIssuerCertificate2Instance, fileCertificateSigningRequestInstance].map
      fun fileInstance => ⟨objectTypeFile, UInt32.ofNat fileInstance⟩

/-- What `main` adds to the Device, in its order. -/
def addedObjects (dataLink : DataLink) : List ObjectReference :=
  [⟨objectTypeAnalogInput, objectInstance1⟩, ⟨objectTypeBinaryInput, objectInstance1⟩,
    ⟨objectTypeMultiStateInput, objectInstance1⟩, ⟨objectTypeAnalogOutput, outputInstance⟩,
    ⟨objectTypeBinaryOutput, outputInstance⟩, ⟨objectTypeMultiStateOutput, outputInstance⟩,
    ⟨objectTypeAnalogValue, objectInstance1⟩,
    ⟨objectTypeNetworkPort, activeNetworkPortInstance dataLink⟩] ++
  (if dataLink = .sc then certificateFiles else []) ++
  [⟨objectTypeNotificationClass, objectInstance1⟩, ⟨objectTypeSchedule, objectInstance1⟩,
    ⟨objectTypeCalendar, objectInstance1⟩, ⟨objectTypeFile, objectInstance1⟩,
    ⟨objectTypeTrendLog, objectInstance1⟩, ⟨objectTypeTrendLogMultiple, objectInstance1⟩]

def objects (app : Application L) : List ObjectReference :=
  app.device :: addedObjects app.options.dataLink

/-- A read of the Object_Name of one of the objects. -/
structure AsksName (app : Application L) (p : PropertyReference) : Prop where
  deviceInstance : p.deviceInstance = app.options.deviceInstance
  propertyIdentifier : p.propertyIdentifier = propertyIdentifierObjectName
  object : p.object ∈ app.objects

/-- Distinct objects have distinct names. -/
def ServesDistinctNames (app : Application L) (strings : DeviceStrings)
    (maxElementCount : UInt32) : Prop :=
  ∀ p p' name name', app.AsksName p → app.AsksName p' → p.object ≠ p'.object →
    app.getPropertyCharString strings p maxElementCount = .ok name →
      app.getPropertyCharString strings p' maxElementCount = .ok name' → name.value ≠ name'.value

/-- The names of the objects other than the Device. -/
def takenNames (dataLink : DataLink) : List Octets :=
  ["Bronze", "Emerald", "Hot Pink", "Chartreuse", "Fuchsia", "Indigo", "Diamond"].map octetsOf ++
    (match dataLink with
      | .ipv4 => ["Vermilion"].map octetsOf
      | .ipv6 => ["Cerulean"].map octetsOf
      | .mstp => ["Amber"].map octetsOf
      | .sc => ["Teal", "Operational Certificate", "Issuer Certificate 1", "Issuer Certificate 2",
          "Certificate Signing Request"].map octetsOf) ++
    ["Crimson", "Saffron", "Cream", "Ivory", "Lilac", "Magenta"].map octetsOf

theorem map_colourName (dataLink : DataLink) :
    (addedObjects dataLink).map (colourName dataLink) = (takenNames dataLink).map some := by
  cases dataLink <;> decide

theorem takenNames_nodup (dataLink : DataLink) : (takenNames dataLink).Nodup := by
  cases dataLink <;> decide

/-- No name fills the stack's buffer. -/
theorem takenNames_length (dataLink : DataLink) :
    ∀ name ∈ takenNames dataLink, name.length < 28 := by
  cases dataLink <;> decide

theorem device_not_mem (app : Application L) (dataLink : DataLink) :
    app.device ∉ addedObjects dataLink := by
  have htypes : ∀ object ∈ addedObjects dataLink, object.objectType ≠ objectTypeDevice := by
    cases dataLink <;> decide
  intro hmem
  exact htypes _ hmem rfl

/-! ## What is served -/

variable {app : Application L} {strings : DeviceStrings} {p : PropertyReference}
  {maxElementCount : UInt32}

theorem value_returnCharacterString {text : Octets} (h : text.length < UInt32.size) :
    (returnCharacterString text maxElementCount).value = text.take maxElementCount.toNat := by
  have hlength : (UInt32.ofNat text.length).toNat = text.length := by
    rw [UInt32.toNat_ofNat', Nat.mod_eq_of_lt h]
  rw [returnCharacterString]
  split_ifs with hlong
  · rfl
  · have hshort : text.length ≤ maxElementCount.toNat := by
      rw [UInt32.lt_iff_toNat_lt, hlength] at hlong
      omega
    rw [hlength, List.take_length, List.take_of_length_le hshort]

/-- A text that is cut is longer than one that is not. -/
theorem take_eq_iff {text name : Octets} {n : Nat} (h : name.length < n) :
    text.take n = name ↔ text = name := by
  constructor
  · intro heq
    have hlength : min n text.length = name.length := by
      rw [← List.length_take, heq]
    rwa [List.take_of_length_le (by omega)] at heq
  · intro heq
    rw [heq, List.take_of_length_le (by omega)]

/-- The text of an object's name. -/
inductive Named (app : Application L) (strings : DeviceStrings) : ObjectReference → Octets → Prop
  | device : Named app strings app.device strings.deviceName
  | added (object : ObjectReference) (name : Octets)
      (mem : object ∈ addedObjects app.options.dataLink)
      (colour : colourName app.options.dataLink object = some name) : Named app strings object name

theorem exists_colourName {dataLink : DataLink} {object : ObjectReference}
    (h : object ∈ addedObjects dataLink) :
    ∃ name ∈ takenNames dataLink, colourName dataLink object = some name := by
  have hmem := List.mem_map_of_mem (f := colourName dataLink) h
  rw [map_colourName, List.mem_map] at hmem
  obtain ⟨name, hname, heq⟩ := hmem
  exact ⟨name, hname, heq.symm⟩

theorem exists_object {dataLink : DataLink} {name : Octets} (h : name ∈ takenNames dataLink) :
    ∃ object ∈ addedObjects dataLink, colourName dataLink object = some name := by
  have hmem := List.mem_map_of_mem (f := some) h
  rwa [← map_colourName, List.mem_map] at hmem

theorem colourName_inj {dataLink : DataLink} {object object' : ObjectReference}
    (h : object ∈ addedObjects dataLink) (h' : object' ∈ addedObjects dataLink)
    (heq : colourName dataLink object = colourName dataLink object') : object = object' := by
  have hnodup : ((addedObjects dataLink).map (colourName dataLink)).Nodup := by
    rw [map_colourName]
    exact (takenNames_nodup dataLink).map (Option.some_injective _)
  exact List.inj_on_of_nodup_map hnodup h h' heq

theorem mem_takenNames {dataLink : DataLink} {object : ObjectReference} {name : Octets}
    (h : object ∈ addedObjects dataLink) (hname : colourName dataLink object = some name) :
    name ∈ takenNames dataLink := by
  obtain ⟨name', hmem, heq⟩ := exists_colourName h
  rw [hname] at heq
  rwa [Option.some.inj heq]

theorem exists_named {object : ObjectReference} (h : object ∈ app.objects) :
    ∃ name, Named app strings object name := by
  rcases List.mem_cons.1 h with rfl | hadded
  · exact ⟨_, .device⟩
  · obtain ⟨name, -, hname⟩ := exists_colourName hadded
    exact ⟨name, .added object name hadded hname⟩

theorem servedText_of_named {name : Octets}
    (hproperty : p.propertyIdentifier = propertyIdentifierObjectName)
    (h : Named app strings p.object name) : app.servedText strings p = some name := by
  rw [servedText, if_pos hproperty]
  generalize p.object = object at h
  cases h with
  | device => rw [if_pos rfl]
  | added _ _ mem colour =>
    have hne : object ≠ app.device := by
      rintro rfl
      exact app.device_not_mem _ mem
    rw [if_neg hne, colour]

/-- The answer to a read of the Object_Name. -/
theorem getPropertyCharString_of_named {name : Octets} (hp : app.AsksName p)
    (h : Named app strings p.object name) :
    app.getPropertyCharString strings p maxElementCount =
      .ok (returnCharacterString name maxElementCount) := by
  have hproperty : p.propertyIdentifier ≠ propertyIdentifierStateText := by
    rw [hp.propertyIdentifier]
    decide
  rw [getPropertyCharString, if_neg (not_not_intro hp.deviceInstance),
    if_neg (fun hstate => hproperty hstate.2.1), servedText_of_named hp.propertyIdentifier h]

/-- The read of an object's name. -/
def nameReference (app : Application L) (object : ObjectReference) : PropertyReference where
  deviceInstance := app.options.deviceInstance
  objectType := object.objectType
  objectInstance := object.objectInstance
  propertyIdentifier := propertyIdentifierObjectName
  useArrayIndex := false
  propertyArrayIndex := 0

theorem asksName_nameReference {object : ObjectReference} (h : object ∈ app.objects) :
    app.AsksName (app.nameReference object) := ⟨rfl, rfl, h⟩

/-- `MAX_CHARACTER_STRING_SIZE` of a stack for an embedded target, where it is smallest. -/
def embeddedCharacterStringSize : UInt32 := 64

/-- A served name is one of the others' exactly when the text is. -/
theorem value_eq_iff {text name : Octets} (htext : text.length ≤ CommandLine.maxDeviceNameLength)
    (hname : name ∈ takenNames app.options.dataLink)
    (hsize : embeddedCharacterStringSize ≤ maxElementCount) :
    (returnCharacterString text maxElementCount).value =
      (returnCharacterString name maxElementCount).value ↔ text = name := by
  have hshort := takenNames_length _ name hname
  have hmax : 64 ≤ maxElementCount.toNat := UInt32.le_iff_toNat_le.1 hsize
  have htext' : text.length < UInt32.size :=
    lt_of_le_of_lt htext (by decide)
  have hname' : name.length < UInt32.size := lt_trans hshort (by decide)
  rw [value_returnCharacterString htext', value_returnCharacterString hname',
    List.take_of_length_le (l := name) (by omega)]
  exact take_eq_iff (by omega)

theorem distinct_iff (hdevice : strings.deviceName.length ≤ CommandLine.maxDeviceNameLength)
    (hsize : embeddedCharacterStringSize ≤ maxElementCount) :
    app.ServesDistinctNames strings maxElementCount ↔
      strings.deviceName ∉ takenNames app.options.dataLink := by
  constructor
  · intro hdistinct hmem
    obtain ⟨object, hobject, hname⟩ := exists_object hmem
    have hdev : app.AsksName (app.nameReference app.device) :=
      asksName_nameReference (List.mem_cons_self ..)
    have hadded : app.AsksName (app.nameReference object) :=
      asksName_nameReference (List.mem_cons_of_mem _ hobject)
    have hne : app.device ≠ object := by
      rintro rfl
      exact app.device_not_mem _ hobject
    exact hdistinct _ _ _ _ hdev hadded hne (getPropertyCharString_of_named hdev .device)
      (getPropertyCharString_of_named hadded (.added _ _ hobject hname)) rfl
  · intro hfree p p' name name' hp hp' hne hserved hserved'
    obtain ⟨text, htext⟩ : ∃ text, Named app strings p.object text := exists_named hp.object
    obtain ⟨text', htext'⟩ : ∃ text, Named app strings p'.object text := exists_named hp'.object
    rw [getPropertyCharString_of_named hp htext] at hserved
    rw [getPropertyCharString_of_named hp' htext'] at hserved'
    rw [← Except.ok.inj hserved, ← Except.ok.inj hserved']
    generalize p.object = object at hne htext
    generalize p'.object = object' at hne htext'
    cases htext with
    | device =>
      cases htext' with
      | device => exact absurd rfl hne
      | added _ _ mem colour =>
        have htaken := mem_takenNames mem colour
        intro heq
        exact hfree ((value_eq_iff hdevice htaken hsize).1 heq ▸ htaken)
    | added _ _ mem colour =>
      have htaken := mem_takenNames mem colour
      cases htext' with
      | device =>
        intro heq
        exact hfree ((value_eq_iff hdevice htaken hsize).1 heq.symm ▸ htaken)
      | added _ _ mem' colour' =>
        have hlength : text.length ≤ CommandLine.maxDeviceNameLength :=
          (takenNames_length _ _ htaken).le.trans (by decide)
        intro heq
        have htexts := (value_eq_iff hlength (mem_takenNames mem' colour') hsize).1 heq
        exact hne (colourName_inj mem mem' (by rw [colour, colour', htexts]))

end Application

/-! ## The name on the command line -/

namespace CommandLine

/-- The name is the first valid one that stands behind an argument `--deviceName`. -/
structure IsFirstName (args : List Octets) (i : Nat) (name : Octets) : Prop where
  option : args[i]? = some (octetsOf "--deviceName")
  behind : args[i + 1]? = some name
  valid : isDeviceName name = true
  first : ∀ j < i, args[j]? = some (octetsOf "--deviceName") → ∀ other, args[j + 1]? = some other →
    isDeviceName other = false

theorem isFirstName_cons_zero {option name : Octets} {rest : List Octets} {given : Octets} :
    IsFirstName (option :: given :: rest) 0 name ↔
      option = octetsOf "--deviceName" ∧ given = name ∧ isDeviceName name = true := by
  constructor
  · intro h
    exact ⟨Option.some.inj h.option, Option.some.inj h.behind, h.valid⟩
  · rintro ⟨rfl, rfl, hvalid⟩
    exact ⟨rfl, rfl, hvalid, fun j hj => absurd hj (Nat.not_lt_zero j)⟩

theorem isFirstName_cons_succ {option given : Octets} {rest : List Octets} {i : Nat}
    {name : Octets} :
    IsFirstName (option :: given :: rest) (i + 1) name ↔
      IsFirstName (given :: rest) i name ∧
        (option = octetsOf "--deviceName" → isDeviceName given = false) := by
  constructor
  · intro h
    refine ⟨⟨h.option, h.behind, h.valid, ?_⟩, ?_⟩
    · intro j hj
      exact h.first (j + 1) (Nat.succ_lt_succ hj)
    · rintro rfl
      exact h.first 0 (Nat.succ_pos i) rfl given rfl
  · rintro ⟨h, hfirst⟩
    refine ⟨h.option, h.behind, h.valid, ?_⟩
    intro j hj hoption other hother
    cases j with
    | zero =>
      rw [← Option.some.inj hother]
      exact hfirst (Option.some.inj hoption)
    | succ j => exact h.first j (Nat.lt_of_succ_lt_succ hj) hoption other hother

/-- What `ParseDeviceNameArg` returns. -/
theorem parseDeviceNameArg_spec (default : Octets) (args : List Octets) :
    (∃ i, IsFirstName args i (parseDeviceNameArg id default args).1) ∨
      (parseDeviceNameArg id default args).1 = default ∧ ∀ i name, ¬ IsFirstName args i name := by
  induction args with
  | nil => exact .inr ⟨rfl, fun i name h => absurd h.option (by simp)⟩
  | cons option rest ih =>
    cases rest with
    | nil => exact .inr ⟨rfl, fun i name h => absurd h.behind (by simp)⟩
    | cons given rest =>
      by_cases htaken : option = octetsOf "--deviceName" ∧ isDeviceName given = true
      · obtain ⟨rfl, hvalid⟩ := htaken
        have hgiven : parseDeviceNameArg id default (octetsOf "--deviceName" :: given :: rest) =
            (given, [octetsOf "--deviceName"]) := by
          rw [parseDeviceNameArg]
          exact (if_pos rfl).trans (if_pos hvalid)
        rw [hgiven]
        exact .inl ⟨0, isFirstName_cons_zero.2 ⟨rfl, rfl, hvalid⟩⟩
      · -- the search goes on at the given name
        have hskip : (parseDeviceNameArg id default (option :: given :: rest)).1 =
            (parseDeviceNameArg id default (given :: rest)).1 := by
          rw [parseDeviceNameArg]
          split_ifs with hoption hvalid
          · exact absurd ⟨hoption, hvalid⟩ htaken
          · rfl
          · rfl
        have hinvalid : option = octetsOf "--deviceName" → isDeviceName given = false := by
          intro hoption
          rw [← Bool.not_eq_true]
          exact fun hvalid => htaken ⟨hoption, hvalid⟩
        rw [hskip]
        rcases ih with ⟨i, hfirst⟩ | ⟨hdefault, hnone⟩
        · exact .inl ⟨i + 1, isFirstName_cons_succ.2 ⟨hfirst, hinvalid⟩⟩
        · refine .inr ⟨hdefault, ?_⟩
          intro i name h
          cases i with
          | zero =>
            obtain ⟨hoption, rfl, hvalid⟩ := isFirstName_cons_zero.1 h
            exact htaken ⟨hoption, hvalid⟩
          | succ i => exact hnone i name (isFirstName_cons_succ.1 h).1

theorem IsFirstName.unique {args : List Octets} {i i' : Nat} {name name' : Octets}
    (h : IsFirstName args i name) (h' : IsFirstName args i' name') : name = name' := by
  have hle : ∀ {i i' : Nat} {name name' : Octets}, IsFirstName args i name →
      IsFirstName args i' name' → i ≤ i' := by
    intro i i' name name' h h'
    by_contra hlt
    have hinvalid := h.first i' (not_le.1 hlt) h'.option name' h'.behind
    rw [h'.valid] at hinvalid
    cases hinvalid
  obtain rfl := le_antisymm (hle h h') (hle h' h)
  exact Option.some.inj (h.behind.symm.trans h'.behind)

theorem isDeviceName_deviceNameOf (args : List Octets) :
    isDeviceName (deviceNameOf args) = true := by
  rcases parseDeviceNameArg_spec defaultDeviceName args with ⟨i, h⟩ | ⟨hdefault, -⟩
  · exact h.valid
  · rw [deviceNameOf, hdefault]
    decide

theorem length_deviceNameOf (args : List Octets) :
    (deviceNameOf args).length ≤ maxDeviceNameLength := by
  have hvalid := isDeviceName_deviceNameOf args
  simp only [isDeviceName, Bool.and_eq_true, decide_eq_true_eq] at hvalid
  exact hvalid.1.2

theorem deviceNameOf_not_mem_iff {names : List Octets} (h : defaultDeviceName ∉ names)
    (args : List Octets) :
    deviceNameOf args ∉ names ↔ ∀ i name, IsFirstName args i name → name ∉ names := by
  rcases parseDeviceNameArg_spec defaultDeviceName args with ⟨i, hfirst⟩ | ⟨hdefault, hnone⟩
  · constructor
    · intro hnot i' name h'
      rwa [h'.unique hfirst]
    · intro hall
      exact hall i _ hfirst
  · rw [deviceNameOf, hdefault]
    exact iff_of_true h fun i name h' => absurd h' (hnone i name)

end CommandLine

/-! ## The names of a device -/

open CommandLine

theorem default_not_taken (dataLink : DataLink) :
    defaultDeviceName ∉ Application.takenNames dataLink := by
  cases dataLink <;> decide

/-- What `main` starts with, unless it exits at its arguments. -/
def ofArguments (L : Layout) (b : Build) (args : List Octets) (host : HostAddressing)
    (firmwareRevision : Octets) : Option (Application L × DeviceStrings) :=
  match parseCommandLine b args with
  | .run options =>
    some (Application.start L options.toCommandLineOptions host,
      ⟨deviceNameOf args, firmwareRevision⟩)
  | _ => none

theorem ofArguments_eq_some {L : Layout} {b : Build} {args : List Octets} {host : HostAddressing}
    {firmwareRevision : Octets} {started : Application L × DeviceStrings}
    (h : ofArguments L b args host firmwareRevision = some started) :
    ∃ options, parseCommandLine b args = .run options ∧
      started = (Application.start L options.toCommandLineOptions host,
        ⟨deviceNameOf args, firmwareRevision⟩) := by
  rw [ofArguments] at h
  cases hparse : parseCommandLine b args with
  | run options =>
    rw [hparse] at h
    exact ⟨options, rfl, (Option.some.inj h).symm⟩
  | exitSuccess printed => rw [hparse] at h; cases h
  | exitError problem => rw [hparse] at h; cases h

/-- **When the objects have names of their own.** In every state that the process comes to. -/
theorem distinct_names_iff {L : Layout} {b : Build} {args : List Octets} {host : HostAddressing}
    {firmwareRevision : Octets} {started app : Application L} {strings : DeviceStrings}
    (h : ofArguments L b args host firmwareRevision = some (started, strings))
    (hid : Application.SameIdentity started app) {maxElementCount : UInt32}
    (hsize : Application.embeddedCharacterStringSize ≤ maxElementCount) :
    (∀ p, app.AsksName p →
        ∃ name, app.getPropertyCharString strings p maxElementCount = .ok name) ∧
      (app.ServesDistinctNames strings maxElementCount ↔
        ∀ i name, IsFirstName args i name →
          name ∉ Application.takenNames app.options.dataLink) := by
  obtain ⟨options, -, heq⟩ := ofArguments_eq_some h
  obtain ⟨rfl, rfl⟩ := Prod.mk.inj heq
  constructor
  · intro p hp
    obtain ⟨name, hname⟩ := Application.exists_named hp.object
    exact ⟨_, Application.getPropertyCharString_of_named hp hname⟩
  · rw [Application.distinct_iff (length_deviceNameOf args) hsize]
    exact deviceNameOf_not_mem_iff (default_not_taken _) args

/-- A device on BACnet/IP that has just started. -/
def ipv4Example : Application exampleLayout.toLayout :=
  Application.start exampleLayout.toLayout {} ⟨⟨0⟩, 0, false⟩

theorem distinct_names_iff_ipv4 :
    (∀ p, ipv4Example.AsksName p → ∃ name,
        ipv4Example.getPropertyCharString ⟨octetsOf "Unit 7", octetsOf "5.5.0.0"⟩ p 256 =
          .ok name) ∧
      (ipv4Example.ServesDistinctNames ⟨octetsOf "Unit 7", octetsOf "5.5.0.0"⟩ 256 ↔
        ∀ i name, IsFirstName (["--deviceName", "Unit 7"].map octetsOf) i name →
          name ∉ Application.takenNames ipv4Example.options.dataLink) :=
  distinct_names_iff
    (show ofArguments exampleLayout.toLayout linux (["--deviceName", "Unit 7"].map octetsOf)
      ⟨⟨0⟩, 0, false⟩ (octetsOf "5.5.0.0") = some (ipv4Example, _) by rfl)
    (.refl _) (by decide)

/-- `--deviceName Bronze`: the Device and Analog Input 1. -/
theorem bronze_twice :
    ¬ ∀ (L : Layout) (b : Build) (args : List Octets) (host : HostAddressing)
        (firmwareRevision : Octets) (app : Application L) (strings : DeviceStrings),
      ofArguments L b args host firmwareRevision = some (app, strings) →
        app.ServesDistinctNames strings 256 := by
  intro h
  have hstart : ofArguments exampleLayout.toLayout linux (["--deviceName", "Bronze"].map octetsOf)
      ⟨⟨0⟩, 0, false⟩ [] = some (ipv4Example, ⟨octetsOf "Bronze", []⟩) := by rfl
  have hdistinct := h _ _ _ _ _ _ _ hstart
  rw [Application.distinct_iff (by decide) (by decide)] at hdistinct
  exact hdistinct (by decide)

end BacnetBc
