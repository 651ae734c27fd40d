import BacnetBc.Cert.Store
import BacnetBc.Ivory
import BacnetBc.Objects.Commandable

/-!
# The application behind the objects

The stack asks the application for every property it does not hold itself, through one Get callback
for each data type, and hands it the writes through one Set callback for each. `Application` is what
these callbacks read and write.

A Get callback that declines (`Served.declined`) says that it has no opinion. A Set callback that
returns false is refused, with the error code it names, if it names one.

With `BBC_WITH_SC` the File objects 2 to 5 are the BACnet/SC certificate files, held by the
certificate store. Without it no process runs on BACnet/SC, and `isScCertificateFile` is false.
-/

namespace BacnetBc

/-! ## The state -/

/-- What the command line settles for the objects. -/
structure CommandLineOptions where
  dataLink : DataLink := .ipv4
  deviceInstance : UInt32 := 389005
  udpPort : UInt16 := 47808
  mstpBaudRate : UInt32 := 38400
  mstpMaxMaster : UInt8 := 127
  mstpMaxInfoFrames : UInt8 := 1
deriving DecidableEq, Repr

/-- What is read of the host at start-up: `g_linkSpeedBitsPerSecond` and `g_ipv6Address`. -/
structure HostAddressing where
  linkSpeedBitsPerSecond : Single
  prefixLength : UInt8
  hasDnsServer : Bool
deriving DecidableEq, Repr

structure Application (L : Layout) where
  options : CommandLineOptions
  host : HostAddressing
  analogInput1Value : Single
  outputs : Output → Commandable
  /-- `g_peer`, `g_analogValue1Value` and `g_diamondReliability`. -/
  controller : Controller
  file : IvoryFile
  fileArchive : Bool
  store : Store L

/-- What a read or a write names. -/
structure PropertyReference where
  deviceInstance : UInt32
  objectType : UInt16
  objectInstance : UInt32
  propertyIdentifier : UInt32
  useArrayIndex : Bool
  propertyArrayIndex : UInt32
deriving DecidableEq, Repr

/-- The answer of a Get callback. `undefined` stands for a conversion that C++ leaves undefined. -/
inductive Served (α : Type)
  | declined
  | value (a : α)
  | undefined
deriving DecidableEq, Repr

def Served.map {α β : Type} (f : α → β) : Served α → Served β
  | .declined => .declined
  | .value a => .value (f a)
  | .undefined => .undefined

/-! ## Numbers -/

def objectTypeAnalogValue : UInt16 := 2
def objectTypeBinaryInput : UInt16 := 3
def objectTypeCalendar : UInt16 := 6
def objectTypeDevice : UInt16 := 8
def objectTypeFile : UInt16 := 10
def objectTypeMultiStateInput : UInt16 := 13
def objectTypeSchedule : UInt16 := 17
def objectTypeNetworkPort : UInt16 := 56

/-- The instance of every object of the device but for the Network Port's and the certificate
files'. -/
def objectInstance1 : UInt32 := 1

/-- `NETWORK_PORT_INSTANCE`. -/
def networkPortInstance : UInt32 := 1

def propertyIdentifierArchive : UInt32 := 13
def propertyIdentifierFileSize : UInt32 := 42
def propertyIdentifierMaxApduLengthAccepted : UInt32 := 62
def propertyIdentifierMaxInfoFrames : UInt32 := 63
def propertyIdentifierMaxMaster : UInt32 := 64
def propertyIdentifierNumberOfStates : UInt32 := 74
def propertyIdentifierOutOfService : UInt32 := 81
def propertyIdentifierPolarity : UInt32 := 84
def propertyIdentifierReadOnly : UInt32 := 99
def propertyIdentifierReliability : UInt32 := 103
def propertyIdentifierRelinquishDefault : UInt32 := 104
def propertyIdentifierStateText : UInt32 := 110
def propertyIdentifierUnits : UInt32 := 117
def propertyIdentifierVendorIdentifier : UInt32 := 120
def propertyIdentifierApduLength : UInt32 := 399
def propertyIdentifierBacnetIpMode : UInt32 := 408
def propertyIdentifierBacnetIpUdpPort : UInt32 := 412
def propertyIdentifierLinkSpeed : UInt32 := 420
def propertyIdentifierNetworkNumber : UInt32 := 425
def propertyIdentifierIpv6PrefixLength : UInt32 := 437
def propertyIdentifierBacnetIpv6UdpPort : UInt32 := 438
def propertyIdentifierIpv6DnsServer : UInt32 := 441
def propertyIdentifierReferencePort : UInt32 := 483

def reliabilityNoFaultDetected : UInt32 := 0
def polarityNormal : UInt32 := 0
def bacnetIpModeNormal : UInt32 := 0
def engineeringUnitsDegreesCelsius : UInt32 := 62
def engineeringUnitsPercent : UInt32 := 98
def vendorIdentifier : UInt32 := 389
def maxApduLength : UInt32 := 1476
def mstpMaxApduLength : UInt32 := 480
def networkPortReferencePortNone : UInt32 := 4194303
def multiStateInputNumberOfStates : UInt32 := 3
def multiStateOutputNumberOfStates : UInt32 := 3

namespace Application

variable {L : Layout}

/-- `21.5f`. -/
def analogInput1AtPowerOn : Single := ⟨0x41AC0000⟩

/-- The process has started with this command line, on this host. -/
def start (L : Layout) (options : CommandLineOptions) (host : HostAddressing) :
    Application L where
  options := options
  host := host
  analogInput1Value := analogInput1AtPowerOn
  outputs := Output.atPowerOn
  controller := .initial
  file := .initial
  fileArchive := false
  store := .initial L

/-- What the command line settles for good. -/
structure SameIdentity (app app' : Application L) : Prop where
  deviceInstance : app'.options.deviceInstance = app.options.deviceInstance
  dataLink : app'.options.dataLink = app.options.dataLink

theorem SameIdentity.refl (app : Application L) : SameIdentity app app := ⟨rfl, rfl⟩

theorem SameIdentity.trans {app app' app'' : Application L} (h : SameIdentity app app')
    (h' : SameIdentity app' app'') : SameIdentity app app'' :=
  ⟨h'.deviceInstance.trans h.deviceInstance, h'.dataLink.trans h.dataLink⟩

/-! ## The data link's Network Port -/

/-- `IsDataLinkPort`. -/
def isDataLinkPort (app : Application L) (p : PropertyReference) (dataLink : DataLink) : Bool :=
  app.options.dataLink = dataLink ∧ p.objectType = objectTypeNetworkPort ∧
    p.objectInstance = activeNetworkPortInstance app.options.dataLink

/-- `GetDataLinkPortReal`. -/
def getDataLinkPortReal (app : Application L) (p : PropertyReference) : Option Single :=
  if p.propertyIdentifier ≠ propertyIdentifierLinkSpeed then none
  else if app.isDataLinkPort p .mstp then some (Single.ofUInt32 app.options.mstpBaudRate)
  else if app.isDataLinkPort p .ipv6 then some app.host.linkSpeedBitsPerSecond
  else none

/-- `GetDataLinkPortUnsigned`. -/
def getDataLinkPortUnsigned (app : Application L) (p : PropertyReference) : Option UInt32 :=
  if app.options.dataLink = .mstp ∧ p.objectType = objectTypeDevice ∧
      p.objectInstance = app.options.deviceInstance ∧
      p.propertyIdentifier = propertyIdentifierMaxApduLengthAccepted then some mstpMaxApduLength
  else if app.isDataLinkPort p .ipv6 = true ∧
      p.propertyIdentifier = propertyIdentifierIpv6PrefixLength then
    some app.host.prefixLength.toUInt32
  else if app.isDataLinkPort p .ipv6 = true ∧
      p.propertyIdentifier = propertyIdentifierBacnetIpv6UdpPort then
    some app.options.udpPort.toUInt32
  else if app.isDataLinkPort p .ipv6 = true ∧
      p.propertyIdentifier = propertyIdentifierIpv6DnsServer ∧ p.useArrayIndex = true ∧
      p.propertyArrayIndex = 0 ∧ app.host.hasDnsServer = true then some 1
  else if app.isDataLinkPort p .mstp = true ∧
      p.propertyIdentifier = propertyIdentifierMaxMaster then
    some app.options.mstpMaxMaster.toUInt32
  else if app.isDataLinkPort p .mstp = true ∧
      p.propertyIdentifier = propertyIdentifierMaxInfoFrames then
    some app.options.mstpMaxInfoFrames.toUInt32
  else none

/-- The Max_Master that is stored for a value. -/
def storedMaxMaster (value : UInt32) : UInt8 := (if value > 127 then 127 else value).toUInt8

/-- The Max_Info_Frames that is stored for a value. -/
def storedMaxInfoFrames (value : UInt32) : UInt8 :=
  (if value < 1 then 1 else if value > 255 then 255 else value).toUInt8

/-- `SetDataLinkPortUnsigned`. A value it does not store is accepted all the same. -/
def setDataLinkPortUnsigned (app : Application L) (p : PropertyReference) (value : UInt32) :
    Application L × Except (Option Nat) Unit :=
  if !app.isDataLinkPort p .mstp then (app, .error none)
  else if p.propertyIdentifier = propertyIdentifierMaxMaster then
    ({ app with options := { app.options with mstpMaxMaster := storedMaxMaster value } }, .ok ())
  else if p.propertyIdentifier = propertyIdentifierMaxInfoFrames then
    ({ app with options := { app.options with mstpMaxInfoFrames := storedMaxInfoFrames value } },
      .ok ())
  else (app, .ok ())

/-! ## The certificate files -/

/-- `IsCertificateFile`. -/
def isCertificateFile (fileInstance : UInt32) : Bool :=
  fileOperationalCertificateInstance ≤ fileInstance.toNat ∧
    fileInstance.toNat ≤ fileCertificateSigningRequestInstance

/-- `IsCertificateFileReadOnly`. -/
def isCertificateFileReadOnly (fileInstance : UInt32) : Bool :=
  fileInstance.toNat = fileCertificateSigningRequestInstance

/-- `IsScCertificateFile`. -/
def isScCertificateFile (app : Application L) (p : PropertyReference) : Bool :=
  app.options.dataLink = .sc ∧ p.objectType = objectTypeFile ∧ isCertificateFile p.objectInstance

/-- `GetCertificateFileSize`. -/
def getCertificateFileSize (app : Application L) (d : CertDisk) (fileInstance : UInt32) :
    Option UInt32 :=
  if isCertificateFile fileInstance then
    (app.store.stat d fileInstance.toNat).map fun found => UInt32.ofNat found.1
  else none

/-- `ResizeCertificateFile`. -/
def resizeCertificateFile (app : Application L) (now : Int) (d : CertDisk)
    (fileInstance newSize : UInt32) : Application L × Except (Option Nat) Unit :=
  if !isCertificateFile fileInstance || isCertificateFileReadOnly fileInstance then
    (app, .error none)
  else
    let (store, result) := app.store.resize now d fileInstance.toNat newSize.toNat
    ({ app with store := store }, result)

/-! ## Get callbacks -/

/-- How a typed Get callback serves a commandable value: the slots of its Priority_Array and its
Relinquish_Default, and then the rest. -/
def serveCommandable {α : Type} (c : Commandable) (p : PropertyReference)
    (convert : Double → Served α) (rest : Served α) : Served α :=
  match readPrioritySlot c p.propertyIdentifier p.useArrayIndex p.propertyArrayIndex with
  | some (slotIsSet, slotValue) => if slotIsSet then convert slotValue else .declined
  | none =>
    if p.propertyIdentifier = propertyIdentifierRelinquishDefault then convert c.relinquishDefault
    else rest

/-- `(float)slotValue`. -/
def castReal (value : Double) : Served Single := .value value.toSingle

/-- `(uint32_t)slotValue`. -/
def castUnsigned (value : Double) : Served UInt32 :=
  match value.toUInt32? with
  | some u => .value u
  | none => .undefined

/-- `GetPropertyReal`. -/
def getPropertyReal (app : Application L) (p : PropertyReference) : Served Single :=
  if p.deviceInstance ≠ app.options.deviceInstance then .declined
  else if let some value := app.getDataLinkPortReal p then .value value
  else if p.objectType = objectTypeAnalogInput ∧ p.objectInstance = objectInstance1 ∧
      p.propertyIdentifier = propertyIdentifierPresentValue then .value app.analogInput1Value
  else if p.objectType = objectTypeNetworkPort ∧ p.objectInstance = networkPortInstance ∧
      p.propertyIdentifier = propertyIdentifierLinkSpeed then
    .value app.host.linkSpeedBitsPerSecond
  else if p.objectType = objectTypeAnalogValue ∧ p.objectInstance = objectInstance1 ∧
      p.propertyIdentifier = propertyIdentifierPresentValue then
    .value app.controller.analogValue1Value
  else if let some o := getCommandable p.objectType p.objectInstance then
    if p.objectType = objectTypeAnalogOutput then
      serveCommandable (app.outputs o) p castReal .declined
    else .declined
  else .declined

/-- What `GetPropertyEnumerated` serves behind the commandable outputs. -/
def servedUnits (p : PropertyReference) : Served UInt32 :=
  if p.propertyIdentifier = propertyIdentifierUnits ∧
      (p.objectType = objectTypeAnalogInput ∧ p.objectInstance = objectInstance1 ∨
        p.objectType = objectTypeAnalogOutput ∧ p.objectInstance = outputInstance) then
    .value engineeringUnitsDegreesCelsius
  else if p.objectType = objectTypeNetworkPort ∧ p.objectInstance = networkPortInstance ∧
      p.propertyIdentifier = propertyIdentifierBacnetIpMode then .value bacnetIpModeNormal
  else .declined

/-- `GetPropertyEnumerated`. -/
def getPropertyEnumerated (app : Application L) (p : PropertyReference) : Served UInt32 :=
  if p.deviceInstance ≠ app.options.deviceInstance then .declined
  else if p.propertyIdentifier = propertyIdentifierReliability ∧
      (p.objectType = objectTypeSchedule ∧ p.objectInstance = objectInstance1 ∨
        p.objectType = objectTypeCalendar ∧ p.objectInstance = objectInstance1) then
    .value reliabilityNoFaultDetected
  else if p.propertyIdentifier = propertyIdentifierReliability ∧
      p.objectType = objectTypeAnalogValue ∧ p.objectInstance = objectInstance1 then
    .value app.controller.diamondReliability.code
  else if p.objectType = objectTypeBinaryInput ∧ p.objectInstance = objectInstance1 ∧
      p.propertyIdentifier = propertyIdentifierPresentValue then .value 1
  else if p.objectType = objectTypeBinaryInput ∧ p.objectInstance = objectInstance1 ∧
      p.propertyIdentifier = propertyIdentifierPolarity then .value polarityNormal
  else if p.objectType = objectTypeAnalogValue ∧ p.objectInstance = objectInstance1 ∧
      p.propertyIdentifier = propertyIdentifierUnits then .value engineeringUnitsPercent
  else if let some o := getCommandable p.objectType p.objectInstance then
    if p.objectType = objectTypeBinaryOutput then
      serveCommandable (app.outputs o) p castUnsigned
        (if p.propertyIdentifier = propertyIdentifierPolarity then .value polarityNormal
        else servedUnits p)
    else servedUnits p
  else servedUnits p

/-- What `GetPropertyUnsignedInteger` serves behind the commandable outputs. -/
def servedFileSize (app : Application L) (p : PropertyReference) : Served UInt32 :=
  if p.objectType = objectTypeFile ∧ p.objectInstance = objectInstance1 ∧
      p.propertyIdentifier = propertyIdentifierFileSize then .value app.file.fileDataLength
  else .declined

/-- `GetPropertyUnsignedInteger`. -/
def getPropertyUnsignedInteger (app : Application L) (d : CertDisk) (p : PropertyReference) :
    Served UInt32 :=
  if p.deviceInstance ≠ app.options.deviceInstance then .declined
  else if let some value := app.getDataLinkPortUnsigned p then .value value
  else if app.isScCertificateFile p = true ∧
      p.propertyIdentifier = propertyIdentifierFileSize then
    match app.getCertificateFileSize d p.objectInstance with
    | some size => .value size
    | none => .declined
  else if p.objectType = objectTypeMultiStateInput ∧ p.objectInstance = objectInstance1 ∧
      p.propertyIdentifier = propertyIdentifierPresentValue then .value 1
  else if p.objectType = objectTypeMultiStateInput ∧ p.objectInstance = objectInstance1 ∧
      p.propertyIdentifier = propertyIdentifierNumberOfStates then
    .value multiStateInputNumberOfStates
  else if p.objectType = objectTypeMultiStateInput ∧ p.objectInstance = objectInstance1 ∧
      p.propertyIdentifier = propertyIdentifierStateText ∧ p.useArrayIndex = true ∧
      p.propertyArrayIndex = 0 then .value multiStateInputNumberOfStates
  else if p.objectType = objectTypeDevice ∧ p.objectInstance = app.options.deviceInstance ∧
      p.propertyIdentifier = propertyIdentifierVendorIdentifier then .value vendorIdentifier
  else if p.objectType = objectTypeNetworkPort ∧ p.objectInstance = networkPortInstance ∧
      p.propertyIdentifier = propertyIdentifierApduLength then .value maxApduLength
  else if p.objectType = objectTypeNetworkPort ∧ p.objectInstance = networkPortInstance ∧
      p.propertyIdentifier = propertyIdentifierReferencePort then
    .value networkPortReferencePortNone
  else if p.objectType = objectTypeNetworkPort ∧ p.objectInstance = networkPortInstance ∧
      p.propertyIdentifier = propertyIdentifierBacnetIpUdpPort then
    .value app.options.udpPort.toUInt32
  else if let some o := getCommandable p.objectType p.objectInstance then
    if p.objectType = objectTypeMultiStateOutput then
      serveCommandable (app.outputs o) p castUnsigned
        (if p.propertyIdentifier = propertyIdentifierNumberOfStates then
          .value multiStateOutputNumberOfStates
        else app.servedFileSize p)
    else app.servedFileSize p
  else app.servedFileSize p

/-- The object types whose Out_Of_Service is served. -/
def outOfServiceTypes : List UInt16 :=
  [objectTypeAnalogInput, objectTypeBinaryInput, objectTypeMultiStateInput, objectTypeAnalogOutput,
    objectTypeBinaryOutput, objectTypeMultiStateOutput, objectTypeAnalogValue,
    objectTypeNetworkPort, objectTypeSchedule, objectTypeCalendar]

/-- What `GetPropertyBool` serves behind the commandable outputs. -/
def servedFlag (app : Application L) (p : PropertyReference) : Served Bool :=
  if p.propertyIdentifier = propertyIdentifierOutOfService ∧ p.objectType ∈ outOfServiceTypes then
    .value false
  else if app.isScCertificateFile p = true ∧ p.propertyIdentifier = propertyIdentifierArchive then
    .value false
  else if app.isScCertificateFile p = true ∧ p.propertyIdentifier = propertyIdentifierReadOnly then
    .value (isCertificateFileReadOnly p.objectInstance)
  else if p.objectType = objectTypeFile ∧ p.objectInstance = objectInstance1 ∧
      p.propertyIdentifier = propertyIdentifierArchive then .value app.fileArchive
  else if p.objectType = objectTypeFile ∧ p.objectInstance = objectInstance1 ∧
      p.propertyIdentifier = propertyIdentifierReadOnly then .value false
  else .declined

/-- `GetPropertyBool`. For a slot of a Priority_Array it says whether the slot is null. -/
def getPropertyBool (app : Application L) (p : PropertyReference) : Served Bool :=
  if p.deviceInstance ≠ app.options.deviceInstance then .declined
  else if let some o := getCommandable p.objectType p.objectInstance then
    if p.propertyIdentifier = propertyIdentifierPriorityArray then
      match prioritySlot? p.useArrayIndex p.propertyArrayIndex with
      | some i => .value (!(app.outputs o).isSet i)
      | none => app.servedFlag p
    else app.servedFlag p
  else app.servedFlag p

/-! ## Set callbacks -/

def command (app : Application L) (o : Output) (c : Commandable) : Application L :=
  { app with outputs := Function.update app.outputs o c }

@[simp] theorem command_outputs (app : Application L) (o : Output) (c : Commandable) :
    (app.command o c).outputs = Function.update app.outputs o c := rfl

@[simp] theorem command_options (app : Application L) (o : Output) (c : Commandable) :
    (app.command o c).options = app.options := rfl

/-- `SetPropertyReal`. -/
def setPropertyReal (app : Application L) (p : PropertyReference) (value : Single)
    (priority : UInt8) : Application L × Except (Option Nat) Unit :=
  if p.deviceInstance ≠ app.options.deviceInstance then (app, .error none)
  else
    match getCommandable p.objectType p.objectInstance with
    | some o =>
      if p.objectType = objectTypeAnalogOutput ∧
          p.propertyIdentifier = propertyIdentifierPresentValue then
        (app.command o (commandWrite (app.outputs o) priority value.toDouble), .ok ())
      else (app, .error none)
    | none => (app, .error none)

/-- `SetPropertyEnumerated`. -/
def setPropertyEnumerated (app : Application L) (p : PropertyReference) (value : UInt32)
    (priority : UInt8) : Application L × Except (Option Nat) Unit :=
  if p.deviceInstance ≠ app.options.deviceInstance then (app, .error none)
  else
    match getCommandable p.objectType p.objectInstance with
    | some o =>
      if p.objectType = objectTypeBinaryOutput ∧
          p.propertyIdentifier = propertyIdentifierPresentValue then
        if value > 1 then (app, .error (some errorValueOutOfRange))
        else
          (app.command o (commandWrite (app.outputs o) priority (.ofUInt32 value)), .ok ())
      else (app, .error none)
    | none => (app, .error none)

/-- `SetPropertyUnsignedInteger`. -/
def setPropertyUnsignedInteger (app : Application L) (now : Int) (d : CertDisk)
    (p : PropertyReference) (value : UInt32) (priority : UInt8) :
    Application L × Except (Option Nat) Unit :=
  if p.deviceInstance ≠ app.options.deviceInstance then (app, .error none)
  else if app.isDataLinkPort p .mstp then app.setDataLinkPortUnsigned p value
  else if p.objectType = objectTypeNetworkPort ∧
      p.objectInstance = activeNetworkPortInstance app.options.dataLink ∧
      p.propertyIdentifier = propertyIdentifierNetworkNumber then (app, .ok ())
  else if app.isScCertificateFile p = true ∧
      p.propertyIdentifier = propertyIdentifierFileSize then
    app.resizeCertificateFile now d p.objectInstance value
  else
    match getCommandable p.objectType p.objectInstance with
    | some o =>
      if p.objectType = objectTypeMultiStateOutput ∧
          p.propertyIdentifier = propertyIdentifierPresentValue then
        if value < 1 ∨ value > multiStateOutputNumberOfStates then
          (app, .error (some errorValueOutOfRange))
        else
          (app.command o (commandWrite (app.outputs o) priority (.ofUInt32 value)), .ok ())
      else (app, .error none)
    | none => (app, .error none)

/-- `SetPropertyNull`. -/
def setPropertyNull (app : Application L) (p : PropertyReference) (priority : UInt8) :
    Application L × Except (Option Nat) Unit :=
  if p.deviceInstance ≠ app.options.deviceInstance then (app, .error none)
  else
    match getCommandable p.objectType p.objectInstance with
    | some o =>
      if p.propertyIdentifier = propertyIdentifierPresentValue then
        (app.command o (commandRelinquish (app.outputs o) priority), .ok ())
      else (app, .error none)
    | none => (app, .error none)

/-- `SetPropertyBool`: Archive of File 1. -/
def setPropertyBool (app : Application L) (p : PropertyReference) (value : Bool) :
    Application L × Except (Option Nat) Unit :=
  if p.deviceInstance ≠ app.options.deviceInstance ∨ p.objectType ≠ objectTypeFile ∨
      p.objectInstance ≠ objectInstance1 ∨ p.propertyIdentifier ≠ propertyIdentifierArchive then
    (app, .error none)
  else ({ app with fileArchive := value }, .ok ())

end Application

end BacnetBc
