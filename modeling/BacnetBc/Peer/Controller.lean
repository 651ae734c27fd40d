import BacnetBc.Peer.Tag

/-!
# The controller and its peer

The controller polls the humidity sensor of another device and copies the reading into Analog
Value 1 "Diamond". Its state (`Controller`) is the peer as it knows it, Diamond's Present_Value and
Diamond's Reliability. Five things move it:

* `hookIAm`: the peer announces its address,
* `pollPeer`: the main loop looks at the silence and sends the next read,
* `handleReplyFromPeer`: a datagram passes through the receive callback,
* `restart`: the deferred restart.

A time is a count of nanoseconds on the steady clock. `BACnetStack_UpdateValue` tells the stack of a
change and moves nothing here; log lines are left out.
-/

namespace BacnetBc

open Memory

/-! ## The state -/

inductive DataLink
  | ipv4
  | ipv6
  | mstp
  | sc
deriving DecidableEq, Repr

/-- A point of `std::chrono::steady_clock`, in nanoseconds. -/
abbrev Time := Int

def milliseconds (n : Int) : Time := n * 1000000

/-- Diamond's Reliability. -/
inductive Reliability
  | noFaultDetected
  | unreliableOther
  | communicationFailure
deriving DecidableEq, Repr

namespace Reliability

/-- The BACnetReliability value of cl. 21. -/
def code : Reliability → UInt32
  | noFaultDetected => 0
  | unreliableOther => 7
  | communicationFailure => 12

end Reliability

structure RemotePeer where
  bound : Bool
  /-- The address and the UDP port, in the first octets of 18. -/
  connectionString : Octets
  readPropertyInvokeId : UInt8
  readPropertyPending : Bool
  readPropertyMultipleInvokeId : UInt8
  readPropertyMultiplePending : Bool
  pollCount : UInt32
  readPropertyMultipleUnsupported : Bool
  sensorFaultReported : Bool
  lastPoll : Time
  lastAnswer : Time
deriving DecidableEq, Repr

/-- `g_peer`, `g_analogValue1Value` and `g_diamondReliability`. -/
structure Controller where
  peer : RemotePeer
  analogValue1Value : Single
  diamondReliability : Reliability
deriving DecidableEq, Repr

/-- `50.0f`. -/
def powerOnValue : Single := ⟨0x42480000⟩

namespace Controller

def initial : Controller where
  peer :=
    { bound := false
      connectionString := List.replicate 18 0
      readPropertyInvokeId := 0
      readPropertyPending := false
      readPropertyMultipleInvokeId := 0
      readPropertyMultiplePending := false
      pollCount := 0
      readPropertyMultipleUnsupported := false
      sensorFaultReported := false
      lastPoll := 0
      lastAnswer := 0 }
  analogValue1Value := powerOnValue
  diamondReliability := .communicationFailure

end Controller

/-! ## Addresses and constants -/

/-- `TransportAddressLength`. -/
def transportAddressLength (dataLink : DataLink) : Nat := if dataLink = .ipv6 then 16 else 4

/-- `TransportConnectionStringLength`. -/
def transportConnectionStringLength (dataLink : DataLink) : Nat :=
  transportAddressLength dataLink + 2

/-- `IsIpDataLink`. -/
def isIpDataLink (dataLink : DataLink) : Bool := dataLink = .ipv4 || dataLink = .ipv6

/-- `ActiveNetworkPortInstance`. -/
def activeNetworkPortInstance : DataLink → UInt32
  | .ipv6 => 2
  | .mstp => 3
  | .sc => 4
  | .ipv4 => 1

def remoteDeviceInstance : UInt32 := 389002
def remoteAnalogInputInstance : UInt32 := 1
def remotePollIntervalMilliseconds : Nat := 1000
def remoteCommsLossMilliseconds : Nat := 3000
def remoteLostPollIntervalMilliseconds : Nat := 3000

def objectTypeAnalogInput : UInt16 := 0
def propertyIdentifierPresentValue : UInt32 := 85
def propertyIdentifierStatusFlags : UInt32 := 111
def serviceReadProperty : UInt8 := 12
def serviceReadPropertyMultiple : UInt8 := 14

/-- `MillisecondsSince`: whole milliseconds, cut to 32 bits. -/
def millisecondsSince (now start : Time) : Nat := ((now - start).tdiv 1000000 % 2 ^ 32).toNat

/-! ## Diamond -/

/-- `SetDiamondReliability`. -/
def setDiamondReliability (reliability : Reliability) (c : Controller) : Controller :=
  if c.diamondReliability = reliability then c else { c with diamondReliability := reliability }

/-- `UpdateDiamondFromPeer`: a good reading. -/
def updateDiamondFromPeer (humidity : Single) (c : Controller) : Controller :=
  { c with analogValue1Value := c.analogValue1Value.assign humidity }

section
variable (r : Reliability) (humidity : Single) (c : Controller)

@[simp] theorem setDiamondReliability_diamondReliability :
    (setDiamondReliability r c).diamondReliability = r := by
  unfold setDiamondReliability
  split_ifs with h
  · exact h
  · rfl

@[simp] theorem setDiamondReliability_peer : (setDiamondReliability r c).peer = c.peer := by
  unfold setDiamondReliability
  split_ifs <;> rfl

@[simp] theorem setDiamondReliability_analogValue1Value :
    (setDiamondReliability r c).analogValue1Value = c.analogValue1Value := by
  unfold setDiamondReliability
  split_ifs <;> rfl

@[simp] theorem updateDiamondFromPeer_peer : (updateDiamondFromPeer humidity c).peer = c.peer := rfl

@[simp] theorem updateDiamondFromPeer_analogValue1Value :
    (updateDiamondFromPeer humidity c).analogValue1Value = c.analogValue1Value.assign humidity :=
  rfl

end

/-! ## I-Am -/

/-- `HookIAm`, with the parameters it looks at. -/
def hookIAm (dataLink : DataLink) (now : Time) (deviceIdentifier : UInt32)
    (connectionString : Octets) (sourceNetwork : UInt16) (c : Controller) : Controller :=
  let length := transportConnectionStringLength dataLink
  if !isIpDataLink dataLink || deviceIdentifier != remoteDeviceInstance || sourceNetwork != 0 ||
      connectionString.length != length then c
  else
    let peer :=
      if !c.peer.bound || c.peer.connectionString.take length != connectionString then
        -- a device at a new address may be a different one
        { c.peer with
          connectionString := connectionString ++ c.peer.connectionString.drop length
          readPropertyMultipleUnsupported := false }
      else c.peer
    let peer :=
      if !peer.bound then
        { peer with
          bound := true
          lastAnswer := now
          lastPoll := now - milliseconds remotePollIntervalMilliseconds }
      else peer
    { c with peer := peer }

/-! ## Polling -/

/-- `PackReadPropertyElement`: flags, object type, instance and property, least significant octet
first, and no array index. -/
def packReadPropertyElement (objectType : UInt16) (objectInstance propertyIdentifier : UInt32) :
    Octets :=
  let octetOf (value : UInt32) (index : Nat) : UInt8 := (value >>> (8 * index.toUInt32)).toUInt8
  [0, (objectType &&& 0xFF).toUInt8, (objectType >>> 8).toUInt8] ++
    (List.range 4).map (octetOf objectInstance) ++
    (List.range 4).map (octetOf propertyIdentifier) ++ List.replicate 4 0

/-- The arguments of `BACnetStack_SendReadProperty` that a poll chooses. -/
structure ReadRequest where
  serviceChoice : UInt8
  connectionString : Octets
  networkPortInstance : UInt32
  elements : List Octets
deriving DecidableEq, Repr

/-- `PollPeer` at time `now`, and the read it hands to the stack. `invokeId` is what the stack makes
of that read: the invoke id it was sent with, or `none` if it could not be sent. -/
def pollPeer (dataLink : DataLink) (now : Time) (invokeId : Option UInt8) (c : Controller) :
    Controller × Option ReadRequest :=
  if !c.peer.bound then (c, none)
  else
    let lost := millisecondsSince now c.peer.lastAnswer > remoteCommsLossMilliseconds
    let c := if lost ∧ c.diamondReliability ≠ .communicationFailure then
        setDiamondReliability .communicationFailure c else c
    let interval :=
      if lost then remoteLostPollIntervalMilliseconds else remotePollIntervalMilliseconds
    if millisecondsSince now c.peer.lastPoll < interval then (c, none)
    else
      let useReadPropertyMultiple :=
        c.peer.pollCount % 2 == 1 && !c.peer.readPropertyMultipleUnsupported
      let element := packReadPropertyElement objectTypeAnalogInput remoteAnalogInputInstance
      let request : ReadRequest :=
        { serviceChoice :=
            if useReadPropertyMultiple then serviceReadPropertyMultiple else serviceReadProperty
          connectionString := c.peer.connectionString.take
            (transportConnectionStringLength dataLink)
          networkPortInstance := activeNetworkPortInstance dataLink
          elements :=
            if useReadPropertyMultiple then
              [element propertyIdentifierPresentValue, element propertyIdentifierStatusFlags]
            else [element propertyIdentifierPresentValue] }
      let peer := { c.peer with lastPoll := now, pollCount := c.peer.pollCount + 1 }
      match invokeId with
      | none => ({ c with peer := peer }, some request)
      | some id =>
        if useReadPropertyMultiple then
          ({ c with peer := { peer with
              readPropertyMultipleInvokeId := id, readPropertyMultiplePending := true } },
            some request)
        else
          ({ c with peer := { peer with readPropertyInvokeId := id, readPropertyPending := true } },
            some request)

/-! ## The two ACKs -/

/-- The value behind the opening tag 3 of a ReadProperty-ACK, taken if it is a good one. -/
def takeReadPropertyValue (apdu : Octets) (tag : Tag) (propertyIdentifier : UInt32)
    (c : Controller) : Access Controller :=
  if propertyIdentifier = propertyIdentifierPresentValue then do
    match ← readTag apdu tag.next with
    | none => return c
    | some valueTag =>
      match ← contentReal apdu valueTag with
      | none => return c
      | some humidity =>
        if c.peer.sensorFaultReported then return c
        else
          return setDiamondReliability .noFaultDetected (updateDiamondFromPeer humidity c)
  else .ok c

/-- The loop of `HandleReadPropertyAck`. -/
def readPropertyAckLoop (apdu : Octets) (c : Controller) : Nat → Nat → UInt32 → Access Controller
  | 0, _, _ => .error .diverged
  | fuel + 1, position, propertyIdentifier => do
    match ← readTag apdu position with
    | none => return c
    | some tag =>
      let propertyIdentifier ←
        if tag.isContext = true ∧ tag.kind = .value ∧ tag.number = 1 then contentUnsigned apdu tag
        else pure propertyIdentifier
      if tag.isContext = true ∧ tag.kind = .opening ∧ tag.number = 3 then
        takeReadPropertyValue apdu tag propertyIdentifier c
      else readPropertyAckLoop apdu c fuel tag.next propertyIdentifier

/-- `HandleReadPropertyAck`: past type, invoke id and service choice. -/
def handleReadPropertyAck (apdu : Octets) (c : Controller) : Access Controller :=
  readPropertyAckLoop apdu c (apdu.length + 1) 3 0

/-- What a ReadPropertyMultiple-ACK has given so far: `humidity` while `haveHumidity`, `fault` while
`haveFault`. -/
structure MultipleReading where
  humidity : Option Single
  fault : Option Bool
deriving DecidableEq, Repr

/-- The value behind an opening tag 4 of a ReadPropertyMultiple-ACK. -/
def readMember (apdu : Octets) (tag : Tag) (propertyIdentifier : UInt32) (r : MultipleReading) :
    Access MultipleReading := do
  match ← readTag apdu tag.next with
  | none => return r
  | some valueTag =>
    if propertyIdentifier = propertyIdentifierPresentValue then
      return { r with humidity := ← contentReal apdu valueTag }
    else if propertyIdentifier = propertyIdentifierStatusFlags then
      return { r with fault := ← contentStatusFlagsFault apdu valueTag }
    else return r

/-- The loop of `HandleReadPropertyMultipleAck`. It steps into opening tags: their contents are read
in turn. -/
def readPropertyMultipleAckLoop (apdu : Octets) :
    Nat → Nat → UInt32 → MultipleReading → Access MultipleReading
  | 0, _, _, _ => .error .diverged
  | fuel + 1, position, propertyIdentifier, r => do
    match ← readTag apdu position with
    | none => return r
    | some tag =>
      if tag.isContext = true ∧ tag.kind = .value ∧ tag.number = 2 then
        let propertyIdentifier ← contentUnsigned apdu tag
        readPropertyMultipleAckLoop apdu fuel tag.next propertyIdentifier r
      else if tag.isContext = true ∧ tag.kind = .opening ∧ tag.number = 4 then
        let r ← readMember apdu tag propertyIdentifier r
        readPropertyMultipleAckLoop apdu fuel tag.next propertyIdentifier r
      else readPropertyMultipleAckLoop apdu fuel tag.next propertyIdentifier r

/-- `HandleReadPropertyMultipleAck`. -/
def handleReadPropertyMultipleAck (apdu : Octets) (c : Controller) : Access Controller := do
  match ← readPropertyMultipleAckLoop apdu (apdu.length + 1) 3 0 ⟨none, none⟩ with
  | ⟨some humidity, some fault⟩ =>
    let c := { c with peer := { c.peer with sensorFaultReported := fault } }
    -- the peer itself says the reading is bad: hold the last good value
    if fault then return setDiamondReliability .unreliableOther c
    else return setDiamondReliability .noFaultDetected (updateDiamondFromPeer humidity c)
  | _ => return c

/-! ## A received datagram -/

/-- The length of the BVLL header of an Original-Unicast-NPDU, if this is one. -/
def bvllLength (dataLink : DataLink) (message : Octets) : Access (Option Nat) :=
  let length := if dataLink = .ipv6 then 10 else 4
  let type : UInt8 := if dataLink = .ipv6 then 0x82 else 0x81
  let originalUnicastNpdu : UInt8 := if dataLink = .ipv6 then 0x01 else 0x0A
  if message.length < length then .ok none
  else do
    if (← read message 0) != type then return none
    else if (← read message 1) != originalUnicastNpdu then return none
    else return some length

/-- The position after a DNET/DLEN/DADR or SNET/SLEN/SADR group, if the control octet has one. -/
def skipAddress (message : Octets) (present : Bool) (position : Nat) : Access (Option Nat) :=
  if present then
    if message.length < position + 3 then .ok none
    else do
      let addressLength ← read message (position + 2)
      return some (position + 3 + addressLength.toNat)
  else .ok (some position)

/-- Where the APDU starts: behind the BVLL header and an NPDU that carries one. -/
def apduStart (dataLink : DataLink) (message : Octets) : Access (Option Nat) := do
  match ← bvllLength dataLink message with
  | none => return none
  | some position =>
    if message.length < position + 2 then return none
    else if (← read message position) != 0x01 then return none
    else
      let control ← read message (position + 1)
      -- a network layer message, not an APDU
      if control &&& 0x80 != 0 then return none
      else
        match ← skipAddress message (control &&& 0x20 != 0) (position + 2) with
        | none => return none
        | some position =>
          match ← skipAddress message (control &&& 0x08 != 0) position with
          | none => return none
          | some position =>
            let position := if control &&& 0x20 != 0 then position + 1 else position -- hop count
            if message.length < position + 3 then return none
            else return some position

namespace Controller

/-- `isReadProperty`: a ReadProperty with this invoke id is outstanding. -/
def awaitsReadProperty (c : Controller) (invokeId : UInt8) : Bool :=
  c.peer.readPropertyPending && invokeId == c.peer.readPropertyInvokeId

/-- `isReadPropertyMultiple`. -/
def awaitsReadPropertyMultiple (c : Controller) (invokeId : UInt8) : Bool :=
  c.peer.readPropertyMultiplePending && invokeId == c.peer.readPropertyMultipleInvokeId

/-- The read is no longer outstanding, and the peer has answered. -/
def answered (c : Controller) (now : Time) (invokeId : UInt8) : Controller :=
  { c with peer :=
    if c.awaitsReadProperty invokeId then
      { c.peer with readPropertyPending := false, lastAnswer := now }
    else { c.peer with readPropertyMultiplePending := false, lastAnswer := now } }

end Controller

/-- `HandleReplyFromPeer` from the APDU on. -/
def handleApdu (now : Time) (apdu : Octets) (c : Controller) : Access Controller := do
  let first ← read apdu 0
  let invokeId ← read apdu 1
  let isReadProperty := c.awaitsReadProperty invokeId
  let isReadPropertyMultiple := c.awaitsReadPropertyMultiple invokeId
  if !isReadProperty && !isReadPropertyMultiple then return c
  else
    let c := c.answered now invokeId
    let pduType := first >>> 4
    let service ← read apdu 2
    -- Reject unrecognized-service: fall back to ReadProperty for every poll
    if isReadPropertyMultiple && pduType == 6 && service == 9 then
      return { c with peer :=
        { c.peer with readPropertyMultipleUnsupported := true, sensorFaultReported := false } }
    else
      let segmented := first &&& 0x08 != 0
      -- an Error, Reject or Abort: the peer is there but gave no value
      if pduType != 3 || segmented then return setDiamondReliability .unreliableOther c
      else if isReadProperty && service == serviceReadProperty then handleReadPropertyAck apdu c
      else if isReadPropertyMultiple && service == serviceReadPropertyMultiple then
        handleReadPropertyMultipleAck apdu c
      else return c

/-- The UDP port of the bound peer. -/
def RemotePeer.port (dataLink : DataLink) (peer : RemotePeer) : UInt16 :=
  (peer.connectionString.getD (transportAddressLength dataLink) 0).toUInt16 <<< 8 |||
    (peer.connectionString.getD (transportAddressLength dataLink + 1) 0).toUInt16

/-- The datagram comes from the bound peer's address and port. -/
def Controller.fromPeer (dataLink : DataLink) (fromAddress : Octets) (fromPort : UInt16)
    (c : Controller) : Bool :=
  c.peer.bound &&
    fromAddress.take (transportAddressLength dataLink) ==
      c.peer.connectionString.take (transportAddressLength dataLink) &&
    fromPort == c.peer.port dataLink

/-- `HandleReplyFromPeer`. -/
def handleReplyFromPeer (dataLink : DataLink) (now : Time) (message fromAddress : Octets)
    (fromPort : UInt16) (c : Controller) : Access Controller :=
  if !c.fromPeer dataLink fromAddress fromPort then .ok c
  else do
    match ← apduStart dataLink message with
    | none => return c
    | some position => handleApdu now (message.drop position) c

/-! ## The deferred restart -/

inductive RestartKind
  | cold
  | warm
deriving DecidableEq, Repr

/-- What the main loop's restart block does to this part of the device: a COLDSTART gives
`g_analogValue1Value` its start-up value. -/
def restart (kind : RestartKind) (c : Controller) : Controller :=
  match kind with
  | .cold => { c with analogValue1Value := powerOnValue }
  | .warm => c

/-! ## Events -/

/-- What can happen to the controller. -/
inductive Event
  | iAm (now : Time) (deviceIdentifier : UInt32) (connectionString : Octets)
    (sourceNetwork : UInt16)
  | tick (now : Time) (invokeId : Option UInt8)
  | datagram (now : Time) (message fromAddress : Octets) (fromPort : UInt16)
  | restart (kind : RestartKind)
deriving DecidableEq, Repr

/-- The controller after an event. -/
def Controller.step (dataLink : DataLink) (c : Controller) : Event → Access Controller
  | .iAm now deviceIdentifier connectionString sourceNetwork =>
    .ok (hookIAm dataLink now deviceIdentifier connectionString sourceNetwork c)
  | .tick now invokeId => .ok (pollPeer dataLink now invokeId c).1
  | .datagram now message fromAddress fromPort =>
    handleReplyFromPeer dataLink now message fromAddress fromPort c
  | .restart kind => .ok (BacnetBc.restart kind c)

end BacnetBc
