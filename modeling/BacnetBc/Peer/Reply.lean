import BacnetBc.Lib.Trajectory
import BacnetBc.Peer.Answer

/-!
# Which datagrams count as an answer, and what they leave behind

`HandleReplyFromPeer` is to leave "anything that is not an answer from the peer to one of our two
reads" to the stack alone, and Diamond's Reliability is to say how the last read went:
no-fault-detected after a good value, unreliable-other after any other answer.

**Theorem (`answersOnly_iff`).** Only a response with the invoke id of an outstanding read is taken,
unless the peer sends a PDU that is no response and whose second octet happens to be such an invoke
id: the PDU type is not looked at.

**Theorem (`reliability_of_answer_iff`).** A taken answer leaves the Reliability that it stands for,
unless it is an ACK that `isSilent` describes: that one leaves the Reliability of before, whatever
it was.
-/

namespace BacnetBc

open Memory

/-- A state that some run of events leads to. -/
def Controller.Reachable (dataLink : DataLink) (c : Controller) : Prop :=
  ∃ events, Trajectory.final (Controller.step dataLink) .initial events = .ok c

/-! ## Responses and requests -/

/-- SimpleACK, ComplexACK, SegmentACK, Error, Reject or Abort. -/
def IsResponse (apdu : Octets) : Prop := 2 ≤ pduType apdu ∧ pduType apdu ≤ 7

instance (apdu : Octets) : Decidable (IsResponse apdu) := inferInstanceAs (Decidable (_ ∧ _))

/-- The datagram changes nothing, or it is a response that carries the invoke id of an outstanding
read. -/
def AnswersOnly (dataLink : DataLink) (now : Time) (message fromAddress : Octets)
    (fromPort : UInt16) (c : Controller) : Prop :=
  handleReplyFromPeer dataLink now message fromAddress fromPort c = .ok c ∨
    ∃ apdu, apduAt dataLink message = some apdu ∧ IsResponse apdu ∧ c.awaits (invokeIdOf apdu) =
      true

/-- The peer sends a PDU that is no response, and its second octet is the invoke id of an
outstanding read. -/
def CollidingRequest (dataLink : DataLink) (message fromAddress : Octets) (fromPort : UInt16)
    (c : Controller) : Prop :=
  c.fromPeer dataLink fromAddress fromPort = true ∧
    ∃ apdu, apduAt dataLink message = some apdu ∧ ¬ IsResponse apdu ∧
      c.awaits (invokeIdOf apdu) = true

/-- A taken answer ends the read it answers. -/
theorem afterAnswer_ne {c : Controller} {apdu : Octets} (h : c.awaits (invokeIdOf apdu) = true)
    (now : Time) : c.afterAnswer now apdu ≠ c := by
  intro heq
  have hpeer := Controller.afterAnswer_peer now apdu c
  rw [heq] at hpeer
  have hrp := congrArg RemotePeer.readPropertyPending hpeer
  have hrpm := congrArg RemotePeer.readPropertyMultiplePending hpeer
  by_cases ha : c.awaitsReadProperty (invokeIdOf apdu) = true
  · have hp : c.peer.readPropertyPending = true := (Bool.and_eq_true _ _ ▸ ha).1
    simp [Controller.answered, ha, hp] at hrp
  · have hm : c.awaitsReadPropertyMultiple (invokeIdOf apdu) = true := by
      simpa [Controller.awaits, ha] using h
    have hp : c.peer.readPropertyMultiplePending = true := (Bool.and_eq_true _ _ ▸ hm).1
    simp [Controller.answered, ha, hp] at hrpm

/-- **Only responses are taken, as long as no request collides.** -/
theorem answersOnly_iff (dataLink : DataLink) (now : Time) (message fromAddress : Octets)
    (fromPort : UInt16) (c : Controller) :
    AnswersOnly dataLink now message fromAddress fromPort c ↔
      ¬ CollidingRequest dataLink message fromAddress fromPort c := by
  constructor
  · rintro (hsame | ⟨apdu, ha, hres, -⟩) ⟨hp, apdu', ha', hreq, hw⟩
    · rw [handleReplyFromPeer_eq, taken_eq_some_iff.2 ⟨hp, ha', hw⟩] at hsame
      exact afterAnswer_ne hw now (Except.ok.inj hsame)
    · obtain rfl := Option.some.inj (ha.symm.trans ha')
      exact hreq hres
  · intro h
    cases ht : c.taken dataLink message fromAddress fromPort with
    | none => exact Or.inl (by rw [handleReplyFromPeer_eq, ht])
    | some apdu =>
      obtain ⟨hp, ha, hw⟩ := taken_eq_some_iff.1 ht
      by_cases hres : IsResponse apdu
      · exact Or.inr ⟨apdu, ha, hres, hw⟩
      · exact absurd ⟨hp, apdu, ha, hres, hw⟩ h

/-! ### A unicast I-Am that collides -/

/-- The peer's transport address. -/
def peerAddress : Octets := [192, 168, 1, 20]

/-- The peer's transport address and port 0xBAC0. -/
def peerConnectionString : Octets := peerAddress ++ [0xBA, 0xC0]

/-- Bound, and the first ReadProperty went out with invoke id 0. -/
def firstPoll : List Event :=
  [.iAm 0 remoteDeviceInstance peerConnectionString 0, .tick 0 (some 0)]

/-- The state after `firstPoll`. -/
def polling : Controller :=
  { Controller.initial with peer :=
    { Controller.initial.peer with
      bound := true
      connectionString := peerConnectionString ++ List.replicate 12 0
      readPropertyPending := true
      pollCount := 1 } }

/-- The I-Am of device 389002 in an Original-Unicast-NPDU. -/
def unicastIAm : Octets :=
  [0x81, 0x0A, 0x00, 0x15, 0x01, 0x00, 0x10, 0x00, 0xC4, 0x02, 0x05, 0xEF, 0x8A, 0x22, 0x05, 0xC4,
    0x91, 0x03, 0x22, 0x01, 0x85]

theorem reachable_polling : polling.Reachable .ipv4 := ⟨firstPoll, by decide⟩

/-- The service choice of an I-Am is 0, and so is the invoke id of the first read. -/
theorem unicastIAm_not_answersOnly :
    ¬ ∀ c : Controller, c.Reachable .ipv4 → ∀ now message fromAddress fromPort,
      AnswersOnly .ipv4 now message fromAddress fromPort c := by
  intro h
  have hapdu : apduAt .ipv4 unicastIAm = some (unicastIAm.drop 6) := by decide
  rcases h polling reachable_polling 0 unicastIAm peerAddress 0xBAC0 with hsame |
    ⟨apdu, ha, hres, -⟩
  · revert hsame
    decide
  · obtain rfl := Option.some.inj (hapdu.symm.trans ha)
    revert hres
    decide

/-! ## The Reliability an answer leaves -/

/-- The answer is an unsegmented ComplexACK of the service that was asked for, it carries a REAL
Present_Value, and the peer's sensor is not known to be faulty. -/
def Controller.isUsable (c : Controller) (apdu : Octets) : Bool :=
  isUnsegmentedComplexAck apdu &&
    if c.acksReadProperty apdu then
      (readPropertyAckReal apdu).isSome && !c.peer.sensorFaultReported
    else
      c.acksReadPropertyMultiple apdu && (multipleReading apdu).humidity.isSome &&
        (multipleReading apdu).fault == some false

/-- The ACKs that `HandleReplyFromPeer` passes over: a ReadProperty-ACK without a REAL Present_Value
or from a peer whose sensor is known to be faulty, a ReadPropertyMultiple-ACK that lacks one of its
two members, and an ACK of another service. -/
def Controller.isSilent (c : Controller) (apdu : Octets) : Bool :=
  isUnsegmentedComplexAck apdu &&
    if c.acksReadProperty apdu then
      (readPropertyAckReal apdu).isNone || c.peer.sensorFaultReported
    else if c.acksReadPropertyMultiple apdu then
      (multipleReading apdu).humidity.isNone || (multipleReading apdu).fault.isNone
    else true

theorem afterAnswer_diamondReliability {c : Controller} {apdu : Octets}
    (h : c.isFallback apdu = false) (now : Time) :
    (c.afterAnswer now apdu).diamondReliability =
      if c.isSilent apdu then c.diamondReliability
      else if c.isUsable apdu then .noFaultDetected else .unreliableOther := by
  unfold Controller.afterAnswer Controller.answerTo Controller.isSilent Controller.isUsable
  rw [h]
  cases isUnsegmentedComplexAck apdu with
  | false => simp [Answer.apply]
  | true =>
    cases c.acksReadProperty apdu with
    | true =>
      cases readPropertyAckReal apdu with
      | none => rfl
      | some humidity => cases c.peer.sensorFaultReported <;> simp [Answer.apply]
    | false =>
      cases c.acksReadPropertyMultiple apdu with
      | false => rfl
      | true =>
        rcases multipleReading apdu with ⟨_ | humidity, _ | fault⟩
        · rfl
        · rfl
        · rfl
        · cases fault <;> simp [Answer.apply, takeMultipleReading]

theorem Controller.isUsable_eq_false_of_isSilent {c : Controller} {apdu : Octets}
    (h : c.isSilent apdu = true) : c.isUsable apdu = false := by
  revert h
  unfold Controller.isSilent Controller.isUsable
  cases isUnsegmentedComplexAck apdu with
  | false => simp
  | true =>
    cases c.acksReadProperty apdu with
    | true =>
      cases readPropertyAckReal apdu with
      | none => simp
      | some humidity => cases c.peer.sensorFaultReported <;> simp
    | false =>
      cases c.acksReadPropertyMultiple apdu with
      | false => simp
      | true => rcases multipleReading apdu with ⟨_ | humidity, _ | fault⟩ <;> simp

/-- The datagram leaves the Reliability that the answer stands for. -/
def ReportsAnswer (dataLink : DataLink) (now : Time) (message fromAddress : Octets)
    (fromPort : UInt16) (apdu : Octets) (c : Controller) : Prop :=
  ∃ c', handleReplyFromPeer dataLink now message fromAddress fromPort c = .ok c' ∧
    c'.diamondReliability = if c.isUsable apdu then .noFaultDetected else .unreliableOther

/-- **An answer is reported, unless it is a silent one and Diamond is not unreliable-other yet.** -/
theorem reliability_of_answer_iff {dataLink : DataLink} {message fromAddress apdu : Octets}
    {fromPort : UInt16} {c : Controller}
    (ht : c.taken dataLink message fromAddress fromPort = some apdu)
    (hf : c.isFallback apdu = false) (now : Time) :
    ReportsAnswer dataLink now message fromAddress fromPort apdu c ↔
      (c.isSilent apdu = false ∨ c.diamondReliability = .unreliableOther) := by
  have heq : handleReplyFromPeer dataLink now message fromAddress fromPort c =
      .ok (c.afterAnswer now apdu) := by rw [handleReplyFromPeer_eq, ht]
  have hrel := afterAnswer_diamondReliability hf now
  constructor
  · rintro ⟨c', hc', hrep⟩
    obtain rfl := Except.ok.inj (heq.symm.trans hc')
    by_cases hs : c.isSilent apdu = true
    · rw [hrel, if_pos hs, Controller.isUsable_eq_false_of_isSilent hs] at hrep
      exact Or.inr hrep
    · exact Or.inl (by simpa using hs)
  · intro h
    refine ⟨_, heq, ?_⟩
    by_cases hs : c.isSilent apdu = true
    · have hbefore : c.diamondReliability = .unreliableOther := by simpa [hs] using h
      rw [hrel, if_pos hs, Controller.isUsable_eq_false_of_isSilent hs, hbefore]
      rfl
    · rw [hrel, if_neg hs]

/-! ### A faulty sensor that comes back from silence -/

/-- ReadPropertyMultiple-ACK, invoke id 1: Present_Value 47.0, Status_Flags with FAULT. -/
def faultAck : Octets :=
  [0x81, 0x0A, 0x00, 0x20, 0x01, 0x00, 0x30, 0x01, 0x0E, 0x0C, 0x00, 0x00, 0x00, 0x01, 0x1E,
    0x29, 0x55, 0x4E, 0x44, 0x42, 0x3C, 0x00, 0x00, 0x4F,
    0x29, 0x6F, 0x4E, 0x82, 0x04, 0x40, 0x4F, 0x1F]

/-- ReadProperty-ACK: Present_Value 47.0. -/
def readingAck (invokeId : UInt8) : Octets :=
  [0x81, 0x0A, 0x00, 0x17, 0x01, 0x00, 0x30, invokeId, 0x0C, 0x0C, 0x00, 0x00, 0x00, 0x01,
    0x19, 0x55, 0x3E, 0x44, 0x42, 0x3C, 0x00, 0x00, 0x3F]

/-- The peer reports its sensor faulty, is silent for four seconds, and is asked once more. -/
def faultThenSilence : List Event :=
  firstPoll ++
    [.tick (milliseconds 1000) (some 1),
      .datagram (milliseconds 1000) faultAck peerAddress 0xBAC0,
      .tick (milliseconds 5000) (some 2)]

/-- The state after `faultThenSilence`. -/
def silentFault : Controller :=
  { polling with
    peer := { polling.peer with
      readPropertyInvokeId := 2
      readPropertyMultipleInvokeId := 1
      pollCount := 3
      sensorFaultReported := true
      lastPoll := milliseconds 5000
      lastAnswer := milliseconds 1000 }
    diamondReliability := .communicationFailure }

theorem reachable_silentFault : silentFault.Reachable .ipv4 :=
  ⟨faultThenSilence, by decide⟩

/-- The peer has answered, and Diamond goes on to say that nothing has come back. -/
theorem readingAck_not_reported :
    ¬ ∀ c : Controller, c.Reachable .ipv4 → ∀ now message fromAddress fromPort apdu,
      c.taken .ipv4 message fromAddress fromPort = some apdu → c.isFallback apdu = false →
        ReportsAnswer .ipv4 now message fromAddress fromPort apdu c := by
  intro h
  obtain ⟨c', hc', hrep⟩ := h silentFault reachable_silentFault (milliseconds 5001) (readingAck 2)
    peerAddress 0xBAC0 ((readingAck 2).drop 6) (by decide) (by decide)
  have hfinal : handleReplyFromPeer .ipv4 (milliseconds 5001) (readingAck 2) peerAddress 0xBAC0
      silentFault = .ok { silentFault with peer := { silentFault.peer with
        readPropertyPending := false, lastAnswer := milliseconds 5001 } } := by decide
  obtain rfl := Except.ok.inj (hc'.symm.trans hfinal)
  revert hrep
  decide

/-- The first answer of all. -/
theorem reliability_of_answer_iff_polling :
    ReportsAnswer .ipv4 0 (readingAck 0) peerAddress 0xBAC0 ((readingAck 0).drop 6) polling ↔
      (polling.isSilent ((readingAck 0).drop 6) = false ∨
        polling.diamondReliability = .unreliableOther) :=
  reliability_of_answer_iff (by decide) (by decide) 0

end BacnetBc
