import BacnetBc.Peer.Diamond

/-!
# The reads and what they do to the peer's record

What the three functions that touch the record of the peer do to it, each said once:

* `pollPeer_sends`: a due poll sends the next kind of read and asks for it under its invoke id.
* `hookIAm_outcome`: an I-Am is ignored, binds the peer, or moves it to another address.
* `afterAnswer_readProperty` and `afterAnswer_readPropertyMultiple`: an answer ends its read, and
  only an answer to a ReadPropertyMultiple says anything else of the peer.
-/

namespace BacnetBc

open Memory Trajectory

/-! ## The two kinds of read -/

inductive ReadKind
  | readProperty
  | readPropertyMultiple
deriving DecidableEq, Repr

namespace ReadKind

def serviceChoice : ReadKind → UInt8
  | readProperty => serviceReadProperty
  | readPropertyMultiple => serviceReadPropertyMultiple

def other : ReadKind → ReadKind
  | readProperty => readPropertyMultiple
  | readPropertyMultiple => readProperty

/-- The Present_Value that an ACK of this kind carries. -/
def presentValue (apdu : Octets) : ReadKind → Option Single
  | readProperty => readPropertyAckReal apdu
  | readPropertyMultiple => (multipleReading apdu).humidity

end ReadKind

namespace Controller

/-- The invoke id of the outstanding read of this kind, as the peer's record has it. -/
def pendingId (c : Controller) : ReadKind → Option UInt8
  | .readProperty => if c.peer.readPropertyPending then some c.peer.readPropertyInvokeId else none
  | .readPropertyMultiple =>
    if c.peer.readPropertyMultiplePending then some c.peer.readPropertyMultipleInvokeId else none

theorem awaitsReadProperty_iff {c : Controller} {invokeId : UInt8} :
    c.awaitsReadProperty invokeId = true ↔ c.pendingId .readProperty = some invokeId := by
  simp only [awaitsReadProperty, pendingId, Bool.and_eq_true, beq_iff_eq]
  split_ifs with hp
  · simp [hp, eq_comm]
  · simp [hp]

theorem awaitsReadPropertyMultiple_iff {c : Controller} {invokeId : UInt8} :
    c.awaitsReadPropertyMultiple invokeId = true ↔
      c.pendingId .readPropertyMultiple = some invokeId := by
  simp only [awaitsReadPropertyMultiple, pendingId, Bool.and_eq_true, beq_iff_eq]
  split_ifs with hp
  · simp [hp, eq_comm]
  · simp [hp]

theorem awaits_iff {c : Controller} {invokeId : UInt8} :
    c.awaits invokeId = true ↔ ∃ kind, c.pendingId kind = some invokeId := by
  rw [awaits, Bool.or_eq_true, awaitsReadProperty_iff, awaitsReadPropertyMultiple_iff]
  constructor
  · rintro (h | h)
    · exact ⟨_, h⟩
    · exact ⟨_, h⟩
  · rintro ⟨_ | _, h⟩
    · exact Or.inl h
    · exact Or.inr h

end Controller

/-! ## What a poll sends -/

namespace Controller

/-- The silence and the interval let `PollPeer` send. -/
def isDue (c : Controller) (now : Time) : Prop :=
  c.peer.bound = true ∧
    (if millisecondsSince now c.peer.lastAnswer > remoteCommsLossMilliseconds then
      remoteLostPollIntervalMilliseconds else remotePollIntervalMilliseconds) ≤
        millisecondsSince now c.peer.lastPoll

instance (c : Controller) (now : Time) : Decidable (c.isDue now) :=
  inferInstanceAs (Decidable (_ ∧ _))

/-- The kind of the next read. -/
def nextKind (c : Controller) : ReadKind :=
  if c.peer.pollCount % 2 == 1 && !c.peer.readPropertyMultipleUnsupported then .readPropertyMultiple
  else .readProperty

end Controller

/-- The peer's record after an attempt to send a read. -/
def RemotePeer.asked (now : Time) (kind : ReadKind) (invokeId : Option UInt8) (peer : RemotePeer) :
    RemotePeer :=
  let peer := { peer with lastPoll := now, pollCount := peer.pollCount + 1 }
  match invokeId, kind with
  | none, _ => peer
  | some id, .readProperty => { peer with readPropertyInvokeId := id, readPropertyPending := true }
  | some id, .readPropertyMultiple =>
    { peer with readPropertyMultipleInvokeId := id, readPropertyMultiplePending := true }

/-- What a tick does to the peer's record, and what it sends. -/
structure PollEffect (dataLink : DataLink) (now : Time) (invokeId : Option UInt8)
    (c c' : Controller) (request : Option ReadRequest) : Prop where
  peer : c'.peer = if c.isDue now then c.peer.asked now c.nextKind invokeId else c.peer
  request_eq : request.map ReadRequest.serviceChoice =
    if c.isDue now then some c.nextKind.serviceChoice else none
  connectionString : ∀ r ∈ request,
    r.connectionString = c.peer.connectionString.take (transportConnectionStringLength dataLink)

theorem pollPeer_sends (dataLink : DataLink) (now : Time) (invokeId : Option UInt8)
    (c : Controller) : PollEffect dataLink now invokeId c (pollPeer dataLink now invokeId c).1
      (pollPeer dataLink now invokeId c).2 := by
  cases hb : c.peer.bound with
  | false =>
    have hsame : pollPeer dataLink now invokeId c = (c, none) := by simp [pollPeer, hb]
    have hdue : ¬ c.isDue now := fun h => Bool.false_ne_true (hb.symm.trans h.1)
    rw [hsame]
    exact ⟨(if_neg hdue).symm, by rw [if_neg hdue]; rfl, by simp⟩
  | true =>
    obtain ⟨c₁, hc₁⟩ : ∃ c₁, c₁ = if millisecondsSince now c.peer.lastAnswer >
        remoteCommsLossMilliseconds ∧ c.diamondReliability ≠ .communicationFailure then
        setDiamondReliability .communicationFailure c else c := ⟨_, rfl⟩
    have hpeer : c₁.peer = c.peer := by
      rw [hc₁]
      split_ifs
      · exact setDiamondReliability_peer _ _
      · rfl
    unfold pollPeer
    rw [if_neg (by simp [hb])]
    simp only [← hc₁, hpeer]
    by_cases hdue : c.isDue now
    · have hinterval : ¬ millisecondsSince now c.peer.lastPoll <
          if millisecondsSince now c.peer.lastAnswer > remoteCommsLossMilliseconds then
            remoteLostPollIntervalMilliseconds else remotePollIntervalMilliseconds :=
        Nat.not_lt.2 hdue.2
      rw [if_neg hinterval]
      cases hmultiple : c.peer.pollCount % 2 == 1 && !c.peer.readPropertyMultipleUnsupported with
      | true =>
        have hkind : c.nextKind = .readPropertyMultiple := if_pos hmultiple
        cases invokeId with
        | none => exact ⟨by rw [if_pos hdue]; rfl, by rw [if_pos hdue, hkind]; rfl, by simp⟩
        | some id =>
          exact ⟨by rw [if_pos hdue, hkind]; rfl, by rw [if_pos hdue, hkind]; rfl, by simp⟩
      | false =>
        have hkind : c.nextKind = .readProperty := if_neg (by simp [hmultiple])
        cases invokeId with
        | none => exact ⟨by rw [if_pos hdue]; rfl, by rw [if_pos hdue, hkind]; rfl, by simp⟩
        | some id =>
          exact ⟨by rw [if_pos hdue, hkind]; rfl, by rw [if_pos hdue, hkind]; rfl, by simp⟩
    · have hinterval : millisecondsSince now c.peer.lastPoll <
          if millisecondsSince now c.peer.lastAnswer > remoteCommsLossMilliseconds then
            remoteLostPollIntervalMilliseconds else remotePollIntervalMilliseconds :=
        Nat.lt_of_not_le fun h => hdue ⟨hb, h⟩
      rw [if_pos hinterval]
      exact ⟨by rw [if_neg hdue]; exact hpeer, by rw [if_neg hdue]; rfl, by simp⟩

namespace Controller

/-- The address and port that the peer is bound to. -/
def boundAddress (dataLink : DataLink) (c : Controller) : Octets :=
  c.peer.connectionString.take (transportConnectionStringLength dataLink)

end Controller

/-- What an I-Am does: nothing, the first binding, or a move to another address. -/
inductive IAmOutcome (dataLink : DataLink) (now : Time) (connectionString : Octets)
    (c : Controller) : Controller → Prop
  | ignored : IAmOutcome dataLink now connectionString c c
  | binds (hbound : c.peer.bound = false) :
      IAmOutcome dataLink now connectionString c { c with peer :=
        { c.peer with
          bound := true
          connectionString := connectionString ++
            c.peer.connectionString.drop (transportConnectionStringLength dataLink)
          readPropertyMultipleUnsupported := false
          lastAnswer := now
          lastPoll := now - milliseconds remotePollIntervalMilliseconds } }
  | moves (hbound : c.peer.bound = true) (hnew : c.boundAddress dataLink ≠ connectionString)
      (hlength : connectionString.length = transportConnectionStringLength dataLink) :
      IAmOutcome dataLink now connectionString c { c with peer :=
        { c.peer with
          connectionString := connectionString ++
            c.peer.connectionString.drop (transportConnectionStringLength dataLink)
          readPropertyMultipleUnsupported := false } }

theorem hookIAm_outcome (dataLink : DataLink) (now : Time) (deviceIdentifier : UInt32)
    (connectionString : Octets) (sourceNetwork : UInt16) (c : Controller) :
    IAmOutcome dataLink now connectionString c
      (hookIAm dataLink now deviceIdentifier connectionString sourceNetwork c) := by
  unfold hookIAm
  by_cases hskip : (!isIpDataLink dataLink || deviceIdentifier != remoteDeviceInstance ||
      sourceNetwork != 0 || connectionString.length != transportConnectionStringLength dataLink) =
        true
  · simp only [hskip, if_true]
    exact .ignored
  · have hlength : connectionString.length = transportConnectionStringLength dataLink := by
      simp only [Bool.or_eq_true, not_or, bne_iff_ne, ne_eq, not_not] at hskip
      exact hskip.2
    simp only [hskip, Bool.false_eq_true, if_false]
    by_cases hb : c.peer.bound = true
    · have hbound : (!c.peer.bound) = false := by simp [hb]
      by_cases hnew : c.boundAddress dataLink = connectionString
      · have hsame : (c.peer.connectionString.take (transportConnectionStringLength dataLink) !=
            connectionString) = false := bne_eq_false_iff_eq.2 hnew
        simp only [hbound, hsame, Bool.or_self, Bool.false_eq_true, if_false]
        exact .ignored
      · have hdiffers : (c.peer.connectionString.take (transportConnectionStringLength dataLink) !=
            connectionString) = true := bne_iff_ne.2 hnew
        simp only [hbound, hdiffers, Bool.or_true, if_true, Bool.false_eq_true, if_false]
        exact .moves hb hnew hlength
    · have hbound : (!c.peer.bound) = true := by simp [hb]
      simp only [hbound, Bool.true_or, if_true]
      exact .binds (by simpa using hb)

/-! ## What an answer leaves of the peer's record -/

/-- Reject unrecognized-service. -/
def isReject (apdu : Octets) : Bool := pduType apdu == 6 && serviceOf apdu == 9

/-- The FAULT bit in a ReadPropertyMultiple-ACK that has both members. -/
def completeFault (apdu : Octets) : Option Bool :=
  if isUnsegmentedComplexAck apdu && serviceOf apdu == serviceReadPropertyMultiple then
    match multipleReading apdu with
    | ⟨some _, some fault⟩ => some fault
    | _ => none
  else none

namespace Controller

/-- An answer to the ReadProperty alone ends it, and leaves the rest of the record. -/
theorem afterAnswer_readProperty {c : Controller} {apdu : Octets}
    (h : c.pendingId .readProperty = some (invokeIdOf apdu))
    (hother : c.pendingId .readPropertyMultiple ≠ some (invokeIdOf apdu)) (now : Time) :
    (c.afterAnswer now apdu).peer =
      { c.peer with readPropertyPending := false, lastAnswer := now } := by
  have hrp : c.awaitsReadProperty (invokeIdOf apdu) = true := awaitsReadProperty_iff.2 h
  have hrpm : c.awaitsReadPropertyMultiple (invokeIdOf apdu) = false := by
    rw [← Bool.not_eq_true, awaitsReadPropertyMultiple_iff]
    exact hother
  have hanswered : (c.answered now (invokeIdOf apdu)).peer =
      { c.peer with readPropertyPending := false, lastAnswer := now } := by
    unfold answered
    rw [if_pos hrp]
  have hanswer : ((c.answerTo apdu).apply (c.answered now (invokeIdOf apdu))).peer =
      (c.answered now (invokeIdOf apdu)).peer := by
    unfold answerTo isFallback acksReadPropertyMultiple
    rw [hrpm]
    simp only [Bool.false_and, Bool.false_eq_true, if_false]
    by_cases hack : (!isUnsegmentedComplexAck apdu) = true
    · rw [if_pos hack]
      exact setDiamondReliability_peer _ _
    · rw [if_neg hack]
      cases c.acksReadProperty apdu with
      | false => rfl
      | true =>
        cases readPropertyAckReal apdu with
        | none => rfl
        | some humidity => cases c.peer.sensorFaultReported <;> simp [Answer.apply]
  exact hanswer.trans hanswered

/-- An answer to the ReadPropertyMultiple alone ends it; a Reject and a complete ACK say something
of the peer. -/
theorem afterAnswer_readPropertyMultiple {c : Controller} {apdu : Octets}
    (h : c.pendingId .readPropertyMultiple = some (invokeIdOf apdu))
    (hother : c.pendingId .readProperty ≠ some (invokeIdOf apdu)) (now : Time) :
    (c.afterAnswer now apdu).peer = { c.peer with
      readPropertyMultiplePending := false
      lastAnswer := now
      readPropertyMultipleUnsupported := isReject apdu || c.peer.readPropertyMultipleUnsupported
      sensorFaultReported := if isReject apdu then false
        else (completeFault apdu).getD c.peer.sensorFaultReported } := by
  have hrp : c.awaitsReadProperty (invokeIdOf apdu) = false := by
    rw [← Bool.not_eq_true, awaitsReadProperty_iff]
    exact hother
  have hrpm : c.awaitsReadPropertyMultiple (invokeIdOf apdu) = true :=
    awaitsReadPropertyMultiple_iff.2 h
  have hanswered : (c.answered now (invokeIdOf apdu)).peer =
      { c.peer with readPropertyMultiplePending := false, lastAnswer := now } := by
    unfold answered
    rw [if_neg (by simp [hrp])]
  unfold afterAnswer answerTo
  have hfallback : c.isFallback apdu = isReject apdu := by
    rw [isFallback, hrpm, Bool.true_and, isReject]
  have hacks : c.acksReadProperty apdu = false := by rw [acksReadProperty, hrp, Bool.false_and]
  have hacksMultiple : c.acksReadPropertyMultiple apdu =
      (serviceOf apdu == serviceReadPropertyMultiple) := by
    rw [acksReadPropertyMultiple, hrpm, Bool.true_and]
  rw [hfallback, hacks, hacksMultiple]
  cases hreject : isReject apdu with
  | true =>
    simp only [if_true, Bool.true_or]
    show { (c.answered now (invokeIdOf apdu)).peer with
      readPropertyMultipleUnsupported := true, sensorFaultReported := false } = _
    rw [hanswered]
  | false =>
    simp only [Bool.false_eq_true, if_false, Bool.false_or, completeFault]
    cases hack : isUnsegmentedComplexAck apdu with
    | false =>
      simp only [Bool.not_false, if_true, Bool.false_and, Bool.false_eq_true, if_false,
        Option.getD_none]
      exact (setDiamondReliability_peer _ _).trans hanswered
    | true =>
      simp only [Bool.not_true, Bool.false_eq_true, if_false, Bool.true_and]
      cases hservice : serviceOf apdu == serviceReadPropertyMultiple with
      | false => exact hanswered
      | true =>
        simp only [if_true]
        rcases multipleReading apdu with ⟨_ | humidity, _ | fault⟩
        · exact hanswered
        · exact hanswered
        · exact hanswered
        · have hpeer : ((Answer.multiple humidity fault).apply
              (c.answered now (invokeIdOf apdu))).peer =
              { (c.answered now (invokeIdOf apdu)).peer with sensorFaultReported := fault } := by
            cases fault <;> simp [Answer.apply, takeMultipleReading]
          rw [hpeer, hanswered]
          rfl

end Controller

end BacnetBc
