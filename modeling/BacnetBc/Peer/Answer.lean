import BacnetBc.Peer.Controller
import Mathlib.Data.List.GetD

/-!
# What a received datagram does

`HandleReplyFromPeer` walks headers and tags through loops and checks. This file says once what
comes out of it:

* `apduAt` is the APDU of a datagram, behind the headers.
* `Controller.taken` is the APDU of a datagram that is taken as an answer: it comes from the bound
  peer, and its second octet is the invoke id of an outstanding read.
* `Controller.answerTo` says which of five answers it is, and `Answer.apply` what that answer does.

**Theorem (`handleReplyFromPeer_eq`).** A datagram that is not taken changes nothing. One that is
taken ends the read it answers, and then does what its answer does.

**Theorem (`handleReplyFromPeer_inside`).** No index leaves the datagram, and every loop comes to
its end.

Both ACK loops are read off the list of tags: the value that counts in a ReadProperty-ACK is the one
behind the first opening tag 3 (`readPropertyAckReal`), and in a ReadPropertyMultiple-ACK the last
member of each property (`multipleReading`).
-/

namespace BacnetBc

open Memory

/-! ## The tags of the two ACKs -/

namespace Tag

/-- A context tag `number` with a value. -/
def IsContextValue (tag : Tag) (number : UInt8) : Prop :=
  tag.isContext = true ∧ tag.kind = .value ∧ tag.number = number

/-- The opening tag `number`. -/
def Opens (tag : Tag) (number : UInt8) : Prop :=
  tag.isContext = true ∧ tag.kind = .opening ∧ tag.number = number

instance (tag : Tag) (number : UInt8) : Decidable (tag.IsContextValue number) :=
  inferInstanceAs (Decidable (_ ∧ _ ∧ _))

instance (tag : Tag) (number : UInt8) : Decidable (tag.Opens number) :=
  inferInstanceAs (Decidable (_ ∧ _ ∧ _))

theorem Opens.not_isContextValue {tag : Tag} {m n : UInt8} (h : tag.Opens m) :
    ¬ tag.IsContextValue n := fun hv => by
  have := h.2.1.symm.trans hv.2.1
  cases this

end Tag

/-- The property identifier that holds after `tag`: context tag `number` gives a new one. -/
def propertyAfter (apdu : Octets) (number : UInt8) (property : UInt32) (tag : Tag) : UInt32 :=
  if tag.IsContextValue number then unsignedOf apdu tag else property

/-- The REAL behind the first opening tag 3, if the property before it is Present_Value. -/
def presentValueIn (apdu : Octets) (property : UInt32) (ts : List Tag) : Option Single :=
  match ts.dropWhile fun tag => ¬ tag.Opens 3 with
  | _ :: valueTag :: _ =>
    if (ts.takeWhile fun tag => ¬ tag.Opens 3).foldl (propertyAfter apdu 1) property =
        propertyIdentifierPresentValue then realOf apdu valueTag
    else none
  | _ => none

/-- The Present_Value that a ReadProperty-ACK carries. -/
def readPropertyAckReal (apdu : Octets) : Option Single := presentValueIn apdu 0 (tags apdu 3)

/-- The members of a ReadPropertyMultiple-ACK that carry a value: the property, and the tag behind
the opening tag 4. -/
def membersIn (apdu : Octets) : UInt32 → List Tag → List (UInt32 × Tag)
  | _, [] => []
  | property, tag :: rest =>
    if tag.Opens 4 then rest.head?.toList.map (property, ·) ++ membersIn apdu property rest
    else membersIn apdu (propertyAfter apdu 2 property tag) rest

/-- A member replaces what an earlier member of its property gave. -/
def MultipleReading.absorb (apdu : Octets) (r : MultipleReading) (m : UInt32 × Tag) :
    MultipleReading :=
  if m.1 = propertyIdentifierPresentValue then { r with humidity := realOf apdu m.2 }
  else if m.1 = propertyIdentifierStatusFlags then { r with fault := faultOf apdu m.2 }
  else r

/-- The Present_Value and the FAULT bit that a ReadPropertyMultiple-ACK carries. -/
def multipleReading (apdu : Octets) : MultipleReading :=
  (membersIn apdu 0 (tags apdu 3)).foldl (MultipleReading.absorb apdu) ⟨none, none⟩

/-! ## The loops -/

theorem takeReadPropertyValue_eq {apdu : Octets} {position : Nat} {tag : Tag}
    (h : tagAt apdu position = some tag) (ho : tag.Opens 3) (property : UInt32) (c : Controller) :
    takeReadPropertyValue apdu tag property c =
      .ok (match presentValueIn apdu property (tags apdu position) with
        | some humidity =>
          if c.peer.sensorFaultReported then c
          else setDiamondReliability .noFaultDetected (updateDiamondFromPeer humidity c)
        | none => c) := by
  have hts : tags apdu position = tag :: tags apdu tag.next := by rw [tags_eq, h]
  have hdrop : (tags apdu position).dropWhile (fun tag => ¬ tag.Opens 3) =
      tag :: tags apdu tag.next := by rw [hts, List.dropWhile_cons_of_neg (by simpa using ho)]
  have htake : (tags apdu position).takeWhile (fun tag => ¬ tag.Opens 3) = [] := by
    rw [hts, List.takeWhile_cons_of_neg (by simpa using ho)]
  unfold takeReadPropertyValue presentValueIn
  rw [hdrop, htake, List.foldl_nil, readTag_eq]
  cases hv : tagAt apdu tag.next with
  | none =>
    have hrest : tags apdu tag.next = [] := by rw [tags_eq, hv]
    rw [hrest]
    split_ifs <;> rfl
  | some valueTag =>
    have hrest : tags apdu tag.next = valueTag :: tags apdu valueTag.next := by rw [tags_eq, hv]
    rw [hrest]
    by_cases hp : property = propertyIdentifierPresentValue
    · simp only [if_pos hp, bind, Except.bind, contentReal_eq hv]
      cases realOf apdu valueTag with
      | none => rfl
      | some humidity => cases c.peer.sensorFaultReported <;> rfl
    · simp only [if_neg hp]

theorem presentValueIn_cons {apdu : Octets} {tag : Tag} (h : ¬ tag.Opens 3) (property : UInt32)
    (ts : List Tag) :
    presentValueIn apdu property (tag :: ts) =
      presentValueIn apdu (propertyAfter apdu 1 property tag) ts := by
  unfold presentValueIn
  rw [List.dropWhile_cons_of_pos (by simpa using h), List.takeWhile_cons_of_pos (by simpa using h),
    List.foldl_cons]

theorem tagAt_of_length_le {octets : Octets} {position : Nat} (h : octets.length ≤ position) :
    tagAt octets position = none := by
  by_contra hne
  obtain ⟨tag, htag⟩ := Option.ne_none_iff_exists'.1 hne
  obtain ⟨hlt, hnext, hle⟩ := tagAt_bounds htag
  omega

theorem readPropertyAckLoop_eq {apdu : Octets} (c : Controller) {fuel position : Nat}
    (h : apdu.length ≤ fuel + position) (property : UInt32) :
    readPropertyAckLoop apdu c (fuel + 1) position property =
      .ok (match presentValueIn apdu property (tags apdu position) with
        | some humidity =>
          if c.peer.sensorFaultReported then c
          else setDiamondReliability .noFaultDetected (updateDiamondFromPeer humidity c)
        | none => c) := by
  induction fuel generalizing position property with
  | zero =>
    rw [readPropertyAckLoop, readTag_eq, tagAt_of_length_le (by omega), tags_eq,
      tagAt_of_length_le (by omega)]
    rfl
  | succ fuel ih =>
    rw [readPropertyAckLoop, readTag_eq]
    cases htag : tagAt apdu position with
    | none =>
      rw [tags_eq, htag]
      rfl
    | some tag =>
      have hnext : apdu.length ≤ fuel + tag.next := by
        have hw := tagAt_bounds htag
        have := hw.lt_content
        have := hw.next_eq
        omega
      have hts : tags apdu position = tag :: tags apdu tag.next := by rw [tags_eq, htag]
      simp only [bind, Except.bind]
      change (if tag.IsContextValue 1 then _ else _) = _
      by_cases hv : tag.IsContextValue 1
      · have ho : ¬ tag.Opens 3 := fun ho => ho.not_isContextValue hv
        rw [if_pos hv, contentUnsigned_eq htag, hts, presentValueIn_cons ho,
          propertyAfter, if_pos hv]
        change (if tag.Opens 3 then _ else _) = _
        rw [if_neg ho]
        exact ih hnext _
      · rw [if_neg hv]
        change (if tag.Opens 3 then _ else _) = _
        by_cases ho : tag.Opens 3
        · rw [if_pos ho]
          exact takeReadPropertyValue_eq htag ho property c
        · rw [if_neg ho, hts, presentValueIn_cons ho, propertyAfter, if_neg hv]
          exact ih hnext property

theorem handleReadPropertyAck_eq (apdu : Octets) (c : Controller) :
    handleReadPropertyAck apdu c =
      .ok (match readPropertyAckReal apdu with
        | some humidity =>
          if c.peer.sensorFaultReported then c
          else setDiamondReliability .noFaultDetected (updateDiamondFromPeer humidity c)
        | none => c) :=
  readPropertyAckLoop_eq c (by omega) 0

theorem readMember_eq (apdu : Octets) (tag : Tag) (property : UInt32) (r : MultipleReading) :
    readMember apdu tag property r =
      .ok (((tags apdu tag.next).head?.toList.map (property, ·)).foldl
        (MultipleReading.absorb apdu) r) := by
  rw [readMember, readTag_eq, head?_tags]
  cases hv : tagAt apdu tag.next with
  | none => rfl
  | some valueTag =>
    simp only [Option.toList_some, List.map_cons, List.map_nil, List.foldl_cons, List.foldl_nil,
      MultipleReading.absorb, bind, Except.bind]
    split_ifs
    · rw [contentReal_eq hv]
      rfl
    · rw [contentStatusFlagsFault_eq hv]
      rfl
    · rfl

theorem readPropertyMultipleAckLoop_eq {apdu : Octets} {fuel position : Nat}
    (h : apdu.length ≤ fuel + position) (property : UInt32) (r : MultipleReading) :
    readPropertyMultipleAckLoop apdu (fuel + 1) position property r =
      .ok ((membersIn apdu property (tags apdu position)).foldl
        (MultipleReading.absorb apdu) r) := by
  induction fuel generalizing position property r with
  | zero =>
    rw [readPropertyMultipleAckLoop, readTag_eq, tagAt_of_length_le (by omega), tags_eq,
      tagAt_of_length_le (by omega)]
    rfl
  | succ fuel ih =>
    rw [readPropertyMultipleAckLoop, readTag_eq]
    cases htag : tagAt apdu position with
    | none =>
      rw [tags_eq, htag]
      rfl
    | some tag =>
      have hnext : apdu.length ≤ fuel + tag.next := by
        have hw := tagAt_bounds htag
        have := hw.lt_content
        have := hw.next_eq
        omega
      have hts : tags apdu position = tag :: tags apdu tag.next := by rw [tags_eq, htag]
      simp only [bind, Except.bind]
      change (if tag.IsContextValue 2 then _ else if tag.Opens 4 then _ else _) = _
      rw [hts, membersIn]
      by_cases hv : tag.IsContextValue 2
      · have ho : ¬ tag.Opens 4 := fun ho => ho.not_isContextValue hv
        rw [if_pos hv, if_neg ho, contentUnsigned_eq htag, propertyAfter, if_pos hv]
        exact ih hnext _ r
      · rw [if_neg hv]
        by_cases ho : tag.Opens 4
        · rw [if_pos ho, if_pos ho, readMember_eq, List.foldl_append]
          exact ih hnext property _
        · rw [if_neg ho, if_neg ho, propertyAfter, if_neg hv]
          exact ih hnext property r

/-- A ReadPropertyMultiple-ACK with both members: what the peer says of its sensor, and the reading
if that is good. -/
def takeMultipleReading (humidity : Single) (fault : Bool) (c : Controller) : Controller :=
  let c := { c with peer := { c.peer with sensorFaultReported := fault } }
  if fault then setDiamondReliability .unreliableOther c
  else setDiamondReliability .noFaultDetected (updateDiamondFromPeer humidity c)

theorem handleReadPropertyMultipleAck_eq (apdu : Octets) (c : Controller) :
    handleReadPropertyMultipleAck apdu c =
      .ok (match multipleReading apdu with
        | ⟨some humidity, some fault⟩ => takeMultipleReading humidity fault c
        | _ => c) := by
  have hloop := @readPropertyMultipleAckLoop_eq apdu apdu.length 3 (by omega) 0 ⟨none, none⟩
  rw [handleReadPropertyMultipleAck, hloop]
  change (match multipleReading apdu with | ⟨some humidity, some fault⟩ => _ | _ => _) = _
  rcases multipleReading apdu with ⟨_ | humidity, _ | fault⟩
  · rfl
  · rfl
  · rfl
  · cases fault <;> rfl

/-! ## The headers -/

theorem bvllLength_spec (dataLink : DataLink) (message : Octets) :
    ∃ r, bvllLength dataLink message = .ok r := by
  unfold bvllLength
  have hpos : 4 ≤ if dataLink = .ipv6 then 10 else 4 := by split_ifs <;> omega
  by_cases h : message.length < if dataLink = .ipv6 then 10 else 4
  · exact ⟨none, by simp only [h, if_true]⟩
  · simp only [h, if_false, read_of_lt (show 0 < message.length by omega),
      read_of_lt (show 1 < message.length by omega), bind, Except.bind, pure, Except.pure]
    split_ifs <;> exact ⟨_, rfl⟩

theorem skipAddress_spec (message : Octets) (present : Bool) (position : Nat) :
    ∃ r, skipAddress message present position = .ok r := by
  unfold skipAddress
  cases present with
  | false => exact ⟨_, rfl⟩
  | true =>
    simp only [if_true]
    by_cases h : message.length < position + 3
    · exact ⟨none, by rw [if_pos h]⟩
    · rw [if_neg h, read_of_lt (by omega)]
      exact ⟨_, rfl⟩

theorem apduStart_spec (dataLink : DataLink) (message : Octets) :
    ∃ r, apduStart dataLink message = .ok r ∧
      ∀ position, r = some position → position + 3 ≤ message.length := by
  unfold apduStart
  obtain ⟨rb, hrb⟩ := bvllLength_spec dataLink message
  rw [hrb]
  simp only [bind, Except.bind, pure, Except.pure]
  cases rb with
  | none => exact ⟨none, rfl, by simp⟩
  | some position =>
    by_cases h2 : message.length < position + 2
    · exact ⟨none, by simp only [h2, if_true], by simp⟩
    · have hversion : position < message.length := by omega
      have hcontrol : position + 1 < message.length := by omega
      simp only [h2, if_false, read_of_lt hversion, read_of_lt hcontrol]
      generalize message[position + 1] = control
      split
      · exact ⟨none, rfl, by simp⟩
      · split
        · exact ⟨none, rfl, by simp⟩
        · obtain ⟨rd, hrd⟩ := skipAddress_spec message (control &&& 0x20 != 0) (position + 2)
          rw [hrd]
          cases rd with
          | none => exact ⟨none, rfl, by simp⟩
          | some afterD =>
            obtain ⟨rs, hrs⟩ := skipAddress_spec message (control &&& 0x08 != 0) afterD
            simp only [hrs]
            cases rs with
            | none => exact ⟨none, rfl, by simp⟩
            | some afterS =>
              simp only
              generalize (if (control &&& 0x20 != 0) = true then afterS + 1 else afterS) = start
              by_cases h3 : message.length < start + 3
              · exact ⟨none, by rw [if_pos h3], by simp⟩
              · refine ⟨some start, by rw [if_neg h3], ?_⟩
                intro p hp
                obtain rfl := Option.some.inj hp
                omega

/-- The APDU of a datagram: the octets behind the headers of an Original-Unicast-NPDU that is not a
network layer message, if there are three or more. -/
def apduAt (dataLink : DataLink) (message : Octets) : Option Octets :=
  match apduStart dataLink message with
  | .ok (some position) => some (message.drop position)
  | _ => none

/-! ## Answers -/

/-- What an answer to an outstanding read is. -/
inductive Answer
  /-- Reject unrecognized-service to a ReadPropertyMultiple. -/
  | unsupported
  /-- Anything but an unsegmented ComplexACK. -/
  | noValue
  /-- A ReadProperty-ACK with a Present_Value, while the sensor is not known to be faulty. -/
  | reading (humidity : Single)
  /-- A ReadPropertyMultiple-ACK with Present_Value and Status_Flags. -/
  | multiple (humidity : Single) (fault : Bool)
  /-- An ACK that gives nothing. -/
  | ignored
deriving DecidableEq, Repr

/-- What the answer does, once the read is no longer outstanding. -/
def Answer.apply (c : Controller) : Answer → Controller
  | unsupported => { c with peer :=
      { c.peer with readPropertyMultipleUnsupported := true, sensorFaultReported := false } }
  | noValue => setDiamondReliability .unreliableOther c
  | reading humidity => setDiamondReliability .noFaultDetected (updateDiamondFromPeer humidity c)
  | multiple humidity fault => takeMultipleReading humidity fault c
  | ignored => c

/-- The PDU type of an APDU. -/
def pduType (apdu : Octets) : UInt8 := apdu.getD 0 0 >>> 4

/-- The second octet of an APDU: the invoke id, in a response. -/
def invokeIdOf (apdu : Octets) : UInt8 := apdu.getD 1 0

/-- The third octet of an APDU: the service choice of an ACK, the reason of a Reject. -/
def serviceOf (apdu : Octets) : UInt8 := apdu.getD 2 0

/-- An unsegmented ComplexACK. -/
def isUnsegmentedComplexAck (apdu : Octets) : Bool :=
  pduType apdu == 3 && !(apdu.getD 0 0 &&& 0x08 != 0)

namespace Controller

/-- Some read with this invoke id is outstanding. -/
def awaits (c : Controller) (invokeId : UInt8) : Bool :=
  c.awaitsReadProperty invokeId || c.awaitsReadPropertyMultiple invokeId

/-- Reject unrecognized-service to an outstanding ReadPropertyMultiple. -/
def isFallback (c : Controller) (apdu : Octets) : Bool :=
  c.awaitsReadPropertyMultiple (invokeIdOf apdu) && pduType apdu == 6 && serviceOf apdu == 9

/-- The ACK answers an outstanding ReadProperty. -/
def acksReadProperty (c : Controller) (apdu : Octets) : Bool :=
  c.awaitsReadProperty (invokeIdOf apdu) && serviceOf apdu == serviceReadProperty

/-- The ACK answers an outstanding ReadPropertyMultiple. -/
def acksReadPropertyMultiple (c : Controller) (apdu : Octets) : Bool :=
  c.awaitsReadPropertyMultiple (invokeIdOf apdu) && serviceOf apdu == serviceReadPropertyMultiple

/-- Which answer the APDU is. -/
def answerTo (c : Controller) (apdu : Octets) : Answer :=
  if c.isFallback apdu then .unsupported
  else if !isUnsegmentedComplexAck apdu then .noValue
  else if c.acksReadProperty apdu then
    match readPropertyAckReal apdu with
    | some humidity => if c.peer.sensorFaultReported then .ignored else .reading humidity
    | none => .ignored
  else if c.acksReadPropertyMultiple apdu then
    match multipleReading apdu with
    | ⟨some humidity, some fault⟩ => .multiple humidity fault
    | _ => .ignored
  else .ignored

/-- The APDU of a datagram that is taken as an answer. -/
def taken (dataLink : DataLink) (message fromAddress : Octets) (fromPort : UInt16)
    (c : Controller) : Option Octets :=
  if c.fromPeer dataLink fromAddress fromPort then
    (apduAt dataLink message).filter fun apdu => c.awaits (invokeIdOf apdu)
  else none

/-- The controller after an answer. -/
def afterAnswer (now : Time) (apdu : Octets) (c : Controller) : Controller :=
  (c.answerTo apdu).apply (c.answered now (invokeIdOf apdu))

@[simp] theorem answered_sensorFaultReported (c : Controller) (now : Time) (invokeId : UInt8) :
    (c.answered now invokeId).peer.sensorFaultReported = c.peer.sensorFaultReported := by
  unfold answered
  split_ifs <;> rfl

@[simp] theorem answered_bound (c : Controller) (now : Time) (invokeId : UInt8) :
    (c.answered now invokeId).peer.bound = c.peer.bound := by
  unfold answered
  split_ifs <;> rfl

@[simp] theorem answered_lastAnswer (c : Controller) (now : Time) (invokeId : UInt8) :
    (c.answered now invokeId).peer.lastAnswer = now := by
  unfold answered
  split_ifs <;> rfl

@[simp] theorem answered_diamondReliability (c : Controller) (now : Time) (invokeId : UInt8) :
    (c.answered now invokeId).diamondReliability = c.diamondReliability := rfl

@[simp] theorem answered_analogValue1Value (c : Controller) (now : Time) (invokeId : UInt8) :
    (c.answered now invokeId).analogValue1Value = c.analogValue1Value := rfl

end Controller

/-- What an answer does to the peer's record, beyond the end of the read. -/
theorem Answer.apply_peer (c : Controller) (a : Answer) :
    (a.apply c).peer = { c.peer with
      readPropertyMultipleUnsupported := (a.apply c).peer.readPropertyMultipleUnsupported
      sensorFaultReported := (a.apply c).peer.sensorFaultReported } := by
  cases a with
  | unsupported | ignored => rfl
  | noValue | reading humidity => simp [Answer.apply]
  | multiple humidity fault => cases fault <;> simp [Answer.apply, takeMultipleReading]

/-- What is left of the peer's record when an answer was taken. -/
theorem Controller.afterAnswer_peer (now : Time) (apdu : Octets) (c : Controller) :
    (c.afterAnswer now apdu).peer = { (c.answered now (invokeIdOf apdu)).peer with
      readPropertyMultipleUnsupported :=
        (c.afterAnswer now apdu).peer.readPropertyMultipleUnsupported
      sensorFaultReported := (c.afterAnswer now apdu).peer.sensorFaultReported } :=
  Answer.apply_peer _ _

theorem handleApdu_eq {apdu : Octets} (h : 3 ≤ apdu.length) (now : Time) (c : Controller) :
    handleApdu now apdu c =
      .ok (if c.awaits (invokeIdOf apdu) then c.afterAnswer now apdu else c) := by
  have h0 : read apdu 0 = .ok (apdu.getD 0 0) := by
    rw [read_of_lt (by omega), List.getD_eq_getElem _ _ (by omega)]
  have h1 : read apdu 1 = .ok (apdu.getD 1 0) := by
    rw [read_of_lt (by omega), List.getD_eq_getElem _ _ (by omega)]
  have h2 : read apdu 2 = .ok (apdu.getD 2 0) := by
    rw [read_of_lt (by omega), List.getD_eq_getElem _ _ (by omega)]
  simp only [handleApdu, h0, h1, h2, bind, Except.bind, pure, Except.pure]
  change (if (!c.awaitsReadProperty (invokeIdOf apdu) &&
    !c.awaitsReadPropertyMultiple (invokeIdOf apdu)) = true then _ else _) = _
  by_cases ha : c.awaits (invokeIdOf apdu) = true
  · have hn : (!c.awaitsReadProperty (invokeIdOf apdu) &&
        !c.awaitsReadPropertyMultiple (invokeIdOf apdu)) = false := by
      simpa [Controller.awaits, ← Bool.not_or] using ha
    rw [if_pos ha, hn, Controller.afterAnswer, Controller.answerTo]
    simp only [Bool.false_eq_true, if_false]
    change (if c.isFallback apdu = true then _ else _) = _
    by_cases hf : c.isFallback apdu = true
    · rw [if_pos hf, if_pos hf]
      rfl
    · rw [if_neg hf, if_neg hf]
      have hack : (pduType apdu != 3 || apdu.getD 0 0 &&& 0x08 != 0) =
          !isUnsegmentedComplexAck apdu := by
        simp only [isUnsegmentedComplexAck, Bool.not_and, Bool.not_not]
        rfl
      change (if (pduType apdu != 3 || apdu.getD 0 0 &&& 0x08 != 0) = true then _ else _) = _
      rw [hack]
      by_cases hs : (!isUnsegmentedComplexAck apdu) = true
      · rw [if_pos hs, if_pos hs]
        rfl
      · rw [if_neg hs, if_neg hs]
        change (if c.acksReadProperty apdu = true then _
          else if c.acksReadPropertyMultiple apdu = true then _ else _) = _
        by_cases hrp : c.acksReadProperty apdu = true
        · rw [if_pos hrp, if_pos hrp, handleReadPropertyAck_eq]
          cases readPropertyAckReal apdu with
          | none => rfl
          | some humidity =>
            simp only
            rw [show (c.answered now (apdu.getD 1 0)).peer.sensorFaultReported =
              c.peer.sensorFaultReported from c.answered_sensorFaultReported now _]
            cases c.peer.sensorFaultReported <;> rfl
        · rw [if_neg hrp, if_neg hrp]
          by_cases hrpm : c.acksReadPropertyMultiple apdu = true
          · rw [if_pos hrpm, if_pos hrpm, handleReadPropertyMultipleAck_eq]
            rcases multipleReading apdu with ⟨_ | humidity, _ | fault⟩ <;> rfl
          · rw [if_neg hrpm, if_neg hrpm]
            rfl
  · have hn : (!c.awaitsReadProperty (invokeIdOf apdu) &&
        !c.awaitsReadPropertyMultiple (invokeIdOf apdu)) = true := by
      simpa [Controller.awaits, ← Bool.not_or] using ha
    rw [if_neg ha, if_pos hn]

/-- **What a received datagram does.** -/
theorem handleReplyFromPeer_eq (dataLink : DataLink) (now : Time) (message fromAddress : Octets)
    (fromPort : UInt16) (c : Controller) :
    handleReplyFromPeer dataLink now message fromAddress fromPort c =
      .ok (match c.taken dataLink message fromAddress fromPort with
        | some apdu => c.afterAnswer now apdu
        | none => c) := by
  unfold handleReplyFromPeer Controller.taken
  cases hp : c.fromPeer dataLink fromAddress fromPort with
  | false => rfl
  | true =>
    obtain ⟨r, hr, hlen⟩ := apduStart_spec dataLink message
    simp only [Bool.not_true, Bool.false_eq_true, if_false, if_true, apduAt, hr, bind, Except.bind]
    cases r with
    | none => rfl
    | some position =>
      have h3 : 3 ≤ (message.drop position).length := by
        have := hlen position rfl
        rw [List.length_drop]
        omega
      simp only [handleApdu_eq h3, Option.filter]
      by_cases ha : c.awaits (invokeIdOf (message.drop position)) = true
      · rw [if_pos ha, if_pos ha]
      · rw [if_neg ha, if_neg ha]

theorem taken_eq_some_iff {dataLink : DataLink} {message fromAddress apdu : Octets}
    {fromPort : UInt16} {c : Controller} :
    c.taken dataLink message fromAddress fromPort = some apdu ↔
      c.fromPeer dataLink fromAddress fromPort = true ∧ apduAt dataLink message = some apdu ∧
        c.awaits (invokeIdOf apdu) = true := by
  unfold Controller.taken
  split_ifs with hp
  · simp [hp, Option.filter_eq_some_iff]
  · simp [hp]

/-- **Every read stays inside the datagram, and every loop comes to its end**, whatever the datagram
and the state. A tag that is read has its content behind its header and inside the buffer. -/
theorem handleReplyFromPeer_inside (dataLink : DataLink) (now : Time) (message fromAddress : Octets)
    (fromPort : UInt16) (c : Controller) :
    (∃ c', handleReplyFromPeer dataLink now message fromAddress fromPort c = .ok c') ∧
      ∀ octets position, ∃ r, readTag octets position = .ok r ∧ ∀ tag, r = some tag →
        position < tag.content ∧ tag.content ≤ tag.next ∧ tag.next ≤ octets.length := by
  refine ⟨⟨_, handleReplyFromPeer_eq dataLink now message fromAddress fromPort c⟩, ?_⟩
  intro octets position
  obtain ⟨r, hr, hwithin⟩ := readTag_spec octets position
  refine ⟨r, hr, ?_⟩
  intro tag htag
  obtain ⟨hlt, hnext, hle⟩ := hwithin tag htag
  exact ⟨hlt, by omega, hle⟩

/-- No step of the controller has a fault. -/
theorem exists_step (dataLink : DataLink) (c : Controller) (event : Event) :
    ∃ c', c.step dataLink event = .ok c' := by
  cases event with
  | iAm | tick | restart => exact ⟨_, rfl⟩
  | datagram now message fromAddress fromPort =>
    exact ⟨_, handleReplyFromPeer_eq dataLink now message fromAddress fromPort c⟩

end BacnetBc
