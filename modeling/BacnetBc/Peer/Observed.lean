import BacnetBc.Peer.Reads

/-!
# The reads as an onlooker sees them

`observe` runs the controller and keeps beside its state what an onlooker of the network sees: the
last read of each kind that was sent and has no answer yet, what the last complete
ReadPropertyMultiple-ACK said of the sensor, whether the peer has turned ReadPropertyMultiple down,
and the poll attempts. The onlooker does not look at the peer's record.

**Theorem (`consistent_next`).** The record agrees with what the onlooker saw, as long as the stack
never gives two outstanding reads the same invoke id.
-/

namespace BacnetBc

open Memory Trajectory

/-! ## What an onlooker sees -/

/-- The kind of a read that was handed to the stack. -/
def ReadRequest.kind (request : ReadRequest) : ReadKind :=
  if request.serviceChoice = serviceReadPropertyMultiple then .readPropertyMultiple
  else .readProperty

namespace Controller

/-- The read that the event tries to send. -/
def attempt (dataLink : DataLink) (c : Controller) : Event → Option (Time × ReadKind)
  | .tick now invokeId => (pollPeer dataLink now invokeId c).2.map
    fun request => (now, request.kind)
  | _ => none

/-- The read that the event sends, with its invoke id. -/
def sent (dataLink : DataLink) (c : Controller) : Event → Option (ReadKind × UInt8)
  | .tick now (some id) => (pollPeer dataLink now (some id) c).2.map
    fun request => (request.kind, id)
  | _ => none

/-- The APDU of a datagram from the bound address and port. -/
def heard (dataLink : DataLink) (c : Controller) : Event → Option Octets
  | .datagram _ message fromAddress fromPort =>
    if c.fromPeer dataLink fromAddress fromPort then apduAt dataLink message else none
  | _ => none

/-- The event binds the peer to a different address. -/
def moves (dataLink : DataLink) (c c' : Controller) : Bool :=
  c.peer.bound && c'.boundAddress dataLink != c.boundAddress dataLink

end Controller

/-- The controller, and what an onlooker of the network knows. -/
structure Observed where
  controller : Controller
  /-- The invoke id of the last read of each kind that was sent and has no answer yet. -/
  outstanding : ReadKind → Option UInt8
  /-- The FAULT bit of the last complete ReadPropertyMultiple-ACK, if no Reject came after it. -/
  lastFault : Option Bool
  /-- A Reject unrecognized-service to an outstanding ReadPropertyMultiple has come. -/
  rejected : Bool
  /-- It has come, and the peer has not moved since. -/
  fellBack : Bool
  /-- The poll attempts, the latest first. -/
  attempts : List (Time × ReadKind)
  clock : Time

namespace Observed

/-- The program starts. -/
def start (clock : Time) : Observed where
  controller := .initial
  outstanding _ := none
  lastFault := none
  rejected := false
  fellBack := false
  attempts := []
  clock := clock

/-- The APDU that answers the outstanding read of this kind. -/
def answer (dataLink : DataLink) (w : Observed) (event : Event) (kind : ReadKind) : Option Octets :=
  (w.controller.heard dataLink event).filter fun apdu => w.outstanding kind = some (invokeIdOf apdu)

/-- A Reject unrecognized-service answers the outstanding ReadPropertyMultiple. -/
def rejects (dataLink : DataLink) (w : Observed) (event : Event) : Bool :=
  (w.answer dataLink event .readPropertyMultiple).any isReject

/-- What the onlooker knows after an event that ends in `c'`. -/
def next (dataLink : DataLink) (w : Observed) (event : Event) (c' : Controller) : Observed where
  controller := c'
  outstanding kind :=
    match w.controller.sent dataLink event with
    | some (sentKind, id) => if sentKind = kind then some id else w.outstanding kind
    | none => if (w.answer dataLink event kind).isSome then none else w.outstanding kind
  lastFault :=
    if w.rejects dataLink event then none
    else ((w.answer dataLink event .readPropertyMultiple).bind completeFault).or w.lastFault
  rejected := w.rejected || w.rejects dataLink event
  fellBack := w.rejects dataLink event || w.fellBack && !w.controller.moves dataLink c'
  attempts := (w.controller.attempt dataLink event).toList ++ w.attempts
  clock := event.time.getD w.clock

end Observed

/-- A step of the controller, observed. -/
def observe (dataLink : DataLink) (w : Observed) (event : Event) : Access Observed :=
  (w.controller.step dataLink event).map (w.next dataLink event)

theorem observe_eq_ok_iff {dataLink : DataLink} {w w' : Observed} {event : Event} :
    observe dataLink w event = .ok w' ↔
      ∃ c', w.controller.step dataLink event = .ok c' ∧ w.next dataLink event c' = w' := by
  unfold observe
  cases w.controller.step dataLink event <;> simp [Except.map]

/-- The stack gives the read that is sent an invoke id that the outstanding read of the other kind
does not have. -/
def DistinctIds (dataLink : DataLink) (w : Observed) (event : Event) : Prop :=
  match w.controller.sent dataLink event with
  | some (kind, id) => w.outstanding kind.other ≠ some id
  | none => True

instance (dataLink : DataLink) (w : Observed) (event : Event) :
    Decidable (DistinctIds dataLink w event) := by
  unfold DistinctIds
  cases w.controller.sent dataLink event <;> infer_instance

/-! ## The peer's record agrees with what was seen -/

structure Consistent (w : Observed) : Prop where
  pending : ∀ kind, w.controller.pendingId kind = w.outstanding kind
  distinct : ∀ id, w.outstanding .readProperty = some id →
    w.outstanding .readPropertyMultiple ≠ some id
  fault : w.controller.peer.sensorFaultReported = (w.lastFault == some true)
  fellBack : w.fellBack = true → w.controller.peer.readPropertyMultipleUnsupported = true ∧
    w.controller.peer.sensorFaultReported = false ∧ w.outstanding .readPropertyMultiple = none
  unsupported : w.rejected = false → w.controller.peer.readPropertyMultipleUnsupported = false
  bound : w.fellBack = true → w.controller.peer.bound = true

theorem consistent_start (clock : Time) : Consistent (.start clock) where
  pending kind := by cases kind <;> rfl
  distinct := nofun
  fault := rfl
  fellBack := nofun
  unsupported _ := rfl
  bound := nofun

theorem ReadRequest.kind_eq {request : ReadRequest} {kind : ReadKind}
    (h : request.serviceChoice = kind.serviceChoice) : request.kind = kind := by
  rw [ReadRequest.kind, h]
  cases kind <;> rfl

theorem pollPeer_kind (dataLink : DataLink) (now : Time) (invokeId : Option UInt8)
    (c : Controller) : (pollPeer dataLink now invokeId c).2.map ReadRequest.kind =
      if c.isDue now then some c.nextKind else none := by
  have hrequest := (pollPeer_sends dataLink now invokeId c).request_eq
  cases hr : (pollPeer dataLink now invokeId c).2 with
  | none =>
    rw [hr] at hrequest
    by_cases hdue : c.isDue now
    · simp [hdue] at hrequest
    · rw [if_neg hdue]
      rfl
  | some request =>
    rw [hr] at hrequest
    by_cases hdue : c.isDue now
    · rw [if_pos hdue, Option.map_some, Option.some.injEq] at hrequest
      rw [if_pos hdue, Option.map_some, ReadRequest.kind_eq hrequest]
    · simp [hdue] at hrequest

theorem attempt_tick (dataLink : DataLink) (now : Time) (invokeId : Option UInt8) (c : Controller) :
    c.attempt dataLink (.tick now invokeId) =
      if c.isDue now then some (now, c.nextKind) else none := by
  show (pollPeer dataLink now invokeId c).2.map (fun request => (now, request.kind)) = _
  rw [← Function.comp_def (fun kind => (now, kind)) ReadRequest.kind, ← Option.map_map,
    pollPeer_kind]
  split_ifs <;> rfl

theorem sent_tick (dataLink : DataLink) (now : Time) (id : UInt8) (c : Controller) :
    c.sent dataLink (.tick now (some id)) =
      if c.isDue now then some (c.nextKind, id) else none := by
  show (pollPeer dataLink now (some id) c).2.map (fun request => (request.kind, id)) = _
  rw [← Function.comp_def (fun kind => (kind, id)) ReadRequest.kind, ← Option.map_map,
    pollPeer_kind]
  split_ifs <;> rfl

theorem step_tick_peer {dataLink : DataLink} {c c' : Controller} {now : Time}
    {invokeId : Option UInt8} (h : c.step dataLink (.tick now invokeId) = .ok c') :
    c'.peer = if c.isDue now then c.peer.asked now c.nextKind invokeId else c.peer := by
  obtain rfl := Except.ok.inj h
  exact (pollPeer_sends dataLink now invokeId c).peer

/-! ### Nothing is answered -/

/-- The onlooker's memory after an event that sends no read and answers none. -/
theorem Observed.next_quiet {dataLink : DataLink} {w : Observed} {event : Event} {c' : Controller}
    (hsent : w.controller.sent dataLink event = none)
    (hanswer : ∀ kind, w.answer dataLink event kind = none) :
    w.next dataLink event c' = { w with
      controller := c'
      fellBack := w.fellBack && !w.controller.moves dataLink c'
      attempts := (w.controller.attempt dataLink event).toList ++ w.attempts
      clock := event.time.getD w.clock } := by
  have hrejects : w.rejects dataLink event = false := by simp [Observed.rejects, hanswer]
  simp [Observed.next, hsent, hanswer, hrejects]

theorem answer_eq_none_of_heard {dataLink : DataLink} {w : Observed} {event : Event}
    (h : w.controller.heard dataLink event = none) (kind : ReadKind) :
    w.answer dataLink event kind = none := by
  simp [Observed.answer, h]

theorem moves_of_boundAddress_eq {dataLink : DataLink} {c c' : Controller}
    (h : c'.boundAddress dataLink = c.boundAddress dataLink) : c.moves dataLink c' = false := by
  simp [Controller.moves, h]

theorem moves_of_connectionString {dataLink : DataLink} {c c' : Controller}
    {connectionString rest : Octets} (hbound : c.peer.bound = true)
    (hnew : c.boundAddress dataLink ≠ connectionString)
    (hlength : connectionString.length = transportConnectionStringLength dataLink)
    (h : c'.peer.connectionString = connectionString ++ rest) : c.moves dataLink c' = true := by
  have haddress : c'.boundAddress dataLink = connectionString := by
    rw [Controller.boundAddress, h, List.take_left' hlength]
  rw [Controller.moves, hbound, haddress, Bool.true_and, bne_iff_ne]
  exact hnew.symm

/-- A step that leaves what matters of the peer's record. -/
theorem Consistent.congr {w w' : Observed} (h : Consistent w)
    (hpending : ∀ kind, w'.controller.pendingId kind = w.controller.pendingId kind)
    (houtstanding : w'.outstanding = w.outstanding)
    (hsensor : w'.controller.peer.sensorFaultReported = w.controller.peer.sensorFaultReported)
    (hfault : w'.lastFault = w.lastFault)
    (hfellBack : w'.fellBack = true → w.fellBack = true ∧
      w'.controller.peer.readPropertyMultipleUnsupported =
        w.controller.peer.readPropertyMultipleUnsupported)
    (hunsupported : w'.controller.peer.readPropertyMultipleUnsupported = true →
      w.controller.peer.readPropertyMultipleUnsupported = true)
    (hrejected : w'.rejected = w.rejected)
    (hbound : w.controller.peer.bound = true → w'.controller.peer.bound = true) :
      Consistent w' where
  pending kind := by rw [hpending, houtstanding, h.pending]
  distinct id := by
    rw [houtstanding]
    exact h.distinct id
  fault := by rw [hsensor, hfault, h.fault]
  fellBack hf := by
    obtain ⟨hf', hsame⟩ := hfellBack hf
    rw [hsame, hsensor, houtstanding]
    exact h.fellBack hf'
  unsupported hr := by
    by_contra hne
    have hbefore := h.unsupported (hrejected ▸ hr)
    rw [hunsupported (by simpa using hne)] at hbefore
    exact Bool.noConfusion hbefore
  bound hf := hbound (h.bound (hfellBack hf).1)

theorem consistent_iAm {dataLink : DataLink} {w : Observed} (h : Consistent w) (now : Time)
    (deviceIdentifier : UInt32) (connectionString : Octets) (sourceNetwork : UInt16) :
    Consistent (w.next dataLink (.iAm now deviceIdentifier connectionString sourceNetwork)
      (hookIAm dataLink now deviceIdentifier connectionString sourceNetwork w.controller)) := by
  rw [Observed.next_quiet rfl fun kind => answer_eq_none_of_heard rfl kind]
  have houtcome := hookIAm_outcome dataLink now deviceIdentifier connectionString sourceNetwork
    w.controller
  generalize hookIAm dataLink now deviceIdentifier connectionString sourceNetwork w.controller = c'
    at houtcome
  cases houtcome with
  | ignored =>
    refine h.congr (fun kind => ?_) rfl rfl rfl (fun hf => ⟨?_, rfl⟩) id rfl id
    · cases kind <;> rfl
    · exact (Bool.and_eq_true _ _ ▸ hf).1
  | binds hbound =>
    have hf : w.fellBack = false := by
      by_contra hne
      have hb := h.bound (by simpa using hne)
      rw [hbound] at hb
      exact Bool.noConfusion hb
    refine h.congr (fun kind => ?_) rfl rfl rfl (fun hfell => ?_) nofun rfl (fun _ => rfl)
    · cases kind <;> rfl
    · simp [hf] at hfell
  | moves hbound hnew hlength =>
    refine h.congr (fun kind => ?_) rfl rfl rfl (fun hfell => ?_) nofun rfl id
    · cases kind <;> rfl
    · -- the peer has moved: the onlooker starts afresh too
      change (w.fellBack && !w.controller.moves dataLink _) = true at hfell
      rw [moves_of_connectionString hbound hnew hlength, Bool.not_true, Bool.and_false] at hfell
      · exact Bool.noConfusion hfell
      · rfl

theorem pendingId_asked {c c' : Controller} {now : Time} {kind : ReadKind} {id : UInt8}
    (h : c'.peer = c.peer.asked now kind (some id)) (k : ReadKind) :
    c'.pendingId k = if kind = k then some id else c.pendingId k := by
  cases kind <;> cases k <;> simp [Controller.pendingId, h, RemotePeer.asked]

theorem pendingId_asked_none {c c' : Controller} {now : Time} {kind : ReadKind}
    (h : c'.peer = c.peer.asked now kind none) (k : ReadKind) : c'.pendingId k = c.pendingId k := by
  cases k <;> simp [Controller.pendingId, h, RemotePeer.asked]

theorem pendingId_congr {c c' : Controller} (h : c'.peer = c.peer) (k : ReadKind) :
    c'.pendingId k = c.pendingId k := by
  cases k <;> simp [Controller.pendingId, h]

/-- What an attempt to send leaves of the peer's record. -/
structure RemotePeer.SamePeer (peer peer' : RemotePeer) : Prop where
  bound : peer'.bound = peer.bound
  connectionString : peer'.connectionString = peer.connectionString
  readPropertyMultipleUnsupported :
    peer'.readPropertyMultipleUnsupported = peer.readPropertyMultipleUnsupported
  sensorFaultReported : peer'.sensorFaultReported = peer.sensorFaultReported

theorem samePeer_tick {dataLink : DataLink} {c c' : Controller} {now : Time}
    {invokeId : Option UInt8}
    (h : c.step dataLink (.tick now invokeId) = .ok c') : c.peer.SamePeer c'.peer := by
  rw [step_tick_peer h]
  unfold RemotePeer.asked
  split_ifs
  · cases invokeId with
    | none => exact ⟨rfl, rfl, rfl, rfl⟩
    | some id => cases c.nextKind <;> exact ⟨rfl, rfl, rfl, rfl⟩
  · exact ⟨rfl, rfl, rfl, rfl⟩

theorem Controller.nextKind_of_unsupported {c : Controller}
    (h : c.peer.readPropertyMultipleUnsupported = true) : c.nextKind = .readProperty := by
  simp [nextKind, h]

/-- The onlooker's memory after a tick that sends a read. -/
theorem Observed.next_sent {dataLink : DataLink} {w : Observed} {now : Time} {id : UInt8}
    (hdue : w.controller.isDue now) (c' : Controller) :
    w.next dataLink (.tick now (some id)) c' = { w with
      controller := c'
      outstanding := fun kind =>
        if w.controller.nextKind = kind then some id else w.outstanding kind
      fellBack := w.fellBack && !w.controller.moves dataLink c'
      attempts := (now, w.controller.nextKind) :: w.attempts
      clock := now } := by
  have hanswer : ∀ kind, w.answer dataLink (.tick now (some id)) kind = none :=
    fun kind => answer_eq_none_of_heard rfl kind
  have hrejects : w.rejects dataLink (.tick now (some id)) = false := by
    simp [Observed.rejects, hanswer]
  simp [Observed.next, sent_tick, attempt_tick, hdue, hanswer, hrejects, Event.time]

theorem consistent_tick {dataLink : DataLink} {w : Observed} (h : Consistent w) {now : Time}
    {invokeId : Option UInt8} (hids : DistinctIds dataLink w (.tick now invokeId)) {c' : Controller}
    (hc' : w.controller.step dataLink (.tick now invokeId) = .ok c') :
    Consistent (w.next dataLink (.tick now invokeId) c') := by
  have hpeer := step_tick_peer hc'
  obtain ⟨hbound, haddress, hunsupported, hsensor⟩ := samePeer_tick hc'
  have hmoves : w.controller.moves dataLink c' = false :=
    moves_of_boundAddress_eq (congrArg (List.take _) haddress)
  by_cases hsends : ∃ id, invokeId = some id ∧ w.controller.isDue now
  · obtain ⟨id, rfl, hdue⟩ := hsends
    have hother : w.outstanding w.controller.nextKind.other ≠ some id := by
      have hsent : w.controller.sent dataLink (.tick now (some id)) =
          some (w.controller.nextKind, id) := by rw [sent_tick, if_pos hdue]
      rw [DistinctIds, hsent] at hids
      exact hids
    rw [if_pos hdue] at hpeer
    rw [Observed.next_sent hdue]
    refine ⟨fun kind => ?_, fun i => ?_, ?_, fun hf => ?_, fun hr => ?_, fun hf => ?_⟩
    · show c'.pendingId kind = if w.controller.nextKind = kind then some id else w.outstanding kind
      rw [pendingId_asked hpeer, h.pending]
    · have hdistinct := h.distinct i
      cases hk : w.controller.nextKind with
      | readProperty =>
        rw [hk] at hother
        simp only [if_true, reduceCtorEq, if_false, Option.some.injEq]
        rintro rfl
        exact hother
      | readPropertyMultiple =>
        rw [hk] at hother
        simp only [if_true, reduceCtorEq, if_false, ne_eq, Option.some.injEq]
        rintro hi rfl
        exact hother hi
    · exact hsensor.trans h.fault
    · obtain ⟨hu, hs, hnone⟩ := h.fellBack (by
        simp only [hmoves, Bool.not_false, Bool.and_true] at hf
        exact hf)
      refine ⟨hunsupported.trans hu, hsensor.trans hs, ?_⟩
      simp only [Controller.nextKind_of_unsupported hu, reduceCtorEq, if_false]
      exact hnone
    · exact hunsupported.trans (h.unsupported hr)
    · simp only [hmoves, Bool.not_false, Bool.and_true] at hf
      exact hbound.trans (h.bound hf)
  · have hsent : w.controller.sent dataLink (.tick now invokeId) = none := by
      cases invokeId with
      | none => rfl
      | some id => rw [sent_tick, if_neg fun hdue => hsends ⟨id, rfl, hdue⟩]
    rw [Observed.next_quiet hsent fun kind => answer_eq_none_of_heard rfl kind]
    have hpending : ∀ kind, c'.pendingId kind = w.controller.pendingId kind := by
      by_cases hdue : w.controller.isDue now
      · rw [if_pos hdue] at hpeer
        cases invokeId with
        | none => exact pendingId_asked_none hpeer
        | some id => exact absurd ⟨id, rfl, hdue⟩ hsends
      · rw [if_neg hdue] at hpeer
        exact pendingId_congr hpeer
    refine h.congr hpending rfl hsensor rfl (fun hf => ⟨?_, hunsupported⟩) (fun hu => ?_) rfl
      fun hb => ?_
    · exact (Bool.and_eq_true _ _ ▸ hf).1
    · exact hunsupported ▸ hu
    · exact hbound.trans hb

/-! ### A read is answered -/

theorem Consistent.other_ne {w : Observed} (h : Consistent w) {kind : ReadKind} {id : UInt8}
    (hk : w.outstanding kind = some id) : w.outstanding kind.other ≠ some id := by
  cases kind with
  | readProperty => exact h.distinct id hk
  | readPropertyMultiple => exact fun hother => h.distinct id hother hk

/-- What a datagram does: nothing, or it answers the outstanding read of one kind. -/
inductive DatagramOutcome (dataLink : DataLink) (now : Time) (message fromAddress : Octets)
    (fromPort : UInt16) (w : Observed) : Controller → Prop
  | ignored
      (hanswer : ∀ kind, w.answer dataLink (.datagram now message fromAddress fromPort) kind =
        none) :
      DatagramOutcome dataLink now message fromAddress fromPort w w.controller
  | answers {apdu : Octets} {kind : ReadKind}
      (htaken : w.controller.taken dataLink message fromAddress fromPort = some apdu)
      (houtstanding : w.outstanding kind = some (invokeIdOf apdu))
      (hanswer : w.answer dataLink (.datagram now message fromAddress fromPort) kind = some apdu)
      (hother : w.answer dataLink (.datagram now message fromAddress fromPort) kind.other = none) :
      DatagramOutcome dataLink now message fromAddress fromPort w
        (w.controller.afterAnswer now apdu)

theorem datagram_outcome {dataLink : DataLink} {now : Time} {message fromAddress : Octets}
    {fromPort : UInt16} {w : Observed} (h : Consistent w) {c' : Controller}
    (hc' : w.controller.step dataLink (.datagram now message fromAddress fromPort) = .ok c') :
    DatagramOutcome dataLink now message fromAddress fromPort w c' := by
  simp only [Controller.step, handleReplyFromPeer_eq, Except.ok.injEq] at hc'
  cases htaken : w.controller.taken dataLink message fromAddress fromPort with
  | none =>
    rw [htaken] at hc'
    subst hc'
    refine .ignored fun kind => ?_
    -- an APDU that answered would have been taken
    by_contra hne
    obtain ⟨apdu, hanswer⟩ := Option.ne_none_iff_exists'.1 hne
    obtain ⟨hheard, hid⟩ := Option.filter_eq_some_iff.1 hanswer
    have hpeer : w.controller.fromPeer dataLink fromAddress fromPort = true := by
      by_contra hnot
      simp [Controller.heard, hnot] at hheard
    have hapdu : apduAt dataLink message = some apdu := by
      simpa [Controller.heard, hpeer] using hheard
    have hawaits : w.controller.awaits (invokeIdOf apdu) = true :=
      Controller.awaits_iff.2 ⟨kind, (h.pending kind).trans (by simpa using hid)⟩
    rw [taken_eq_some_iff.2 ⟨hpeer, hapdu, hawaits⟩] at htaken
    cases htaken
  | some apdu =>
    rw [htaken] at hc'
    subst hc'
    obtain ⟨hpeer, hapdu, hawaits⟩ := taken_eq_some_iff.1 htaken
    obtain ⟨kind, hkind⟩ := Controller.awaits_iff.1 hawaits
    rw [h.pending] at hkind
    have hheard : w.controller.heard dataLink (.datagram now message fromAddress fromPort) =
        some apdu := by
      simp [Controller.heard, hpeer, hapdu]
    refine .answers htaken hkind ?_ ?_
    · simp [Observed.answer, hheard, hkind]
    · simp [Observed.answer, hheard, h.other_ne hkind]

/-- The onlooker's memory after an answer to a ReadProperty. -/
theorem Observed.next_answer_readProperty {dataLink : DataLink} {now : Time}
    {message fromAddress apdu : Octets} {fromPort : UInt16} {w : Observed}
    (hanswer : w.answer dataLink (.datagram now message fromAddress fromPort) .readProperty =
      some apdu)
    (hother : w.answer dataLink (.datagram now message fromAddress fromPort) .readPropertyMultiple =
      none)
    (c' : Controller) :
    w.next dataLink (.datagram now message fromAddress fromPort) c' = { w with
      controller := c'
      outstanding := fun kind => if kind = .readProperty then none else w.outstanding kind
      fellBack := w.fellBack && !w.controller.moves dataLink c'
      clock := now } := by
  have houtstanding : (fun kind => if (w.answer dataLink
      (.datagram now message fromAddress fromPort) kind).isSome then none else w.outstanding kind) =
      fun kind => if kind = .readProperty then none else w.outstanding kind := by
    funext kind
    cases kind <;> simp [hanswer, hother]
  simp only [Observed.next, Controller.sent, Observed.rejects, hother, houtstanding]
  simp [Controller.attempt, Event.time]

/-- The onlooker's memory after an answer to a ReadPropertyMultiple. -/
theorem Observed.next_answer_readPropertyMultiple {dataLink : DataLink} {now : Time}
    {message fromAddress apdu : Octets} {fromPort : UInt16} {w : Observed}
    (hanswer : w.answer dataLink (.datagram now message fromAddress fromPort)
      .readPropertyMultiple = some apdu)
    (hother : w.answer dataLink (.datagram now message fromAddress fromPort) .readProperty = none)
    (c' : Controller) :
    w.next dataLink (.datagram now message fromAddress fromPort) c' = { w with
      controller := c'
      outstanding := fun kind => if kind = .readPropertyMultiple then none else w.outstanding kind
      lastFault := if isReject apdu then none else (completeFault apdu).or w.lastFault
      rejected := w.rejected || isReject apdu
      fellBack := isReject apdu || w.fellBack && !w.controller.moves dataLink c'
      clock := now } := by
  have houtstanding : (fun kind => if (w.answer dataLink
      (.datagram now message fromAddress fromPort) kind).isSome then none else w.outstanding kind) =
      fun kind => if kind = .readPropertyMultiple then none else w.outstanding kind := by
    funext kind
    cases kind <;> simp [hanswer, hother]
  simp only [Observed.next, Controller.sent, Observed.rejects, hanswer, houtstanding]
  simp [Controller.attempt, Event.time]

theorem consistent_datagram {dataLink : DataLink} {now : Time} {message fromAddress : Octets}
    {fromPort : UInt16} {w : Observed} (h : Consistent w) {c' : Controller}
    (hc' : w.controller.step dataLink (.datagram now message fromAddress fromPort) = .ok c') :
    Consistent (w.next dataLink (.datagram now message fromAddress fromPort) c') := by
  cases datagram_outcome h hc' with
  | ignored hanswer =>
    rw [Observed.next_quiet rfl hanswer]
    refine h.congr (fun kind => rfl) rfl rfl rfl (fun hf => ⟨?_, rfl⟩) id rfl id
    exact (Bool.and_eq_true _ _ ▸ hf).1
  | @answers apdu kind htaken houtstanding hanswer hother =>
    have hnot := h.other_ne houtstanding
    cases kind with
    | readProperty =>
      have hpeer := Controller.afterAnswer_readProperty ((h.pending _).trans houtstanding)
        (fun hp => hnot ((h.pending _).symm.trans hp)) now
      have hmoves := @moves_of_boundAddress_eq dataLink w.controller
        (w.controller.afterAnswer now apdu) (by rw [Controller.boundAddress, hpeer]; rfl)
      rw [Observed.next_answer_readProperty hanswer hother, hmoves, Bool.not_false, Bool.and_true]
      refine ⟨fun kind => ?_, nofun, ?_, fun hf => ?_, fun hr => ?_, fun hf => ?_⟩
      · have hbefore := h.pending kind
        cases kind with
        | readProperty => simp [Controller.pendingId, hpeer]
        | readPropertyMultiple => simpa [Controller.pendingId, hpeer] using hbefore
      · simpa [hpeer] using h.fault
      · simpa [hpeer] using h.fellBack hf
      · simpa [hpeer] using h.unsupported hr
      · simpa [hpeer] using h.bound hf
    | readPropertyMultiple =>
      have hpeer := Controller.afterAnswer_readPropertyMultiple ((h.pending _).trans houtstanding)
        (fun hp => hnot ((h.pending _).symm.trans hp)) now
      have hmoves := @moves_of_boundAddress_eq dataLink w.controller
        (w.controller.afterAnswer now apdu) (by rw [Controller.boundAddress, hpeer]; rfl)
      have hbound : w.controller.peer.bound = true := by
        have hp := (taken_eq_some_iff.1 htaken).1
        simp only [Controller.fromPeer, Bool.and_eq_true] at hp
        exact hp.1.1
      rw [Observed.next_answer_readPropertyMultiple hanswer hother, hmoves, Bool.not_false,
        Bool.and_true]
      refine ⟨fun kind => ?_, ?_, ?_, fun hf => ?_, fun hr => ?_, fun hf => ?_⟩
      · have hbefore := h.pending kind
        cases kind with
        | readProperty => simpa [Controller.pendingId, hpeer] using hbefore
        | readPropertyMultiple => simp [Controller.pendingId, hpeer]
      · intro id hid
        simp
      · simp only [hpeer]
        cases hreject : isReject apdu with
        | true => simp
        | false => cases hfault : completeFault apdu <;> simp [h.fault]
      · simp only [hpeer]
        cases hreject : isReject apdu with
        | true => simp
        | false =>
          obtain ⟨hu, hs, hnone⟩ := h.fellBack (by simpa [hreject] using hf)
          rw [houtstanding] at hnone
          cases hnone
      · rw [Bool.or_eq_false_iff] at hr
        simp [hpeer, hr.2, h.unsupported hr.1]
      · simpa [hpeer] using hbound

/-- **The record stays consistent**, while the invoke ids are distinct. -/
theorem consistent_next {dataLink : DataLink} {w w' : Observed} {event : Event} (h : Consistent w)
    (hids : DistinctIds dataLink w event) (hw : observe dataLink w event = .ok w') :
      Consistent w' := by
  obtain ⟨c', hc', rfl⟩ := observe_eq_ok_iff.1 hw
  cases event with
  | iAm now deviceIdentifier connectionString sourceNetwork =>
    obtain rfl := Except.ok.inj hc'
    exact consistent_iAm h now deviceIdentifier connectionString sourceNetwork
  | tick now invokeId => exact consistent_tick h hids hc'
  | datagram now message fromAddress fromPort => exact consistent_datagram h hc'
  | restart kind =>
    obtain rfl := Except.ok.inj hc'
    have hpeer : (restart kind w.controller).peer = w.controller.peer := by cases kind <;> rfl
    rw [Observed.next_quiet rfl fun kind => answer_eq_none_of_heard rfl kind]
    refine h.congr (pendingId_congr hpeer) rfl (by simp [hpeer]) rfl (fun hf => ⟨?_, ?_⟩) ?_ rfl ?_
    · exact (Bool.and_eq_true _ _ ▸ hf).1
    · simp [hpeer]
    · simp [hpeer]
    · simp [hpeer]

end BacnetBc
