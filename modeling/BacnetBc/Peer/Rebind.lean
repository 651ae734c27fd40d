import BacnetBc.Peer.Ack
import BacnetBc.Peer.Alike

/-!
# What a rebinding forgets

When the peer announces itself from another address, "a device at a new address may be a different
one". `HookIAm` then forgets that the old one turned ReadPropertyMultiple down. It keeps the rest of
the record: which reads the old one still had to answer, that its sensor was faulty, when it last
answered and was last asked, and how often.

**Theorem (`rebind_forgets_iff`).** Take two histories that differ only in what the old address has
sent. What comes from the new address is read by itself, and alike after both, exactly when no read
is outstanding and the two records agree on the sensor, on the timers as far as `MillisecondsSince`
tells them apart, and on the parity of the counter of polls.

One direction is the bisimulation `Alike`. For the other, polls and datagrams from the new address
show every difference: a tick shows the silence (`SameUpdates.isLost`), an Abort whether a read was
due (`SameUpdates.isDue`), a Reject of which kind it was (`SameUpdates.nextKind`), and an ACK what
is known of the sensor (`SameUpdates.fault`).
-/

namespace BacnetBc

open Memory Trajectory

/-! ## What the new address is read by -/

namespace Controller

/-- The read that the event sends: its kind, its invoke id, and where it goes. -/
def sentTo (dataLink : DataLink) (c : Controller) : Event → Option (ReadKind × UInt8 × Octets)
  | .tick now (some id) =>
    (pollPeer dataLink now (some id) c).2.map fun request =>
      (request.kind, id, request.connectionString)
  | _ => none

/-- The reads that a run sends. -/
def sentIn (dataLink : DataLink) (c : Controller) (events : List Event) :
    List (ReadKind × UInt8 × Octets) :=
  (steps (Controller.step dataLink) c events).filterMap fun p => p.1.sentTo dataLink p.2

/-- No read waits for its answer. -/
def NoReadOutstanding (c : Controller) : Prop := ∀ kind, c.pendingId kind = none

/-- As long as the peer stays at this address, only an answer to a read that was sent there is
taken. -/
def OnlyNewAnswers (dataLink : DataLink) (address : Octets) (c : Controller) : Prop :=
  ∀ events, (∀ t ∈ states (Controller.step dataLink) c events, t.boundAddress dataLink = address) →
    ∀ c', final (Controller.step dataLink) c events = .ok c' →
      ∀ message fromAddress fromPort apdu, c'.taken dataLink message fromAddress fromPort =
        some apdu → ∃ kind, (kind, invokeIdOf apdu, address) ∈ c.sentIn dataLink events ∧
          c'.pendingId kind = some (invokeIdOf apdu)

end Controller

/-- The same polls and datagrams from the new address give Diamond the same values. -/
def SameUpdates (dataLink : DataLink) (now : Time) (connectionString : Octets) (c d : Controller) :
    Prop :=
  ∀ events, OrderedFrom now events →
    (∀ event ∈ events, event.isPollOrFrom dataLink connectionString = true) →
      d.updates dataLink events = c.updates dataLink events

/-- The peer announces itself from another address than the one it is bound to. -/
structure Rebinds (dataLink : DataLink) (deviceIdentifier : UInt32) (connectionString : Octets)
    (sourceNetwork : UInt16) (c : Controller) : Prop where
  isIp : isIpDataLink dataLink = true
  device : deviceIdentifier = remoteDeviceInstance
  onNetwork : sourceNetwork = 0
  length : connectionString.length = transportConnectionStringLength dataLink
  bound : c.peer.bound = true
  differs : c.boundAddress dataLink ≠ connectionString

/-- What comes from the new address is read by itself, and alike in both histories. -/
def ReadByItself (dataLink : DataLink) (now : Time) (deviceIdentifier : UInt32)
    (connectionString : Octets) (sourceNetwork : UInt16) (c₁ c₂ : Controller) : Prop :=
  (hookIAm dataLink now deviceIdentifier connectionString sourceNetwork c₁).OnlyNewAnswers dataLink
      connectionString ∧
    (hookIAm dataLink now deviceIdentifier connectionString sourceNetwork c₂).OnlyNewAnswers
      dataLink connectionString ∧
    SameUpdates dataLink now connectionString
      (hookIAm dataLink now deviceIdentifier connectionString sourceNetwork c₁)
      (hookIAm dataLink now deviceIdentifier connectionString sourceNetwork c₂)

/-- The controller after a rebinding. -/
def Controller.rebound (dataLink : DataLink) (connectionString : Octets) (c : Controller) :
    Controller :=
  { c with peer :=
    { c.peer with
      connectionString := connectionString ++
        c.peer.connectionString.drop (transportConnectionStringLength dataLink)
      readPropertyMultipleUnsupported := false } }

theorem hookIAm_of_rebinds {dataLink : DataLink} {deviceIdentifier : UInt32}
    {connectionString : Octets} {sourceNetwork : UInt16} {c : Controller}
    (h : Rebinds dataLink deviceIdentifier connectionString sourceNetwork c) (now : Time) :
    hookIAm dataLink now deviceIdentifier connectionString sourceNetwork c =
      c.rebound dataLink connectionString := by
  have hskip : (!isIpDataLink dataLink || deviceIdentifier != remoteDeviceInstance ||
      sourceNetwork != 0 || connectionString.length != transportConnectionStringLength dataLink) =
        false := by
    simp [h.isIp, h.device, h.onNetwork, h.length]
  have hbound : (!c.peer.bound) = false := by simp [h.bound]
  have hdiffers : (c.peer.connectionString.take (transportConnectionStringLength dataLink) !=
      connectionString) = true := bne_iff_ne.2 h.differs
  unfold hookIAm
  simp only [hskip, hbound, hdiffers, Bool.or_true, if_true, Bool.false_eq_true, if_false]
  rfl

/-- A read goes to the bound address. -/
theorem sentTo_of_sent {dataLink : DataLink} {c : Controller} {event : Event} {kind : ReadKind}
    {id : UInt8} (h : c.sent dataLink event = some (kind, id)) :
    c.sentTo dataLink event = some (kind, id, c.boundAddress dataLink) := by
  cases event with
  | iAm | datagram | restart => cases h
  | tick now invokeId =>
    cases invokeId with
    | none => cases h
    | some sentId =>
      obtain ⟨request, hrequest, hsent⟩ := Option.map_eq_some_iff.1 h
      obtain ⟨rfl, rfl⟩ := Prod.mk.inj hsent
      have haddress := (pollPeer_sends dataLink now (some sentId) c).connectionString
          request hrequest
      show (pollPeer dataLink now (some sentId) c).2.map _ = _
      rw [hrequest, Option.map_some, haddress]
      rfl

/-- A read that is outstanding at the end was so at the start, or was sent to the address. -/
theorem pendingId_final {dataLink : DataLink} {address : Octets} {c c' : Controller}
    {events : List Event}
    (haddress : ∀ t ∈ states (Controller.step dataLink) c events, t.boundAddress dataLink = address)
    (hc' : final (Controller.step dataLink) c events = .ok c') {kind : ReadKind} {id : UInt8}
    (h : c'.pendingId kind = some id) :
    c.pendingId kind = some id ∨ (kind, id, address) ∈ c.sentIn dataLink events := by
  induction events generalizing c with
  | nil =>
    obtain rfl := Except.ok.inj hc'
    exact Or.inl h
  | cons event events ih =>
    obtain ⟨c₁, hc₁⟩ := exists_step dataLink c event
    rw [final_cons_ok hc₁] at hc'
    have htail : ∀ t ∈ states (Controller.step dataLink) c₁ events, t.boundAddress dataLink =
        address := by
      intro t ht
      apply haddress
      simp only [states, hc₁]
      exact List.mem_cons_of_mem c ht
    have hsentIn : c.sentIn dataLink (event :: events) =
        (c.sentTo dataLink event).toList ++ c₁.sentIn dataLink events := by
      simp only [Controller.sentIn, steps, hc₁, List.filterMap_cons]
      cases c.sentTo dataLink event <;> rfl
    rw [hsentIn, List.mem_append]
    rcases ih htail hc' with h₁ | hlater
    · rcases pendingId_step hc₁ h₁ with hbefore | hsent
      · exact Or.inl hbefore
      · have hto := sentTo_of_sent hsent
        rw [haddress c (mem_states_self _ _)] at hto
        exact Or.inr (Or.inl (by rw [hto]; exact Option.mem_toList.2 rfl))
    · exact Or.inr (Or.inr hlater)

theorem onlyNewAnswers_of_noReadOutstanding {c : Controller} (h : c.NoReadOutstanding)
    (dataLink : DataLink) (address : Octets) : c.OnlyNewAnswers dataLink address := by
  intro events haddress c' hc' message fromAddress fromPort apdu htaken
  obtain ⟨-, -, hawaits⟩ := taken_eq_some_iff.1 htaken
  obtain ⟨kind, hkind⟩ := Controller.awaits_iff.1 hawaits
  rcases pendingId_final haddress hc' hkind with hbefore | hsent
  · rw [h kind] at hbefore
    cases hbefore
  · exact ⟨kind, hsent, hkind⟩

theorem sameUpdates_of_alike {now : Time} {c d : Controller} (h : Alike now c d)
    (dataLink : DataLink) (connectionString : Octets) :
    SameUpdates dataLink now connectionString c d :=
  fun _ horder hevents => h.updates horder hevents

/-! ## What polls and datagrams show -/

/-- The peer is bound to this address and port. -/
structure BoundTo (dataLink : DataLink) (connectionString : Octets) (c : Controller) : Prop where
  bound : c.peer.bound = true
  address : c.boundAddress dataLink = connectionString

def plainNpdu : NpduHeader := ⟨0, none, none⟩

/-- The headers of an Original-Unicast-NPDU without routing. -/
def plainHeader (dataLink : DataLink) : BvllHeader dataLink where
  rest := List.replicate (if dataLink = .ipv6 then 8 else 2) 0
  length_rest := by simp

/-- An APDU behind plain headers. -/
def plainMessage (dataLink : DataLink) (apdu : Octets) : Octets :=
  (plainHeader dataLink).encode ++ (plainNpdu.encode ++ apdu)

/-- An APDU in a datagram from this address and port. -/
def datagramFrom (dataLink : DataLink) (connectionString : Octets) (now : Time) (apdu : Octets) :
    Event :=
  .datagram now (plainMessage dataLink apdu)
    (connectionString.take (transportAddressLength dataLink)) (portIn dataLink connectionString)

theorem isPollOrFrom_datagramFrom (dataLink : DataLink) (connectionString : Octets) (now : Time)
    (apdu : Octets) :
    (datagramFrom dataLink connectionString now apdu).isPollOrFrom dataLink connectionString =
      true := by
  simp [datagramFrom, Event.isPollOrFrom, Event.isFrom, List.take_take]

/-- An Abort with this invoke id. -/
def abort (invokeId : UInt8) : Octets := [0x70, invokeId, 0]

/-- A Reject unrecognized-service with this invoke id. -/
def rejectUnrecognized (invokeId : UInt8) : Octets := [0x60, invokeId, 9]

section
variable {dataLink : DataLink} {connectionString : Octets} {c c' d d' : Controller}

theorem BoundTo.fromPeer (h : BoundTo dataLink connectionString c) :
    c.fromPeer dataLink (connectionString.take (transportAddressLength dataLink))
      (portIn dataLink connectionString) = true := by
  have hgetD : ∀ i < transportConnectionStringLength dataLink,
      connectionString.getD i 0 = c.peer.connectionString.getD i 0 := by
    intro i hi
    rw [← h.address, Controller.boundAddress, List.getD_eq_getElem?_getD,
      List.getD_eq_getElem?_getD, List.getElem?_take_of_lt hi]
  have hport : portIn dataLink connectionString = c.peer.port dataLink := by
    unfold portIn RemotePeer.port
    rw [hgetD _ (by unfold transportConnectionStringLength; omega),
      hgetD _ (by unfold transportConnectionStringLength; omega)]
  have htake : connectionString.take (transportAddressLength dataLink) =
      c.peer.connectionString.take (transportAddressLength dataLink) := by
    rw [← h.address, Controller.boundAddress, List.take_take, min_eq_left]
    unfold transportConnectionStringLength
    omega
  simp [Controller.fromPeer, h.bound, hport, htake, List.take_take]

/-- What a datagram from the bound address gives Diamond. -/
theorem BoundTo.update_datagramFrom (h : BoundTo dataLink connectionString c) (now : Time)
    {apdu : Octets} (hlength : 3 ≤ apdu.length) :
    c.update dataLink (datagramFrom dataLink connectionString now apdu) =
      if c.awaits (invokeIdOf apdu) then (c.answerTo apdu).update else ⟨none, none⟩ := by
  have hapdu : apduAt dataLink (plainMessage dataLink apdu) = some apdu :=
    apduAt_encode _ _ hlength
  simp only [Controller.update, datagramFrom]
  by_cases ha : c.awaits (invokeIdOf apdu) = true
  · rw [taken_eq_some_iff.2 ⟨h.fromPeer, hapdu, ha⟩, if_pos ha]
  · have hnone : c.taken dataLink (plainMessage dataLink apdu)
        (connectionString.take (transportAddressLength dataLink))
        (portIn dataLink connectionString) = none := by
      simp [Controller.taken, h.fromPeer, hapdu, Option.filter, ha]
    rw [hnone, if_neg ha]

theorem BoundTo.update_abort (h : BoundTo dataLink connectionString c) (now : Time)
    (invokeId : UInt8) :
    c.update dataLink (datagramFrom dataLink connectionString now (abort invokeId)) =
      ⟨none, if c.awaits invokeId then some .unreliableOther else none⟩ := by
  have hanswer : c.answerTo (abort invokeId) = .noValue := by
    have hfallback : c.isFallback (abort invokeId) = false := by
      have htype : (pduType (abort invokeId) == 6) = false := show ((0x70 : UInt8) >>> 4 == 6) =
        false by decide
      rw [Controller.isFallback, htype, Bool.and_false, Bool.false_and]
    have hack : isUnsegmentedComplexAck (abort invokeId) = false :=
      show ((0x70 : UInt8) >>> 4 == 3 && !((0x70 : UInt8) &&& 0x08 != 0)) = false by decide
    rw [Controller.answerTo, hfallback, hack]
    rfl
  have hid : invokeIdOf (abort invokeId) = invokeId := rfl
  rw [h.update_datagramFrom now (by simp [abort]), hid, hanswer]
  split_ifs <;> rfl

/-- A Reject tells a ReadProperty from a ReadPropertyMultiple. -/
theorem BoundTo.update_reject (h : BoundTo dataLink connectionString c) (now : Time)
    {invokeId : UInt8} {kind : ReadKind}
    (hpending : ∀ k, c.pendingId k = if kind = k then some invokeId else none) :
    c.update dataLink (datagramFrom dataLink connectionString now (rejectUnrecognized invokeId)) =
      ⟨none, if kind = .readProperty then some .unreliableOther else none⟩ := by
  have hid : invokeIdOf (rejectUnrecognized invokeId) = invokeId := rfl
  have hreject : (pduType (rejectUnrecognized invokeId) == 6 &&
      serviceOf (rejectUnrecognized invokeId) == 9) = true :=
    show ((0x60 : UInt8) >>> 4 == 6 && (9 : UInt8) == 9) = true by decide
  have hack : isUnsegmentedComplexAck (rejectUnrecognized invokeId) = false :=
    show ((0x60 : UInt8) >>> 4 == 3 && !((0x60 : UInt8) &&& 0x08 != 0)) = false by decide
  have hawaits : c.awaits (invokeIdOf (rejectUnrecognized invokeId)) = true :=
    Controller.awaits_iff.2 ⟨kind, by rw [hpending, if_pos rfl, hid]⟩
  rw [h.update_datagramFrom now (by simp [rejectUnrecognized]), if_pos hawaits,
    Controller.answerTo, Controller.isFallback, Bool.and_assoc, hreject, hack, hid, Bool.and_true]
  cases kind with
  | readProperty =>
    have hno : c.awaitsReadPropertyMultiple invokeId = false := by
      rw [← Bool.not_eq_true, Controller.awaitsReadPropertyMultiple_iff, hpending]
      simp
    rw [hno]
    rfl
  | readPropertyMultiple =>
    have hyes : c.awaitsReadPropertyMultiple invokeId = true := by
      rw [Controller.awaitsReadPropertyMultiple_iff, hpending, if_pos rfl]
    rw [hyes]
    rfl

/-- What a ReadProperty-ACK tells of the sensor. -/
theorem BoundTo.update_readPropertyAck (h : BoundTo dataLink connectionString c) (now : Time)
    {invokeId : UInt8} (hpending : c.pendingId .readProperty = some invokeId) (humidity : Single) :
    c.update dataLink (datagramFrom dataLink connectionString now
        (readPropertyAck invokeId analogInput1 presentValueOctets none humidity)) =
      if c.peer.sensorFaultReported then ⟨none, none⟩
      else ⟨some humidity, some .noFaultDetected⟩ := by
  have hawaits : c.awaits (invokeIdOf
      (readPropertyAck invokeId analogInput1 presentValueOctets none humidity)) = true :=
    Controller.awaits_iff.2 ⟨_, hpending⟩
  have hanswer := answerTo_readPropertyAck (Controller.awaitsReadProperty_iff.2 hpending)
    analogInput1 (show presentValueOctets.value = propertyIdentifierPresentValue by decide) none
    humidity
  rw [h.update_datagramFrom now (by simp [readPropertyAck]), if_pos hawaits, hanswer]
  cases c.peer.sensorFaultReported <;> rfl

/-! ### One step at a time -/

theorem SameUpdates.update {now : Time} (h : SameUpdates dataLink now connectionString c d)
    (event : Event) (hle : ∀ time ∈ event.time, now ≤ time)
    (hevent : event.isPollOrFrom dataLink connectionString = true) :
    d.update dataLink event = c.update dataLink event := by
  obtain ⟨c', hc'⟩ := exists_step dataLink c event
  obtain ⟨d', hd'⟩ := exists_step dataLink d event
  have hsame := h [event] ⟨hle, trivial⟩ (by simpa using hevent)
  rw [Controller.updates_cons hc', Controller.updates_cons hd'] at hsame
  exact (List.cons.inj hsame).1

theorem SameUpdates.step {now : Time} (h : SameUpdates dataLink now connectionString c d)
    (event : Event) (hle : ∀ time ∈ event.time, now ≤ time)
    (hevent : event.isPollOrFrom dataLink connectionString = true)
    (hc : c.step dataLink event = .ok c') (hd : d.step dataLink event = .ok d') :
    SameUpdates dataLink (event.time.getD now) connectionString c' d' := by
  intro events horder hevents
  have hall : ∀ e ∈ event :: events, e.isPollOrFrom dataLink connectionString = true := by
    intro e he
    rcases List.mem_cons.1 he with rfl | he
    · exact hevent
    · exact hevents e he
  have hsame := h (event :: events) ⟨hle, horder⟩ hall
  rw [Controller.updates_cons hc, Controller.updates_cons hd] at hsame
  exact (List.cons.inj hsame).2

/-- The record of a peer that is read afresh. -/
structure ReadAfresh (dataLink : DataLink) (connectionString : Octets) (c : Controller) : Prop
    extends BoundTo dataLink connectionString c where
  noReadOutstanding : c.NoReadOutstanding
  supported : c.peer.readPropertyMultipleUnsupported = false

/-- A tick, and what it leaves. -/
theorem exists_tick (h : BoundTo dataLink connectionString c) (t : Time)
    (invokeId : Option UInt8) :
    ∃ c', c.step dataLink (.tick t invokeId) = .ok c' ∧
      BoundTo dataLink connectionString c' ∧ c.peer.SamePeer c'.peer ∧
      c'.peer = if c.isDue t then c.peer.asked t c.nextKind invokeId else c.peer := by
  obtain ⟨c', hc'⟩ := exists_step dataLink c (.tick t invokeId)
  have hsame := samePeer_tick hc'
  refine ⟨c', hc', ⟨hsame.bound.trans h.bound, ?_⟩, hsame, step_tick_peer hc'⟩
  rw [Controller.boundAddress, hsame.connectionString]
  exact h.address

/-- A due read is the only one that is outstanding. -/
theorem ReadAfresh.pendingId_tick (h : ReadAfresh dataLink connectionString c) {t : Time}
    {id : UInt8} (hdue : c.isDue t)
    (hpeer : c'.peer = if c.isDue t then c.peer.asked t c.nextKind (some id) else c.peer)
    (kind : ReadKind) : c'.pendingId kind = if c.nextKind = kind then some id else none := by
  rw [if_pos hdue] at hpeer
  rw [pendingId_asked hpeer, h.noReadOutstanding]

/-- A tick shows the silence. -/
theorem SameUpdates.isLost {now t : Time} (h : SameUpdates dataLink now connectionString c d)
    (hle : now ≤ t) : d.isLost t ↔ c.isLost t := by
  have hsame := h.update (.tick t none) (by rintro _ ⟨rfl⟩; exact hle) rfl
  simp only [Controller.update, DiamondUpdate.mk.injEq, true_and] at hsame
  by_cases hc : c.isLost t <;> by_cases hd : d.isLost t <;> simp_all

/-- An Abort shows whether a read was due. -/
theorem SameUpdates.isDue {now t : Time} (h : SameUpdates dataLink now connectionString c d)
    (hc : ReadAfresh dataLink connectionString c) (hd : ReadAfresh dataLink connectionString d)
    (hle : now ≤ t) : d.isDue t ↔ c.isDue t := by
  obtain ⟨c', hc', hbound, -, hpeer⟩ := exists_tick hc.toBoundTo t (some 0)
  obtain ⟨d', hd', hbound', -, hpeer'⟩ := exists_tick hd.toBoundTo t (some 0)
  have hticked := h.step (.tick t (some 0)) (by rintro _ ⟨rfl⟩; exact hle) rfl hc' hd'
  have hsame := hticked.update (datagramFrom dataLink connectionString t (abort 0))
    (by rintro _ ⟨rfl⟩; exact le_refl t) (isPollOrFrom_datagramFrom _ _ _ _)
  rw [hbound.update_abort, hbound'.update_abort] at hsame
  have hawaits : ∀ {c c' : Controller}, ReadAfresh dataLink connectionString c →
      (c'.peer = if c.isDue t then c.peer.asked t c.nextKind (some 0) else c.peer) →
      (c'.awaits 0 = true ↔ c.isDue t) := by
    intro c c' hc hpeer
    rw [Controller.awaits_iff]
    constructor
    · rintro ⟨kind, hkind⟩
      by_contra hdue
      rw [if_neg hdue] at hpeer
      rw [pendingId_congr hpeer, hc.noReadOutstanding] at hkind
      cases hkind
    · intro hdue
      exact ⟨c.nextKind, by rw [hc.pendingId_tick hdue hpeer, if_pos rfl]⟩
  rw [← hawaits hc hpeer, ← hawaits hd hpeer']
  cases hac : c'.awaits 0 <;> cases had : d'.awaits 0 <;> simp_all

/-- A Reject shows which kind of read was due. -/
theorem SameUpdates.nextKind {now t : Time} (h : SameUpdates dataLink now connectionString c d)
    (hc : ReadAfresh dataLink connectionString c) (hd : ReadAfresh dataLink connectionString d)
    (hle : now ≤ t) (hdue : c.isDue t) : d.nextKind = c.nextKind := by
  have hdue' := (h.isDue hc hd hle).2 hdue
  obtain ⟨c', hc', hbound, -, hpeer⟩ := exists_tick hc.toBoundTo t (some 0)
  obtain ⟨d', hd', hbound', -, hpeer'⟩ := exists_tick hd.toBoundTo t (some 0)
  have hticked := h.step (.tick t (some 0)) (by rintro _ ⟨rfl⟩; exact hle) rfl hc' hd'
  have hsame := hticked.update
    (datagramFrom dataLink connectionString t (rejectUnrecognized 0))
    (by rintro _ ⟨rfl⟩; exact le_refl t) (isPollOrFrom_datagramFrom _ _ _ _)
  rw [hbound.update_reject t (hc.pendingId_tick hdue hpeer),
    hbound'.update_reject t (hd.pendingId_tick hdue' hpeer')] at hsame
  cases hk : c.nextKind <;> cases hk' : d.nextKind <;> simp_all

/-- Three seconds after `start`, and some rounds of the 32-bit counter later. -/
theorem exists_millisecondsSince (now start : Int) :
    ∃ t : Int, now ≤ t ∧ millisecondsSince t start = 3000 := by
  obtain ⟨k, hk⟩ : ∃ k : Int, k = ((now - start).natAbs : Int) := ⟨_, rfl⟩
  refine ⟨start + (3000 + 2 ^ 32 * k) * 1000000, by omega, ?_⟩
  have hd : (0 : Int) ≤ start + (3000 + 2 ^ 32 * k) * 1000000 - start := by omega
  unfold millisecondsSince
  rw [Int.tdiv_eq_ediv_of_nonneg hd]
  have hquotient : (start + (3000 + 2 ^ 32 * k) * 1000000 - start) / 1000000 =
      3000 + 2 ^ 32 * k := by
    omega
  rw [hquotient, Int.add_mul_emod_self_left]
  rfl

/-- At some later time the next poll is due. -/
theorem exists_isDue {c : Controller} (h : c.peer.bound = true) (now : Time) :
    ∃ t, now ≤ t ∧ c.isDue t := by
  obtain ⟨t, hle, hms⟩ := exists_millisecondsSince now c.peer.lastPoll
  refine ⟨t, hle, h, ?_⟩
  rw [hms]
  split_ifs <;> decide

/-- An ACK to a ReadProperty shows what is known of the sensor. -/
theorem SameUpdates.fault_of_nextKind {now t : Time}
    (h : SameUpdates dataLink now connectionString c d)
    (hc : ReadAfresh dataLink connectionString c) (hd : ReadAfresh dataLink connectionString d)
    (hle : now ≤ t) (hdue : c.isDue t) (hkind : c.nextKind = .readProperty) :
    d.peer.sensorFaultReported = c.peer.sensorFaultReported := by
  have hdue' := (h.isDue hc hd hle).2 hdue
  have hkind' := (h.nextKind hc hd hle hdue).trans hkind
  obtain ⟨c', hc', hbound, hpeer, hasked⟩ := exists_tick hc.toBoundTo t (some 0)
  obtain ⟨d', hd', hbound', hpeer', hasked'⟩ := exists_tick hd.toBoundTo t (some 0)
  have hticked := h.step (.tick t (some 0)) (by rintro _ ⟨rfl⟩; exact hle) rfl hc' hd'
  have hsame := hticked.update (datagramFrom dataLink connectionString t
      (readPropertyAck 0 analogInput1 presentValueOctets none powerOnValue))
    (by rintro _ ⟨rfl⟩; exact le_refl t) (isPollOrFrom_datagramFrom _ _ _ _)
  have hpending : c'.pendingId .readProperty = some 0 := by
    rw [hc.pendingId_tick hdue hasked, hkind, if_pos rfl]
  have hpending' : d'.pendingId .readProperty = some 0 := by
    rw [hd.pendingId_tick hdue' hasked', hkind', if_pos rfl]
  rw [hbound.update_readPropertyAck t hpending, hbound'.update_readPropertyAck t hpending',
    hpeer.sensorFaultReported, hpeer'.sensorFaultReported] at hsame
  cases hf : c.peer.sensorFaultReported <;> cases hf' : d.peer.sensorFaultReported <;> simp_all

/-- An attempt that fails turns the kind of the next read, and leaves the record afresh. -/
theorem ReadAfresh.tick_none (h : ReadAfresh dataLink connectionString c) {t : Time}
    (hdue : c.isDue t)
    (hbound : BoundTo dataLink connectionString c') (hsame : c.peer.SamePeer c'.peer)
    (hpeer : c'.peer = if c.isDue t then c.peer.asked t c.nextKind none else c.peer) :
    ReadAfresh dataLink connectionString c' ∧ c'.nextKind ≠ c.nextKind := by
  rw [if_pos hdue] at hpeer
  have hsupported := hsame.readPropertyMultipleUnsupported.trans h.supported
  refine ⟨⟨hbound, fun kind => ?_, hsupported⟩, ?_⟩
  · rw [pendingId_asked_none hpeer, h.noReadOutstanding]
  · have hcount : c'.peer.pollCount % 2 = 1 - c.peer.pollCount % 2 := by
      rw [hpeer, (asked_keeps t c.nextKind none c.peer).1, add_one_mod_two]
    rw [Controller.nextKind, Controller.nextKind, hcount, hsupported, h.supported]
    by_cases hone : c.peer.pollCount % 2 = 1
    · simp [hone]
    · have hne : 1 - c.peer.pollCount % 2 = 1 := by
        rw [mod_two_eq_zero hone]
        rfl
      simp [hone, hne]

theorem SameUpdates.fault {now : Time} (h : SameUpdates dataLink now connectionString c d)
    (hc : ReadAfresh dataLink connectionString c) (hd : ReadAfresh dataLink connectionString d) :
    d.peer.sensorFaultReported = c.peer.sensorFaultReported := by
  obtain ⟨t, hle, hdue⟩ := exists_isDue hc.bound now
  cases hkind : c.nextKind with
  | readProperty => exact h.fault_of_nextKind hc hd hle hdue hkind
  | readPropertyMultiple =>
    -- a read that cannot be sent takes its turn
    have hdue' := (h.isDue hc hd hle).2 hdue
    obtain ⟨c', hc', hbound, hpeer, hasked⟩ := exists_tick hc.toBoundTo t none
    obtain ⟨d', hd', hbound', hpeer', hasked'⟩ := exists_tick hd.toBoundTo t none
    obtain ⟨hafresh, hturned⟩ := hc.tick_none hdue hbound hpeer hasked
    obtain ⟨hafresh', -⟩ := hd.tick_none hdue' hbound' hpeer' hasked'
    have hkind' : c'.nextKind = .readProperty := by
      cases hk : c'.nextKind with
      | readProperty => rfl
      | readPropertyMultiple => exact absurd (hk.trans hkind.symm) hturned
    have hticked := h.step (.tick t none) (by rintro _ ⟨rfl⟩; exact hle) rfl hc' hd'
    obtain ⟨t', hle', hdueAgain⟩ := exists_isDue hafresh.bound t
    have hfault := hticked.fault_of_nextKind hafresh hafresh' hle' hdueAgain hkind'
    rwa [hpeer.sensorFaultReported, hpeer'.sensorFaultReported] at hfault

end

/-! ### Timers that run apart -/

/-- Some rounds of the counter after `start`. -/
theorem millisecondsSince_round (start k before : Int)
    (hle : before ≤ start + 4294967296000000 * k) :
    (millisecondsSince (start + 4294967296000000 * k) before : Int) =
      (start - before) % 4294967296000000 / 1000000 := by
  rw [millisecondsSince_of_le hle]
  omega

/-- At some time one of the two has just started anew, and the other has run for long. -/
theorem exists_apart {s s' : Int} (h : ¬ s ≡ s' [ZMOD counterRound]) (now : Int) :
    ∃ t : Int, now ≤ t ∧ (millisecondsSince t s = 0 ∧ 3000 < millisecondsSince t s' ∨
      millisecondsSince t s' = 0 ∧ 3000 < millisecondsSince t s) := by
  have hdiffers : (s - s') % 4294967296000000 ≠ 0 :=
    fun hzero => h (Int.emod_eq_emod_iff_emod_sub_eq_zero.2 hzero)
  obtain ⟨k, hk⟩ : ∃ k : Int, k = now.natAbs + s.natAbs + s'.natAbs := ⟨_, rfl⟩
  by_cases hfar : 3001000000 ≤ (s - s') % 4294967296000000
  · refine ⟨s + 4294967296000000 * k, by omega, Or.inl ⟨?_, ?_⟩⟩
    · have hms := millisecondsSince_round s k s (by omega)
      omega
    · have hms := millisecondsSince_round s k s' (by omega)
      omega
  · refine ⟨s' + 4294967296000000 * k, by omega, Or.inr ⟨?_, ?_⟩⟩
    · have hms := millisecondsSince_round s' k s' (by omega)
      omega
    · have hms := millisecondsSince_round s' k s (by omega)
      omega

section
variable {dataLink : DataLink} {connectionString : Octets} {c d : Controller} {now : Time}

theorem SameUpdates.lastAnswer (h : SameUpdates dataLink now connectionString c d)
    (hc : c.peer.bound = true) (hd : d.peer.bound = true) :
    c.peer.lastAnswer ≡ d.peer.lastAnswer [ZMOD counterRound] := by
  by_contra hne
  obtain ⟨t, hle, hapart⟩ := exists_apart hne now
  have hlost := h.isLost hle
  simp only [Controller.isLost, hc, hd, true_and, remoteCommsLossMilliseconds] at hlost
  omega

theorem not_isDue {t : Time} (h : millisecondsSince t c.peer.lastPoll = 0) : ¬ c.isDue t := by
  rintro ⟨-, hle⟩
  rw [h] at hle
  split_ifs at hle <;> exact absurd hle (by decide)

theorem isDue_of_long {t : Time} (hc : c.peer.bound = true)
    (h : 3000 < millisecondsSince t c.peer.lastPoll) : c.isDue t := by
  refine ⟨hc, le_trans ?_ h.le⟩
  split_ifs <;> decide

theorem SameUpdates.lastPoll (h : SameUpdates dataLink now connectionString c d)
    (hc : ReadAfresh dataLink connectionString c) (hd : ReadAfresh dataLink connectionString d) :
    c.peer.lastPoll ≡ d.peer.lastPoll [ZMOD counterRound] := by
  by_contra hne
  obtain ⟨t, hle, hapart⟩ := exists_apart hne now
  have hdue := h.isDue hc hd hle
  rcases hapart with ⟨hzero, hlong⟩ | ⟨hzero, hlong⟩
  · exact not_isDue hzero (hdue.1 (isDue_of_long hd.bound hlong))
  · exact not_isDue hzero (hdue.2 (isDue_of_long hc.bound hlong))

theorem SameUpdates.pollCount (h : SameUpdates dataLink now connectionString c d)
    (hc : ReadAfresh dataLink connectionString c) (hd : ReadAfresh dataLink connectionString d) :
    d.peer.pollCount % 2 = c.peer.pollCount % 2 := by
  obtain ⟨t, hle, hdue⟩ := exists_isDue hc.bound now
  have hkind := h.nextKind hc hd hle hdue
  rw [Controller.nextKind, Controller.nextKind, hc.supported, hd.supported] at hkind
  by_cases hone : c.peer.pollCount % 2 = 1 <;> by_cases hone' : d.peer.pollCount % 2 = 1
  · rw [hone, hone']
  · simp [hone, hone'] at hkind
  · simp [hone, hone'] at hkind
  · rw [mod_two_eq_zero hone, mod_two_eq_zero hone']

end

/-! ## Two records -/

/-- The records of the peer agree in what a rebinding keeps: the word on the sensor, the kind of
the next read, and the timers as far as `MillisecondsSince` tells them apart. -/
structure RecordsAgree (c d : Controller) : Prop where
  sensorFaultReported : d.peer.sensorFaultReported = c.peer.sensorFaultReported
  pollCount : d.peer.pollCount % 2 = c.peer.pollCount % 2
  lastAnswer : c.peer.lastAnswer ≡ d.peer.lastAnswer [ZMOD counterRound]
  lastPoll : c.peer.lastPoll ≡ d.peer.lastPoll [ZMOD counterRound]

/-- A bound peer's timers are past. -/
def TimersPast (now : Time) (c : Controller) : Prop :=
  c.peer.bound = true → c.peer.lastAnswer ≤ now ∧ c.peer.lastPoll ≤ now

/-- **The same updates come from the same record**, if nothing is outstanding. -/
theorem sameUpdates_iff {dataLink : DataLink} {connectionString : Octets} {c d : Controller}
    {now : Time} (hc : ReadAfresh dataLink connectionString c)
    (hd : ReadAfresh dataLink connectionString d)
    (hstring : d.peer.connectionString = c.peer.connectionString)
    (htimers : TimersPast now c) (htimers' : TimersPast now d) :
    SameUpdates dataLink now connectionString c d ↔ RecordsAgree c d := by
  obtain ⟨hanswer, hpoll⟩ := htimers hc.bound
  obtain ⟨hanswer', hpoll'⟩ := htimers' hd.bound
  constructor
  · intro h
    exact ⟨h.fault hc hd, h.pollCount hc hd, h.lastAnswer hc.bound hd.bound, h.lastPoll hc hd⟩
  · intro h
    have halike : Alike now c d := by
      refine ⟨fun kind => ?_, ⟨?_, hstring, ?_, h.sensorFaultReported⟩, h.pollCount,
        ⟨hanswer, hanswer', h.lastAnswer⟩, ⟨hpoll, hpoll', h.lastPoll⟩⟩
      · rw [hc.noReadOutstanding, hd.noReadOutstanding]
      · rw [hc.bound, hd.bound]
      · rw [hc.supported, hd.supported]
    exact sameUpdates_of_alike halike dataLink connectionString

/-! ## Two histories -/

/-- The two histories differ only in the datagrams from this address and port. -/
def DifferOnlyFrom (dataLink : DataLink) (connectionString : Octets)
    (history₁ history₂ : List Event) : Prop :=
  history₁.filter (fun event => !event.isFrom dataLink connectionString) =
    history₂.filter fun event => !event.isFrom dataLink connectionString

instance (dataLink : DataLink) (connectionString : Octets) (history₁ history₂ : List Event) :
    Decidable (DifferOnlyFrom dataLink connectionString history₁ history₂) :=
  inferInstanceAs (Decidable (_ = _))

/-- Whether the peer is bound, and where. -/
def Controller.binding (c : Controller) : Bool × Octets := (c.peer.bound, c.peer.connectionString)

section
variable {dataLink : DataLink} {connectionString : Octets} {c c' d d' : Controller}

theorem binding_hookIAm (h : d.binding = c.binding) (now : Time) (deviceIdentifier : UInt32)
    (announced : Octets) (sourceNetwork : UInt16) :
    (hookIAm dataLink now deviceIdentifier announced sourceNetwork d).binding =
      (hookIAm dataLink now deviceIdentifier announced sourceNetwork c).binding := by
  obtain ⟨hbound, hstring⟩ := Prod.mk.inj h
  unfold hookIAm
  by_cases hskip : (!isIpDataLink dataLink || deviceIdentifier != remoteDeviceInstance ||
      sourceNetwork != 0 || announced.length != transportConnectionStringLength dataLink) = true
  · simp only [hskip, if_true]
    exact h
  · simp only [hskip, Bool.false_eq_true, if_false]
    cases hb : c.peer.bound with
    | false => simp [hbound.trans hb, hstring, Controller.binding]
    | true =>
      by_cases hnew : c.peer.connectionString.take (transportConnectionStringLength dataLink) =
          announced
      · simp [hbound, hb, hstring, hnew, Controller.binding]
      · simp [hbound, hb, hstring, hnew, Controller.binding]

theorem binding_datagram {now : Time} {message fromAddress : Octets} {fromPort : UInt16}
    (h : c.step dataLink (.datagram now message fromAddress fromPort) = .ok c') :
    c'.binding = c.binding := by
  simp only [Controller.step, handleReplyFromPeer_eq, Except.ok.injEq] at h
  cases htaken : c.taken dataLink message fromAddress fromPort with
  | none =>
    rw [htaken] at h
    exact h ▸ rfl
  | some apdu =>
    rw [htaken] at h
    subst h
    obtain ⟨-, -, -, hbound, hstring⟩ := afterAnswer_keeps c now apdu
    exact Prod.ext hbound hstring

/-- What is bound does not depend on what the peer sends. -/
theorem binding_step (h : d.binding = c.binding) {event : Event}
    (hc : c.step dataLink event = .ok c') (hd : d.step dataLink event = .ok d') :
    d'.binding = c'.binding := by
  have hkept {c c' : Controller} (hsame : c.peer.SamePeer c'.peer) : c'.binding = c.binding :=
    Prod.ext hsame.bound hsame.connectionString
  cases event with
  | iAm now deviceIdentifier announced sourceNetwork =>
    obtain rfl := Except.ok.inj hc
    obtain rfl := Except.ok.inj hd
    exact binding_hookIAm h now deviceIdentifier announced sourceNetwork
  | tick now invokeId => rw [hkept (samePeer_tick hc), hkept (samePeer_tick hd), h]
  | datagram now message fromAddress fromPort =>
    rw [binding_datagram hc, binding_datagram hd, h]
  | restart kind =>
    obtain rfl := Except.ok.inj hc
    obtain rfl := Except.ok.inj hd
    cases kind <;> exact h

theorem exists_run (dataLink : DataLink) (c : Controller) (events : List Event) :
    ∃ c', final (Controller.step dataLink) c events = .ok c' := by
  induction events generalizing c with
  | nil => exact ⟨c, rfl⟩
  | cons event events ih =>
    obtain ⟨c₁, hc₁⟩ := exists_step dataLink c event
    obtain ⟨c', hc'⟩ := ih c₁
    exact ⟨c', by rw [final_cons_ok hc₁, hc']⟩

theorem binding_filter (h : d.binding = c.binding) {history : List Event}
    (hc : final (Controller.step dataLink) c history = .ok c')
    (hd : final (Controller.step dataLink) d
      (history.filter fun event => !event.isFrom dataLink connectionString) = .ok d') :
    d'.binding = c'.binding := by
  induction history generalizing c d with
  | nil =>
    obtain rfl := Except.ok.inj hc
    obtain rfl := Except.ok.inj hd
    exact h
  | cons event history ih =>
    obtain ⟨c₁, hc₁⟩ := exists_step dataLink c event
    rw [final_cons_ok hc₁] at hc
    by_cases hfrom : event.isFrom dataLink connectionString = true
    · rw [List.filter_cons_of_neg (by simpa using hfrom)] at hd
      refine ih ?_ hc hd
      cases event with
      | iAm | tick | restart => cases hfrom
      | datagram now message fromAddress fromPort => rw [binding_datagram hc₁, h]
    · rw [List.filter_cons_of_pos (by simpa using hfrom)] at hd
      obtain ⟨d₁, hd₁⟩ := exists_step dataLink d event
      rw [final_cons_ok hd₁] at hd
      exact ih (binding_step h hc₁ hd₁) hc hd

/-- Histories that differ only in what the peer has sent bind it alike. -/
theorem binding_of_differOnlyFrom {history₁ history₂ : List Event}
    (h : DifferOnlyFrom dataLink connectionString history₁ history₂)
    (hc : final (Controller.step dataLink) .initial history₁ = .ok c)
    (hd : final (Controller.step dataLink) .initial history₂ = .ok d) :
    d.binding = c.binding := by
  obtain ⟨common, hcommon⟩ := exists_run dataLink .initial
    (history₁.filter fun event => !event.isFrom dataLink connectionString)
  have hleft := binding_filter rfl hc hcommon
  rw [h] at hcommon
  exact (binding_filter rfl hd hcommon).symm.trans hleft

/-! ### The timers of a run -/

theorem timersPast_step {now : Time} (h : TimersPast now c) {event : Event}
    (hle : ∀ time ∈ event.time, now ≤ time) (hc : c.step dataLink event = .ok c') :
    TimersPast (event.time.getD now) c' := by
  have hlater {t : Time} (ht : now ≤ t) : TimersPast t c := fun hb =>
    ⟨le_trans (h hb).1 ht, le_trans (h hb).2 ht⟩
  cases event with
  | iAm t deviceIdentifier announced sourceNetwork =>
    obtain rfl := Except.ok.inj hc
    have houtcome := hookIAm_outcome dataLink t deviceIdentifier announced sourceNetwork c
    generalize hookIAm dataLink t deviceIdentifier announced sourceNetwork c = c' at houtcome
    cases houtcome with
    | ignored => exact hlater (hle t rfl)
    | binds => exact fun _ => ⟨le_refl t, Int.sub_le_self t (by decide)⟩
    | moves => exact hlater (hle t rfl)
  | tick t invokeId =>
    have hpeer := step_tick_peer hc
    intro hb
    rw [(samePeer_tick hc).bound] at hb
    rw [hpeer]
    by_cases hdue : c.isDue t
    · obtain ⟨-, hpoll, hanswer⟩ := asked_keeps t c.nextKind invokeId c.peer
      rw [if_pos hdue, hpoll, hanswer]
      exact ⟨(hlater (hle t rfl) hb).1, le_refl t⟩
    · rw [if_neg hdue]
      exact hlater (hle t rfl) hb
  | datagram t message fromAddress fromPort =>
    simp only [Controller.step, handleReplyFromPeer_eq, Except.ok.injEq] at hc
    cases htaken : c.taken dataLink message fromAddress fromPort with
    | none =>
      rw [htaken] at hc
      exact hc ▸ hlater (hle t rfl)
    | some apdu =>
      rw [htaken] at hc
      subst hc
      obtain ⟨-, hpoll, hanswer, hbound, -⟩ := afterAnswer_keeps c t apdu
      intro hb
      rw [hpoll, hanswer]
      exact ⟨le_refl t, (hlater (hle t rfl) (hbound ▸ hb)).2⟩
  | restart kind =>
    obtain rfl := Except.ok.inj hc
    cases kind <;> exact h

/-- At an event after a run the timers are past. -/
theorem timersPast_final {start now : Time} (h : TimersPast start c) {history : List Event}
    {event : Event} (hnow : event.time = some now)
    (horder : OrderedFrom start (history ++ [event]))
    (hc : final (Controller.step dataLink) c history = .ok c') : TimersPast now c' := by
  induction history generalizing start c with
  | nil =>
    obtain rfl := Except.ok.inj hc
    have hle : start ≤ now := horder.1 now hnow
    exact fun hb => ⟨le_trans (h hb).1 hle, le_trans (h hb).2 hle⟩
  | cons first history ih =>
    obtain ⟨c₁, hc₁⟩ := exists_step dataLink c first
    rw [final_cons_ok hc₁] at hc
    exact ih (timersPast_step h horder.1 hc₁) horder.2 hc

end

/-! ## Exactly when a rebinding forgets -/

/-- Two runs from the start of the program to `now` that differ only in what the peer's address has
sent, and an I-Am that moves the peer to a new address. -/
structure TwoHistories (dataLink : DataLink) (start now : Time) (deviceIdentifier : UInt32)
    (connectionString : Octets) (sourceNetwork : UInt16) (history₁ history₂ : List Event)
    (c₁ c₂ : Controller) : Prop where
  final₁ : final (Controller.step dataLink) .initial history₁ = .ok c₁
  final₂ : final (Controller.step dataLink) .initial history₂ = .ok c₂
  differ : DifferOnlyFrom dataLink (c₁.boundAddress dataLink) history₁ history₂
  ordered₁ : OrderedFrom start
    (history₁ ++ [.iAm now deviceIdentifier connectionString sourceNetwork])
  ordered₂ : OrderedFrom start
    (history₂ ++ [.iAm now deviceIdentifier connectionString sourceNetwork])
  rebinds : Rebinds dataLink deviceIdentifier connectionString sourceNetwork c₁

theorem noReadOutstanding_rebound (dataLink : DataLink) (connectionString : Octets)
    {c : Controller} :
    (c.rebound dataLink connectionString).NoReadOutstanding ↔ c.NoReadOutstanding := by
  have hsame : ∀ kind, (c.rebound dataLink connectionString).pendingId kind = c.pendingId kind := by
    intro kind
    cases kind <;> rfl
  simp only [Controller.NoReadOutstanding, hsame]

theorem boundTo_rebound {dataLink : DataLink} {deviceIdentifier : UInt32}
    {connectionString : Octets} {sourceNetwork : UInt16} {c : Controller}
    (h : Rebinds dataLink deviceIdentifier connectionString sourceNetwork c) :
    BoundTo dataLink connectionString (c.rebound dataLink connectionString) :=
  ⟨h.bound, List.take_left' h.length⟩

/-- With a read outstanding, an Abort from the bound address is taken at once. -/
theorem noReadOutstanding_of_onlyNewAnswers {dataLink : DataLink} {connectionString : Octets}
    {c : Controller} (hc : BoundTo dataLink connectionString c)
    (h : c.OnlyNewAnswers dataLink connectionString) : c.NoReadOutstanding := by
  intro kind
  by_contra hne
  obtain ⟨id, hid⟩ := Option.ne_none_iff_exists'.1 hne
  have hapdu : apduAt dataLink (plainMessage dataLink (abort id)) = some (abort id) :=
    apduAt_encode _ _ (by simp [abort])
  have hawaits : c.awaits (invokeIdOf (abort id)) = true := Controller.awaits_iff.2 ⟨kind, hid⟩
  have htaken := taken_eq_some_iff.2 ⟨hc.fromPeer, hapdu, hawaits⟩
  have hhere : ∀ t ∈ states (Controller.step dataLink) c [], t.boundAddress dataLink =
      connectionString := by
    intro t ht
    rw [List.mem_singleton.1 ht]
    exact hc.address
  obtain ⟨_, hsent, -⟩ := h [] hhere c rfl _ _ _ _ htaken
  cases hsent

/-- **A rebinding forgets the old address** exactly when no read is outstanding in either history
and the two records agree on the sensor, the next kind of read and the timers. -/
theorem rebind_forgets_iff {dataLink : DataLink} {start now : Time} {deviceIdentifier : UInt32}
    {connectionString : Octets} {sourceNetwork : UInt16} {history₁ history₂ : List Event}
    {c₁ c₂ : Controller}
    (h : TwoHistories dataLink start now deviceIdentifier connectionString sourceNetwork history₁
      history₂ c₁ c₂) :
    ReadByItself dataLink now deviceIdentifier connectionString sourceNetwork c₁ c₂ ↔
      c₁.NoReadOutstanding ∧ c₂.NoReadOutstanding ∧ RecordsAgree c₁ c₂ := by
  obtain ⟨hbound, hstring⟩ := Prod.mk.inj (binding_of_differOnlyFrom h.differ h.final₁ h.final₂)
  have hrebinds : Rebinds dataLink deviceIdentifier connectionString sourceNetwork c₂ := by
    obtain ⟨hip, hdevice, hnetwork, hlength, hb, hdiffers⟩ := h.rebinds
    refine ⟨hip, hdevice, hnetwork, hlength, hbound.trans hb, ?_⟩
    rwa [Controller.boundAddress, hstring]
  have hstart : TimersPast start .initial := fun hb => absurd hb (by decide)
  have htimers := timersPast_final hstart rfl h.ordered₁ h.final₁
  have htimers' := timersPast_final hstart rfl h.ordered₂ h.final₂
  have hmoved := boundTo_rebound h.rebinds
  have hmoved' := boundTo_rebound hrebinds
  have hsame (h₁ : c₁.NoReadOutstanding) (h₂ : c₂.NoReadOutstanding) :
      SameUpdates dataLink now connectionString (c₁.rebound dataLink connectionString)
        (c₂.rebound dataLink connectionString) ↔ RecordsAgree c₁ c₂ := by
    have hafresh : ReadAfresh dataLink connectionString (c₁.rebound dataLink connectionString) :=
      ⟨hmoved, (noReadOutstanding_rebound dataLink connectionString).2 h₁, rfl⟩
    have hafresh' : ReadAfresh dataLink connectionString (c₂.rebound dataLink connectionString) :=
      ⟨hmoved', (noReadOutstanding_rebound dataLink connectionString).2 h₂, rfl⟩
    rw [sameUpdates_iff hafresh hafresh'
      (congrArg (connectionString ++ List.drop _ ·) hstring) htimers htimers']
    constructor
    · rintro ⟨hf, hn, ha, hp⟩
      exact ⟨hf, hn, ha, hp⟩
    · rintro ⟨hf, hn, ha, hp⟩
      exact ⟨hf, hn, ha, hp⟩
  rw [ReadByItself, hookIAm_of_rebinds h.rebinds, hookIAm_of_rebinds hrebinds]
  constructor
  · rintro ⟨hnew, hnew', hupdates⟩
    have h₁ := (noReadOutstanding_rebound dataLink connectionString).1
      (noReadOutstanding_of_onlyNewAnswers hmoved hnew)
    have h₂ := (noReadOutstanding_rebound dataLink connectionString).1
      (noReadOutstanding_of_onlyNewAnswers hmoved' hnew')
    exact ⟨h₁, h₂, (hsame h₁ h₂).1 hupdates⟩
  · rintro ⟨h₁, h₂, hagree⟩
    have hnone := (noReadOutstanding_rebound dataLink connectionString).2 h₁
    have hnone' := (noReadOutstanding_rebound dataLink connectionString).2 h₂
    exact ⟨onlyNewAnswers_of_noReadOutstanding hnone dataLink connectionString,
      onlyNewAnswers_of_noReadOutstanding hnone' dataLink connectionString,
      (hsame h₁ h₂).2 hagree⟩

/-! ### A read and a fault that outlive their address -/

/-- Another address of the peer. -/
def newAddress : Octets := [192, 168, 1, 21]

def newConnectionString : Octets := newAddress ++ [0xBA, 0xC0]

/-- Both polls are answered by the peer: the first with 47.0, the second as `answer` says. -/
def secondAnswer (answer : Octets) : List Event :=
  firstPoll ++
    [.datagram 0 (readingAck 0) peerAddress 0xBAC0,
      .tick (milliseconds 1000) (some 1),
      .datagram (milliseconds 1000) answer peerAddress 0xBAC0]

/-- Abort, invoke id 1. -/
def abortMultiple : Octets := [0x81, 0x0A, 0x00, 0x09, 0x01, 0x00, 0x70, 0x01, 0x09]

/-- ReadPropertyMultiple-ACK, invoke id 1: Present_Value 48.0, Status_Flags without FAULT. -/
def healthyAck : Octets :=
  [0x81, 0x0A, 0x00, 0x20, 0x01, 0x00, 0x30, 0x01, 0x0E, 0x0C, 0x00, 0x00, 0x00, 0x01, 0x1E,
    0x29, 0x55, 0x4E, 0x44, 0x42, 0x40, 0x00, 0x00, 0x4F,
    0x29, 0x6F, 0x4E, 0x82, 0x04, 0x00, 0x4F, 0x1F]

/-- The state after `secondAnswer`: what the answer said of the sensor, and Diamond's values. -/
def secondAnswered (fault : Bool) (value : Single) (reliability : Reliability) : Controller :=
  { polling with
    peer := { polling.peer with
      readPropertyPending := false
      readPropertyMultipleInvokeId := 1
      pollCount := 2
      sensorFaultReported := fault
      lastPoll := milliseconds 1000
      lastAnswer := milliseconds 1000 }
    analogValue1Value := value
    diamondReliability := reliability }

/-- After the FAULT. -/
def faulty : Controller := secondAnswered true ⟨0x423C0000⟩ .unreliableOther

/-- After the Abort. -/
def aborted : Controller := secondAnswered false ⟨0x423C0000⟩ .unreliableOther

/-- After the good reading. -/
def healthy : Controller := secondAnswered false ⟨0x42400000⟩ .noFaultDetected

theorem ordered_secondAnswer (answer : Octets) :
    OrderedFrom 0 (secondAnswer answer ++
      [.iAm (milliseconds 1500) remoteDeviceInstance newConnectionString 0]) := by
  have hlast : milliseconds 1000 ≤ milliseconds 1500 := by decide
  refine ⟨?_, ?_, ?_, ?_, ?_, ?_, trivial⟩ <;> rintro time ⟨rfl⟩
  · decide
  · decide
  · decide
  · decide
  · decide
  · exact hlast

theorem twoHistories_aborted (answer : Octets) (c : Controller)
    (hc : final (Controller.step .ipv4) .initial (secondAnswer answer) = .ok c)
    (hrebinds : Rebinds .ipv4 remoteDeviceInstance newConnectionString 0 c)
    (hdiffer : DifferOnlyFrom .ipv4 (c.boundAddress .ipv4) (secondAnswer answer)
      (secondAnswer abortMultiple)) :
    TwoHistories .ipv4 0 (milliseconds 1500) remoteDeviceInstance newConnectionString 0
      (secondAnswer answer) (secondAnswer abortMultiple) c aborted :=
  ⟨hc, by decide, hdiffer, ordered_secondAnswer _, ordered_secondAnswer _, hrebinds⟩

/-- 50.0 with invoke id 2. -/
def laterReading : Octets :=
  [0x81, 0x0A, 0x00, 0x17, 0x01, 0x00, 0x30, 0x02, 0x0C, 0x0C, 0x00, 0x00, 0x00, 0x01,
    0x19, 0x55, 0x3E, 0x44, 0x42, 0x48, 0x00, 0x00, 0x3F]

/-- The new address is asked, and reads 50.0. -/
def newReading : List Event :=
  [.tick (milliseconds 2000) (some 2), .datagram (milliseconds 2000) laterReading newAddress 0xBAC0]

/-- An Abort from the new address ends a read that the old one was sent, and the old fault holds
back what the new address reads. -/
theorem newAddress_not_readByItself :
    (¬ ∀ c : Controller, c.Reachable .ipv4 →
      ∀ now, Rebinds .ipv4 remoteDeviceInstance newConnectionString 0 c →
        (hookIAm .ipv4 now remoteDeviceInstance newConnectionString 0 c).OnlyNewAnswers .ipv4
          newConnectionString) ∧
    ¬ ∀ start now history₁ history₂ c₁ c₂,
      TwoHistories .ipv4 start now remoteDeviceInstance newConnectionString 0 history₁ history₂ c₁
          c₂ →
        SameUpdates .ipv4 now newConnectionString
          (hookIAm .ipv4 now remoteDeviceInstance newConnectionString 0 c₁)
          (hookIAm .ipv4 now remoteDeviceInstance newConnectionString 0 c₂) := by
  constructor
  · intro h
    have hrebinds : Rebinds .ipv4 remoteDeviceInstance newConnectionString 0 polling :=
      ⟨rfl, rfl, rfl, rfl, rfl, by decide⟩
    have haddress : ∀ t ∈ states (Controller.step .ipv4)
        (hookIAm .ipv4 0 remoteDeviceInstance newConnectionString 0 polling) [],
        t.boundAddress .ipv4 = newConnectionString := by
      intro t ht
      rw [List.mem_singleton.1 ht]
      decide
    have htaken : (hookIAm .ipv4 0 remoteDeviceInstance newConnectionString 0 polling).taken .ipv4
        [0x81, 0x0A, 0x00, 0x09, 0x01, 0x00, 0x70, 0x00, 0x09] newAddress 0xBAC0 =
          some [0x70, 0x00, 0x09] := by decide
    obtain ⟨kind, hsent, -⟩ :=
      h polling reachable_polling 0 hrebinds [] haddress _ rfl _ _ _ _ htaken
    cases hsent
  · intro h
    have hhistories := twoHistories_aborted faultAck faulty (by decide)
      ⟨rfl, rfl, rfl, rfl, rfl, by decide⟩ (by decide)
    have horder : OrderedFrom (milliseconds 1500) newReading := by
      refine ⟨?_, ?_, trivial⟩ <;> rintro time ⟨rfl⟩ <;> decide
    have hupdates := h _ _ _ _ _ _ hhistories newReading horder (by decide)
    obtain ⟨c', hc', hvalue⟩ : ∃ c', final (Controller.step .ipv4)
        (hookIAm .ipv4 (milliseconds 1500) remoteDeviceInstance newConnectionString 0 faulty)
        newReading = .ok c' ∧ c'.analogValue1Value = ⟨0x423C0000⟩ := by
      refine ⟨{ faulty with peer := { faulty.peer with
        connectionString := newConnectionString ++ List.replicate 12 0
        readPropertyInvokeId := 2
        pollCount := 3
        lastPoll := milliseconds 2000
        lastAnswer := milliseconds 2000 } }, ?_, rfl⟩
      decide
    obtain ⟨d', hd', hvalue'⟩ : ∃ d', final (Controller.step .ipv4)
        (hookIAm .ipv4 (milliseconds 1500) remoteDeviceInstance newConnectionString 0 aborted)
        newReading = .ok d' ∧ d'.analogValue1Value = ⟨0x42480000⟩ := by
      refine ⟨{ aborted with
        peer := { aborted.peer with
          connectionString := newConnectionString ++ List.replicate 12 0
          readPropertyInvokeId := 2
          pollCount := 3
          lastPoll := milliseconds 2000
          lastAnswer := milliseconds 2000 }
        analogValue1Value := ⟨0x42480000⟩
        diamondReliability := .noFaultDetected }, ?_, rfl⟩
      decide
    -- both start from 47.0, so that the same updates would end alike
    have hsame : d'.diamond = c'.diamond := by
      rw [final_updates hd', final_updates hc', hupdates]
      rfl
    have hvalues := congrArg Prod.fst hsame
    change d'.analogValue1Value = c'.analogValue1Value at hvalues
    rw [hvalue, hvalue'] at hvalues
    exact absurd hvalues (by decide)

/-- After an Abort and after a good reading, both at the same time, the new address is read by
itself. -/
theorem rebind_forgets_iff_secondAnswer :
    ReadByItself .ipv4 (milliseconds 1500) remoteDeviceInstance newConnectionString 0 healthy
      aborted :=
  (rebind_forgets_iff (twoHistories_aborted healthyAck healthy (by decide)
    ⟨rfl, rfl, rfl, rfl, rfl, by decide⟩ (by decide))).2
      ⟨fun kind => by cases kind <;> rfl, fun kind => by cases kind <;> rfl, ⟨rfl, rfl, rfl, rfl⟩⟩

end BacnetBc
