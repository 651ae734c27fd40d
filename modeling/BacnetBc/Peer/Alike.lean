import BacnetBc.Peer.Polls
import Mathlib.Data.Int.ModEq

/-!
# Controllers that read the peer alike

`Controller.update` is what an event gives Diamond: a Present_Value, a Reliability, both or neither,
whatever Diamond has already. The values at the end of a run are those at its beginning with the
updates of the run (`final_updates`).

`Alike` relates two controllers with the same reads outstanding, the same word on the peer, and
timers that `MillisecondsSince` cannot tell apart. It says nothing of Diamond itself.

**Theorem (`Alike.updates`).** From alike controllers the same polls and datagrams make the same
updates.
-/

namespace BacnetBc

open Memory Trajectory

/-! ## What an event gives Diamond -/

/-- What is assigned to Diamond's Present_Value and Reliability. -/
structure DiamondUpdate where
  presentValue : Option Single
  reliability : Option Reliability
deriving DecidableEq, Repr

/-- Diamond's values after the update. -/
def DiamondUpdate.apply (u : DiamondUpdate) (values : Single × Reliability) :
    Single × Reliability :=
  (u.presentValue.elim values.1 values.1.assign, u.reliability.getD values.2)

def Answer.update : Answer → DiamondUpdate
  | unsupported | ignored => ⟨none, none⟩
  | noValue => ⟨none, some .unreliableOther⟩
  | reading humidity => ⟨some humidity, some .noFaultDetected⟩
  | multiple humidity fault =>
    if fault then ⟨none, some .unreliableOther⟩ else ⟨some humidity, some .noFaultDetected⟩

namespace Controller

/-- Diamond's Present_Value and Reliability. -/
def diamond (c : Controller) : Single × Reliability := (c.analogValue1Value, c.diamondReliability)

/-- What the event gives Diamond. -/
def update (dataLink : DataLink) (c : Controller) : Event → DiamondUpdate
  | .iAm _ _ _ _ => ⟨none, none⟩
  | .tick now _ => ⟨none, if c.isLost now then some .communicationFailure else none⟩
  | .datagram _ message fromAddress fromPort =>
    match c.taken dataLink message fromAddress fromPort with
    | some apdu => (c.answerTo apdu).update
    | none => ⟨none, none⟩
  | .restart kind => ⟨if kind = .cold then some powerOnValue else none, none⟩

/-- What the events of a run give Diamond, one after the other. -/
def updates (dataLink : DataLink) (c : Controller) (events : List Event) : List DiamondUpdate :=
  (steps (Controller.step dataLink) c events).map fun p => p.1.update dataLink p.2

theorem updates_cons {dataLink : DataLink} {c c' : Controller} {event : Event}
    (h : c.step dataLink event = .ok c') (events : List Event) :
    c.updates dataLink (event :: events) =
      c.update dataLink event :: c'.updates dataLink events := by
  simp only [updates, steps, h, List.map_cons]

end Controller

theorem diamond_setReliability (r : Reliability) (c : Controller) :
    (setDiamondReliability r c).diamond = (c.analogValue1Value, r) := by
  simp [Controller.diamond]

theorem diamond_apply (a : Answer) (c : Controller) :
    (a.apply c).diamond = a.update.apply c.diamond := by
  cases a with
  | unsupported | ignored => rfl
  | noValue => exact diamond_setReliability _ _
  | reading humidity => exact diamond_setReliability _ _
  | multiple humidity fault =>
    cases fault with
    | true => exact diamond_setReliability _ _
    | false => exact diamond_setReliability _ _

theorem assign_powerOnValue (value : Single) : value.assign powerOnValue = powerOnValue := by
  rcases value.assign_sameNumber powerOnValue with heq | ⟨-, hz⟩
  · exact heq
  · exact absurd hz (by decide)

theorem step_update {dataLink : DataLink} {c c' : Controller} {event : Event}
    (h : c.step dataLink event = .ok c') :
    c'.diamond = (c.update dataLink event).apply c.diamond := by
  cases event with
  | iAm now deviceIdentifier connectionString sourceNetwork =>
    obtain rfl := Except.ok.inj h
    obtain ⟨hvalue, hrel, -⟩ :=
      hookIAm_effect dataLink now deviceIdentifier connectionString sourceNetwork c
    exact Prod.ext hvalue hrel
  | tick now invokeId =>
    obtain rfl := Except.ok.inj h
    obtain ⟨hvalue, -, -, hrel⟩ := pollPeer_effect dataLink now invokeId c
    refine Prod.ext hvalue (hrel.trans ?_)
    show _ = (if c.isLost now then some Reliability.communicationFailure else none).getD _
    split_ifs <;> rfl
  | datagram now message fromAddress fromPort =>
    simp only [Controller.step, handleReplyFromPeer_eq, Except.ok.injEq] at h
    simp only [Controller.update]
    cases htaken : c.taken dataLink message fromAddress fromPort with
    | none =>
      rw [htaken] at h
      subst h
      rfl
    | some apdu =>
      rw [htaken] at h
      subst h
      exact diamond_apply _ _
  | restart kind =>
    obtain rfl := Except.ok.inj h
    cases kind with
    | cold => exact Prod.ext (assign_powerOnValue _).symm rfl
    | warm => rfl

/-- **A run changes Diamond by its updates.** -/
theorem final_updates {dataLink : DataLink} {c c' : Controller} {events : List Event}
    (h : final (Controller.step dataLink) c events = .ok c') :
    c'.diamond = (c.updates dataLink events).foldl (fun values u => u.apply values) c.diamond := by
  induction events generalizing c with
  | nil =>
    obtain rfl := Except.ok.inj h
    rfl
  | cons event events ih =>
    obtain ⟨c₁, hc₁⟩ := exists_step dataLink c event
    rw [final_cons_ok hc₁] at h
    rw [Controller.updates_cons hc₁, List.foldl_cons, ← step_update hc₁]
    exact ih h

/-! ## Timers -/

/-- The round of the 32-bit counter of milliseconds. -/
def counterRound : Time := milliseconds (2 ^ 32)

/-- Two times, both past at `now`, that `MillisecondsSince` cannot tell apart. -/
structure SameTimer (now s s' : Time) : Prop where
  left_le : s ≤ now
  right_le : s' ≤ now
  modEq : s ≡ s' [ZMOD counterRound]

theorem SameTimer.refl {now s : Time} (h : s ≤ now) : SameTimer now s s := ⟨h, h, rfl⟩

theorem SameTimer.mono {now later s s' : Time} (h : SameTimer now s s') (hle : now ≤ later) :
    SameTimer later s s' :=
  ⟨le_trans h.left_le hle, le_trans h.right_le hle, h.modEq⟩

theorem millisecondsSince_of_le {now start : Int} (h : start ≤ now) :
    (millisecondsSince now start : Int) = (now - start) / 1000000 % 2 ^ 32 := by
  have hd : (0 : Int) ≤ now - start := by omega
  unfold millisecondsSince
  rw [Int.tdiv_eq_ediv_of_nonneg hd]
  exact Int.toNat_of_nonneg (Int.emod_nonneg _ (by decide))

theorem ediv_of_round {t s s' k : Int} (h : s' - s = 4294967296000000 * k) :
    (t - s) / 1000000 = (t - s') / 1000000 + 4294967296 * k := by
  omega

theorem SameTimer.millisecondsSince_eq {now s s' : Time} (h : SameTimer now s s') {t : Time}
    (hle : now ≤ t) : millisecondsSince t s' = millisecondsSince t s := by
  have h₁ := millisecondsSince_of_le (le_trans h.left_le hle)
  have h₂ := millisecondsSince_of_le (le_trans h.right_le hle)
  obtain ⟨k, hk⟩ := h.modEq.dvd
  rw [ediv_of_round hk] at h₁
  omega

/-! ## Controllers that read the peer alike -/

/-- The same reads are outstanding and the same is known of the peer, with timers that run alike
from `now` on. -/
structure Alike (now : Time) (c d : Controller) : Prop where
  pending : ∀ kind, d.pendingId kind = c.pendingId kind
  samePeer : c.peer.SamePeer d.peer
  pollCount : d.peer.pollCount % 2 = c.peer.pollCount % 2
  lastAnswer : SameTimer now c.peer.lastAnswer d.peer.lastAnswer
  lastPoll : SameTimer now c.peer.lastPoll d.peer.lastPoll

/-- The reads that an answer leaves outstanding. -/
theorem pendingId_afterAnswer (c : Controller) (now : Time) (apdu : Octets) (kind : ReadKind) :
    (c.afterAnswer now apdu).pendingId kind =
      if kind = (if c.awaitsReadProperty (invokeIdOf apdu) then .readProperty
        else .readPropertyMultiple) then none else c.pendingId kind := by
  have hpeer := c.afterAnswer_peer now apdu
  have hsame : (c.afterAnswer now apdu).pendingId kind =
      (c.answered now (invokeIdOf apdu)).pendingId kind := by
    cases kind <;> rw [Controller.pendingId, hpeer] <;> rfl
  rw [hsame]
  unfold Controller.answered
  by_cases ha : c.awaitsReadProperty (invokeIdOf apdu) = true
  · cases kind <;> simp [ha, Controller.pendingId]
  · cases kind <;> simp [ha, Controller.pendingId]

/-- What an answer leaves of the counter and of the last poll. -/
theorem afterAnswer_keeps (c : Controller) (now : Time) (apdu : Octets) :
    (c.afterAnswer now apdu).peer.pollCount = c.peer.pollCount ∧
      (c.afterAnswer now apdu).peer.lastPoll = c.peer.lastPoll ∧
      (c.afterAnswer now apdu).peer.lastAnswer = now ∧
      (c.afterAnswer now apdu).peer.bound = c.peer.bound ∧
      (c.afterAnswer now apdu).peer.connectionString = c.peer.connectionString := by
  rw [c.afterAnswer_peer now apdu]
  unfold Controller.answered
  split_ifs <;> exact ⟨rfl, rfl, rfl, rfl, rfl⟩

/-- An answer says the same of the peer, whatever was known. -/
theorem samePeer_apply {c d : Controller} (h : c.peer.SamePeer d.peer) (a : Answer) :
    (a.apply c).peer.SamePeer (a.apply d).peer := by
  cases a with
  | unsupported => exact ⟨h.bound, h.connectionString, rfl, rfl⟩
  | ignored => exact h
  | noValue | reading humidity => simpa [Answer.apply] using h
  | multiple humidity fault =>
    have hpeer : ∀ c : Controller, ((Answer.multiple humidity fault).apply c).peer =
        { c.peer with sensorFaultReported := fault } := by
      intro c
      cases fault <;> simp [Answer.apply, takeMultipleReading]
    rw [hpeer, hpeer]
    exact ⟨h.bound, h.connectionString, h.readPropertyMultipleUnsupported, rfl⟩

theorem samePeer_answered {c d : Controller} (h : c.peer.SamePeer d.peer) (now : Time)
    (invokeId : UInt8) :
    (c.answered now invokeId).peer.SamePeer (d.answered now invokeId).peer := by
  obtain ⟨hbound, hstring, hunsupported, hfault⟩ := h
  unfold Controller.answered
  split_ifs <;> exact ⟨hbound, hstring, hunsupported, hfault⟩

theorem samePeer_asked {peer peer' : RemotePeer} (h : peer.SamePeer peer') (now : Time)
    (kind : ReadKind) (invokeId : Option UInt8) :
    (peer.asked now kind invokeId).SamePeer (peer'.asked now kind invokeId) := by
  obtain ⟨hbound, hstring, hunsupported, hfault⟩ := h
  cases invokeId with
  | none => exact ⟨hbound, hstring, hunsupported, hfault⟩
  | some id => cases kind <;> exact ⟨hbound, hstring, hunsupported, hfault⟩

/-- What an attempt does to the counter and to the timers. -/
theorem asked_keeps (now : Time) (kind : ReadKind) (invokeId : Option UInt8) (peer : RemotePeer) :
    (peer.asked now kind invokeId).pollCount = peer.pollCount + 1 ∧
      (peer.asked now kind invokeId).lastPoll = now ∧
      (peer.asked now kind invokeId).lastAnswer = peer.lastAnswer := by
  cases invokeId with
  | none => exact ⟨rfl, rfl, rfl⟩
  | some id => cases kind <;> exact ⟨rfl, rfl, rfl⟩

/-- The parity of a counter turns with each step, also where it wraps. -/
theorem add_one_mod_two (n : UInt32) : (n + 1) % 2 = 1 - n % 2 := by
  have hlt := n.toNat_lt
  have hle : n % 2 ≤ 1 := by
    rw [UInt32.le_iff_toNat_le, UInt32.toNat_mod]
    show n.toNat % 2 ≤ 1
    omega
  apply UInt32.toNat_inj.1
  rw [UInt32.toNat_sub_of_le _ _ hle, UInt32.toNat_mod, UInt32.toNat_add, UInt32.toNat_mod]
  show (n.toNat + 1) % 4294967296 % 2 = 1 - n.toNat % 2
  omega

theorem mod_two_eq_zero {n : UInt32} (h : ¬ n % 2 = 1) : n % 2 = 0 := by
  rw [← UInt32.toNat_inj, UInt32.toNat_mod] at h ⊢
  change ¬ n.toNat % 2 = 1 at h
  show n.toNat % 2 = 0
  omega

namespace Alike

variable {now t : Time} {c d : Controller}

theorem mono (h : Alike now c d) (hle : now ≤ t) : Alike t c d :=
  ⟨h.pending, h.samePeer, h.pollCount, h.lastAnswer.mono hle, h.lastPoll.mono hle⟩

theorem isLost (h : Alike now c d) (hle : now ≤ t) : d.isLost t ↔ c.isLost t := by
  rw [Controller.isLost, Controller.isLost, h.samePeer.bound, h.lastAnswer.millisecondsSince_eq hle]

theorem isDue (h : Alike now c d) (hle : now ≤ t) : d.isDue t ↔ c.isDue t := by
  rw [Controller.isDue, Controller.isDue, h.samePeer.bound, h.lastAnswer.millisecondsSince_eq hle,
    h.lastPoll.millisecondsSince_eq hle]

theorem nextKind (h : Alike now c d) : d.nextKind = c.nextKind := by
  rw [Controller.nextKind, Controller.nextKind, h.pollCount,
    h.samePeer.readPropertyMultipleUnsupported]

theorem awaits (h : Alike now c d) (invokeId : UInt8) :
    d.awaitsReadProperty invokeId = c.awaitsReadProperty invokeId ∧
      d.awaitsReadPropertyMultiple invokeId = c.awaitsReadPropertyMultiple invokeId := by
  constructor
  · rw [Bool.eq_iff_iff, Controller.awaitsReadProperty_iff, Controller.awaitsReadProperty_iff,
      h.pending]
  · rw [Bool.eq_iff_iff, Controller.awaitsReadPropertyMultiple_iff,
      Controller.awaitsReadPropertyMultiple_iff, h.pending]

theorem taken (h : Alike now c d) (dataLink : DataLink) (message fromAddress : Octets)
    (fromPort : UInt16) :
    d.taken dataLink message fromAddress fromPort = c.taken dataLink message fromAddress
      fromPort := by
  have hfrom : d.fromPeer dataLink fromAddress fromPort =
      c.fromPeer dataLink fromAddress fromPort := by
    simp only [Controller.fromPeer, RemotePeer.port, h.samePeer.bound, h.samePeer.connectionString]
  have hawaits : ∀ apdu : Octets, d.awaits (invokeIdOf apdu) = c.awaits (invokeIdOf apdu) := by
    intro apdu
    rw [Controller.awaits, Controller.awaits, (h.awaits _).1, (h.awaits _).2]
  unfold Controller.taken
  rw [hfrom]
  simp only [hawaits]

theorem answerTo (h : Alike now c d) (apdu : Octets) : d.answerTo apdu = c.answerTo apdu := by
  obtain ⟨hrp, hrpm⟩ := h.awaits (invokeIdOf apdu)
  simp only [Controller.answerTo, Controller.isFallback, Controller.acksReadProperty,
    Controller.acksReadPropertyMultiple, hrp, hrpm, h.samePeer.sensorFaultReported]
  rfl

theorem afterAnswer (h : Alike now c d) (hle : now ≤ t) (apdu : Octets) :
    Alike t (c.afterAnswer t apdu) (d.afterAnswer t apdu) := by
  obtain ⟨hcount, hpoll, hanswer, -, -⟩ := afterAnswer_keeps c t apdu
  obtain ⟨hcount', hpoll', hanswer', -, -⟩ := afterAnswer_keeps d t apdu
  refine ⟨fun kind => ?_, ?_, ?_, ?_, ?_⟩
  · rw [pendingId_afterAnswer, pendingId_afterAnswer, (h.awaits _).1, h.pending]
  · rw [Controller.afterAnswer, Controller.afterAnswer, h.answerTo]
    exact samePeer_apply (samePeer_answered h.samePeer t _) _
  · rw [hcount, hcount', h.pollCount]
  · rw [hanswer, hanswer']
    exact SameTimer.refl (le_refl t)
  · rw [hpoll, hpoll']
    exact h.lastPoll.mono hle

theorem asked {c' d' : Controller} (h : Alike now c d) (hle : now ≤ t) {invokeId : Option UInt8}
    (hc : c'.peer = c.peer.asked t c.nextKind invokeId)
    (hd : d'.peer = d.peer.asked t d.nextKind invokeId) : Alike t c' d' := by
  rw [h.nextKind] at hd
  obtain ⟨hcount, hpoll, hanswer⟩ := asked_keeps t c.nextKind invokeId c.peer
  obtain ⟨hcount', hpoll', hanswer'⟩ := asked_keeps t c.nextKind invokeId d.peer
  refine ⟨fun kind => ?_, ?_, ?_, ?_, ?_⟩
  · cases invokeId with
    | none => rw [pendingId_asked_none hc, pendingId_asked_none hd, h.pending]
    | some id => rw [pendingId_asked hc, pendingId_asked hd, h.pending]
  · rw [hc, hd]
    exact samePeer_asked h.samePeer t _ _
  · rw [hc, hd, hcount, hcount', add_one_mod_two, add_one_mod_two, h.pollCount]
  · rw [hc, hd, hanswer, hanswer']
    exact h.lastAnswer.mono hle
  · rw [hc, hd, hpoll, hpoll']
    exact SameTimer.refl (le_refl t)

end Alike

/-! ## The same updates -/

/-- The times of the events do not go back, from `now` on. -/
def OrderedFrom : Time → List Event → Prop
  | _, [] => True
  | now, event :: events => (∀ time ∈ event.time, now ≤ time) ∧
    OrderedFrom (event.time.getD now) events

/-- The UDP port in a connection string. -/
def portIn (dataLink : DataLink) (connectionString : Octets) : UInt16 :=
  (connectionString.getD (transportAddressLength dataLink) 0).toUInt16 <<< 8 |||
    (connectionString.getD (transportAddressLength dataLink + 1) 0).toUInt16

/-- A datagram from the address and port of the connection string. -/
def Event.isFrom (dataLink : DataLink) (connectionString : Octets) : Event → Bool
  | .datagram _ _ fromAddress fromPort =>
    fromAddress.take (transportAddressLength dataLink) ==
      connectionString.take (transportAddressLength dataLink) &&
    fromPort == portIn dataLink connectionString
  | _ => false

/-- A poll, or a datagram from the address and port of the connection string. -/
def Event.isPollOrFrom (dataLink : DataLink) (connectionString : Octets) (event : Event) : Bool :=
  event.tickTime.isSome || event.isFrom dataLink connectionString

namespace Alike

variable {dataLink : DataLink} {connectionString : Octets} {now : Time} {c d : Controller}

theorem update (h : Alike now c d) {event : Event} (hle : ∀ time ∈ event.time, now ≤ time) :
    d.update dataLink event = c.update dataLink event := by
  cases event with
  | iAm | restart => rfl
  | tick t invokeId =>
    simp only [Controller.update, h.isLost (hle t rfl)]
  | datagram t message fromAddress fromPort =>
    simp only [Controller.update, h.taken, h.answerTo]

theorem step {c' d' : Controller} (h : Alike now c d) {event : Event}
    (hle : ∀ time ∈ event.time, now ≤ time)
    (hevent : event.isPollOrFrom dataLink connectionString = true)
    (hc : c.step dataLink event = .ok c') (hd : d.step dataLink event = .ok d') :
    Alike (event.time.getD now) c' d' := by
  cases event with
  | iAm | restart => cases hevent
  | tick t invokeId =>
    have hle := hle t rfl
    have hpeer := step_tick_peer hc
    have hpeer' := step_tick_peer hd
    by_cases hdue : c.isDue t
    · rw [if_pos hdue] at hpeer
      rw [if_pos ((h.isDue hle).2 hdue)] at hpeer'
      exact h.asked hle hpeer hpeer'
    · rw [if_neg hdue] at hpeer
      rw [if_neg fun hd' => hdue ((h.isDue hle).1 hd')] at hpeer'
      refine ⟨fun kind => ?_, ?_, ?_, ?_, ?_⟩
      · rw [pendingId_congr hpeer, pendingId_congr hpeer', h.pending]
      · exact hpeer ▸ hpeer' ▸ h.samePeer
      · exact hpeer ▸ hpeer' ▸ h.pollCount
      · exact hpeer ▸ hpeer' ▸ h.lastAnswer.mono hle
      · exact hpeer ▸ hpeer' ▸ h.lastPoll.mono hle
  | datagram t message fromAddress fromPort =>
    have hle := hle t rfl
    simp only [Controller.step, handleReplyFromPeer_eq, Except.ok.injEq] at hc hd
    rw [h.taken] at hd
    cases htaken : c.taken dataLink message fromAddress fromPort with
    | none =>
      rw [htaken] at hc hd
      subst hc hd
      exact h.mono hle
    | some apdu =>
      rw [htaken] at hc hd
      subst hc hd
      exact h.afterAnswer hle apdu

/-- **From alike controllers the same polls and datagrams make the same updates.** -/
theorem updates (h : Alike now c d) {events : List Event} (horder : OrderedFrom now events)
    (hevents : ∀ event ∈ events, event.isPollOrFrom dataLink connectionString = true) :
    d.updates dataLink events = c.updates dataLink events := by
  induction events generalizing now c d with
  | nil => rfl
  | cons event events ih =>
    obtain ⟨c₁, hc₁⟩ := exists_step dataLink c event
    obtain ⟨d₁, hd₁⟩ := exists_step dataLink d event
    have hstep := h.step horder.1 (hevents event List.mem_cons_self) hc₁ hd₁
    rw [Controller.updates_cons hc₁, Controller.updates_cons hd₁, h.update horder.1]
    rw [ih hstep horder.2 fun e he => hevents e (List.mem_cons_of_mem event he)]

end Alike

end BacnetBc
