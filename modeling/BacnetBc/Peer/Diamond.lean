import BacnetBc.Peer.Reply

/-!
# Diamond over whole runs

`watch` runs the controller and keeps beside its state what a run leaves in memory: the last good
reading that was taken, when the peer was last heard, when the last tick was, and the clock.

**Theorem (`current_iff`).** While Diamond's Reliability is no-fault-detected, its Present_Value is
the last good reading, in every state of a run, exactly when no COLDSTART of the run meets a
no-fault-detected Diamond whose value is not the power-on value already.

**Theorem (`silence_detected`).** With ticks less than 1,000,000 ms apart, every tick that comes
more than 3000 ms after the peer was last heard leaves communication-failure, and so is every state
before the peer is bound. `MillisecondsSince` is cut to 32 bits and forgets a longer silence; the
invariant `Punctual` says that the tick before had seen it.
-/

namespace BacnetBc

open Memory Trajectory

/-! ## Runs with a memory -/

/-- The time at which an event happens. -/
def Event.time : Event → Option Time
  | .iAm now _ _ _ => some now
  | .tick now _ => some now
  | .datagram now _ _ _ => some now
  | .restart _ => none

/-- The time of a tick. -/
def Event.tickTime : Event → Option Time
  | .tick now _ => some now
  | _ => none

/-- The good reading that an event takes. -/
def Controller.goodReading (dataLink : DataLink) (c : Controller) : Event → Option Single
  | .datagram _ message fromAddress fromPort =>
    match (c.taken dataLink message fromAddress fromPort).map c.answerTo with
    | some (.reading humidity) => some humidity
    | some (.multiple humidity false) => some humidity
    | _ => none
  | _ => none

/-- When the event takes an answer, or binds the peer for the first time: its time. `c'` is the
controller after it. -/
def Controller.hears (dataLink : DataLink) (c c' : Controller) : Event → Option Time
  | .iAm now _ _ _ => if !c.peer.bound && c'.peer.bound then some now else none
  | .datagram now message fromAddress fromPort =>
    if (c.taken dataLink message fromAddress fromPort).isSome then some now else none
  | _ => none

/-- The controller, and what the run so far leaves in memory. -/
structure Watched where
  controller : Controller
  /-- The last good reading that was taken. -/
  lastReading : Option Single
  /-- When the last answer was taken, or else when the peer was first bound. -/
  lastHeard : Option Time
  lastTick : Option Time
  clock : Time
deriving DecidableEq, Repr

namespace Watched

/-- The program starts. -/
def start (clock : Time) : Watched where
  controller := .initial
  lastReading := none
  lastHeard := none
  lastTick := none
  clock := clock

/-- The memory after an event that ends in `c'`. -/
def next (dataLink : DataLink) (w : Watched) (event : Event) (c' : Controller) : Watched where
  controller := c'
  lastReading := (w.controller.goodReading dataLink event).or w.lastReading
  lastHeard := (w.controller.hears dataLink c' event).or w.lastHeard
  lastTick := event.tickTime.or w.lastTick
  clock := event.time.getD w.clock

end Watched

/-- A step of the controller, watched. -/
def watch (dataLink : DataLink) (w : Watched) (event : Event) : Access Watched :=
  (w.controller.step dataLink event).map (w.next dataLink event)

theorem watch_eq_ok_iff {dataLink : DataLink} {w w' : Watched} {event : Event} :
    watch dataLink w event = .ok w' ↔
      ∃ c', w.controller.step dataLink event = .ok c' ∧ w.next dataLink event c' = w' := by
  unfold watch
  cases w.controller.step dataLink event <;> simp [Except.map]

/-! ## What the events do to Diamond -/

/-- The silence that `PollPeer` sees is longer than it allows. -/
def Controller.isLost (c : Controller) (now : Time) : Prop :=
  c.peer.bound = true ∧ remoteCommsLossMilliseconds < millisecondsSince now c.peer.lastAnswer

instance (c : Controller) (now : Time) : Decidable (c.isLost now) :=
  inferInstanceAs (Decidable (_ ∧ _))

/-- What a tick leaves alone, and what it does to Diamond. -/
structure TickEffect (now : Time) (c c' : Controller) : Prop where
  analogValue1Value : c'.analogValue1Value = c.analogValue1Value
  bound : c'.peer.bound = c.peer.bound
  lastAnswer : c'.peer.lastAnswer = c.peer.lastAnswer
  diamondReliability : c'.diamondReliability =
    if c.isLost now then .communicationFailure else c.diamondReliability

theorem pollPeer_effect (dataLink : DataLink) (now : Time) (invokeId : Option UInt8)
    (c : Controller) : TickEffect now c (pollPeer dataLink now invokeId c).1 := by
  cases hb : c.peer.bound with
  | false =>
    have hsame : pollPeer dataLink now invokeId c = (c, none) := by simp [pollPeer, hb]
    rw [hsame]
    exact ⟨rfl, rfl, rfl, (if_neg fun h => Bool.false_ne_true (hb.symm.trans h.1)).symm⟩
  | true =>
    -- the check of the silence comes first, and only it touches Diamond
    obtain ⟨c₁, hc₁⟩ : ∃ c₁, c₁ = if millisecondsSince now c.peer.lastAnswer >
        remoteCommsLossMilliseconds ∧ c.diamondReliability ≠ .communicationFailure then
        setDiamondReliability .communicationFailure c else c := ⟨_, rfl⟩
    have hfirst : TickEffect now c c₁ := by
      by_cases hl : c.isLost now
      · by_cases hr : c.diamondReliability = .communicationFailure
        · rw [if_neg fun h => h.2 hr] at hc₁
          rw [hc₁]
          exact ⟨rfl, rfl, rfl, by rw [if_pos hl, hr]⟩
        · rw [if_pos ⟨hl.2, hr⟩] at hc₁
          rw [hc₁]
          exact ⟨by simp, by simp, by simp, by simp [hl]⟩
      · rw [if_neg fun h => hl ⟨hb, h.1⟩] at hc₁
        rw [hc₁]
        exact ⟨rfl, rfl, rfl, (if_neg hl).symm⟩
    obtain ⟨hvalue, hbound, hanswer, hrel⟩ := hfirst
    unfold pollPeer
    simp only [hb, Bool.not_true, Bool.false_eq_true, if_false, ← hc₁]
    generalize (if millisecondsSince now c.peer.lastAnswer > remoteCommsLossMilliseconds then
      remoteLostPollIntervalMilliseconds else remotePollIntervalMilliseconds) = interval
    by_cases hi : millisecondsSince now c₁.peer.lastPoll < interval
    · rw [if_pos hi]
      exact ⟨hvalue, hbound, hanswer, hrel⟩
    · rw [if_neg hi]
      cases invokeId with
      | none => exact ⟨hvalue, hbound, hanswer, hrel⟩
      | some id => simp only; split_ifs <;> exact ⟨hvalue, hbound, hanswer, hrel⟩

/-- What an I-Am leaves alone: Diamond, the outstanding reads, and the record of a bound peer but
for its address. -/
structure IAmEffect (now : Time) (c c' : Controller) : Prop where
  analogValue1Value : c'.analogValue1Value = c.analogValue1Value
  diamondReliability : c'.diamondReliability = c.diamondReliability
  readPropertyPending : c'.peer.readPropertyPending = c.peer.readPropertyPending
  readPropertyMultiplePending : c'.peer.readPropertyMultiplePending =
    c.peer.readPropertyMultiplePending
  bound : c.peer.bound = true → c'.peer.bound = true
  lastAnswer : c'.peer.bound = true →
    c'.peer.lastAnswer = if c.peer.bound then c.peer.lastAnswer else now

theorem hookIAm_effect (dataLink : DataLink) (now : Time) (deviceIdentifier : UInt32)
    (connectionString : Octets) (sourceNetwork : UInt16) (c : Controller) :
    IAmEffect now c (hookIAm dataLink now deviceIdentifier connectionString sourceNetwork c) := by
  unfold hookIAm
  simp only
  split_ifs with hskip hnew hb hb
  · exact ⟨rfl, rfl, rfl, rfl, id, fun h => by rw [if_pos h]⟩
  · have hbound : c.peer.bound = false := by simpa using hb
    exact ⟨rfl, rfl, rfl, rfl, fun _ => rfl, fun _ => by rw [hbound]; rfl⟩
  · have hbound : c.peer.bound = true := by simpa using hb
    exact ⟨rfl, rfl, rfl, rfl, id, fun _ => by rw [if_pos hbound]⟩
  · have hbound : c.peer.bound = false := by simpa using hb
    exact ⟨rfl, rfl, rfl, rfl, fun _ => rfl, fun _ => by rw [hbound]; rfl⟩
  · have hbound : c.peer.bound = true := by simpa using hb
    exact ⟨rfl, rfl, rfl, rfl, id, fun _ => by rw [if_pos hbound]⟩

/-- What an event does to Diamond: it takes a good reading, or it gives Diamond its power-on value,
or it leaves the value alone and does not clear a fault. -/
inductive DiamondEffect (c c' : Controller) (event : Event) : Option Single → Prop
  | reads {humidity : Single} (hvalue : c'.analogValue1Value =
      c.analogValue1Value.assign humidity) : DiamondEffect c c' event (some humidity)
  | coldStart (hevent : event = .restart .cold)
      (heq : c' = { c with analogValue1Value := powerOnValue }) : DiamondEffect c c' event none
  | holds (hevent : event ≠ .restart .cold) (hvalue : c'.analogValue1Value = c.analogValue1Value)
      (hrel : c'.diamondReliability = .noFaultDetected → c.diamondReliability = .noFaultDetected) :
      DiamondEffect c c' event none

theorem datagram_effect {dataLink : DataLink} {message fromAddress : Octets} {fromPort : UInt16}
    {c : Controller} {now : Time} {event : Event}
    (he : event = .datagram now message fromAddress fromPort) {c' : Controller}
    (h : c.step dataLink event = .ok c') :
    DiamondEffect c c' event (c.goodReading dataLink event) := by
  subst he
  simp only [Controller.step, handleReplyFromPeer_eq, Except.ok.injEq] at h
  simp only [Controller.goodReading]
  cases ht : c.taken dataLink message fromAddress fromPort with
  | none =>
    rw [ht] at h
    subst h
    exact .holds nofun rfl id
  | some apdu =>
    rw [ht] at h
    subst h
    simp only [Option.map_some, Controller.afterAnswer]
    cases c.answerTo apdu with
    | unsupported | ignored => exact .holds nofun rfl id
    | noValue => exact .holds nofun (by simp [Answer.apply]) (by simp [Answer.apply])
    | reading humidity => exact .reads (by simp [Answer.apply])
    | multiple humidity fault =>
      cases fault with
      | true =>
        exact .holds nofun (by simp [Answer.apply, takeMultipleReading])
          (by simp [Answer.apply, takeMultipleReading])
      | false => exact .reads (by simp [Answer.apply, takeMultipleReading])

theorem step_effect {dataLink : DataLink} {c c' : Controller} {event : Event}
    (h : c.step dataLink event = .ok c') :
    DiamondEffect c c' event (c.goodReading dataLink event) := by
  cases event with
  | iAm now deviceIdentifier connectionString sourceNetwork =>
    obtain rfl := Except.ok.inj h
    obtain ⟨hvalue, hrel, -⟩ :=
      hookIAm_effect dataLink now deviceIdentifier connectionString sourceNetwork c
    exact .holds nofun hvalue fun hc' => hrel ▸ hc'
  | tick now invokeId =>
    obtain rfl := Except.ok.inj h
    obtain ⟨hvalue, -, -, hrel⟩ := pollPeer_effect dataLink now invokeId c
    refine .holds nofun hvalue fun hc' => ?_
    rw [hrel] at hc'
    split_ifs at hc'
    exact hc'
  | datagram now message fromAddress fromPort => exact datagram_effect rfl h
  | restart kind =>
    obtain rfl := Except.ok.inj h
    cases kind with
    | cold => exact .coldStart rfl rfl
    | warm => exact .holds nofun rfl id

/-! ## The value of a healthy Diamond -/

/-- While Diamond's Reliability is no-fault-detected, its Present_Value is the last good reading. -/
def Current (w : Watched) : Prop :=
  w.controller.diamondReliability = .noFaultDetected →
    ∃ humidity ∈ w.lastReading, w.controller.analogValue1Value.SameNumber humidity

instance (w : Watched) : Decidable (Current w) := inferInstanceAs (Decidable (_ → _))

/-- If the event is a COLDSTART, Diamond is faulty or has the power-on value already. -/
def KeepsValue (w : Watched) (event : Event) : Prop :=
  event = .restart .cold → w.controller.diamondReliability = .noFaultDetected →
    w.controller.analogValue1Value.SameNumber powerOnValue

theorem current_start (clock : Time) : Current (.start clock) :=
  fun h : Reliability.communicationFailure = .noFaultDetected => nomatch h

theorem current_next {dataLink : DataLink} {w w' : Watched} {event : Event} (h : Current w)
    (hk : KeepsValue w event) (hw : watch dataLink w event = .ok w') : Current w' := by
  obtain ⟨c', hc', rfl⟩ := watch_eq_ok_iff.1 hw
  intro hrel
  change c'.diamondReliability = .noFaultDetected at hrel
  change ∃ humidity ∈ (w.controller.goodReading dataLink event).or w.lastReading,
    c'.analogValue1Value.SameNumber humidity
  have heffect := step_effect hc'
  cases hr : w.controller.goodReading dataLink event with
  | some humidity =>
    rw [hr] at heffect
    cases heffect with
    | reads hvalue => exact ⟨humidity, rfl, hvalue ▸ Single.assign_sameNumber _ _⟩
  | none =>
    rw [hr] at heffect
    cases heffect with
    | coldStart hevent heq =>
      subst heq
      obtain ⟨humidity, hlast, hsame⟩ := h hrel
      exact ⟨humidity, hlast, (hk hevent hrel).symm.trans hsame⟩
    | holds hevent hvalue hheld =>
      obtain ⟨humidity, hlast, hsame⟩ := h (hheld hrel)
      exact ⟨humidity, hlast, hvalue ▸ hsame⟩

/-- The reading is as old as before, and Diamond shows the power-on value. -/
theorem not_current_of_not_keepsValue {w : Watched} {event : Event} (h : Current w)
    (hk : ¬ KeepsValue w event) (dataLink : DataLink) :
    ∃ w', watch dataLink w event = .ok w' ∧ ¬ Current w' := by
  simp only [KeepsValue, Classical.not_imp] at hk
  obtain ⟨rfl, hrel, hdiffers⟩ := hk
  refine ⟨_, rfl, fun hcurrent => hdiffers ?_⟩
  obtain ⟨humidity, hlast, hsame⟩ := h hrel
  obtain ⟨humidity', hlast', hsame'⟩ := hcurrent hrel
  obtain rfl := Option.mem_unique hlast hlast'
  exact hsame.trans hsame'.symm

/-- **A healthy Diamond shows the last good reading**, exactly in the runs whose COLDSTARTs find it
faulty or at its power-on value. -/
theorem current_iff (dataLink : DataLink) (clock : Time) (events : List Event) :
    (∀ w ∈ states (watch dataLink) (.start clock) events, Current w) ↔
      ∀ p ∈ steps (watch dataLink) (.start clock) events, KeepsValue p.1 p.2 :=
  good_iff_guard (fun _ h => h) (fun _ _ _ => current_next)
    (fun _ _ h hk => not_current_of_not_keepsValue h hk dataLink) (current_start clock) events

/-- 47.0 is read, and the device restarts. -/
theorem coldStart_not_current :
    ¬ ∀ dataLink clock events, ∀ w ∈ states (watch dataLink) (.start clock) events, Current w := by
  intro h
  have hrun := h .ipv4 0 (firstPoll ++
    [.datagram (milliseconds 10) (readingAck 0) peerAddress 0xBAC0, .restart .cold])
  revert hrun
  decide

/-! ## Silence -/

/-- The clock does not go back, and ticks are less than 1,000,000 ms apart. -/
def Timely (w : Watched) (event : Event) : Prop :=
  (∀ now ∈ event.time, w.clock ≤ now) ∧
    ∀ now ∈ event.tickTime, ∀ before ∈ w.lastTick, now - before < milliseconds 1000000

instance (w : Watched) (event : Event) : Decidable (Timely w event) :=
  inferInstanceAs (Decidable (_ ∧ _))

/-- The whole milliseconds from `start` to `now`, however many. -/
def elapsedMilliseconds (now start : Time) : Int := (now - start) / 1000000

theorem elapsedMilliseconds_nonpos {now start : Int} (h : now ≤ start) :
    elapsedMilliseconds now start ≤ 0 := by
  unfold elapsedMilliseconds
  omega

theorem elapsedMilliseconds_le_add {now before start n k : Int} (h : now - before < milliseconds n)
    (hk : elapsedMilliseconds before start ≤ k) : elapsedMilliseconds now start ≤ k + n := by
  have hlt : now - before < n * 1000000 := h
  unfold elapsedMilliseconds at hk ⊢
  omega

/-- As long as they fit 32 bits, `MillisecondsSince` gives them. -/
theorem millisecondsSince_eq {now start : Time} (h : start ≤ now)
    (hfits : elapsedMilliseconds now start < 2 ^ 32) :
    (millisecondsSince now start : Int) = elapsedMilliseconds now start := by
  unfold elapsedMilliseconds at hfits ⊢
  unfold millisecondsSince
  have hd : (0 : Int) ≤ now - start := Int.sub_nonneg.2 h
  rw [Int.tdiv_eq_ediv_of_nonneg hd]
  generalize (now - start : Int) = d at hd hfits
  omega

/-- What holds between events: the peer was heard at `lastAnswer`, an unbound peer is a
communication failure, and while there is no communication failure the last tick was not too late to
say so. -/
structure Punctual (w : Watched) : Prop where
  heard : w.controller.peer.bound = true → w.lastHeard = some w.controller.peer.lastAnswer
  lastAnswer_le : w.controller.peer.bound = true → w.controller.peer.lastAnswer ≤ w.clock
  lastTick_le : ∀ tick ∈ w.lastTick, tick ≤ w.clock
  unbound : w.controller.peer.bound = false →
    w.lastHeard = none ∧ w.controller.diamondReliability = .communicationFailure
  pending : (w.controller.peer.readPropertyPending = true ∨
    w.controller.peer.readPropertyMultiplePending = true) → w.lastTick.isSome
  recent : w.controller.diamondReliability ≠ .communicationFailure → ∃ tick ∈ w.lastTick,
    elapsedMilliseconds tick w.controller.peer.lastAnswer ≤ remoteCommsLossMilliseconds

theorem punctual_start (clock : Time) : Punctual (.start clock) where
  heard := nofun
  lastAnswer_le := nofun
  lastTick_le := nofun
  unbound _ := ⟨rfl, rfl⟩
  pending := nofun
  recent h := absurd rfl h

/-- As time passes and nothing else happens. -/
theorem Punctual.clock {w : Watched} (h : Punctual w) {clock : Time} (hle : w.clock ≤ clock) :
    Punctual { w with clock := clock } where
  heard := h.heard
  lastAnswer_le hb := (h.lastAnswer_le hb).trans hle
  lastTick_le tick ht := (h.lastTick_le tick ht).trans hle
  unbound := h.unbound
  pending := h.pending
  recent := h.recent

theorem punctual_iAm {dataLink : DataLink} {w : Watched} (h : Punctual w) {now : Time}
    (hle : w.clock ≤ now) (deviceIdentifier : UInt32) (connectionString : Octets)
    (sourceNetwork : UInt16) :
    Punctual (w.next dataLink (.iAm now deviceIdentifier connectionString sourceNetwork)
      (hookIAm dataLink now deviceIdentifier connectionString sourceNetwork w.controller)) := by
  have he := hookIAm_effect dataLink now deviceIdentifier connectionString sourceNetwork
      w.controller
  set c' := hookIAm dataLink now deviceIdentifier connectionString sourceNetwork w.controller
  cases hb : w.controller.peer.bound with
  | true =>
    have hb' : c'.peer.bound = true := he.bound hb
    have hanswer : c'.peer.lastAnswer = w.controller.peer.lastAnswer := by
      rw [he.lastAnswer hb', if_pos hb]
    refine ⟨fun _ => ?_, fun _ => ?_, fun tick ht => ?_, fun hn => ?_, fun hp => ?_, fun hr => ?_⟩
    · change (if !w.controller.peer.bound && c'.peer.bound then some now else none).or w.lastHeard =
        some c'.peer.lastAnswer
      rw [hb, hanswer, h.heard hb]
      rfl
    · exact hanswer ▸ (h.lastAnswer_le hb).trans hle
    · exact (h.lastTick_le tick ht).trans hle
    · exact Bool.noConfusion (hn.symm.trans hb')
    · exact h.pending (by rw [← he.readPropertyPending, ← he.readPropertyMultiplePending]; exact hp)
    · obtain ⟨tick, ht, hrecent⟩ := h.recent (he.diamondReliability ▸ hr)
      exact ⟨tick, ht, hanswer ▸ hrecent⟩
  | false =>
    obtain ⟨hheard, hfailure⟩ := h.unbound hb
    refine ⟨fun hb' => ?_, fun hb' => ?_, fun tick ht => ?_, fun hn => ?_, fun hp => ?_,
      fun hr => ?_⟩
    · change (if !w.controller.peer.bound && c'.peer.bound then some now else none).or w.lastHeard =
        some c'.peer.lastAnswer
      change c'.peer.bound = true at hb'
      rw [he.lastAnswer hb', hb, hb']
      rfl
    · change c'.peer.lastAnswer ≤ now
      rw [he.lastAnswer hb', hb]
      exact le_refl now
    · exact (h.lastTick_le tick ht).trans hle
    · change c'.peer.bound = false at hn
      refine ⟨?_, he.diamondReliability.trans hfailure⟩
      change (if !w.controller.peer.bound && c'.peer.bound then some now else none).or w.lastHeard =
        none
      rw [hb, hn, hheard]
      rfl
    · exact h.pending (by rw [← he.readPropertyPending, ← he.readPropertyMultiplePending]; exact hp)
    · exact absurd (he.diamondReliability.trans hfailure) hr

theorem punctual_tick {dataLink : DataLink} {w : Watched} (h : Punctual w) {now : Time}
    (hle : w.clock ≤ now) (hgap : ∀ before ∈ w.lastTick, now - before < milliseconds 1000000)
    (invokeId : Option UInt8) :
    Punctual (w.next dataLink (.tick now invokeId)
      (pollPeer dataLink now invokeId w.controller).1) := by
  have he := pollPeer_effect dataLink now invokeId w.controller
  set c' := (pollPeer dataLink now invokeId w.controller).1
  refine ⟨fun hb => ?_, fun hb => ?_, fun tick ht => ?_, fun hn => ?_, fun _ => rfl, fun hr => ?_⟩
  · exact (h.heard (he.bound ▸ hb)).trans (congrArg some he.lastAnswer.symm)
  · exact he.lastAnswer ▸ (h.lastAnswer_le (he.bound ▸ hb)).trans hle
  · obtain rfl := Option.some.inj ht
    exact le_refl now
  · have hn' : w.controller.peer.bound = false := he.bound ▸ hn
    obtain ⟨hheard, hfailure⟩ := h.unbound hn'
    refine ⟨hheard, he.diamondReliability.trans ?_⟩
    rw [hfailure, ite_self]
  · change c'.diamondReliability ≠ _ at hr
    rw [he.diamondReliability] at hr
    have hlost : ¬ w.controller.isLost now := fun hl => hr (if_pos hl)
    rw [if_neg hlost] at hr
    have hb : w.controller.peer.bound = true := by
      by_contra hb
      exact hr (h.unbound (by simpa using hb)).2
    obtain ⟨before, hbefore, hrecent⟩ := h.recent hr
    have hanswer : w.controller.peer.lastAnswer ≤ now := (h.lastAnswer_le hb).trans hle
    -- the tick before was in time, so that what passed since then still fits 32 bits
    have hfits : elapsedMilliseconds now w.controller.peer.lastAnswer < 2 ^ 32 := by
      have hle := elapsedMilliseconds_le_add (hgap before hbefore) hrecent
      simp only [remoteCommsLossMilliseconds] at hle
      omega
    refine ⟨now, rfl, ?_⟩
    have hms := millisecondsSince_eq hanswer hfits
    have hnot : millisecondsSince now w.controller.peer.lastAnswer ≤ remoteCommsLossMilliseconds :=
      Nat.le_of_not_lt fun hlt => hlost ⟨hb, hlt⟩
    change elapsedMilliseconds now c'.peer.lastAnswer ≤ _
    rw [he.lastAnswer, ← hms]
    exact_mod_cast hnot

theorem punctual_answer {w : Watched} (h : Punctual w) {now : Time} (hle : w.clock ≤ now)
    {apdu : Octets} (hb : w.controller.peer.bound = true)
    (ha : w.controller.awaits (invokeIdOf apdu) = true) (lastReading : Option Single) :
    Punctual { w with
      controller := w.controller.afterAnswer now apdu
      lastReading := lastReading
      lastHeard := some now
      clock := now } := by
  have hpeer := w.controller.afterAnswer_peer now apdu
  have hb' : (w.controller.afterAnswer now apdu).peer.bound = true := by
    rw [hpeer]
    simpa using hb
  have hanswer : (w.controller.afterAnswer now apdu).peer.lastAnswer = now := by
    rw [hpeer]
    simp
  -- a read is outstanding, and only a tick sends one
  obtain ⟨tick, htick⟩ : ∃ tick, w.lastTick = some tick := by
    refine Option.isSome_iff_exists.1 (h.pending ?_)
    simp only [Controller.awaits, Controller.awaitsReadProperty,
      Controller.awaitsReadPropertyMultiple, Bool.or_eq_true, Bool.and_eq_true] at ha
    exact ha.imp And.left And.left
  refine ⟨fun _ => ?_, fun _ => ?_, fun t ht => ?_, fun hn => ?_, fun _ => ?_, fun _ => ?_⟩
  · exact congrArg some hanswer.symm
  · exact hanswer.le
  · exact (h.lastTick_le t ht).trans hle
  · exact Bool.noConfusion (hn.symm.trans hb')
  · exact htick ▸ rfl
  · refine ⟨tick, htick, ?_⟩
    change elapsedMilliseconds tick (w.controller.afterAnswer now apdu).peer.lastAnswer ≤ _
    rw [hanswer]
    exact (elapsedMilliseconds_nonpos ((h.lastTick_le tick htick).trans hle)).trans (by decide)

theorem punctual_next {dataLink : DataLink} {w w' : Watched} {event : Event} (h : Punctual w)
    (ht : Timely w event) (hw : watch dataLink w event = .ok w') : Punctual w' := by
  obtain ⟨c', hc', rfl⟩ := watch_eq_ok_iff.1 hw
  obtain ⟨hclock, hgap⟩ := ht
  cases event with
  | iAm now deviceIdentifier connectionString sourceNetwork =>
    obtain rfl := Except.ok.inj hc'
    exact punctual_iAm h (hclock now rfl) deviceIdentifier connectionString sourceNetwork
  | tick now invokeId =>
    obtain rfl := Except.ok.inj hc'
    exact punctual_tick h (hclock now rfl) (hgap now rfl) invokeId
  | datagram now message fromAddress fromPort =>
    simp only [Controller.step, handleReplyFromPeer_eq, Except.ok.injEq] at hc'
    cases hta : w.controller.taken dataLink message fromAddress fromPort with
    | none =>
      rw [hta] at hc'
      subst hc'
      have hnext : w.next dataLink (.datagram now message fromAddress fromPort) w.controller =
          { w with clock := now } := by
        simp [Watched.next, Controller.goodReading, Controller.hears, Event.tickTime,
          Event.time, hta]
      exact hnext ▸ h.clock (hclock now rfl)
    | some apdu =>
      rw [hta] at hc'
      subst hc'
      obtain ⟨hp, -, ha⟩ := taken_eq_some_iff.1 hta
      have hb : w.controller.peer.bound = true := by
        simp only [Controller.fromPeer, Bool.and_eq_true] at hp
        exact hp.1.1
      have hheard : w.controller.hears dataLink (w.controller.afterAnswer now apdu)
          (.datagram now message fromAddress fromPort) = some now := by
        simp [Controller.hears, hta]
      have hpunctual := punctual_answer h (hclock now rfl) hb ha
        ((w.controller.goodReading dataLink (.datagram now message fromAddress fromPort)).or
          w.lastReading)
      simpa [Watched.next, hheard, Event.tickTime, Event.time] using hpunctual
  | restart kind =>
    obtain rfl := Except.ok.inj hc'
    cases kind with
    | cold => exact ⟨h.heard, h.lastAnswer_le, h.lastTick_le, h.unbound, h.pending, h.recent⟩
    | warm => exact h

/-- A long enough silence, at a tick. -/
def SilentFor (w : Watched) (now : Time) : Prop :=
  ∃ heard ∈ w.lastHeard, remoteCommsLossMilliseconds < elapsedMilliseconds now heard

theorem communicationFailure_of_silentFor {dataLink : DataLink} {w w' : Watched} {now : Time}
    {invokeId : Option UInt8} (h : Punctual w')
    (hw : watch dataLink w (.tick now invokeId) = .ok w') (hs : SilentFor w' now) :
    w'.controller.diamondReliability = .communicationFailure := by
  obtain ⟨c', hc', rfl⟩ := watch_eq_ok_iff.1 hw
  obtain ⟨heard, hheard, hlong⟩ := hs
  by_contra hr
  obtain ⟨tick, htick, hrecent⟩ := h.recent hr
  obtain rfl : now = tick := Option.some.inj htick
  have hb : (w.next dataLink (.tick now invokeId) c').controller.peer.bound = true := by
    by_contra hb
    exact hr (h.unbound (by simpa using hb)).2
  obtain rfl := Option.some.inj ((h.heard hb).symm.trans hheard)
  exact absurd hrecent (not_le.2 hlong)

/-- **Silence is detected, however long it lasts.** -/
theorem silence_detected (dataLink : DataLink) (clock : Time) (events : List Event)
    (h : ∀ p ∈ steps (watch dataLink) (.start clock) events, Timely p.1 p.2) :
    (∀ w ∈ states (watch dataLink) (.start clock) events,
      w.controller.peer.bound = false →
        w.controller.diamondReliability = .communicationFailure) ∧
    ∀ p ∈ steps (watch dataLink) (.start clock) events, ∀ w', watch dataLink p.1 p.2 = .ok w' →
      ∀ now ∈ p.2.tickTime, SilentFor w' now →
        w'.controller.diamondReliability = .communicationFailure := by
  have hstep : ∀ (w : Watched) (event : Event) (w' : Watched), Punctual w → Timely w event →
      watch dataLink w event = .ok w' → Punctual w' := fun _ _ _ => punctual_next
  constructor
  · intro w hw hb
    exact ((invariant_of_guard hstep (punctual_start clock) events h w hw).unbound hb).2
  · refine post_of_guard (fun _ event w' => ∀ now ∈ event.tickTime, SilentFor w' now →
      w'.controller.diamondReliability = .communicationFailure) hstep ?_ (punctual_start clock)
      events h
    intro w event w' hpunctual htimely hw now hnow hs
    cases event with
    | tick time invokeId =>
      obtain rfl := Option.some.inj hnow
      exact communicationFailure_of_silentFor (punctual_next hpunctual htimely hw) hw hs
    | iAm | datagram | restart => cases hnow

/-- One reading, and then nothing. -/
theorem silence_detected_afterReading :
    (∀ w ∈ states (watch .ipv4) (.start 0) (firstPoll ++
        [.datagram (milliseconds 10) (readingAck 0) peerAddress 0xBAC0,
          .tick (milliseconds 2000) (some 1), .tick (milliseconds 4000) (some 2)]),
      w.controller.peer.bound = false →
        w.controller.diamondReliability = .communicationFailure) ∧
    ∀ p ∈ steps (watch .ipv4) (.start 0) (firstPoll ++
        [.datagram (milliseconds 10) (readingAck 0) peerAddress 0xBAC0,
          .tick (milliseconds 2000) (some 1), .tick (milliseconds 4000) (some 2)]),
      ∀ w', watch .ipv4 p.1 p.2 = .ok w' → ∀ now ∈ p.2.tickTime, SilentFor w' now →
        w'.controller.diamondReliability = .communicationFailure :=
  silence_detected .ipv4 0 _ (by decide)

end BacnetBc
