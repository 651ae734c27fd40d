import BacnetBc.Peer.Observed
import Mathlib.Data.List.Chain

/-!
# Polls, answers and the fallback over whole runs

**Theorem (`presentValue_from_answer`).** Diamond's value changes, or its fault is cleared, only by
an ACK that answers the last read of its kind, and the same ACK does nothing a second time.

**Theorem (`fallback_holds`).** After a Reject unrecognized-service every poll is a ReadProperty and
no sensor fault stands in its way, until the peer moves. Before it, the two kinds alternate. Two
polls are at least a second apart.
-/

namespace BacnetBc

open Memory Trajectory

/-! ## A value comes from an answer -/

/-- An Original-Unicast-NPDU that carries an APDU. -/
def IsOriginalUnicast (dataLink : DataLink) (message : Octets) : Prop :=
  message.take 2 = if dataLink = .ipv6 then [0x82, 0x01] else [0x81, 0x0A]

instance (dataLink : DataLink) (message : Octets) :
    Decidable (IsOriginalUnicast dataLink message) :=
  inferInstanceAs (Decidable (_ = _))

theorem isOriginalUnicast_of_bvllLength {dataLink : DataLink} {message : Octets} {length : Nat}
    (h : bvllLength dataLink message = .ok (some length)) : IsOriginalUnicast dataLink message := by
  unfold bvllLength at h
  by_cases hshort : message.length < if dataLink = .ipv6 then 10 else 4
  · simp [hshort] at h
  · have h4 : 4 ≤ message.length := by
      by_cases hv6 : dataLink = .ipv6
      · simp only [hv6, if_true] at hshort
        omega
      · simp only [hv6, if_false] at hshort
        omega
    obtain ⟨type, function, rest, rfl⟩ : ∃ type function rest,
      message = type :: function :: rest := by
      match message, h4 with
      | type :: function :: rest, _ => exact ⟨type, function, rest, rfl⟩
    have h0 : read (type :: function :: rest) 0 = .ok type := rfl
    have h1 : read (type :: function :: rest) 1 = .ok function := rfl
    simp only [hshort, if_false, bind, Except.bind, h0, h1, pure, Except.pure] at h
    have hboth : ∀ t f : UInt8, (if type != t then .ok none else if function != f then .ok none
        else .ok (some (if dataLink = .ipv6 then 10 else 4)) : Access (Option Nat)) =
          .ok (some length) → [type, function] = [t, f] := by
      intro t f hok
      by_cases htype : type = t
      · by_cases hfunction : function = f
        · rw [htype, hfunction]
        · simp [htype, hfunction] at hok
      · simp [htype] at hok
    show [type, function] = _
    by_cases hv6 : dataLink = .ipv6
    · rw [if_pos hv6]
      apply hboth
      simpa only [hv6, if_true] using h
    · rw [if_neg hv6]
      apply hboth
      simpa only [hv6, if_false] using h

theorem isOriginalUnicast_of_apduAt {dataLink : DataLink} {message apdu : Octets}
    (h : apduAt dataLink message = some apdu) : IsOriginalUnicast dataLink message := by
  obtain ⟨r, hr⟩ := bvllLength_spec dataLink message
  cases r with
  | some length => exact isOriginalUnicast_of_bvllLength hr
  | none =>
    have hstart : apduStart dataLink message = .ok none := by
      unfold apduStart
      rw [hr]
      rfl
    simp [apduAt, hstart] at h

/-- The value of `apdu`, an ACK in a datagram, is what changes `w` into `w'`. -/
structure TakesReading (dataLink : DataLink) (message fromAddress : Octets) (fromPort : UInt16)
    (apdu : Octets) (kind : ReadKind) (humidity : Single) (w w' : Observed) : Prop where
  /-- From exactly the bound address and port. -/
  fromPeer : w.controller.fromPeer dataLink fromAddress fromPort = true
  originalUnicast : IsOriginalUnicast dataLink message
  apdu_eq : apduAt dataLink message = some apdu
  complexAck : isUnsegmentedComplexAck apdu = true
  /-- Its invoke id is that of the last read of its kind, which has no answer yet. -/
  outstanding : w.outstanding kind = some (invokeIdOf apdu)
  service : serviceOf apdu = kind.serviceChoice
  presentValue : kind.presentValue apdu = some humidity
  value : w'.controller.analogValue1Value ≠ w.controller.analogValue1Value →
    w'.controller.analogValue1Value = humidity
  notFaulty : kind = .readProperty → w.lastFault ≠ some true
  answered : w'.outstanding kind = none
  /-- As long as no read is sent with the same invoke id, the same datagram changes nothing. -/
  replay : ∀ events, (∀ p ∈ steps (Controller.step dataLink) w'.controller events,
      ∀ k, p.1.sent dataLink p.2 ≠ some (k, invokeIdOf apdu)) →
    ∀ c ∈ states (Controller.step dataLink) w'.controller events, ∀ now,
      handleReplyFromPeer dataLink now message fromAddress fromPort c = .ok c

/-! ### What a good reading tells of the datagram -/

theorem Controller.answerTo_reading {c : Controller} {apdu : Octets} {humidity : Single}
    (h : c.answerTo apdu = .reading humidity) :
    isUnsegmentedComplexAck apdu = true ∧ c.acksReadProperty apdu = true ∧
      readPropertyAckReal apdu = some humidity ∧ c.peer.sensorFaultReported = false := by
  unfold answerTo at h
  by_cases hf : c.isFallback apdu = true
  · rw [if_pos hf] at h
    cases h
  · rw [if_neg hf] at h
    by_cases hack : (!isUnsegmentedComplexAck apdu) = true
    · rw [if_pos hack] at h
      cases h
    · rw [if_neg hack] at h
      by_cases hrp : c.acksReadProperty apdu = true
      · rw [if_pos hrp] at h
        cases hreal : readPropertyAckReal apdu with
        | none => simp [hreal] at h
        | some value =>
          cases hs : c.peer.sensorFaultReported with
          | true => simp [hreal, hs] at h
          | false =>
            simp only [hreal, hs, Bool.false_eq_true, if_false, Answer.reading.injEq] at h
            exact ⟨by simpa using hack, hrp, congrArg some h, rfl⟩
      · rw [if_neg hrp] at h
        split at h
        · split at h <;> cases h
        · cases h

theorem Controller.answerTo_multiple {c : Controller} {apdu : Octets} {humidity : Single}
    {fault : Bool} (h : c.answerTo apdu = .multiple humidity fault) :
    isUnsegmentedComplexAck apdu = true ∧ c.acksReadPropertyMultiple apdu = true ∧
      multipleReading apdu = ⟨some humidity, some fault⟩ := by
  unfold answerTo at h
  by_cases hf : c.isFallback apdu = true
  · rw [if_pos hf] at h
    cases h
  · rw [if_neg hf] at h
    by_cases hack : (!isUnsegmentedComplexAck apdu) = true
    · rw [if_pos hack] at h
      cases h
    · rw [if_neg hack] at h
      by_cases hrp : c.acksReadProperty apdu = true
      · rw [if_pos hrp] at h
        split at h
        · split at h <;> cases h
        · cases h
      · rw [if_neg hrp] at h
        by_cases hrpm : c.acksReadPropertyMultiple apdu = true
        · rw [if_pos hrpm] at h
          rcases hm : multipleReading apdu with ⟨_ | value, _ | flag⟩
          · simp [hm] at h
          · simp [hm] at h
          · simp [hm] at h
          · simp only [hm, Answer.multiple.injEq] at h
            exact ⟨by simpa using hack, hrpm, by rw [h.1, h.2]⟩
        · rw [if_neg hrpm] at h
          cases h

/-- A good reading answers the outstanding read of its kind. -/
theorem goodReading_kind {w : Observed} (h : Consistent w) {apdu : Octets} {humidity : Single}
    (hgood : w.controller.answerTo apdu = .reading humidity ∨
      w.controller.answerTo apdu = .multiple humidity false) :
    ∃ kind, isUnsegmentedComplexAck apdu = true ∧ w.outstanding kind = some (invokeIdOf apdu) ∧
      serviceOf apdu = kind.serviceChoice ∧ kind.presentValue apdu = some humidity ∧
      (kind = .readProperty → w.lastFault ≠ some true) := by
  rcases hgood with hreading | hmultiple
  · obtain ⟨hack, hacks, hreal, hsensor⟩ := Controller.answerTo_reading hreading
    obtain ⟨hawaits, hservice⟩ := (Bool.and_eq_true _ _).mp hacks
    refine ⟨.readProperty, hack, ?_, beq_iff_eq.1 hservice, hreal, fun _ hfault => ?_⟩
    · exact (h.pending _).symm.trans (Controller.awaitsReadProperty_iff.1 hawaits)
    · rw [h.fault, hfault] at hsensor
      exact absurd hsensor (by decide)
  · obtain ⟨hack, hacks, hreading⟩ := Controller.answerTo_multiple hmultiple
    obtain ⟨hawaits, hservice⟩ := (Bool.and_eq_true _ _).mp hacks
    refine ⟨.readPropertyMultiple, hack, ?_, beq_iff_eq.1 hservice, ?_, nofun⟩
    · exact (h.pending _).symm.trans (Controller.awaitsReadPropertyMultiple_iff.1 hawaits)
    · exact congrArg MultipleReading.humidity hreading

/-! ### A replayed answer -/

theorem pendingId_answered {c : Controller} {now : Time} {invokeId id : UInt8} {kind : ReadKind}
    (h : (c.answered now invokeId).pendingId kind = some id) : c.pendingId kind = some id := by
  unfold Controller.answered at h
  cases kind with
  | readProperty =>
    by_cases ha : c.awaitsReadProperty invokeId = true
    · simp [ha, Controller.pendingId] at h
    · simpa [ha, Controller.pendingId] using h
  | readPropertyMultiple =>
    by_cases ha : c.awaitsReadProperty invokeId = true
    · simpa [ha, Controller.pendingId] using h
    · simp [ha, Controller.pendingId] at h

/-- A read that is outstanding was so before, or was just sent. -/
theorem pendingId_step {dataLink : DataLink} {c c' : Controller} {event : Event}
    (hc' : c.step dataLink event = .ok c') {kind : ReadKind} {id : UInt8}
    (h : c'.pendingId kind = some id) :
    c.pendingId kind = some id ∨ c.sent dataLink event = some (kind, id) := by
  cases event with
  | iAm now deviceIdentifier connectionString sourceNetwork =>
    obtain rfl := Except.ok.inj hc'
    have houtcome := hookIAm_outcome dataLink now deviceIdentifier connectionString sourceNetwork c
    generalize hookIAm dataLink now deviceIdentifier connectionString sourceNetwork c =
      c' at houtcome h
    cases houtcome with
    | ignored => exact Or.inl h
    | binds | moves => cases kind <;> exact Or.inl h
  | tick now invokeId =>
    have hpeer := step_tick_peer hc'
    by_cases hdue : c.isDue now
    · rw [if_pos hdue] at hpeer
      cases invokeId with
      | none =>
        rw [pendingId_asked_none hpeer] at h
        exact Or.inl h
      | some sentId =>
        rw [pendingId_asked hpeer] at h
        by_cases hk : c.nextKind = kind
        · rw [if_pos hk, Option.some.injEq] at h
          exact Or.inr (by rw [sent_tick, if_pos hdue, hk, h])
        · rw [if_neg hk] at h
          exact Or.inl h
    · rw [if_neg hdue] at hpeer
      rw [pendingId_congr hpeer] at h
      exact Or.inl h
  | datagram now message fromAddress fromPort =>
    simp only [Controller.step, handleReplyFromPeer_eq, Except.ok.injEq] at hc'
    cases htaken : c.taken dataLink message fromAddress fromPort with
    | none =>
      rw [htaken] at hc'
      subst hc'
      exact Or.inl h
    | some apdu =>
      rw [htaken] at hc'
      subst hc'
      have hpeer := c.afterAnswer_peer now apdu
      have hsame : (c.afterAnswer now apdu).pendingId kind =
          (c.answered now (invokeIdOf apdu)).pendingId kind := by
        cases kind <;> rw [Controller.pendingId, hpeer] <;> rfl
      exact Or.inl (pendingId_answered (hsame ▸ h))
  | restart restartKind =>
    obtain rfl := Except.ok.inj hc'
    have hpeer : (restart restartKind c).peer = c.peer := by cases restartKind <;> rfl
    rw [pendingId_congr hpeer] at h
    exact Or.inl h

/-- A datagram whose invoke id no read has changes nothing, as long as no read gets it. -/
theorem replay_ignored {dataLink : DataLink} {message fromAddress apdu : Octets} {fromPort : UInt16}
    (hapdu : apduAt dataLink message = some apdu) {c : Controller}
    (hc : ∀ kind, c.pendingId kind ≠ some (invokeIdOf apdu)) (events : List Event)
    (hs : ∀ p ∈ steps (Controller.step dataLink) c events, ∀ kind,
      p.1.sent dataLink p.2 ≠ some (kind, invokeIdOf apdu)) :
    ∀ t ∈ states (Controller.step dataLink) c events, ∀ now,
      handleReplyFromPeer dataLink now message fromAddress fromPort t = .ok t := by
  have hstep : ∀ (s : Controller) (event : Event) (s' : Controller),
      (∀ kind, s.pendingId kind ≠ some (invokeIdOf apdu)) →
      (∀ kind, s.sent dataLink event ≠ some (kind, invokeIdOf apdu)) →
      s.step dataLink event = .ok s' → ∀ kind, s'.pendingId kind ≠ some (invokeIdOf apdu) := by
    intro s event s' hbefore hsent hs' kind hafter
    rcases pendingId_step hs' hafter with h | h
    · exact hbefore kind h
    · exact hsent kind h
  intro t ht now
  have hnot := invariant_of_guard hstep hc events hs t ht
  have htaken : t.taken dataLink message fromAddress fromPort = none := by
    by_contra hne
    obtain ⟨apdu', htaken⟩ := Option.ne_none_iff_exists'.1 hne
    obtain ⟨-, hapdu', hawaits⟩ := taken_eq_some_iff.1 htaken
    obtain rfl := Option.some.inj (hapdu'.symm.trans hapdu)
    obtain ⟨kind, hkind⟩ := Controller.awaits_iff.1 hawaits
    exact hnot kind hkind
  rw [handleReplyFromPeer_eq, htaken]

theorem goodReading_answerTo {dataLink : DataLink} {c : Controller} {now : Time}
    {message fromAddress apdu : Octets} {fromPort : UInt16} {humidity : Single}
    (htaken : c.taken dataLink message fromAddress fromPort = some apdu)
    (h : c.goodReading dataLink (.datagram now message fromAddress fromPort) = some humidity) :
    c.answerTo apdu = .reading humidity ∨ c.answerTo apdu = .multiple humidity false := by
  simp only [Controller.goodReading, htaken, Option.map_some] at h
  cases ha : c.answerTo apdu with
  | unsupported | noValue | ignored => simp [ha] at h
  | reading value =>
    simp only [ha, Option.some.injEq] at h
    exact Or.inl (by rw [h])
  | multiple value fault =>
    cases fault with
    | true => simp [ha] at h
    | false =>
      simp only [ha, Option.some.injEq] at h
      exact Or.inr (by rw [h])

/-- Only one kind of read has this invoke id. -/
theorem Consistent.kind_eq {w : Observed} (h : Consistent w) {kind kind' : ReadKind} {id : UInt8}
    (hk : w.outstanding kind = some id) (hk' : w.outstanding kind' = some id) : kind' = kind := by
  have hother := h.other_ne hk
  cases kind with
  | readProperty =>
    cases kind' with
    | readProperty => rfl
    | readPropertyMultiple => exact absurd hk' hother
  | readPropertyMultiple =>
    cases kind' with
    | readProperty => exact absurd hk' hother
    | readPropertyMultiple => rfl

/-- Diamond's value changes, or its fault is cleared. -/
def DiamondMoves (c c' : Controller) : Prop :=
  c'.analogValue1Value ≠ c.analogValue1Value ∨
    (c'.diamondReliability = .noFaultDetected ∧ c.diamondReliability ≠ .noFaultDetected)

theorem takesReading_of_diamondMoves {dataLink : DataLink} {w w' : Observed} {event : Event}
    (h : Consistent w) (hcold : event ≠ .restart .cold) (hw : observe dataLink w event = .ok w')
    (hmoves : DiamondMoves w.controller w'.controller) :
    ∃ now message fromAddress fromPort apdu kind humidity,
      event = .datagram now message fromAddress fromPort ∧
        TakesReading dataLink message fromAddress fromPort apdu kind humidity w w' := by
  obtain ⟨c', hc', rfl⟩ := observe_eq_ok_iff.1 hw
  change DiamondMoves w.controller c' at hmoves
  have heffect := step_effect hc'
  cases hgood : w.controller.goodReading dataLink event with
  | none =>
    rw [hgood] at heffect
    cases heffect with
    | coldStart hevent heq => exact absurd hevent hcold
    | holds hevent hvalue hrel =>
      rcases hmoves with hne | ⟨hafter, hbefore⟩
      · exact absurd hvalue hne
      · exact absurd (hrel hafter) hbefore
  | some humidity =>
    rw [hgood] at heffect
    cases heffect with
    | reads hvalue =>
      cases event with
      | iAm | tick | restart => cases hgood
      | datagram now message fromAddress fromPort =>
        have hevent : DistinctIds dataLink w (.datagram now message fromAddress fromPort) := trivial
        have hafter := consistent_next h hevent hw
        cases datagram_outcome h hc' with
        | ignored hanswer =>
          rcases hmoves with hne | ⟨hrel, hbefore⟩
          · exact absurd rfl hne
          · exact absurd hrel hbefore
        | @answers apdu answered htaken houtstanding hanswer hother =>
          obtain ⟨hpeer, hapdu, -⟩ := taken_eq_some_iff.1 htaken
          obtain ⟨kind, hack, hkind, hservice, hvalueOf, hfault⟩ :=
            goodReading_kind h (goodReading_answerTo htaken hgood)
          obtain rfl := h.kind_eq houtstanding hkind
          have hnone : (w.next dataLink (.datagram now message fromAddress fromPort)
              (w.controller.afterAnswer now apdu)).outstanding kind = none := by
            simp [Observed.next, Controller.sent, hanswer]
          have hnot : ∀ k, (w.controller.afterAnswer now apdu).pendingId k ≠
              some (invokeIdOf apdu) := by
            intro k hk
            replace hk := (hafter.pending k).symm.trans hk
            by_cases hsame : k = kind
            · rw [hsame, hnone] at hk
              cases hk
            · have hkeeps : w.outstanding k = some (invokeIdOf apdu) := by
                simp only [Observed.next, Controller.sent] at hk
                split_ifs at hk with hdone
                exact hk
              exact hsame (h.kind_eq hkind hkeeps)
          refine ⟨now, message, fromAddress, fromPort, apdu, kind, humidity, rfl, hpeer,
            isOriginalUnicast_of_apduAt hapdu, hapdu, hack, hkind, hservice, hvalueOf, ?_,
              hfault, hnone,
            replay_ignored hapdu hnot⟩
          intro hne
          change (w.controller.afterAnswer now apdu).analogValue1Value ≠ _ at hne
          rw [hvalue] at hne
          exact hvalue.trans (Single.assign_of_ne hne)

/-- **Diamond's value comes from an answer**: in a run without COLDSTART, each change of it, and
each fault that is cleared, takes the value of an ACK. -/
theorem presentValue_from_answer (dataLink : DataLink) (clock : Time) (events : List Event)
    (h : ∀ p ∈ steps (observe dataLink) (.start clock) events,
      DistinctIds dataLink p.1 p.2 ∧ p.2 ≠ .restart .cold) :
    ∀ p ∈ steps (observe dataLink) (.start clock) events, ∀ w', observe dataLink p.1 p.2 = .ok w' →
      DiamondMoves p.1.controller w'.controller →
        ∃ now message fromAddress fromPort apdu kind humidity,
          p.2 = .datagram now message fromAddress fromPort ∧
            TakesReading dataLink message fromAddress fromPort apdu kind humidity p.1 w' := by
  have hstep : ∀ (w : Observed) (event : Event) (w' : Observed), Consistent w →
      (DistinctIds dataLink w event ∧ event ≠ .restart .cold) → observe dataLink w event = .ok w' →
      Consistent w' := fun _ _ _ hw hg => consistent_next hw hg.1
  refine post_of_guard (fun w event w' => DiamondMoves w.controller w'.controller →
    ∃ now message fromAddress fromPort apdu kind humidity,
      event = .datagram now message fromAddress fromPort ∧
        TakesReading dataLink message fromAddress fromPort apdu kind humidity w w') hstep ?_
    (consistent_start clock) events h
  intro w event w' hw hg hw' hmoves
  exact takesReading_of_diamondMoves hw hg.2 hw' hmoves

/-- The first reading of all. -/
theorem presentValue_from_answer_firstReading :
    ∃ w w' : Observed, w'.controller.analogValue1Value ≠ w.controller.analogValue1Value ∧
      ∃ now message fromAddress fromPort apdu kind humidity,
        Event.datagram (milliseconds 10) (readingAck 0) peerAddress 0xBAC0 =
            .datagram now message fromAddress fromPort ∧
          TakesReading .ipv4 message fromAddress fromPort apdu kind humidity w w' := by
  have hrun : (steps (observe .ipv4) (.start 0) (firstPoll ++
      [.datagram (milliseconds 10) (readingAck 0) peerAddress 0xBAC0])).any (fun p =>
        p.2 = .datagram (milliseconds 10) (readingAck 0) peerAddress 0xBAC0 &&
          match observe .ipv4 p.1 p.2 with
          | .ok w' => w'.controller.analogValue1Value ≠ p.1.controller.analogValue1Value
          | .error _ => false) = true := by
    decide
  obtain ⟨⟨w, event⟩, hp, hmoves⟩ := List.any_eq_true.1 hrun
  cases hw' : observe .ipv4 w event with
  | error f => simp [hw'] at hmoves
  | ok w' =>
    simp only [hw', Bool.and_eq_true, decide_eq_true_eq] at hmoves
    obtain ⟨rfl, hvalue⟩ := hmoves
    exact ⟨w, w', hvalue,
      presentValue_from_answer .ipv4 0 _ (by decide) _ hp w' hw' (.inl hvalue)⟩

/-! ## The pace of the polls -/

/-- The clock does not go back. -/
def InOrder (w : Observed) (event : Event) : Prop := ∀ now ∈ event.time, w.clock ≤ now

instance (w : Observed) (event : Event) : Decidable (InOrder w event) :=
  inferInstanceAs (Decidable (∀ now ∈ event.time, w.clock ≤ now))

/-- Two polls are at least `REMOTE_POLL_INTERVAL_MILLISECONDS` apart. -/
def Spaced (later earlier : Time × ReadKind) : Prop :=
  milliseconds remotePollIntervalMilliseconds ≤ later.1 - earlier.1

theorem Spaced.trans {a b c : Time × ReadKind} (hab : Spaced a b) (hbc : Spaced b c) :
    Spaced a c := by
  have hab' : (1000 : Int) * 1000000 ≤ (a.1 : Int) - b.1 := hab
  have hbc' : (1000 : Int) * 1000000 ≤ (b.1 : Int) - c.1 := hbc
  show (1000 : Int) * 1000000 ≤ (a.1 : Int) - c.1
  generalize (a.1 : Int) = x at *
  generalize (b.1 : Int) = y at *
  generalize (c.1 : Int) = z at *
  omega

/-- The poll counter and the time of the last poll stand for the attempts so far. -/
structure Paced (w : Observed) : Prop where
  unbound : w.controller.peer.bound = false → w.attempts = []
  parity : w.controller.peer.pollCount.toNat % 2 = w.attempts.length % 2
  lastPoll : ∀ a ∈ w.attempts.head?, w.controller.peer.lastPoll = a.1 ∧ a.1 ≤ w.clock
  spaced : w.attempts.Pairwise Spaced
  kind : w.rejected = false → ∀ a ∈ w.attempts.head?,
    a.2 = if w.attempts.length % 2 = 1 then .readProperty else .readPropertyMultiple
  alternate : w.rejected = false → w.attempts.IsChain fun later earlier => later.2 ≠ earlier.2

theorem paced_start (clock : Time) : Paced (.start clock) where
  unbound _ := rfl
  parity := rfl
  lastPoll := nofun
  spaced := .nil
  kind _ := nofun
  alternate _ := .nil

/-- A step that polls nothing. -/
theorem Paced.congr {w w' : Observed} (h : Paced w) (hattempts : w'.attempts = w.attempts)
    (hcount : w'.controller.peer.pollCount = w.controller.peer.pollCount)
    (hlastPoll : w.controller.peer.bound = true →
      w'.controller.peer.lastPoll = w.controller.peer.lastPoll)
    (hbound : w.controller.peer.bound = true → w'.controller.peer.bound = true)
    (hclock : w.clock ≤ w'.clock) (hrejected : w'.rejected = false → w.rejected = false) :
    Paced w' where
  unbound hb := by
    rw [hattempts]
    apply h.unbound
    by_contra hne
    rw [hbound (by simpa using hne)] at hb
    exact Bool.noConfusion hb
  parity := by rw [hcount, hattempts, h.parity]
  lastPoll a ha := by
    rw [hattempts] at ha
    have hb : w.controller.peer.bound = true := by
      by_contra hne
      rw [h.unbound (by simpa using hne)] at ha
      cases ha
    rw [hlastPoll hb]
    exact ⟨(h.lastPoll a ha).1, (h.lastPoll a ha).2.trans hclock⟩
  spaced := hattempts ▸ h.spaced
  kind hr := hattempts ▸ h.kind (hrejected hr)
  alternate hr := hattempts ▸ h.alternate (hrejected hr)

/-- `MillisecondsSince` forgets whole rounds of its 32 bits, so that it never says too much. -/
theorem milliseconds_le_sub {now start : Int} (h : start ≤ now) {n : Nat}
    (hn : n ≤ millisecondsSince now start) : milliseconds n ≤ now - start := by
  unfold millisecondsSince at hn
  have hd : (0 : Int) ≤ now - start := Int.sub_nonneg.2 h
  rw [Int.tdiv_eq_ediv_of_nonneg hd] at hn
  show (n : Int) * 1000000 ≤ now - start
  generalize (now - start : Int) = d at hd hn
  omega

theorem Controller.isDue_interval {c : Controller} {now : Time} (h : c.isDue now) :
    remotePollIntervalMilliseconds ≤ millisecondsSince now c.peer.lastPoll := by
  refine le_trans ?_ h.2
  split_ifs <;> decide

theorem paced_tick {dataLink : DataLink} {w : Observed} (hc : Consistent w) (h : Paced w)
    {now : Time} (hle : w.clock ≤ now) {invokeId : Option UInt8} {c' : Controller}
    (hc' : w.controller.step dataLink (.tick now invokeId) = .ok c') :
    Paced (w.next dataLink (.tick now invokeId) c') := by
  have hpeer := step_tick_peer hc'
  have hattempt := attempt_tick dataLink now invokeId w.controller
  have hrejects : w.rejects dataLink (.tick now invokeId) = false := by
    simp [Observed.rejects, answer_eq_none_of_heard (show w.controller.heard dataLink
      (.tick now invokeId) = none from rfl)]
  have hrejected : (w.next dataLink (.tick now invokeId) c').rejected = w.rejected := by
    simp [Observed.next, hrejects]
  have hattempts : (w.next dataLink (.tick now invokeId) c').attempts =
      if w.controller.isDue now then (now, w.controller.nextKind) ::
        w.attempts else w.attempts := by
    simp only [Observed.next, hattempt]
    split_ifs <;> rfl
  by_cases hdue : w.controller.isDue now
  · rw [if_pos hdue] at hpeer hattempts
    have hcount : c'.peer.pollCount = w.controller.peer.pollCount + 1 := by
      rw [hpeer]
      cases invokeId <;> cases w.controller.nextKind <;> rfl
    have hlast : c'.peer.lastPoll = now := by
      rw [hpeer]
      cases invokeId <;> cases w.controller.nextKind <;> rfl
    have hbound : c'.peer.bound = true := (samePeer_tick hc').bound.trans hdue.1
    -- the counter is even before a ReadProperty; it has 32 bits, and an even number of values
    have hparity : c'.peer.pollCount.toNat % 2 = (w.attempts.length + 1) % 2 := by
      have hbefore := h.parity
      rw [hcount, UInt32.toNat_add]
      have hone : (1 : UInt32).toNat = 1 := rfl
      omega
    have hkind : w.rejected = false → w.controller.nextKind =
        if (w.attempts.length + 1) % 2 = 1 then .readProperty else .readPropertyMultiple := by
      intro hr
      have hodd : (w.controller.peer.pollCount % 2 == 1) = decide (w.attempts.length % 2 = 1) := by
        rw [← h.parity, Bool.eq_iff_iff, beq_iff_eq, decide_eq_true_eq, ← UInt32.toNat_inj,
          UInt32.toNat_mod]
        rfl
      rw [Controller.nextKind, hodd, hc.unsupported hr, Bool.not_false, Bool.and_true]
      by_cases hp : w.attempts.length % 2 = 1
      · rw [if_pos (by simpa using hp), if_neg (by omega)]
      · rw [if_neg (by simpa using hp), if_pos (by omega)]
    refine ⟨fun hb => ?_, ?_, fun a ha => ?_, ?_, fun hr a ha => ?_, fun hr => ?_⟩
    · exact absurd (hb.symm.trans hbound) (by decide)
    · rw [hattempts, List.length_cons]
      exact hparity
    · rw [hattempts, List.head?_cons, Option.mem_some] at ha
      subst ha
      exact ⟨hlast, le_refl now⟩
    · rw [hattempts, List.pairwise_cons]
      refine ⟨fun a ha => ?_, h.spaced⟩
      obtain ⟨first, rest, hlist⟩ := List.exists_cons_of_ne_nil (List.ne_nil_of_mem ha)
      obtain ⟨hpoll, hclock⟩ := h.lastPoll first (by rw [hlist]; rfl)
      have hfirst : Spaced (now, w.controller.nextKind) first := by
        have hinterval := Controller.isDue_interval hdue
        rw [hpoll] at hinterval
        exact milliseconds_le_sub (hclock.trans hle) hinterval
      rw [hlist] at ha
      rcases List.mem_cons.1 ha with rfl | ha
      · exact hfirst
      · have hspaced := h.spaced
        rw [hlist, List.pairwise_cons] at hspaced
        exact hfirst.trans (hspaced.1 a ha)
    · rw [hattempts, List.head?_cons, Option.mem_some] at ha
      subst ha
      rw [hattempts, List.length_cons]
      exact hkind (hrejected ▸ hr)
    · rw [hattempts, List.isChain_cons]
      rw [hrejected] at hr
      refine ⟨fun a ha => ?_, h.alternate hr⟩
      show w.controller.nextKind ≠ a.2
      rw [hkind hr, h.kind hr a ha]
      by_cases hp : w.attempts.length % 2 = 1
      · rw [if_pos hp, if_neg (by omega)]
        decide
      · rw [if_neg hp, if_pos (by omega)]
        decide
  · rw [if_neg hdue] at hpeer hattempts
    refine h.congr hattempts ?_ ?_ ?_ hle fun hr => hrejected ▸ hr
    · exact congrArg RemotePeer.pollCount hpeer
    · exact fun _ => congrArg RemotePeer.lastPoll hpeer
    · exact fun hb => (congrArg RemotePeer.bound hpeer).trans hb

theorem paced_next {dataLink : DataLink} {w w' : Observed} {event : Event} (hc : Consistent w)
    (h : Paced w) (horder : InOrder w event) (hw : observe dataLink w event = .ok w') :
      Paced w' := by
  obtain ⟨c', hc', rfl⟩ := observe_eq_ok_iff.1 hw
  have hrejected : (w.next dataLink event c').rejected = false → w.rejected = false := fun hr =>
    (Bool.or_eq_false_iff.1 hr).1
  cases event with
  | iAm now deviceIdentifier connectionString sourceNetwork =>
    obtain rfl := Except.ok.inj hc'
    have houtcome := hookIAm_outcome dataLink now deviceIdentifier connectionString sourceNetwork
      w.controller
    generalize hookIAm dataLink now deviceIdentifier connectionString sourceNetwork w.controller =
      c' at houtcome hrejected
    cases houtcome with
    | ignored => exact h.congr rfl rfl (fun _ => rfl) id (horder now rfl) hrejected
    | binds hbound =>
      refine h.congr rfl rfl (fun hb => ?_) (fun _ => rfl) (horder now rfl) hrejected
      exact absurd (hbound.symm.trans hb) (by decide)
    | moves => exact h.congr rfl rfl (fun _ => rfl) id (horder now rfl) hrejected
  | tick now invokeId => exact paced_tick hc h (horder now rfl) hc'
  | datagram now message fromAddress fromPort =>
    have houtcome := datagram_outcome hc hc'
    cases houtcome with
    | ignored => exact h.congr rfl rfl (fun _ => rfl) id (horder now rfl) hrejected
    | @answers apdu kind =>
      have hpeer := w.controller.afterAnswer_peer now apdu
      have hanswered : ∀ invokeId, (w.controller.answered now invokeId).peer.pollCount =
          w.controller.peer.pollCount ∧ (w.controller.answered now invokeId).peer.lastPoll =
            w.controller.peer.lastPoll := by
        intro invokeId
        unfold Controller.answered
        split_ifs <;> exact ⟨rfl, rfl⟩
      have hcount := congrArg RemotePeer.pollCount hpeer
      have hlast := congrArg RemotePeer.lastPoll hpeer
      have hbound := congrArg RemotePeer.bound hpeer
      refine h.congr rfl (hcount.trans (hanswered _).1) (fun _ => hlast.trans (hanswered _).2)
        (fun hb => ?_) (horder now rfl) hrejected
      exact hbound.trans ((w.controller.answered_bound now _).trans hb)
  | restart kind =>
    obtain rfl := Except.ok.inj hc'
    have hpeer : (restart kind w.controller).peer = w.controller.peer := by cases kind <;> rfl
    exact h.congr rfl (congrArg RemotePeer.pollCount hpeer)
      (fun _ => congrArg RemotePeer.lastPoll hpeer)
      (fun hb => (congrArg RemotePeer.bound hpeer).trans hb) (le_refl _) hrejected

/-! ## The fallback -/

/-- A poll is a ReadProperty, and a ReadProperty-ACK with a REAL Present_Value gives Diamond its
value. -/
structure ReadsByReadProperty (dataLink : DataLink) (w : Observed) (event : Event) (w' : Observed) :
    Prop where
  polls : ∀ now invokeId, event = .tick now invokeId →
    ∀ request ∈ (pollPeer dataLink now invokeId w.controller).2,
      request.serviceChoice = serviceReadProperty
  reads : ∀ apdu humidity, w.answer dataLink event .readProperty = some apdu →
    isUnsegmentedComplexAck apdu = true → serviceOf apdu = serviceReadProperty →
    readPropertyAckReal apdu = some humidity →
      w'.controller.analogValue1Value.SameNumber humidity ∧
        w'.controller.diamondReliability = .noFaultDetected

theorem readsByReadProperty_of_fellBack {dataLink : DataLink} {w w' : Observed} {event : Event}
    (h : Consistent w) (hf : w.fellBack = true) (hw : observe dataLink w event = .ok w') :
    ReadsByReadProperty dataLink w event w' := by
  obtain ⟨hunsupported, hsensor, hnone⟩ := h.fellBack hf
  obtain ⟨c', hc', rfl⟩ := observe_eq_ok_iff.1 hw
  constructor
  · rintro now invokeId rfl request hrequest
    have hservice := (pollPeer_sends dataLink now invokeId w.controller).request_eq
    rw [Option.mem_def.1 hrequest, Controller.nextKind_of_unsupported hunsupported] at hservice
    by_cases hdue : w.controller.isDue now
    · rw [if_pos hdue] at hservice
      exact Option.some.inj hservice
    · rw [if_neg hdue] at hservice
      cases hservice
  · intro apdu humidity hanswer hack hservice hreal
    cases event with
    | iAm | tick | restart => cases hanswer
    | datagram now message fromAddress fromPort =>
      cases datagram_outcome h hc' with
      | ignored hignored =>
        rw [hignored] at hanswer
        cases hanswer
      | @answers apdu' kind htaken houtstanding hanswered hother =>
        have hkind : kind = .readProperty := by
          cases kind with
          | readProperty => rfl
          | readPropertyMultiple =>
            rw [hnone] at houtstanding
            cases houtstanding
        subst hkind
        obtain rfl := Option.some.inj (hanswered.symm.trans hanswer)
        have hawaits : w.controller.awaitsReadProperty (invokeIdOf apdu') = true :=
          Controller.awaitsReadProperty_iff.2 ((h.pending _).trans houtstanding)
        have hawaitsMultiple : w.controller.awaitsReadPropertyMultiple (invokeIdOf apdu') =
            false := by
          rw [← Bool.not_eq_true, Controller.awaitsReadPropertyMultiple_iff, h.pending, hnone]
          exact nofun
        have hanswerTo : w.controller.answerTo apdu' = .reading humidity := by
          simp [Controller.answerTo, Controller.isFallback, Controller.acksReadProperty, hawaits,
            hawaitsMultiple, hack, hservice, hreal, hsensor]
        show (w.controller.afterAnswer now apdu').analogValue1Value.SameNumber humidity ∧
          (w.controller.afterAnswer now apdu').diamondReliability = .noFaultDetected
        rw [Controller.afterAnswer, hanswerTo]
        simp [Answer.apply, Single.assign_sameNumber]

/-- **The fallback holds, and the polls keep their pace.** -/
theorem fallback_holds (dataLink : DataLink) (clock : Time) (events : List Event)
    (h : ∀ p ∈ steps (observe dataLink) (.start clock) events,
      DistinctIds dataLink p.1 p.2 ∧ InOrder p.1 p.2) :
    (∀ w ∈ states (observe dataLink) (.start clock) events,
      (w.fellBack = true → w.controller.peer.sensorFaultReported = false) ∧
      (w.rejected = false → w.attempts.IsChain fun later earlier => later.2 ≠ earlier.2) ∧
      w.attempts.Pairwise Spaced) ∧
    ∀ p ∈ steps (observe dataLink) (.start clock) events, ∀ w', observe dataLink p.1 p.2 = .ok w' →
      p.1.fellBack = true → ReadsByReadProperty dataLink p.1 p.2 w' := by
  have hstep : ∀ (w : Observed) (event : Event) (w' : Observed), Consistent w ∧ Paced w →
      (DistinctIds dataLink w event ∧ InOrder w event) → observe dataLink w event = .ok w' →
      Consistent w' ∧ Paced w' := fun _ _ _ hw hg hw' =>
    ⟨consistent_next hw.1 hg.1 hw', paced_next hw.1 hw.2 hg.2 hw'⟩
  have hstart := And.intro (consistent_start clock) (paced_start clock)
  constructor
  · intro w hw
    obtain ⟨hconsistent, hpaced⟩ := invariant_of_guard hstep hstart events h w hw
    exact ⟨fun hf => (hconsistent.fellBack hf).2.1, hpaced.alternate, hpaced.spaced⟩
  · refine post_of_guard (fun w event w' => w.fellBack = true →
      ReadsByReadProperty dataLink w event w') hstep ?_ hstart events h
    intro w event w' hw hg hw' hf
    exact readsByReadProperty_of_fellBack hw.1 hf hw'

/-! ### A peer without ReadPropertyMultiple -/

/-- Reject unrecognized-service, with invoke id 1. -/
def rejectMultiple : Octets := [0x81, 0x0A, 0x00, 0x09, 0x01, 0x00, 0x60, 0x01, 0x09]

/-- It answers the first poll, turns the second one down, and answers the third. -/
def fallbackRun : List Event :=
  firstPoll ++
    [.datagram (milliseconds 10) (readingAck 0) peerAddress 0xBAC0,
      .tick (milliseconds 1000) (some 1),
      .datagram (milliseconds 1010) rejectMultiple peerAddress 0xBAC0,
      .tick (milliseconds 2000) (some 2),
      .datagram (milliseconds 2010) (readingAck 2) peerAddress 0xBAC0,
      .tick (milliseconds 3000) (some 3)]

theorem fallback_holds_fallbackRun :
    (∀ w ∈ states (observe .ipv4) (.start 0) fallbackRun,
      (w.fellBack = true → w.controller.peer.sensorFaultReported = false) ∧
      (w.rejected = false → w.attempts.IsChain fun later earlier => later.2 ≠ earlier.2) ∧
      w.attempts.Pairwise Spaced) ∧
    ∀ p ∈ steps (observe .ipv4) (.start 0) fallbackRun, ∀ w', observe .ipv4 p.1 p.2 = .ok w' →
      p.1.fellBack = true → ReadsByReadProperty .ipv4 p.1 p.2 w' :=
  fallback_holds .ipv4 0 fallbackRun (by decide)

/-- The fallback is reached in that run, and the polls after it are ReadProperties. -/
example : (final (observe .ipv4) (.start 0) fallbackRun).map (fun w => (w.fellBack, w.attempts)) =
    .ok (true, [(milliseconds 3000, .readProperty), (milliseconds 2000, .readProperty),
      (milliseconds 1000, .readPropertyMultiple), (0, .readProperty)]) := by
  decide

end BacnetBc
