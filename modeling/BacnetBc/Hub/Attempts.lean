import BacnetBc.Hub.World

/-!
# What is reported of an attempt

A `Connect` that returns true has started an attempt. Its outcome is an event in `g_statusEvents`:
Connected or Error. `outcomesOf` are the outcomes that a run queues for a URI, and `Via.outcome` is
what should be queued until the attempt is superseded: an Error, if `lws_client_connect_via_info`
returns NULL, and else what libwebsockets reports of the socket.

**The defect.** The callback ignores an error that is reported inside
`lws_client_connect_via_info`, because the entry has no socket yet. `Connect` leaves its own Error
out if the last event in the queue is for the same URI, whatever that event is.

**Theorem (`attempts_reported_iff`).** In a run every attempt has its outcome reported, exactly
once, if and only if no `Connect` whose attempt fails at once finds that the last event in the queue
is for its URI.
-/

namespace BacnetBc

open Memory Trajectory

namespace Hub

/-! ## Outcomes -/

/-- What an event of the attempt's socket says of the attempt. -/
def Reason.outcome : Reason → Option WebSocketStatus
  | .established => some .connected
  | .connectionError => some .error
  | _ => none

/-- The outcome of the attempt that is on `socket`. -/
def Event.outcomeOf (socket : Nat) : Event → Option WebSocketStatus
  | .callback s reason => if s = socket then reason.outcome else none
  | _ => none

/-- The attempt is given up for another one, or for new credentials. -/
def Event.Supersedes (uri : Octets) : Event → Prop
  | .connect u _ => u = uri
  | .reloadCredentials _ _ => True
  | _ => False

/-- What should be queued of an attempt while the events are `events`. -/
def Via.outcome : Via → List Event → List WebSocketStatus
  | .null _ _, _ => [.error]
  | .socket s, events => (events.findSome? (Event.outcomeOf s)).toList

/-- The outcomes for an entry among these events. -/
def outcomesIn (uri : Octets) (events : List StatusEvent) : List WebSocketStatus :=
  events.filterMap fun event =>
    if event.uri = uri ∧ event.status ≠ .disconnected then some event.status else none

namespace World

/-- The outcomes that a step appends to the queue. -/
def outcomes (w : World) (uri : Octets) (e : Event) : List WebSocketStatus :=
  outcomesIn uri ((w.next e).connector.statusEvents.drop w.connector.statusEvents.length)

/-- The outcomes that a run appends to the queue. -/
def outcomesOf (uri : Octets) : World → List Event → List WebSocketStatus
  | _, [] => []
  | w, e :: es => w.outcomes uri e ++ outcomesOf uri (w.next e) es

/-- The attempt has its outcome reported, as far as there is one, and once. -/
def Reported (w : World) (uri : Octets) (via : Via) (events : List Event) : Prop :=
  outcomesOf uri w (.connect uri via :: events) = via.outcome events

/-! ## The outcomes of a step -/

variable {w : World} {uri : Octets} {e : Event}

theorem outcomes_of_append {added : List StatusEvent}
    (h : (w.next e).connector.statusEvents = w.connector.statusEvents ++ added) :
    w.outcomes uri e = outcomesIn uri added := by
  rw [outcomes, h, List.drop_left]

theorem outcomes_of_eq (h : (w.next e).connector.statusEvents = w.connector.statusEvents) :
    w.outcomes uri e = [] := by
  rw [outcomes, h, List.drop_length]
  rfl

theorem outcomesIn_of_ne {u : Octets} (h : u ≠ uri) (statuses : List WebSocketStatus) :
    outcomesIn uri (Connector.statusesOf u statuses) = [] := by
  rw [outcomesIn, Connector.statusesOf, List.filterMap_map, List.filterMap_eq_nil_iff]
  intro status _
  exact if_neg fun hc => h hc.1

/-- The outcome that the callback queues for the current socket. -/
theorem outcomesIn_handle (c : Connection) (socket : Nat) (reason : Reason) :
    outcomesIn uri (Connector.statusesOf uri (c.handle socket reason).status.toList) =
      reason.outcome.toList := by
  have hnone : outcomesIn uri (Connector.statusesOf uri []) = [] := rfl
  cases reason with
  | established => simp [Connection.handle, outcomesIn, Connector.statusesOf, Reason.outcome]
  | connectionError => simp [Connection.handle, outcomesIn, Connector.statusesOf, Reason.outcome]
  | closed => simp [Connection.handle, outcomesIn, Connector.statusesOf, Reason.outcome]
  | receive isBinary isFinal octets =>
    have hstatus : (c.handle socket (.receive isBinary isFinal octets)).status = none := by
      cases isBinary <;> cases isFinal <;> rfl
    rw [hstatus]
    exact hnone
  | writeable written =>
    have hstatus : (c.handle socket (.writeable written)).status = none := by
      rw [Connection.handle, Connection.writeable]
      split_ifs
      · rfl
      · cases c.sendQueue with
        | nil => rfl
        | cons frame frames =>
          dsimp only
          split_ifs <;> rfl
    rw [hstatus]
    exact hnone
  | other => rfl

/-- **The outcomes of a step** are those of its happening. -/
theorem outcomes_eq (hk : w.connector.reloading = false) (uri : Octets) (e : Event) :
    w.outcomes uri e = match w.happening uri e with
      | .connect none => if w.connector.lastEventIsFor uri then [] else [.error]
      | .report _ reason => reason.outcome.toList
      | _ => [] := by
  cases e with
  | connect u via =>
    cases hc : w.connector.canConnect u with
    | false =>
      have hnothing : w.happening uri (.connect u via) = .nothing := by
        refine if_neg fun h => ?_
        rw [← h.1, hc] at h
        exact Bool.false_ne_true h.2
      rw [hnothing, outcomes_of_eq]
      rw [next_connect, Connector.connect_eq_of_not hc]
    | true =>
      have hnext : (w.next (.connect u via)).connector = _ :=
        (next_connect u via).trans (congrArg Prod.fst (Connector.connect_eq hk hc via))
      cases via with
      | socket s =>
        rw [outcomes_of_eq (by rw [hnext]; rfl), happening]
        split_ifs <;> rfl
      | null s reported =>
        have hadded : (w.next (.connect u (.null s reported))).connector.statusEvents =
            w.connector.statusEvents ++ Connector.statusesOf u
              (if w.connector.lastEventIsFor u then [] else [.error]) := by
          rw [hnext]
          cases hlast : w.connector.lastEventIsFor u with
          | true =>
            exact (List.append_nil _).symm
          | false => rfl
        rw [outcomes_of_append hadded]
        by_cases huri : u = uri
        · subst huri
          have hconnect : w.happening u (.connect u (.null s reported)) = .connect none :=
            if_pos ⟨rfl, hc⟩
          rw [hconnect]
          cases hlast : w.connector.lastEventIsFor u with
          | true => simp [outcomesIn, Connector.statusesOf]
          | false => simp [outcomesIn, Connector.statusesOf]
        · have hnothing : w.happening uri (.connect u (.null s reported)) = .nothing :=
            if_neg fun h => huri h.1
          rw [outcomesIn_of_ne huri, hnothing]
  | disconnect u =>
    have hsame : (w.next (.disconnect u)).connector.statusEvents = w.connector.statusEvents := by
      change (w.connector.disconnect u).statusEvents = _
      unfold Connector.disconnect
      split_ifs <;> rfl
    rw [outcomes_of_eq hsame, happening]
    split_ifs <;> rfl
  | send u data =>
    have hsame : (w.next (.send u data)).connector.statusEvents = w.connector.statusEvents := by
      change (w.connector.send u data).1.statusEvents = _
      unfold Connector.send
      dsimp only
      split_ifs <;> rfl
    rw [outcomes_of_eq hsame, happening]
    split_ifs <;> rfl
  | popStatusEvent =>
    change outcomesIn uri (w.connector.popStatusEvent.1.statusEvents.drop _) = []
    unfold Connector.popStatusEvent
    cases hevents : w.connector.statusEvents with
    | nil => rw [hevents]; rfl
    | cons event events =>
      have hgone : events.drop (event :: events).length = [] :=
        List.drop_eq_nil_of_le (Nat.le_succ _)
      dsimp only
      rw [hgone]
      rfl
  | popReceived =>
    refine outcomes_of_eq ?_
    change w.connector.popReceived.1.statusEvents = _
    unfold Connector.popReceived
    split <;> rfl
  | reloadCredentials callbacks created =>
    have hadded : (w.next (.reloadCredentials callbacks created)).connector.statusEvents =
        w.connector.endConnections.statusEvents := by
      change (w.connector.reloadCredentials _ created).1.statusEvents = _
      rw [Connector.reloadCredentials_eq]
    rw [outcomes_of_append hadded, outcomesIn, List.filterMap_map, happening]
    apply List.filterMap_eq_nil_iff.2
    intro entry _
    exact if_neg fun h => h.2 rfl
  | callback socket reason =>
    rcases w.current_or_stale socket with ⟨u, hu, hs⟩ | hstale
    · have hadded : (w.next (.callback socket reason)).connector.statusEvents =
          w.connector.statusEvents ++ Connector.statusesOf u
            ((w.connector.connection u).handle socket reason).status.toList := by
        change (w.call socket reason).1.statusEvents = _
        rw [next_callback_current hk hu hs, Connector.store_statusEvents]
      rw [outcomes_of_append hadded]
      by_cases huri : u = uri
      · subst huri
        rw [happening_callback hu hs, outcomesIn_handle]
      · rw [outcomesIn_of_ne huri, happening, hu, if_neg fun h => huri (Option.some.inj h.1)]
    · rw [outcomes_of_eq (by rw [next_callback_stale hk hstale]), happening_stale hstale]

/-! ## An attempt until it is superseded -/

/-- The entry has no attempt whose outcome is still to come. -/
def Decided (w : World) (uri : Octets) : Prop :=
  ∀ socket x, (w.connector.connection uri).socket = some socket → w.sockets socket = some x →
    x.phase ≠ .connecting

/-- The attempt on `socket` is the current one, and has no outcome yet. -/
structure Waiting (w : World) (uri : Octets) (socket : Nat) : Prop where
  current : (w.connector.connection uri).socket = some socket
  connecting : ∃ x, w.sockets socket = some x ∧ x.phase = .connecting

/-- A step that neither supersedes the attempt nor is an event of its socket. -/
theorem quiet_of_not_supersedes (hs : ¬ e.Supersedes uri)
    (hcallback : ∀ socket reason, (w.connector.connection uri).socket = some socket →
      e ≠ .callback socket reason) : (w.happening uri e).quiet = true := by
  cases e with
  | connect u via => rw [happening, if_neg fun hu => hs hu.1]; rfl
  | reloadCredentials callbacks created => exact absurd trivial hs
  | disconnect u => rw [happening]; split_ifs <;> rfl
  | send u data => rw [happening]; split_ifs <;> rfl
  | popStatusEvent => rfl
  | popReceived => rfl
  | callback socket reason =>
    rw [happening, if_neg fun h => hcallback socket reason h.2 rfl]
    rfl

theorem outcomes_of_quiet (hk : w.connector.reloading = false)
    (hquiet : (w.happening uri e).quiet = true) : w.outcomes uri e = [] := by
  rw [outcomes_eq hk]
  cases h : w.happening uri e with
  | connect socket => rw [h] at hquiet; cases hquiet
  | report socket reason => rw [h] at hquiet; cases hquiet
  | _ => rfl

theorem phase_after {x y : LwsSocket} {result : Int} {reason : Reason}
    (h : x.phase ≠ .connecting ∨ reason = .established) (hy : x.after result reason = some y) :
    y.phase ≠ .connecting := by
  cases reason with
  | established =>
    obtain rfl := Option.some.inj hy
    dsimp only
    split_ifs <;> exact nofun
  | connectionError => cases hy
  | closed => cases hy
  | receive isBinary isFinal octets =>
    obtain rfl := Option.some.inj hy
    rw [or_iff_left nofun] at h
    dsimp only [LwsSocket.phaseAfter]
    split_ifs
    · exact nofun
    · exact h
  | writeable written =>
    obtain rfl := Option.some.inj hy
    rw [or_iff_left nofun] at h
    dsimp only [LwsSocket.phaseAfter]
    split_ifs
    · exact nofun
    · exact h
  | other =>
    obtain rfl := Option.some.inj hy
    exact h.resolve_right nofun

/-- An event of the current socket, after which no outcome is to come. -/
theorem decided_callback (hw : w.Live) {socket : Nat} {x : LwsSocket} {reason : Reason}
    (hcurrent : (w.connector.connection uri).socket = some socket)
    (hx : w.sockets socket = some x) (h : x.phase ≠ .connecting ∨ reason.outcome ≠ none) :
    (w.next (.callback socket reason)).Decided uri := by
  intro s y hs hy
  rw [connection_next hw.reloading, happening_callback (user_of_live hw hcurrent) hcurrent,
    Connection.next, Connection.handle_socket hcurrent] at hs
  split_ifs at hs with hkeeps
  obtain rfl := Option.some.inj hs
  rw [sockets_callback hx] at hy
  refine phase_after (h.imp_right fun houtcome => ?_) hy
  cases reason with
  | established => rfl
  | connectionError => cases hkeeps
  | _ => exact absurd rfl houtcome

/-- **Once it is decided, nothing more is reported of an attempt.** -/
theorem Decided.next (hd : w.Decided uri) (hw : w.Live) (hallows : w.allows e = true)
    (hs : ¬ e.Supersedes uri) : w.outcomes uri e = [] ∧ (w.next e).Decided uri := by
  by_cases hcallback : ∃ socket reason, (w.connector.connection uri).socket = some socket ∧
      e = .callback socket reason
  · obtain ⟨socket, reason, hcurrent, rfl⟩ := hcallback
    obtain ⟨x, hx, -⟩ := hw.current hcurrent
    have hphase := hd socket x hcurrent hx
    refine ⟨?_, decided_callback hw hcurrent hx (Or.inl hphase)⟩
    have hmay := mayReport_of_allows hallows hx
    rw [outcomes_eq hw.reloading, happening_callback (user_of_live hw hcurrent) hcurrent]
    cases reason with
    | established => exact absurd (of_decide_eq_true hmay) hphase
    | connectionError => exact absurd (of_decide_eq_true hmay) hphase
    | _ => rfl
  · have hquiet : (w.happening uri e).quiet = true := quiet_of_not_supersedes hs
      fun socket reason hcurrent he => hcallback ⟨socket, reason, hcurrent, he⟩
    have hidle := idle_next hw hallows hquiet
    refine ⟨outcomes_of_quiet hw.reloading hquiet, ?_⟩
    intro socket y hsocket hy
    rw [hidle.socket] at hsocket
    obtain ⟨x, hx, -⟩ := hw.current hsocket
    obtain rfl := Option.some.inj ((hidle.sockets hsocket hx).symm.trans hy)
    exact hd socket x hsocket hx

/-- **An attempt that waits** goes on waiting, or has its outcome reported. -/
theorem Waiting.next {socket : Nat} (ha : w.Waiting uri socket) (hw : w.Live)
    (hallows : w.allows e = true) (hs : ¬ e.Supersedes uri) :
    w.outcomes uri e = (e.outcomeOf socket).toList ∧
      match e.outcomeOf socket with
      | some _ => (w.next e).Decided uri
      | none => (w.next e).Waiting uri socket := by
  obtain ⟨x, hx, hphase⟩ := ha.connecting
  by_cases hcallback : ∃ reason, e = .callback socket reason
  · obtain ⟨reason, rfl⟩ := hcallback
    have houtcome : (Event.callback socket reason).outcomeOf socket = reason.outcome :=
      if_pos rfl
    have hhappening := happening_callback (user_of_live hw ha.current) ha.current reason
    rw [outcomes_eq hw.reloading, hhappening, houtcome]
    refine ⟨rfl, ?_⟩
    have hmay := mayReport_of_allows hallows hx
    cases reason with
    | established => exact decided_callback hw ha.current hx (Or.inr (Option.some_ne_none _))
    | connectionError => exact decided_callback hw ha.current hx (Or.inr (Option.some_ne_none _))
    | closed => exact absurd hphase (of_decide_eq_true hmay)
    | receive isBinary isFinal octets =>
      have hup : x.phase = .established := of_decide_eq_true (Bool.and_eq_true_iff.1 hmay).1
      rw [hphase] at hup
      cases hup
    | writeable written =>
      have hup : x.phase = .established := of_decide_eq_true hmay
      rw [hphase] at hup
      cases hup
    | other =>
      refine ⟨?_, x, sockets_callback hx _, hphase⟩
      rw [connection_next hw.reloading, hhappening]
      exact ha.current
  · have hne : ∀ s reason, (w.connector.connection uri).socket = some s →
        e ≠ .callback s reason := by
      intro s reason hcurrent he
      obtain rfl := Option.some.inj (ha.current.symm.trans hcurrent)
      exact hcallback ⟨reason, he⟩
    have hquiet := quiet_of_not_supersedes hs hne
    have hidle := idle_next hw hallows hquiet
    have houtcome : e.outcomeOf socket = none := by
      cases e with
      | callback s reason =>
        refine if_neg fun hsame => hcallback ⟨reason, ?_⟩
        rw [hsame]
      | _ => rfl
    rw [houtcome, outcomes_of_quiet hw.reloading hquiet]
    exact ⟨rfl, hidle.socket.trans ha.current, x, hidle.sockets ha.current hx, hphase⟩

/-! ## Runs -/

theorem run_cons {w v : World} {e : Event} {es : List Event} (h : final step w (e :: es) = .ok v) :
    w.allows e = true ∧ final step (w.next e) es = .ok v := by
  cases hstep : w.step e with
  | error _ =>
    rw [final, hstep] at h
    cases h
  | ok w' =>
    obtain ⟨hallows, rfl⟩ := step_eq_ok hstep
    rw [final_cons_ok hstep] at h
    exact ⟨hallows, h⟩

theorem outcomesOf_decided {events : List Event} {w v : World} (hd : w.Decided uri) (hw : w.Live)
    (hrun : final step w events = .ok v) (hs : ∀ e ∈ events, ¬ e.Supersedes uri) :
    outcomesOf uri w events = [] := by
  induction events generalizing w with
  | nil => rfl
  | cons e events ih =>
    obtain ⟨hallows, hrun⟩ := run_cons hrun
    obtain ⟨hnone, hd⟩ := hd.next hw hallows (hs e List.mem_cons_self)
    rw [outcomesOf, hnone, List.nil_append]
    exact ih hd (hw.next hallows) hrun fun e he => hs e (List.mem_cons_of_mem _ he)

/-- The outcome that comes is reported, and nothing else. -/
theorem outcomesOf_waiting {socket : Nat} {events : List Event} {w v : World}
    (ha : w.Waiting uri socket) (hw : w.Live) (hrun : final step w events = .ok v)
    (hs : ∀ e ∈ events, ¬ e.Supersedes uri) :
    outcomesOf uri w events = (events.findSome? (Event.outcomeOf socket)).toList := by
  induction events generalizing w with
  | nil => rfl
  | cons e events ih =>
    obtain ⟨hallows, hrun⟩ := run_cons hrun
    have hrest : ∀ e ∈ events, ¬ e.Supersedes uri := fun e he => hs e (List.mem_cons_of_mem _ he)
    obtain ⟨houtcome, hnext⟩ := ha.next hw hallows (hs e List.mem_cons_self)
    rw [outcomesOf, houtcome]
    cases he : e.outcomeOf socket with
    | some outcome =>
      rw [he] at hnext
      rw [outcomesOf_decided hnext (hw.next hallows) hrun hrest, List.findSome?_cons_of_isSome]
      · rw [he, List.append_nil]
      · rw [he]
        rfl
    | none =>
      rw [he] at hnext
      rw [List.findSome?_cons, he]
      exact ih hnext (hw.next hallows) hrun hrest

/-- `Connect` returns true. -/
theorem connect_returns_iff (hk : w.connector.reloading = false) {via : Via} :
    (w.connector.connect uri via).2 = true ↔ w.connector.canConnect uri = true := by
  cases hc : w.connector.canConnect uri with
  | true => simp [Connector.connect_eq hk hc]
  | false => simp [Connector.connect_eq_of_not hc]

theorem happening_connect (hc : w.connector.canConnect uri = true) (via : Via) :
    w.happening uri (.connect uri via) = .connect via.result :=
  if_pos ⟨rfl, hc⟩

/-- An attempt is reported, if it does not fail at once with an event for its URI at the end of the
queue. -/
theorem reported_of_connect {via : Via} {events : List Event} {v : World} (hw : w.Live)
    (hc : w.connector.canConnect uri = true)
    (hrun : final step w (.connect uri via :: events) = .ok v)
    (hs : ∀ e ∈ events, ¬ e.Supersedes uri)
    (hlast : via.result = none → w.connector.lastEventIsFor uri = false) :
    w.Reported uri via events := by
  obtain ⟨hallows, hrun⟩ := run_cons hrun
  have hlive := hw.next hallows
  have hconnection : ((w.next (.connect uri via)).connector.connection uri).socket =
      via.result := by
    rw [connection_next hw.reloading, happening_connect hc]
    rfl
  rw [Reported, outcomesOf, outcomes_eq hw.reloading, happening_connect hc]
  cases via with
  | socket s =>
    have hwaiting : (w.next (.connect uri (.socket s))).Waiting uri s := by
      refine ⟨hconnection, ⟨uri, .connecting, none⟩, ?_, rfl⟩
      rw [next, Connector.connect_eq hw.reloading hc]
      exact Function.update_self _ _ _
    exact outcomesOf_waiting hwaiting hlive hrun hs
  | null s reported =>
    have hdecided : (w.next (.connect uri (.null s reported))).Decided uri := by
      intro socket x hsocket
      rw [hconnection] at hsocket
      cases hsocket
    rw [outcomesOf_decided hdecided hlive hrun hs]
    simp [Via.result, Via.outcome, hlast rfl]

end World

/-- A step that fails at once with an event for its URI at the end of the queue. -/
def FailsUnreported (w : World) : Event → Prop
  | .connect uri via => via.result = none ∧ (w.connector.connect uri via).2 = true ∧
    w.connector.lastEventIsFor uri = true
  | _ => False

instance (w : World) (e : Event) : Decidable (FailsUnreported w e) :=
  match e with
  | .connect _ _ => inferInstanceAs (Decidable (_ ∧ _ ∧ _))
  | .disconnect _ => inferInstanceAs (Decidable False)
  | .send _ _ => inferInstanceAs (Decidable False)
  | .popStatusEvent => inferInstanceAs (Decidable False)
  | .popReceived => inferInstanceAs (Decidable False)
  | .reloadCredentials _ _ => inferInstanceAs (Decidable False)
  | .callback _ _ => inferInstanceAs (Decidable False)

open World in
/-- **Every attempt of a run has its outcome reported, exactly if no attempt fails at once with an
event for its URI at the end of the queue.** -/
theorem attempts_reported_iff {created : Bool} {es : List Event} {v : World}
    (h : final World.step (.started created) es = .ok v) :
    (∀ before uri via events after w, es = before ++ .connect uri via :: (events ++ after) →
      final World.step (.started created) before = .ok w →
      (w.connector.connect uri via).2 = true → (∀ e ∈ events, ¬ e.Supersedes uri) →
      w.Reported uri via events) ↔
    ∀ p ∈ steps World.step (.started created) es, ¬ FailsUnreported p.1 p.2 := by
  constructor
  · intro hreported p hp hfails
    obtain ⟨before, after, hes, hbefore⟩ := exists_final_of_mem_steps hp
    obtain ⟨w, e⟩ := p
    cases e with
    | connect uri via =>
      obtain ⟨hnull, hreturns, hlast⟩ := hfails
      have hw : w.Live := live_of_run w (mem_states_of_mem_steps hp)
      have hc := (connect_returns_iff hw.reloading).1 hreturns
      have hnone := hreported before uri via [] after w hes hbefore hreturns nofun
      rw [Reported, outcomesOf, outcomes_eq hw.reloading, happening_connect hc, hnull] at hnone
      cases via with
      | socket s => cases hnull
      | null s reported => simp [hlast, outcomesOf, Via.outcome] at hnone
    | _ => exact hfails
  · intro hguard before uri via events after w hes hbefore hreturns hs
    have hmem : w ∈ states World.step (started created) es := hes ▸ mem_states_of_final hbefore _
    have hw : w.Live := live_of_run w hmem
    have hc := (connect_returns_iff hw.reloading).1 hreturns
    rw [hes, final_append hbefore, ← List.cons_append] at h
    obtain ⟨u, hrun, -⟩ := exists_final_of_append h
    refine reported_of_connect hw hc hrun hs ?_
    intro hnull
    have hstep := hguard (w, .connect uri via) (hes ▸ mem_steps_of_final hbefore _ _)
    cases hlast : w.connector.lastEventIsFor uri with
    | false => rfl
    | true => exact absurd ⟨hnull, hreturns, hlast⟩ hstep

/-- A connection that is closed, and an attempt that fails at once; the queue is always emptied. -/
def drainedRun : List Event :=
  [.connect hubUri (.socket 1), .callback 1 .established, .popStatusEvent, .callback 1 .closed,
    .popStatusEvent, .connect hubUri (.null 2 true), .popStatusEvent]

theorem attempts_reported_iff_drained :
    ∃ v, final World.step (.started true) drainedRun = .ok v ∧
      ∀ before uri via events after w,
        drainedRun = before ++ .connect uri via :: (events ++ after) →
        final World.step (.started true) before = .ok w →
        (w.connector.connect uri via).2 = true → (∀ e ∈ events, ¬ e.Supersedes uri) →
        w.Reported uri via events := by
  have hok := World.final_of_isOk
    (by decide : (final World.step (.started true) drainedRun).isOk = true)
  exact ⟨_, hok, (attempts_reported_iff hok).2 (by decide)⟩

/-- New credentials are loaded: the connection is reported Disconnected, for the main loop to find
the next time. -/
def reloadedRun : List Event :=
  [.connect hubUri (.socket 1), .callback 1 .established, .popStatusEvent,
    .reloadCredentials [(1, .closed)] true]

/-- An attempt that fails at once then is not reported. -/
theorem failed_attempt_not_reported :
    ∃ w, final World.step (.started true) reloadedRun = .ok w ∧
      w.allows (.connect hubUri (.null 2 true)) = true ∧
      (w.connector.connect hubUri (.null 2 true)).2 = true ∧
      ¬ w.Reported hubUri (.null 2 true) [] := by
  have hok := World.final_of_isOk
    (by decide : (final World.step (.started true) reloadedRun).isOk = true)
  refine ⟨_, hok, by decide, by decide, ?_⟩
  change ¬ World.outcomesOf hubUri _ _ = _
  decide

end Hub

end BacnetBc
