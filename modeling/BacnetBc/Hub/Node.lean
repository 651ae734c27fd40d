import BacnetBc.Hub.Frames
import BacnetBc.Lib.Fifo

/-!
# The node between the stack and the hub connector

The node hands to the stack what the connector has queued. `Service` reports the statuses, one after
the other, and loads the credentials again after new ones were activated; `ReceiveFromHub` hands
over a frame, or drops it when the stack has no room for it. Between these the stack dials, hangs up
and sends, also while a status is reported to it, and libwebsockets reports its events, in any
order.

**Theorem (`frames_handed`).** For each URI, what the stack was handed or could not take, followed
by what still waits, are the binary messages of 1 to 1600 octets that arrived in full, connection by
connection, whole and in order; and it is handed exactly those it has room for.

**Theorem (`statuses_in_order`).** The statuses that were reported, followed by those that wait, are
those that were queued, in this order; and a connection is open exactly when the last one queued for
it, since it was dialled, is that it is connected. What happens to a connection and is not queued is
not reported.
-/

namespace BacnetBc

open Memory Trajectory Reassembly Fifo

namespace Hub

/-! ## The node -/

structure Node where
  world : World
  reloadCredentialsRequested : Bool

inductive NodeEvent
  /-- `CallbackInitiateWebsocket`. -/
  | initiateWebsocket (uri : Octets) (via : Via)
  /-- `CallbackDisconnectWebsocket`. -/
  | disconnectWebsocket (uri : Octets)
  | sendToHub (uri : Octets) (message : Octets)
  /-- libwebsockets, in `ScHubConnector::Service`. -/
  | callback (socket : Nat) (reason : Reason)
  /-- A turn of the loop in `Service`. -/
  | report
  /-- The end of `Service`. -/
  | reload (callbacks : List (Nat × Reason)) (created : Bool)
  /-- `ApplyStagedCertificates` has activated what was staged. -/
  | activated
  | receiveFromHub (maxMessageLength : UInt16) (maxConnectionStringLength : UInt8)
deriving DecidableEq, Repr

/-- A frame that is taken from the queue, and the room the stack has for it. -/
structure Taken where
  frame : ReceivedFrame
  maxMessageLength : UInt16
  maxConnectionStringLength : UInt8
deriving DecidableEq, Repr

/-- The frame is not too big for the stack's buffers. -/
def Taken.fits (t : Taken) : Bool :=
  !(t.maxMessageLength.toNat < t.frame.data.length ||
    t.maxConnectionStringLength.toNat < t.frame.uri.length)

/-- `ReceiveFromHub`: the message, and its source. -/
def Connector.receiveFromHub (k : Connector) (maxMessageLength : UInt16)
    (maxConnectionStringLength : UInt8) : Connector × Option (Octets × Octets) :=
  match k.popReceived with
  | (k, none) => (k, none)
  | (k, some frame) =>
    if maxMessageLength.toNat < frame.data.length ||
        maxConnectionStringLength.toNat < frame.uri.length then
      (k, none)
    else (k, some (frame.data, frame.uri))

namespace Node

def started (created : Bool) : Node := ⟨.started created, false⟩

/-- What an event does to the connector, if anything. -/
def link (n : Node) : NodeEvent → Option Event
  | .initiateWebsocket uri via => some (.connect uri via)
  | .disconnectWebsocket uri => some (.disconnect uri)
  | .sendToHub uri message => some (.send uri message)
  | .callback socket reason => some (.callback socket reason)
  | .report => some .popStatusEvent
  | .reload callbacks created =>
    if n.reloadCredentialsRequested then some (.reloadCredentials callbacks created) else none
  | .activated => none
  | .receiveFromHub _ _ => some .popReceived

/-- The flag after an event. -/
def reloadRequested (n : Node) : NodeEvent → Bool
  | .activated => true
  | .reload _ _ => false
  | _ => n.reloadCredentialsRequested

def step (n : Node) (e : NodeEvent) : Except Unit Node :=
  match n.link e with
  | none => .ok ⟨n.world, n.reloadRequested e⟩
  | some linkEvent =>
    match n.world.step linkEvent with
    | .ok w => .ok ⟨w, n.reloadRequested e⟩
    | .error _ => .error ()

/-- What the stack is handed. -/
def handed (n : Node) : NodeEvent → List (Octets × Octets)
  | .receiveFromHub maxMessageLength maxConnectionStringLength =>
    (n.world.connector.receiveFromHub maxMessageLength maxConnectionStringLength).2.toList
  | _ => []

/-- What is reported to the stack. -/
def reported (n : Node) : NodeEvent → List StatusEvent
  | .report => n.world.connector.popStatusEvent.2.toList
  | _ => []

/-- The frames that are taken from the queue. -/
def takes (n : Node) : NodeEvent → List Taken
  | .receiveFromHub maxMessageLength maxConnectionStringLength =>
    n.world.connector.popReceived.2.toList.map fun frame =>
      ⟨frame, maxMessageLength, maxConnectionStringLength⟩
  | _ => []

/-- The frames that are put into the queue. -/
def pushes (n : Node) (e : NodeEvent) : List ReceivedFrame :=
  match n.link e with
  | none => []
  | some linkEvent =>
    (n.world.next linkEvent).connector.receivedFrames.drop n.world.connector.receivedFrames.length

/-- The statuses that are put into the queue. -/
def queues (n : Node) (e : NodeEvent) : List StatusEvent :=
  match n.link e with
  | none => []
  | some linkEvent =>
    (n.world.next linkEvent).connector.statusEvents.drop n.world.connector.statusEvents.length

def items (uri : Octets) (n : Node) (e : NodeEvent) : List Item :=
  match n.link e with
  | none => []
  | some linkEvent => World.items uri n.world linkEvent

def startsAttempt (uri : Octets) (n : Node) (e : NodeEvent) : Bool :=
  match n.link e with
  | none => false
  | some linkEvent => World.startsAttempt uri n.world linkEvent

end Node

/-! ## The queues of the connector -/

namespace World

variable {w : World}

/-- The statuses that a step appends to the queue, event by event. -/
def appended (w : World) : Event → List StatusEvent
  | .connect u via =>
    if w.connector.canConnect u && via.result.isNone && !w.connector.lastEventIsFor u then
      [⟨u, .error⟩]
    else []
  | .reloadCredentials _ _ =>
    (w.connector.connections.toList.filter fun entry => entry.2.isInUse).map fun entry =>
      ⟨entry.1, .disconnected⟩
  | .callback socket reason =>
    match w.user socket with
    | none => []
    | some u =>
      if (w.connector.connection u).socket = some socket then
        Connector.statusesOf u ((w.connector.connection u).handle socket reason).status.toList
      else []
  | _ => []

/-- **What a step does to the queues**: it pops, or it adds at their ends. -/
structure Queued (w : World) (k : Connector) (e : Event) : Prop where
  statusEvents : e ≠ .popStatusEvent →
    k.statusEvents = w.connector.statusEvents ++ w.appended e
  receivedFrames : e ≠ .popReceived → w.connector.receivedFrames <+: k.receivedFrames

theorem queued_of_eq {k : Connector} {e : Event}
    (hstatus : k.statusEvents = w.connector.statusEvents) (hnothing : w.appended e = [])
    (hframes : k.receivedFrames = w.connector.receivedFrames) : w.Queued k e where
  statusEvents := fun _ => by rw [hstatus, hnothing, List.append_nil]
  receivedFrames := fun _ => hframes ▸ List.prefix_refl _

theorem appended_stale {socket : Nat} {reason : Reason}
    (h : ∀ u, w.user socket = some u → (w.connector.connection u).socket ≠ some socket) :
    w.appended (.callback socket reason) = [] := by
  rw [appended]
  cases hu : w.user socket with
  | none => rfl
  | some u => exact if_neg (h u hu)

theorem queued_next (hk : w.connector.reloading = false) (e : Event) :
    w.Queued (w.next e).connector e := by
  cases e with
  | connect u via =>
    rw [next_connect]
    cases hc : w.connector.canConnect u with
    | false =>
      rw [Connector.connect_eq_of_not hc]
      exact queued_of_eq rfl (by simp [appended, hc]) rfl
    | true =>
      rw [Connector.connect_eq hk hc]
      cases via with
      | socket s => exact queued_of_eq rfl (by simp [appended, Via.result]) rfl
      | null s reported =>
        dsimp only [Via.result]
        cases hlast : w.connector.lastEventIsFor u with
        | true => exact queued_of_eq rfl (by simp [appended, hlast]) rfl
        | false =>
          refine ⟨fun _ => ?_, fun _ => List.prefix_refl _⟩
          rw [appended, hc, hlast]
          rfl
  | disconnect u =>
    change w.Queued (w.connector.disconnect u) _
    unfold Connector.disconnect
    split_ifs <;> exact queued_of_eq rfl rfl rfl
  | send u data =>
    change w.Queued (w.connector.send u data).1 _
    unfold Connector.send
    dsimp only
    split_ifs <;> exact queued_of_eq rfl rfl rfl
  | popStatusEvent =>
    refine ⟨fun h => absurd rfl h, fun _ => ?_⟩
    change _ <+: w.connector.popStatusEvent.1.receivedFrames
    unfold Connector.popStatusEvent
    split <;> exact List.prefix_refl _
  | popReceived =>
    refine ⟨fun _ => ?_, fun h => absurd rfl h⟩
    change w.connector.popReceived.1.statusEvents = _
    unfold Connector.popReceived
    split <;> exact (List.append_nil _).symm
  | reloadCredentials callbacks created =>
    change w.Queued (w.connector.reloadCredentials _ created).1 _
    rw [Connector.reloadCredentials_eq]
    exact ⟨fun _ => rfl, fun _ => List.prefix_refl _⟩
  | callback socket reason =>
    rcases w.current_or_stale socket with ⟨u, hu, hs⟩ | hstale
    · change w.Queued (w.call socket reason).1 _
      rw [next_callback_current hk hu hs]
      refine ⟨fun _ => ?_, fun _ => ?_⟩
      · rw [Connector.store_statusEvents, appended, hu]
        exact congrArg (_ ++ ·) (if_pos hs).symm
      · rw [Connector.store_receivedFrames]
        exact List.prefix_append _ _
    · rw [next_callback_stale hk hstale]
      exact queued_of_eq rfl (appended_stale hstale) rfl

theorem popStatusEvent_next (w : World) :
    w.connector.popStatusEvent.2.toList ++ (w.next .popStatusEvent).connector.statusEvents =
      w.connector.statusEvents := by
  change _ ++ w.connector.popStatusEvent.1.statusEvents = _
  unfold Connector.popStatusEvent
  cases hevents : w.connector.statusEvents with
  | nil => exact hevents
  | cons event events => rfl

theorem popReceived_next (w : World) :
    w.connector.popReceived.2.toList ++ (w.next .popReceived).connector.receivedFrames =
      w.connector.receivedFrames := by
  change _ ++ w.connector.popReceived.1.receivedFrames = _
  unfold Connector.popReceived
  cases hframes : w.connector.receivedFrames with
  | nil => exact hframes
  | cons frame frames => rfl

theorem drop_statusEvents (hk : w.connector.reloading = false) (e : Event) :
    (w.next e).connector.statusEvents.drop w.connector.statusEvents.length = w.appended e := by
  by_cases hpop : e = .popStatusEvent
  · subst hpop
    apply List.drop_eq_nil_of_le
    rw [← popStatusEvent_next w, List.length_append]
    exact Nat.le_add_left _ _
  · rw [(queued_next hk e).statusEvents hpop, List.drop_left]

end World

/-! ## What is queued for a connection -/

/-- The stack dials a URI, or a status is queued for it. -/
inductive Mark
  | dialled
  | status (status : WebSocketStatus)
deriving DecidableEq, Repr

/-- The statuses for a URI. -/
def statusesFor (uri : Octets) (events : List StatusEvent) : List WebSocketStatus :=
  events.filterMap fun event => if event.uri = uri then some event.status else none

/-- The marks of a step, with the statuses it queues. -/
def World.marks (uri : Octets) (w : World) (e : Event) : List Mark :=
  (if w.startsAttempt uri e then [.dialled] else []) ++ (statusesFor uri (w.appended e)).map .status

/-- The connection is open if the last mark says so, and as before if there is none. -/
def FollowsMarks (before : Bool) (marks : List Mark) (after : Bool) : Prop :=
  after = (marks.getLast?.map fun mark => decide (mark = .status .connected)).getD before

theorem statusesFor_statusesOf_self (uri : Octets) (statuses : List WebSocketStatus) :
    statusesFor uri (Connector.statusesOf uri statuses) = statuses := by
  simp [statusesFor, Connector.statusesOf, List.filterMap_map]

theorem statusesFor_statusesOf_of_ne {uri u : Octets} (h : u ≠ uri)
    (statuses : List WebSocketStatus) :
    statusesFor uri (Connector.statusesOf u statuses) = [] := by
  simp [statusesFor, Connector.statusesOf, List.filterMap_map, h]

/-- What the callback queues for the current socket, and whether the connection is open then. -/
theorem Connection.followsMarks_handle (c : Connection) (socket : Nat) (reason : Reason) :
    FollowsMarks c.isOpen ((c.handle socket reason).status.toList.map .status)
      (c.handle socket reason).connection.isOpen := by
  cases reason with
  | established => rfl
  | connectionError => rfl
  | closed => rfl
  | receive isBinary isFinal octets =>
    have hassemble : (c.assemble octets).isOpen = c.isOpen := by
      unfold assemble
      split_ifs <;> rfl
    cases isBinary with
    | false => rfl
    | true => cases isFinal <;> exact hassemble
  | writeable written =>
    rw [handle, writeable]
    split_ifs
    · rfl
    · cases c.sendQueue with
      | nil => rfl
      | cons frame frames =>
        dsimp only
        split_ifs <;> rfl
  | other => rfl

/-- Only for an entry in use is it queued that it has ended. -/
theorem Connector.getLast_ended (k : Connector) (uri : Octets) :
    (statusesFor uri ((k.connections.toList.filter fun entry => entry.2.isInUse).map fun entry =>
      ⟨entry.1, .disconnected⟩)).getLast? =
        if (k.connection uri).isInUse then some .disconnected else none := by
  generalize hlist : statusesFor uri ((k.connections.toList.filter fun entry =>
    entry.2.isInUse).map fun entry => ⟨entry.1, .disconnected⟩) = statuses
  have hmem : ∀ status, status ∈ statuses ↔
      status = .disconnected ∧ ∃ c, k.connections[uri]? = some c ∧ c.isInUse = true := by
    intro status
    rw [← hlist, statusesFor, List.mem_filterMap]
    constructor
    · rintro ⟨event, hevent, hstatus⟩
      obtain ⟨⟨u, c⟩, hentry, rfl⟩ := List.mem_map.1 hevent
      obtain ⟨hentry, huse⟩ := List.mem_filter.1 hentry
      rw [Std.ExtTreeMap.mem_toList_iff_getElem?_eq_some] at hentry
      dsimp only at hstatus
      split_ifs at hstatus with hu
      subst hu
      exact ⟨(Option.some.inj hstatus).symm, c, hentry, huse⟩
    · rintro ⟨rfl, c, hentry, huse⟩
      refine ⟨⟨uri, .disconnected⟩, List.mem_map.2 ⟨(uri, c), List.mem_filter.2 ⟨?_, huse⟩, rfl⟩,
        if_pos rfl⟩
      exact Std.ExtTreeMap.mem_toList_iff_getElem?_eq_some.2 hentry
  have huse : (k.connection uri).isInUse = true ↔
      ∃ c, k.connections[uri]? = some c ∧ c.isInUse = true := by
    rw [connection]
    cases k.connections[uri]? with
    | none => simp [Connection.isInUse]
    | some c => simp
  by_cases hin : (k.connection uri).isInUse = true
  · rw [if_pos hin]
    cases hlast : statuses.getLast? with
    | none =>
      rw [List.getLast?_eq_none_iff] at hlast
      have hsome := (hmem .disconnected).2 ⟨rfl, huse.1 hin⟩
      rw [hlast] at hsome
      cases hsome
    | some status => rw [((hmem status).1 (List.mem_of_getLast? hlast)).1]
  · rw [if_neg hin, List.getLast?_eq_none_iff, List.eq_nil_iff_forall_not_mem]
    exact fun status h => hin (huse.2 ((hmem status).1 h).2)

namespace World

variable {w : World}

theorem marks_of_nothing {uri : Octets} {e : Event} (hstarts : w.startsAttempt uri e = false)
    (happended : statusesFor uri (w.appended e) = []) : w.marks uri e = [] := by
  rw [marks, hstarts, happended]
  rfl

/-- **What a step marks for an entry** is what it does to it. -/
theorem followsMarks_next (hk : w.connector.reloading = false) (uri : Octets) (e : Event) :
    FollowsMarks (w.connector.connection uri).isOpen (w.marks uri e)
      ((w.next e).connector.connection uri).isOpen := by
  rw [connection_next hk]
  cases e with
  | connect u via =>
    by_cases hattempt : u = uri ∧ w.connector.canConnect uri = true
    · have hhappening : w.happening uri (.connect u via) = .connect via.result := if_pos hattempt
      obtain ⟨rfl, hc⟩ := hattempt
      have hmarks : w.marks u (.connect u via) =
          .dialled :: (statusesFor u (w.appended (.connect u via))).map .status := by
        rw [marks, startsAttempt, hhappening]
        rfl
      rw [hmarks, hhappening, appended]
      split_ifs <;> simp [FollowsMarks, Connection.next, statusesFor]
    · have hhappening : w.happening uri (.connect u via) = .nothing := if_neg hattempt
      have happended : statusesFor uri (w.appended (.connect u via)) = [] := by
        rw [appended]
        split_ifs with h
        · by_cases hu : u = uri
          · subst hu
            simp only [Bool.and_eq_true] at h
            exact absurd ⟨rfl, h.1.1⟩ hattempt
          · exact statusesFor_statusesOf_of_ne hu [.error]
        · rfl
      rw [marks_of_nothing (by rw [startsAttempt, hhappening]) happended, hhappening]
      rfl
  | disconnect u =>
    rw [marks_of_nothing (by rw [startsAttempt, happening]; split_ifs <;> rfl) rfl, happening]
    split_ifs
    · unfold Connection.next
      dsimp only
      split_ifs <;> rfl
    · rfl
  | send u data =>
    rw [marks_of_nothing (by rw [startsAttempt, happening]; split_ifs <;> rfl) rfl, happening]
    split_ifs
    · unfold Connection.next
      dsimp only
      split_ifs <;> rfl
    · rfl
  | popStatusEvent => rfl
  | popReceived => rfl
  | reloadCredentials callbacks created =>
    have hlast := w.connector.getLast_ended uri
    change FollowsMarks _ ([] ++ (statusesFor uri _).map .status)
      (if (w.connector.connection uri).isInUse then (w.connector.connection uri).ended
        else w.connector.connection uri).isOpen
    rw [FollowsMarks, List.nil_append, List.getLast?_map, appended, hlast]
    cases huse : (w.connector.connection uri).isInUse with
    | true => rfl
    | false => rfl
  | callback socket reason =>
    rcases w.current_or_stale socket with ⟨u, hu, hs⟩ | hstale
    · have happended : w.appended (.callback socket reason) = Connector.statusesOf u
          ((w.connector.connection u).handle socket reason).status.toList := by
        rw [appended, hu]
        exact if_pos hs
      by_cases huri : u = uri
      · subst huri
        rw [marks, startsAttempt, happening_callback hu hs, happended, statusesFor_statusesOf_self]
        exact (w.connector.connection u).followsMarks_handle socket reason
      · have hhappening : w.happening uri (.callback socket reason) = .nothing := by
          rw [happening, hu]
          exact if_neg fun h => huri (Option.some.inj h.1)
        rw [marks_of_nothing (by rw [startsAttempt, hhappening])
          (by rw [happended, statusesFor_statusesOf_of_ne huri]), hhappening]
        rfl
    · have hhappening : w.happening uri (.callback socket reason) = .nothing :=
        happening_stale hstale reason
      rw [marks_of_nothing (by rw [startsAttempt, hhappening])
        (by rw [appended_stale hstale]; rfl), hhappening]
      rfl

end World

/-! ## A step of the node -/

namespace Node

variable {n n' : Node} {e : NodeEvent}

theorem step_of_none (h : n.step e = .ok n') (hlink : n.link e = none) : n'.world = n.world := by
  rw [step, hlink] at h
  exact (congrArg Node.world (Except.ok.inj h)).symm

theorem step_of_some {linkEvent : Event} (h : n.step e = .ok n')
    (hlink : n.link e = some linkEvent) :
    n.world.allows linkEvent = true ∧ n'.world = n.world.next linkEvent := by
  rw [step, hlink] at h
  dsimp only at h
  cases hw : n.world.step linkEvent with
  | error _ =>
    rw [hw] at h
    cases h
  | ok w =>
    rw [hw] at h
    obtain ⟨hallows, rfl⟩ := World.step_eq_ok hw
    exact ⟨hallows, (congrArg Node.world (Except.ok.inj h)).symm⟩

theorem live_step (hn : n.world.Live) (h : n.step e = .ok n') : n'.world.Live := by
  cases hlink : n.link e with
  | none => rwa [step_of_none h hlink]
  | some linkEvent =>
    obtain ⟨hallows, hnext⟩ := step_of_some h hlink
    rw [hnext]
    exact hn.next hallows

/-- The events that pop. -/
theorem link_popReceived (hlink : n.link e = some .popReceived) :
    ∃ m c, e = .receiveFromHub m c := by
  cases e with
  | receiveFromHub m c => exact ⟨m, c, rfl⟩
  | reload callbacks created =>
    rw [link] at hlink
    split_ifs at hlink
    cases hlink
  | _ => cases hlink

theorem link_popStatusEvent (hlink : n.link e = some .popStatusEvent) : e = .report := by
  cases e with
  | report => rfl
  | reload callbacks created =>
    rw [link] at hlink
    split_ifs at hlink
    cases hlink
  | _ => cases hlink

theorem frames_step (hn : n.world.Live) (h : n.step e = .ok n') :
    (n.takes e).map Taken.frame ++ n'.world.connector.receivedFrames =
      n.world.connector.receivedFrames ++ n.pushes e := by
  cases hlink : n.link e with
  | none =>
    have htakes : n.takes e = [] := by
      cases e with
      | receiveFromHub m c => cases hlink
      | _ => rfl
    rw [step_of_none h hlink, htakes, pushes, hlink]
    exact (List.append_nil _).symm
  | some linkEvent =>
    obtain ⟨-, hnext⟩ := step_of_some h hlink
    rw [hnext, pushes, hlink]
    by_cases hpop : linkEvent = .popReceived
    · subst hpop
      obtain ⟨m, c, rfl⟩ := link_popReceived hlink
      have hlaw := World.popReceived_next n.world
      have hgone : (n.world.next .popReceived).connector.receivedFrames.drop
          n.world.connector.receivedFrames.length = [] := by
        apply List.drop_eq_nil_of_le
        rw [← hlaw, List.length_append]
        exact Nat.le_add_left _ _
      dsimp only
      rw [hgone, List.append_nil, takes, List.map_map]
      simpa [Function.comp_def] using hlaw
    · have htakes : n.takes e = [] := by
        cases e with
        | receiveFromHub m c => exact absurd (Option.some.inj hlink).symm hpop
        | _ => rfl
      obtain ⟨added, hadded⟩ := (World.queued_next hn.reloading linkEvent).receivedFrames hpop
      dsimp only
      rw [htakes, ← hadded, List.drop_left]
      rfl

theorem statuses_step (hn : n.world.Live) (h : n.step e = .ok n') :
    n.reported e ++ n'.world.connector.statusEvents =
      n.world.connector.statusEvents ++ n.queues e := by
  cases hlink : n.link e with
  | none =>
    have hreported : n.reported e = [] := by
      cases e with
      | report => cases hlink
      | _ => rfl
    rw [step_of_none h hlink, hreported, queues, hlink]
    exact (List.append_nil _).symm
  | some linkEvent =>
    obtain ⟨-, hnext⟩ := step_of_some h hlink
    rw [hnext, queues, hlink]
    by_cases hpop : linkEvent = .popStatusEvent
    · subst hpop
      obtain rfl := link_popStatusEvent hlink
      have hlaw := World.popStatusEvent_next n.world
      have hgone : (n.world.next .popStatusEvent).connector.statusEvents.drop
          n.world.connector.statusEvents.length = [] := by
        apply List.drop_eq_nil_of_le
        rw [← hlaw, List.length_append]
        exact Nat.le_add_left _ _
      dsimp only
      rw [hgone, List.append_nil]
      exact hlaw
    · have hreported : n.reported e = [] := by
        cases e with
        | report => exact absurd (Option.some.inj hlink).symm hpop
        | _ => rfl
      have hadded := (World.queued_next hn.reloading linkEvent).statusEvents hpop
      dsimp only
      rw [hreported, hadded, List.drop_left]
      rfl

end Node

/-! ## Runs -/

/-- The contents of the frames of a URI. -/
def framesOf (uri : Octets) (frames : List ReceivedFrame) : List Octets :=
  frames.filterMap fun frame => if frame.uri = uri then some frame.data else none

/-- What arrives and what is delivered for a URI, cut at each attempt. -/
def nodeSegments (uri : Octets) (n : Node) (es : List NodeEvent) : List (List Item) :=
  segments Node.step (Node.startsAttempt uri) (Node.items uri) n es

/-- The messages that have arrived on a connection in full and are not too large. -/
def messagesOf (items : List Item) : List Octets :=
  ((progress (arrivedIn items)).complete.filter
    (Assembler.deliverable maxReceivedFrameOctets)).map content

theorem deliveredIn_nodeSegments (created : Bool) (es : List NodeEvent) (uri : Octets) :
    ∀ items ∈ nodeSegments uri (.started created) es, deliveredIn items = messagesOf items := by
  have hgrow : ∀ (n : Node) (e : NodeEvent) (n' : Node) (items : List Item),
      n.world.Assembled uri items → n.step e = .ok n' → n.startsAttempt uri e = false →
        n'.world.Assembled uri (items ++ n.items uri e) := by
    intro n e n' items h hstep hstarts
    cases hlink : n.link e with
    | none => simpa [Node.items, hlink, Node.step_of_none hstep hlink] using h
    | some linkEvent =>
      obtain ⟨hallows, hnext⟩ := Node.step_of_some hstep hlink
      rw [Node.startsAttempt, hlink] at hstarts
      rw [hnext, Node.items, hlink]
      exact h.grow hallows hstarts
  have hbegin : ∀ (n : Node) (e : NodeEvent) (n' : Node) (items : List Item),
      n.world.Assembled uri items → n.step e = .ok n' → n.startsAttempt uri e = true →
        n'.world.Assembled uri (n.items uri e) := by
    intro n e n' items h hstep hstarts
    cases hlink : n.link e with
    | none =>
      rw [Node.startsAttempt, hlink] at hstarts
      cases hstarts
    | some linkEvent =>
      obtain ⟨hallows, hnext⟩ := Node.step_of_some hstep hlink
      rw [Node.startsAttempt, hlink] at hstarts
      rw [hnext, Node.items, hlink]
      exact h.begin hallows hstarts
  exact good_segments (fun n items h => World.Assembled.delivered h) hgrow hbegin es
    (World.assembled_started created)

theorem framesOf_pushes (uri : Octets) (n : Node) (e : NodeEvent) :
    framesOf uri (n.pushes e) = (n.items uri e).filterMap Item.frameOf := by
  rw [Node.pushes, Node.items]
  cases n.link e with
  | none => rfl
  | some linkEvent => exact World.deliveredIn_items.symm

theorem handed_eq (n : Node) (e : NodeEvent) :
    n.handed e = (n.takes e).flatMap fun t =>
      if t.fits then [(t.frame.data, t.frame.uri)] else [] := by
  cases e with
  | receiveFromHub m c =>
    rw [Node.handed, Node.takes, Connector.receiveFromHub]
    rcases n.world.connector.popReceived with ⟨k, _ | frame⟩
    · rfl
    · change (if (m.toNat < frame.data.length || c.toNat < frame.uri.length : Bool) then (k, none)
        else (k, some (frame.data, frame.uri))).2.toList = (if !(m.toNat < frame.data.length ||
          c.toNat < frame.uri.length : Bool) then [(frame.data, frame.uri)] else []) ++ []
      cases (m.toNat < frame.data.length || c.toNat < frame.uri.length : Bool) <;> rfl
  | _ => rfl

theorem framesOf_append (uri : Octets) (l m : List ReceivedFrame) :
    framesOf uri (l ++ m) = framesOf uri l ++ framesOf uri m := List.filterMap_append

theorem deliveredIn_flatten (segments : List (List Item)) :
    deliveredIn segments.flatten = segments.flatMap deliveredIn := by
  rw [deliveredIn, List.filterMap_flatten]
  rfl

/-- **What the hub sends is what the stack gets.** -/
theorem frames_handed (created : Bool) {es : List NodeEvent} {n : Node}
    (h : final Node.step (.started created) es = .ok n) (uri : Octets) :
    let taken := outputs Node.step Node.takes (.started created) es
    framesOf uri (taken.map Taken.frame ++ n.world.connector.receivedFrames) =
        (nodeSegments uri (.started created) es).flatMap messagesOf ∧
      outputs Node.step Node.handed (.started created) es =
        taken.flatMap fun t => if t.fits then [(t.frame.data, t.frame.uri)] else [] := by
  intro taken
  constructor
  · have hqueue := queue_run (fun n : Node => n.world.connector.receivedFrames)
      (fun _ _ _ hn hstep => Node.live_step hn hstep)
      (fun _ _ _ hn hstep => Node.frames_step hn hstep) (World.live_started created) h
    have htaken : taken.map Taken.frame =
        outputs Node.step (fun n e => (n.takes e).map Taken.frame) (.started created) es :=
      map_outputs rfl (fun _ _ => List.map_append) _ _ _
    have hpushed : framesOf uri (outputs Node.step Node.pushes (.started created) es) =
        deliveredIn (outputs Node.step (Node.items uri) (.started created) es) := by
      rw [map_outputs rfl (framesOf_append uri), map_outputs rfl deliveredIn_append]
      simp only [framesOf_pushes]
      rfl
    rw [htaken, hqueue, framesOf_append, hpushed, ← flatten_segments h, deliveredIn_flatten]
    exact List.flatMap_congr (deliveredIn_nodeSegments created es uri)
  · rw [map_outputs rfl fun _ _ => List.flatMap_append]
    exact congrArg (fun out => outputs Node.step out _ es) (funext₂ handed_eq)

/-! ### A connection with a large frame -/

/-- The hub sends a message in two fragments and one of four octets, which the stack has no room
for; then the connection is closed. -/
def hubRun : List NodeEvent :=
  [.initiateWebsocket hubUri (.socket 1), .callback 1 .established, .report,
    .callback 1 (.receive true false [1, 2]), .callback 1 (.receive true true [3]),
    .callback 1 (.receive true true [4, 5, 6, 7]), .receiveFromHub 3 255, .receiveFromHub 3 255,
    .callback 1 .closed, .report, .receiveFromHub 3 255]

theorem frames_handed_large :
    ∃ n, final Node.step (.started true) hubRun = .ok n ∧
      framesOf hubUri ((outputs Node.step Node.takes (.started true) hubRun).map Taken.frame ++
        n.world.connector.receivedFrames) = [[1, 2, 3], [4, 5, 6, 7]] ∧
      outputs Node.step Node.handed (.started true) hubRun = [([1, 2, 3], hubUri)] := by
  have hok : (final Node.step (.started true) hubRun).isOk = true := by decide
  cases h : final Node.step (.started true) hubRun with
  | error _ =>
    rw [h] at hok
    cases hok
  | ok n =>
    obtain ⟨htaken, hhanded⟩ := frames_handed true h hubUri
    refine ⟨n, rfl, htaken.trans (by decide), hhanded.trans (by decide)⟩

/-! ## The statuses in order -/

/-- The marks of a step of the node. -/
def Node.marks (uri : Octets) (n : Node) (e : NodeEvent) : List Mark :=
  (if n.startsAttempt uri e then [.dialled] else []) ++ (statusesFor uri (n.queues e)).map .status

theorem Node.followsMarks_step {n n' : Node} {e : NodeEvent} (hn : n.world.Live)
    (h : n.step e = .ok n') (uri : Octets) :
    FollowsMarks (n.world.connector.connection uri).isOpen (n.marks uri e)
      (n'.world.connector.connection uri).isOpen := by
  rw [marks, startsAttempt, queues]
  cases hlink : n.link e with
  | none =>
    rw [step_of_none h hlink]
    rfl
  | some linkEvent =>
    obtain ⟨-, hnext⟩ := step_of_some h hlink
    dsimp only
    rw [World.drop_statusEvents hn.reloading, hnext]
    exact World.followsMarks_next hn.reloading uri linkEvent

/-- **The queued statuses are reported in order**, none lost or twice; and a connection is open
exactly when the last that was queued for it, since it was dialled, is that it is connected. -/
theorem statuses_in_order (created : Bool) {es : List NodeEvent} {n : Node}
    (h : final Node.step (.started created) es = .ok n) :
    outputs Node.step Node.reported (.started created) es ++ n.world.connector.statusEvents =
        outputs Node.step Node.queues (.started created) es ∧
      ∀ uri, (n.world.connector.connection uri).isOpen = true ↔
        (outputs Node.step (Node.marks uri) (.started created) es).getLast? =
          some (.status .connected) := by
  refine ⟨queue_run (fun n : Node => n.world.connector.statusEvents)
    (fun _ _ _ hn hstep => Node.live_step hn hstep)
    (fun _ _ _ hn hstep => Node.statuses_step hn hstep) (World.live_started created) h, ?_⟩
  intro uri
  have hstep : ∀ (n : Node) (e : NodeEvent) (n' : Node) (marks : List Mark),
      (n.world.Live ∧ FollowsMarks false marks (n.world.connector.connection uri).isOpen) →
        n.step e = .ok n' →
        n'.world.Live ∧ FollowsMarks false (marks ++ n.marks uri e)
          (n'.world.connector.connection uri).isOpen := by
    rintro n e n' marks ⟨hn, hfollows⟩ hnext
    refine ⟨Node.live_step hn hnext, ?_⟩
    have hmore := Node.followsMarks_step hn hnext uri
    rw [FollowsMarks] at hfollows hmore ⊢
    rw [hmore, hfollows, List.getLast?_append]
    cases (n.marks uri e).getLast? <;> rfl
  have hclosed : ((Node.started created).world.connector.connection uri).isOpen = false := by
    simp [Node.started, World.started, Connector.started, Connector.connection]
  have hstart : (Node.started created).world.Live ∧
      FollowsMarks false [] ((Node.started created).world.connector.connection uri).isOpen :=
    ⟨World.live_started created, hclosed⟩
  have hfollows := (outputs_invariant hstep hstart h).2
  rw [List.nil_append, FollowsMarks] at hfollows
  rw [hfollows]
  cases (outputs Node.step (Node.marks uri) (.started created) es).getLast? with
  | none => simp
  | some mark => simp

theorem statuses_in_order_closed :
    ∃ n, final Node.step (.started true) hubRun = .ok n ∧
      outputs Node.step Node.reported (.started true) hubRun ++ n.world.connector.statusEvents =
        [⟨hubUri, .connected⟩, ⟨hubUri, .disconnected⟩] ∧
      (n.world.connector.connection hubUri).isOpen = false := by
  have hok : (final Node.step (.started true) hubRun).isOk = true := by decide
  cases h : final Node.step (.started true) hubRun with
  | error _ =>
    rw [h] at hok
    cases hok
  | ok n =>
    obtain ⟨hreported, hopen⟩ := statuses_in_order true h
    refine ⟨n, rfl, hreported.trans (by decide), Bool.eq_false_iff.2 fun hc => ?_⟩
    exact absurd ((hopen hubUri).1 hc) (by decide)

end Hub

end BacnetBc
