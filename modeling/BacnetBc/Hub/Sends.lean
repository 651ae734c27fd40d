import BacnetBc.Hub.Frames

/-!
# Frames that are sent

`Send` puts a frame into the queue of an open connection, and the callback writes the first frame of
the queue when the socket can be written to.

**Theorem (`connections_sound`).** In every state an open connection has a socket, only an open one
has frames in its queue, and there are at most 64; an event of a socket that is not the current one
changes nothing; and on each connection the frames that are written are the first of those for which
`Send` has returned true on it, in their order.
-/

namespace BacnetBc

open Memory Trajectory

namespace Hub

/-! ## The entry -/

/-- What is always so of an entry. -/
structure Connection.Sound (c : Connection) : Prop where
  socket : c.isOpen = true → c.socket.isSome = true
  queue : c.sendQueue ≠ [] → c.isOpen = true
  length : c.sendQueue.length ≤ maxQueuedFrames

namespace Connection

variable {c : Connection}

theorem sound_initial : ({} : Connection).Sound := ⟨nofun, fun h => absurd rfl h, Nat.zero_le _⟩

theorem sound_ended (c : Connection) : c.ended.Sound :=
  ⟨nofun, fun h => absurd rfl h, Nat.zero_le _⟩

theorem Sound.assemble (h : c.Sound) (octets : Octets) : (c.assemble octets).Sound := by
  unfold Connection.assemble
  split_ifs <;> exact ⟨h.socket, h.queue, h.length⟩

theorem Sound.handle (h : c.Sound) {socket : Nat} (reason : Reason) :
    (c.handle socket reason).connection.Sound := by
  cases reason with
  | established => exact ⟨fun _ => rfl, fun _ => rfl, h.length⟩
  | connectionError => exact c.sound_ended
  | closed => exact c.sound_ended
  | receive isBinary isFinal octets =>
    have hassemble := h.assemble octets
    cases isBinary with
    | false => exact h
    | true =>
      cases isFinal with
      | false => exact hassemble
      | true => exact ⟨hassemble.socket, hassemble.queue, hassemble.length⟩
  | writeable written =>
    rw [Connection.handle, writeable]
    split_ifs
    · exact h
    · cases hqueue : c.sendQueue with
      | nil => exact h
      | cons frame frames =>
        have hopen : c.isOpen = true := h.queue (by rw [hqueue]; exact List.cons_ne_nil _ _)
        have hlength := h.length
        rw [hqueue, List.length_cons] at hlength
        dsimp only
        split_ifs
        · exact h
        · exact ⟨h.socket, fun _ => hopen, Nat.le_of_succ_le hlength⟩
  | other => exact h

/-- **Whatever happens to an entry, it stays sound.** -/
theorem Sound.next (h : c.Sound) (happening : Happening) : (c.next happening).Sound := by
  cases happening with
  | nothing => exact h
  | connect socket => exact ⟨nofun, fun hq => absurd rfl hq, Nat.zero_le _⟩
  | disconnect =>
    rw [Connection.next]
    split_ifs
    · exact h
    · exact ⟨h.socket, h.queue, h.length⟩
  | send data =>
    rw [Connection.next]
    split_ifs with haccepts
    · simp only [accepts, Bool.and_eq_true, decide_eq_true_eq] at haccepts
      refine ⟨h.socket, fun _ => haccepts.1.1, ?_⟩
      rw [List.length_append]
      exact haccepts.2
    · exact h
  | reload =>
    rw [Connection.next]
    split_ifs
    · exact c.sound_ended
    · exact h
  | report socket reason => exact h.handle reason

end Connection

/-! ## What is accepted and written -/

/-- A frame that `Send` accepts, or that is written. -/
inductive Traffic
  | accepted (frame : Octets)
  | written (frame : Octets)

namespace Traffic

def acceptedFrame : Traffic → Option Octets
  | accepted frame => some frame
  | written _ => none

def writtenFrame : Traffic → Option Octets
  | accepted _ => none
  | written frame => some frame

end Traffic

def acceptedIn (traffic : List Traffic) : List Octets := traffic.filterMap Traffic.acceptedFrame

def writtenIn (traffic : List Traffic) : List Octets := traffic.filterMap Traffic.writtenFrame

namespace World

/-- The frame for which `Send` to the URI returns true. -/
def accepts (w : World) (uri : Octets) : Event → List Octets
  | .send u data => if u = uri ∧ (w.connector.send u data).2 = true then [data] else []
  | _ => []

/-- The frame that the callback writes in full to a socket of the URI, current or not. -/
def writes (w : World) (uri : Octets) : Event → List Octets
  | .callback socket reason =>
    if w.user socket = some uri then (w.call socket reason).2.2.toList else []
  | _ => []

def traffic (uri : Octets) (w : World) (e : Event) : List Traffic :=
  (w.accepts uri e).map Traffic.accepted ++ (w.writes uri e).map Traffic.written

variable {w : World} {uri : Octets} {e : Event}

theorem acceptedIn_append (traffic more : List Traffic) :
    acceptedIn (traffic ++ more) = acceptedIn traffic ++ acceptedIn more := List.filterMap_append

theorem writtenIn_append (traffic more : List Traffic) :
    writtenIn (traffic ++ more) = writtenIn traffic ++ writtenIn more := List.filterMap_append

theorem acceptedIn_traffic : acceptedIn (w.traffic uri e) = w.accepts uri e := by
  rw [traffic, acceptedIn_append]
  simp [acceptedIn, Traffic.acceptedFrame, Function.comp_def]

theorem writtenIn_traffic : writtenIn (w.traffic uri e) = w.writes uri e := by
  rw [traffic, writtenIn_append]
  simp [writtenIn, Traffic.writtenFrame, Function.comp_def]

theorem accepts_eq (w : World) (uri : Octets) (e : Event) :
    w.accepts uri e = match w.happening uri e with
      | .send data => if (w.connector.connection uri).accepts then [data] else []
      | _ => [] := by
  cases e with
  | send u data =>
    by_cases hu : u = uri
    · subst hu
      have hhappening : w.happening u (.send u data) = .send data := if_pos rfl
      rw [hhappening, accepts, Connector.send]
      dsimp only
      cases (w.connector.connection u).accepts <;> simp
    · have hhappening : w.happening uri (.send u data) = .nothing := if_neg hu
      rw [hhappening, accepts, if_neg fun h => hu h.1]
  | connect u via => rw [happening]; split_ifs <;> rfl
  | disconnect u => rw [happening]; split_ifs <;> rfl
  | popStatusEvent => rfl
  | popReceived => rfl
  | reloadCredentials callbacks created => rfl
  | callback socket reason => rw [happening]; split_ifs <;> rfl

theorem writes_eq (hk : w.connector.reloading = false) (uri : Octets) (e : Event) :
    w.writes uri e = match w.happening uri e with
      | .report socket reason =>
        ((w.connector.connection uri).handle socket reason).written.toList
      | _ => [] := by
  cases e with
  | callback socket reason =>
    rw [writes]
    by_cases hu : w.user socket = some uri
    · rw [if_pos hu]
      by_cases hs : (w.connector.connection uri).socket = some socket
      · rw [happening_callback hu hs, next_callback_current hk hu hs]
      · have hhappening : w.happening uri (.callback socket reason) = .nothing :=
          if_neg fun h => hs h.2
        rw [hhappening, call, hu, Connector.hubProtocolCallback_stale hk hs]
        rfl
    · have hhappening : w.happening uri (.callback socket reason) = .nothing :=
        if_neg fun h => hu h.1
      rw [if_neg hu, hhappening]
  | connect u via => rw [happening]; split_ifs <;> rfl
  | disconnect u => rw [happening]; split_ifs <;> rfl
  | send u data => rw [happening]; split_ifs <;> rfl
  | popStatusEvent => rfl
  | popReceived => rfl
  | reloadCredentials callbacks created => rfl

/-! ## A segment while it grows -/

/-- The frames of a segment so far: those accepted and not written are in the queue, as long as
there is a socket. -/
structure Carried (uri : Octets) (w : World) (traffic : List Traffic) : Prop where
  reloading : w.connector.reloading = false
  sound : (w.connector.connection uri).Sound
  prefixed : writtenIn traffic <+: acceptedIn traffic
  queued : (w.connector.connection uri).socket.isSome = true →
    acceptedIn traffic = writtenIn traffic ++ (w.connector.connection uri).sendQueue

/-- What is written of the queue. -/
theorem queue_handle (c : Connection) (socket : Nat) {reason : Reason}
    (h : reason.keeps = true) : c.sendQueue =
      (c.handle socket reason).written.toList ++ (c.handle socket reason).connection.sendQueue := by
  cases reason with
  | connectionError => cases h
  | closed => cases h
  | receive isBinary isFinal octets =>
    have hassemble : (c.assemble octets).sendQueue = c.sendQueue := by
      unfold Connection.assemble
      split_ifs <;> rfl
    cases isBinary with
    | false => rfl
    | true => cases isFinal <;> exact hassemble.symm
  | writeable written =>
    rw [Connection.handle, Connection.writeable]
    split_ifs
    · rfl
    · cases hqueue : c.sendQueue with
      | nil => simp [hqueue]
      | cons frame frames =>
        dsimp only
        split_ifs
        · exact hqueue.symm
        · rfl
  | _ => rfl

theorem written_of_not_keeps (c : Connection) (socket : Nat) {reason : Reason}
    (h : reason.keeps = false) : (c.handle socket reason).written = none := by
  cases reason with
  | connectionError => rfl
  | closed => rfl
  | _ => cases h

variable {traffic : List Traffic}

theorem traffic_eq {accepted written : List Octets}
    (haccepted : w.accepts uri e = accepted) (hwritten : w.writes uri e = written)
    (traffic : List Traffic) :
    acceptedIn (traffic ++ w.traffic uri e) = acceptedIn traffic ++ accepted ∧
      writtenIn (traffic ++ w.traffic uri e) = writtenIn traffic ++ written := by
  rw [acceptedIn_append, writtenIn_append, acceptedIn_traffic, writtenIn_traffic, haccepted,
    hwritten]
  exact ⟨rfl, rfl⟩

/-- A step through which nothing is accepted or written. -/
theorem Carried.keep (h : w.Carried uri traffic)
    (haccepts : w.accepts uri e = []) (hwrites : w.writes uri e = [])
    (hqueue : ((w.next e).connector.connection uri).socket.isSome = true →
      (w.connector.connection uri).socket.isSome = true ∧
        ((w.next e).connector.connection uri).sendQueue =
          (w.connector.connection uri).sendQueue) :
    (w.next e).Carried uri (traffic ++ w.traffic uri e) := by
  obtain ⟨haccepted, hwritten⟩ := traffic_eq haccepts hwrites traffic
  rw [List.append_nil] at haccepted hwritten
  refine ⟨reloading_next h.reloading e, ?_, ?_, ?_⟩
  · rw [connection_next h.reloading]
    exact h.sound.next _
  · rw [haccepted, hwritten]
    exact h.prefixed
  · intro hsocket
    obtain ⟨hbefore, hsame⟩ := hqueue hsocket
    rw [haccepted, hwritten, hsame]
    exact h.queued hbefore

/-- **A segment grows.** -/
theorem Carried.grow (h : w.Carried uri traffic) (hstarts : w.startsAttempt uri e = false) :
    (w.next e).Carried uri (traffic ++ w.traffic uri e) := by
  have hk := h.reloading
  have haccepts := w.accepts_eq uri e
  have hwrites := writes_eq hk uri e
  have hnext := connection_next hk uri e
  cases hhappening : w.happening uri e with
  | connect socket =>
    rw [startsAttempt, hhappening] at hstarts
    cases hstarts
  | nothing =>
    rw [hhappening] at haccepts hwrites hnext
    refine h.keep haccepts hwrites ?_
    rw [hnext]
    exact fun hsocket => ⟨hsocket, rfl⟩
  | disconnect =>
    rw [hhappening] at haccepts hwrites hnext
    refine h.keep haccepts hwrites ?_
    rw [hnext, Connection.next]
    split_ifs
    · exact fun hsocket => ⟨hsocket, rfl⟩
    · exact fun hsocket => ⟨hsocket, rfl⟩
  | reload =>
    rw [hhappening] at haccepts hwrites hnext
    refine h.keep haccepts hwrites ?_
    rw [hnext, Connection.next]
    split_ifs
    · intro hsocket
      cases hsocket
    · exact fun hsocket => ⟨hsocket, rfl⟩
  | send data =>
    rw [hhappening] at haccepts hwrites hnext
    cases haccept : (w.connector.connection uri).accepts with
    | false =>
      rw [haccept] at haccepts
      refine h.keep haccepts hwrites ?_
      rw [hnext, Connection.next, haccept]
      exact fun hsocket => ⟨hsocket, rfl⟩
    | true =>
      replace haccepts : w.accepts uri e = [data] := by rw [haccepts, haccept]; rfl
      replace hwrites : w.writes uri e = [] := hwrites
      obtain ⟨haccepted, hwritten⟩ := traffic_eq haccepts hwrites traffic
      rw [List.append_nil] at hwritten
      refine ⟨reloading_next hk e, ?_, ?_, ?_⟩
      · rw [hnext]
        exact h.sound.next _
      · rw [haccepted, hwritten]
        exact h.prefixed.trans (List.prefix_append _ _)
      · rw [hnext, Connection.next, haccept, haccepted, hwritten]
        intro hsocket
        rw [h.queued hsocket, List.append_assoc]
        rfl
  | report socket reason =>
    obtain ⟨-, -, hcurrent⟩ := happening_report hhappening
    rw [hhappening] at haccepts hwrites hnext
    cases hkeeps : reason.keeps with
    | false =>
      replace hwrites : w.writes uri e = [] := by
        rw [hwrites]
        dsimp only
        rw [written_of_not_keeps _ _ hkeeps]
        rfl
      refine h.keep haccepts hwrites ?_
      rw [hnext, Connection.next, Connection.handle_socket hcurrent, hkeeps]
      intro hsocket
      cases hsocket
    | true =>
      have hqueue := queue_handle (w.connector.connection uri) socket hkeeps
      replace haccepts : w.accepts uri e = [] := haccepts
      obtain ⟨haccepted, hwritten⟩ := traffic_eq haccepts hwrites traffic
      rw [List.append_nil] at haccepted
      have hqueued := h.queued (by rw [hcurrent]; rfl)
      rw [hqueue, ← List.append_assoc, ← hwritten, ← haccepted] at hqueued
      refine ⟨reloading_next hk e, ?_, ?_, ?_⟩
      · rw [hnext]
        exact h.sound.next _
      · rw [hqueued]
        exact List.prefix_append _ _
      · rw [hnext]
        exact fun _ => hqueued

/-- A new attempt begins with an empty queue. -/
theorem Carried.begin (h : w.Carried uri traffic) (hstarts : w.startsAttempt uri e = true) :
    (w.next e).Carried uri (w.traffic uri e) := by
  have hk := h.reloading
  cases hhappening : w.happening uri e with
  | connect socket =>
    have haccepts := w.accepts_eq uri e
    have hwrites := writes_eq hk uri e
    have hnext := connection_next hk uri e
    rw [hhappening] at haccepts hwrites hnext
    rw [World.traffic, haccepts, hwrites]
    refine ⟨reloading_next hk e, ?_, List.nil_prefix, ?_⟩
    · rw [hnext]
      exact h.sound.next _
    · rw [hnext]
      exact fun _ => rfl
  | _ =>
    rw [startsAttempt, hhappening] at hstarts
    cases hstarts

theorem sound_started (created : Bool) (uri : Octets) :
    ((started created).connector.connection uri).Sound := by
  have hnew : (started created).connector.connection uri = {} := by
    simp [started, Connector.started, Connector.connection]
  rw [hnew]
  exact Connection.sound_initial

theorem carried_started (created : Bool) (uri : Octets) : (started created).Carried uri [] :=
  ⟨rfl, sound_started created uri, List.prefix_rfl, fun h => by
    have hnew : (started created).connector.connection uri = {} := by
      simp [started, Connector.started, Connector.connection]
    rw [hnew] at h
    cases h⟩

end World

/-- Only an open connection is written to. -/
theorem World.open_of_writes {w : World} {uri : Octets} {e : Event}
    (hk : w.connector.reloading = false) (hs : (w.connector.connection uri).Sound)
    (h : w.writes uri e ≠ []) : (w.connector.connection uri).isOpen = true := by
  rw [World.writes_eq hk] at h
  cases hhappening : w.happening uri e with
  | report socket reason =>
    rw [hhappening] at h
    dsimp only at h
    cases hkeeps : reason.keeps with
    | false =>
      rw [World.written_of_not_keeps _ _ hkeeps] at h
      exact absurd rfl h
    | true =>
      refine hs.queue fun hempty => h ?_
      have hqueue := World.queue_handle (w.connector.connection uri) socket hkeeps
      rw [hempty] at hqueue
      exact (List.append_eq_nil_iff.1 hqueue.symm).1
  | _ =>
    rw [hhappening] at h
    exact absurd rfl h

/-! ## Runs -/

theorem World.sound_of_run (created : Bool) (es : List Event) :
    ∀ w ∈ states World.step (.started created) es, ∀ uri, (w.connector.connection uri).Sound := by
  have hstep : ∀ w e w', (w.connector.reloading = false ∧
        ∀ uri, (w.connector.connection uri).Sound) → World.step w e = .ok w' →
      w'.connector.reloading = false ∧ ∀ uri, (w'.connector.connection uri).Sound := by
    intro w e w' hw h
    obtain ⟨-, rfl⟩ := World.step_eq_ok h
    refine ⟨World.reloading_next hw.1 e, ?_⟩
    intro uri
    rw [World.connection_next hw.1]
    exact (hw.2 uri).next _
  intro w hw
  exact (invariant _ hstep ⟨rfl, World.sound_started created⟩ es w hw).2

/-- What is accepted and written for a URI, cut at each attempt. -/
def trafficOf (uri : Octets) (w : World) (es : List Event) : List (List Traffic) :=
  segments World.step (World.startsAttempt uri) (World.traffic uri) w es

/-- **The connections of a run.** -/
theorem connections_sound (created : Bool) (es : List Event) :
    (∀ w ∈ states World.step (.started created) es, ∀ uri,
      (w.connector.connection uri).Sound) ∧
    (∀ w socket reason, (w, Event.callback socket reason) ∈ steps World.step (.started created) es →
      (∀ uri, w.user socket = some uri → (w.connector.connection uri).socket ≠ some socket) →
      (w.next (.callback socket reason)).connector = w.connector) ∧
    (∀ p ∈ steps World.step (.started created) es, ∀ uri, p.1.writes uri p.2 ≠ [] →
      (p.1.connector.connection uri).isOpen = true) ∧
    ∀ uri, ∀ traffic ∈ trafficOf uri (.started created) es,
      writtenIn traffic <+: acceptedIn traffic := by
  refine ⟨?_, ?_, ?_, ?_⟩
  · exact World.sound_of_run created es
  · intro w socket reason hp hstale
    have hlive := World.live_of_run w (mem_states_of_mem_steps hp)
    exact World.next_callback_stale hlive.reloading hstale reason
  · intro p hp uri hwrites
    have hstate := mem_states_of_mem_steps hp
    exact World.open_of_writes (World.live_of_run p.1 hstate).reloading
      (World.sound_of_run created es p.1 hstate uri) hwrites
  · intro uri
    have hgrow : ∀ (w : World) (e : Event) (w' : World) (traffic : List Traffic),
        w.Carried uri traffic → w.step e = .ok w' → w.startsAttempt uri e = false →
          w'.Carried uri (traffic ++ w.traffic uri e) := by
      intro w e w' traffic h hstep hstarts
      obtain ⟨-, rfl⟩ := World.step_eq_ok hstep
      exact h.grow hstarts
    have hbegin : ∀ (w : World) (e : Event) (w' : World) (traffic : List Traffic),
        w.Carried uri traffic → w.step e = .ok w' → w.startsAttempt uri e = true →
          w'.Carried uri (w.traffic uri e) := by
      intro w e w' traffic h hstep hstarts
      obtain ⟨-, rfl⟩ := World.step_eq_ok hstep
      exact h.begin hstarts
    exact good_segments (fun w traffic h => World.Carried.prefixed h) hgrow hbegin es
      (World.carried_started created uri)

/-- Two frames are accepted, and one of them is written before the connection is closed. -/
def sendRun : List Event :=
  [.connect hubUri (.socket 1), .callback 1 .established, .send hubUri [1], .send hubUri [2],
    .callback 1 (.writeable 1), .callback 1 (.writeable (-1)), .callback 1 .closed,
    .connect hubUri (.socket 2), .callback 2 .established, .callback 2 (.writeable 1)]

theorem connections_sound_sends :
    ∃ traffic ∈ trafficOf hubUri (.started true) sendRun,
      acceptedIn traffic = [[1], [2]] ∧ writtenIn traffic = [[1]] ∧
        writtenIn traffic <+: acceptedIn traffic := by
  have htraffic : ∃ traffic ∈ trafficOf hubUri (.started true) sendRun,
      acceptedIn traffic = [[1], [2]] ∧ writtenIn traffic = [[1]] := by decide
  obtain ⟨traffic, hmem, haccepted, hwritten⟩ := htraffic
  exact ⟨traffic, hmem, haccepted, hwritten,
    (connections_sound true sendRun).2.2.2 hubUri traffic hmem⟩

end Hub

end BacnetBc
