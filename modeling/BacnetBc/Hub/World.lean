import BacnetBc.Hub.Connector
import BacnetBc.Lib.Trajectory

/-!
# The connector and libwebsockets

A `World` is the connector together with the sockets that libwebsockets has. A step is a call of the
node, or an event that libwebsockets reports for one of its sockets. What it may report is
documented behaviour: first that the attempt has succeeded or failed, then fragments, each message
of one kind, and that the socket can be written to, and at last the close; and only the close after
the callback has returned -1.

**One entry.** For an entry of `g_connections` a step is one of few things (`Happening`): a
`Connect` to it, an event of its current socket, a call, or nothing.

**Theorem (`connection_next`).** After a step each entry is what its happening makes of it, whatever
the other entries are. What the step delivers, accepts and writes for the entry is a matter of the
entry and the happening too (`delivers_eq`, `accepts_eq`, `writes_eq`).
-/

namespace BacnetBc

open Memory

namespace Hub

/-! ## The machine -/

/-- Where a socket of libwebsockets is: after `closing` only the close is reported. -/
inductive Phase
  | connecting
  | established
  | closing
deriving DecidableEq, Repr

/-- A socket: its user data, and the kind of the message that has begun to arrive. -/
structure LwsSocket where
  user : Octets
  phase : Phase
  message : Option Bool
deriving DecidableEq, Repr

namespace LwsSocket

/-- What libwebsockets reports for the socket next. -/
def mayReport (x : LwsSocket) : Reason → Bool
  | .established => x.phase = .connecting
  | .connectionError => x.phase = .connecting
  | .closed => x.phase ≠ .connecting
  | .receive isBinary _ _ =>
    x.phase = .established && (x.message = none || x.message = some isBinary)
  | .writeable _ => x.phase = .established
  | .other => true

/-- The phase after a callback with this result. -/
def phaseAfter (x : LwsSocket) (result : Int) : Phase := if result = -1 then .closing else x.phase

/-- The socket after the callback, if there still is one. -/
def after (x : LwsSocket) (result : Int) : Reason → Option LwsSocket
  | .established => some { x with phase := if result = -1 then .closing else .established }
  | .connectionError => none
  | .closed => none
  | .receive isBinary isFinal _ =>
    some { x with
      phase := x.phaseAfter result
      message := if isFinal then none else some isBinary }
  | .writeable _ => some { x with phase := x.phaseAfter result }
  | .other => some x

end LwsSocket

inductive Event
  | connect (uri : Octets) (via : Via)
  | disconnect (uri : Octets)
  | send (uri : Octets) (data : Octets)
  | popStatusEvent
  | popReceived
  /-- `ReloadCredentials`: the callbacks of the context that is destroyed, and whether the new one
  can be created. -/
  | reloadCredentials (callbacks : List (Nat × Reason)) (created : Bool)
  | callback (socket : Nat) (reason : Reason)
deriving DecidableEq, Repr

structure World where
  connector : Connector
  sockets : Nat → Option LwsSocket

namespace World

def started (created : Bool) : World := ⟨.started created, fun _ => none⟩

/-- What libwebsockets does is what it may do: a new socket is none that it has, and an event is one
that the socket may report. -/
def allows (w : World) : Event → Bool
  | .connect _ via => (w.sockets via.made).isNone
  | .callback socket reason =>
    match w.sockets socket with
    | some x => x.mayReport reason
    | none => false
  | _ => true

/-- The user data of a socket. -/
def user (w : World) (socket : Nat) : Option Octets := (w.sockets socket).map LwsSocket.user

/-- The callback for a socket. -/
def call (w : World) (socket : Nat) (reason : Reason) : Connector × Int × Option Octets :=
  w.connector.hubProtocolCallback (w.user socket) socket reason

def next (w : World) : Event → World
  | .connect uri via =>
    let (k, made) := w.connector.connect uri via
    match made, via.result with
    | true, some socket =>
      ⟨k, Function.update w.sockets socket (some ⟨uri, .connecting, none⟩)⟩
    | _, _ => ⟨k, w.sockets⟩
  | .disconnect uri => ⟨w.connector.disconnect uri, w.sockets⟩
  | .send uri data => ⟨(w.connector.send uri data).1, w.sockets⟩
  | .popStatusEvent => ⟨w.connector.popStatusEvent.1, w.sockets⟩
  | .popReceived => ⟨w.connector.popReceived.1, w.sockets⟩
  | .reloadCredentials callbacks created =>
    ⟨(w.connector.reloadCredentials (callbacks.map fun c => ⟨w.user c.1, c.1, c.2⟩) created).1,
      fun _ => none⟩
  | .callback socket reason =>
    ⟨(w.call socket reason).1, Function.update w.sockets socket
      ((w.sockets socket).bind fun x => x.after (w.call socket reason).2.1 reason)⟩

def step (w : World) (e : Event) : Except Unit World :=
  if w.allows e then .ok (w.next e) else .error ()

theorem step_eq_ok {w w' : World} {e : Event} (h : w.step e = .ok w') :
    w.allows e = true ∧ w.next e = w' := by
  unfold step at h
  split_ifs at h with hallows
  exact ⟨hallows, Except.ok.inj h⟩

end World

/-! ## One entry -/

/-- What a step is for one entry. -/
inductive Happening
  | nothing
  /-- A `Connect` that returns true. -/
  | connect (socket : Option Nat)
  | disconnect
  | send (data : Octets)
  | reload
  /-- An event of the current socket. -/
  | report (socket : Nat) (reason : Reason)
deriving DecidableEq, Repr

/-- It leaves the socket of the entry as it is. -/
def Happening.quiet : Happening → Bool
  | .nothing => true
  | .disconnect => true
  | .send _ => true
  | _ => false

/-- What becomes of the entry. -/
def Connection.next (c : Connection) : Happening → Connection
  | .nothing => c
  | .connect socket => { socket := socket }
  | .disconnect => if c.socket = none then c else { c with closeRequested := true }
  | .send data => if c.accepts then { c with sendQueue := c.sendQueue ++ [data] } else c
  | .reload => if c.isInUse then c.ended else c
  | .report socket reason => (c.handle socket reason).connection

/-- `Connect` gets as far as an attempt. -/
def Connector.canConnect (k : Connector) (uri : Octets) : Bool :=
  k.context && (parseHubUri uri).isSome

def World.happening (w : World) (uri : Octets) : Event → Happening
  | .connect u via =>
    if u = uri ∧ w.connector.canConnect uri = true then .connect via.result else .nothing
  | .disconnect u => if u = uri then .disconnect else .nothing
  | .send u data => if u = uri then .send data else .nothing
  | .popStatusEvent => .nothing
  | .popReceived => .nothing
  | .reloadCredentials _ _ => .reload
  | .callback socket reason =>
    if w.user socket = some uri ∧ (w.connector.connection uri).socket = some socket then
      .report socket reason
    else .nothing

/-! ## The connector's operations -/

namespace Connector

variable {k : Connector} {uri : Octets}

theorem connection_setConnection (k : Connector) (uri u : Octets) (c : Connection) :
    (k.setConnection uri c).connection u = if u = uri then c else k.connection u := by
  unfold connection setConnection
  by_cases hu : u = uri
  · subst hu
    simp
  · simp [Std.ExtTreeMap.getElem?_insert, Ne.symm hu, hu]

@[simp] theorem connection_queueStatus (k : Connector) (uri u : Octets) (status : WebSocketStatus) :
    (k.queueStatus uri status).connection u = k.connection u := rfl

@[simp] theorem connection_pushFrame (k : Connector) (uri u : Octets) (data : Octets) :
    (k.pushFrame uri data).connection u = k.connection u := rfl

theorem connection_store (k : Connector) (uri u : Octets) (h : Handled) :
    (k.store uri h).connection u = if u = uri then h.connection else k.connection u := by
  rw [← connection_setConnection]
  unfold store
  cases h.status <;> cases h.frame <;> rfl

/-- The statuses that are queued for an entry. -/
def statusesOf (uri : Octets) (statuses : List WebSocketStatus) : List StatusEvent :=
  statuses.map fun status => ⟨uri, status⟩

theorem store_statusEvents (k : Connector) (uri : Octets) (h : Handled) :
    (k.store uri h).statusEvents = k.statusEvents ++ statusesOf uri h.status.toList := by
  unfold store
  cases h.status <;> cases h.frame <;> simp [setConnection, queueStatus, pushFrame, statusesOf]

theorem store_receivedFrames (k : Connector) (uri : Octets) (h : Handled) :
    (k.store uri h).receivedFrames =
      k.receivedFrames ++ h.frame.toList.map fun data => ⟨uri, data⟩ := by
  unfold store
  cases h.status <;> cases h.frame <;> simp [setConnection, queueStatus, pushFrame]

theorem store_reloading (k : Connector) (uri : Octets) (h : Handled) :
    (k.store uri h).reloading = k.reloading := by
  unfold store
  cases h.status <;> cases h.frame <;> rfl

/-- **An event of a socket that is not the current one** changes nothing and queues nothing. -/
theorem hubProtocolCallback_stale (hk : k.reloading = false) {socket : Nat}
    (h : (k.connection uri).socket ≠ some socket) (reason : Reason) :
    k.hubProtocolCallback (some uri) socket reason = (k, staleResult reason, none) := by
  simp [hubProtocolCallback, hk, h]

theorem hubProtocolCallback_current (hk : k.reloading = false) {socket : Nat}
    (h : (k.connection uri).socket = some socket) (reason : Reason) :
    k.hubProtocolCallback (some uri) socket reason =
      (k.store uri ((k.connection uri).handle socket reason),
        ((k.connection uri).handle socket reason).result,
        ((k.connection uri).handle socket reason).written) := by
  simp [hubProtocolCallback, hk, h]

theorem hubProtocolCallback_reloading (hk : k.reloading = true) (user : Option Octets)
    (socket : Nat) (reason : Reason) :
    k.hubProtocolCallback user socket reason = (k, 0, none) := by
  cases user <;> simp [hubProtocolCallback, hk]

theorem contextDestroy_eq (hk : k.reloading = true)
    (callbacks : List (Option Octets × Nat × Reason)) : k.contextDestroy callbacks = k := by
  induction callbacks with
  | nil => rfl
  | cons c callbacks ih =>
    obtain ⟨user, socket, reason⟩ := c
    rw [contextDestroy, hubProtocolCallback_reloading hk]
    exact ih

/-- The entry of a new attempt. -/
def withAttempt (k : Connector) (uri : Octets) (socket : Option Nat) : Connector :=
  (k.setConnection uri {}).setConnection uri { socket := socket }

/-- **A `Connect` that gets as far as an attempt.** An error that is reported for the new socket is
ignored: the entry has no socket yet. -/
theorem connect_eq (hk : k.reloading = false) (hc : k.canConnect uri = true) (via : Via) :
    k.connect uri via = (match via.result with
      | some _ => k.withAttempt uri via.result
      | none => if k.lastEventIsFor uri then k.withAttempt uri none
        else (k.withAttempt uri none).queueStatus uri .error, true) := by
  obtain ⟨hcontext, hparse⟩ := Bool.and_eq_true_iff.1 hc
  obtain ⟨address, hparse⟩ := Option.isSome_iff_exists.1 hparse
  have hreset : (k.setConnection uri {}).reloading = false := hk
  have hentry : (k.setConnection uri {}).connection uri = {} := by
    rw [connection_setConnection, if_pos rfl]
  have hnull {s : Nat} {reported : Bool} :
      (k.setConnection uri {}).clientConnectViaInfo uri (.null s reported) =
        (k.setConnection uri {}, none) := by
    cases reported with
    | false => rfl
    | true =>
      have hstale : ((k.setConnection uri {}).connection uri).socket ≠ some s := by
        rw [hentry]
        exact Option.some_ne_none s ∘ Eq.symm
      rw [clientConnectViaInfo, if_pos rfl, hubProtocolCallback_stale hreset hstale]
  unfold connect
  rw [hcontext, hparse]
  cases via with
  | socket s =>
    dsimp only [Bool.not_true, Via.result, clientConnectViaInfo]
    rw [hentry]
    rfl
  | null s reported =>
    dsimp only [Bool.not_true, Via.result]
    rw [hnull]
    dsimp only
    rw [hentry]
    rfl

theorem connect_eq_of_not (hc : k.canConnect uri = false) (via : Via) :
    k.connect uri via = (k, false) := by
  unfold connect
  cases hcontext : k.context with
  | false => rfl
  | true =>
    have hparse : parseHubUri uri = none := by simpa [canConnect, hcontext] using hc
    rw [hparse]
    rfl

theorem connection_withAttempt (k : Connector) (uri u : Octets) (socket : Option Nat) :
    (k.withAttempt uri socket).connection u =
      if u = uri then { socket := socket } else k.connection u := by
  rw [withAttempt, connection_setConnection, connection_setConnection]
  split_ifs <;> rfl

theorem connection_endConnections (k : Connector) (u : Octets) :
    k.endConnections.connection u =
      if (k.connection u).isInUse then (k.connection u).ended else k.connection u := by
  unfold connection endConnections
  dsimp only
  rw [Std.ExtTreeMap.getElem?_map]
  cases k.connections[u]? with
  | none => rfl
  | some c => rfl

/-- `ReloadCredentials` without the callbacks, which it makes no use of. -/
theorem reloadCredentials_eq (callbacks : List (Option Octets × Nat × Reason)) (created : Bool) :
    (k.reloadCredentials callbacks created).1 = { k.endConnections with
      context := created, reloading := if k.context then false else k.reloading } := by
  unfold reloadCredentials
  cases hcontext : k.context with
  | false =>
    have hend : k.endConnections.context = false := hcontext
    simp [hend]
    rfl
  | true =>
    have hend : k.endConnections.context = true := hcontext
    simp [hend, contextDestroy_eq]

end Connector

/-! ## A step for one entry -/

namespace World

variable {w : World} {uri : Octets} {e : Event}

theorem next_callback_stale (hk : w.connector.reloading = false) {socket : Nat}
    (h : ∀ u, w.user socket = some u → (w.connector.connection u).socket ≠ some socket)
    (reason : Reason) : (w.next (.callback socket reason)).connector = w.connector := by
  change (w.call socket reason).1 = _
  unfold call
  cases hu : w.user socket with
  | none => rfl
  | some u => rw [Connector.hubProtocolCallback_stale hk (h u hu)]

theorem next_callback_current (hk : w.connector.reloading = false) {socket : Nat} {u : Octets}
    (hu : w.user socket = some u) (h : (w.connector.connection u).socket = some socket)
    (reason : Reason) :
    w.call socket reason = (w.connector.store u ((w.connector.connection u).handle socket reason),
      ((w.connector.connection u).handle socket reason).result,
      ((w.connector.connection u).handle socket reason).written) := by
  unfold call
  rw [hu, Connector.hubProtocolCallback_current hk h]

theorem next_connect (u : Octets) (via : Via) :
    (w.next (.connect u via)).connector = (w.connector.connect u via).1 := by
  unfold next
  dsimp only
  split <;> rfl

/-- The callback is for the current socket of an entry, or for no entry. -/
theorem current_or_stale (w : World) (socket : Nat) :
    (∃ u, w.user socket = some u ∧ (w.connector.connection u).socket = some socket) ∨
      ∀ u, w.user socket = some u → (w.connector.connection u).socket ≠ some socket := by
  by_cases h : ∃ u, w.user socket = some u ∧ (w.connector.connection u).socket = some socket
  · exact Or.inl h
  · right
    intro u hu hs
    exact h ⟨u, hu, hs⟩

theorem happening_stale {socket : Nat}
    (h : ∀ u, w.user socket = some u → (w.connector.connection u).socket ≠ some socket)
    (reason : Reason) : w.happening uri (.callback socket reason) = .nothing :=
  if_neg fun hc => h uri hc.1 hc.2

/-- **An entry after a step** is what its happening makes of it. -/
theorem connection_next (hk : w.connector.reloading = false) (uri : Octets) (e : Event) :
    (w.next e).connector.connection uri =
      (w.connector.connection uri).next (w.happening uri e) := by
  cases e with
  | connect u via =>
    rw [next_connect, happening]
    cases hc : w.connector.canConnect u with
    | false =>
      rw [Connector.connect_eq_of_not hc, if_neg]
      · rfl
      · intro h
        rw [← h.1, hc] at h
        exact Bool.false_ne_true h.2
    | true =>
      have hattempt (socket : Option Nat) :
          (w.connector.withAttempt u socket).connection uri = (w.connector.connection uri).next
            (if u = uri ∧ w.connector.canConnect uri = true then .connect socket
              else .nothing) := by
        rw [Connector.connection_withAttempt]
        by_cases hu : uri = u
        · subst hu
          rw [if_pos rfl, if_pos ⟨rfl, hc⟩]
          rfl
        · rw [if_neg hu, if_neg fun h => hu h.1.symm]
          rfl
      rw [Connector.connect_eq hk hc]
      cases via with
      | socket s => exact hattempt (some s)
      | null s reported =>
        dsimp only [Via.result]
        cases w.connector.lastEventIsFor u with
        | true => exact hattempt none
        | false => exact hattempt none
  | disconnect u =>
    change (w.connector.disconnect u).connection uri = _
    rw [Connector.disconnect, happening]
    by_cases hu : u = uri
    · subst hu
      rw [if_pos rfl, Connection.next]
      split_ifs
      · rfl
      · rw [Connector.connection_setConnection, if_pos rfl]
    · rw [if_neg hu]
      split_ifs
      · rfl
      · rw [Connector.connection_setConnection, if_neg (Ne.symm hu)]
        rfl
  | send u data =>
    change (w.connector.send u data).1.connection uri = _
    rw [Connector.send, happening]
    by_cases hu : u = uri
    · subst hu
      rw [if_pos rfl, Connection.next]
      split_ifs
      · rw [Connector.connection_setConnection, if_pos rfl]
      · rfl
    · rw [if_neg hu]
      split_ifs
      · rw [Connector.connection_setConnection, if_neg (Ne.symm hu)]
        rfl
      · rfl
  | popStatusEvent =>
    change w.connector.popStatusEvent.1.connection uri = _
    unfold Connector.popStatusEvent
    split <;> rfl
  | popReceived =>
    change w.connector.popReceived.1.connection uri = _
    unfold Connector.popReceived
    split <;> rfl
  | reloadCredentials callbacks created =>
    change (w.connector.reloadCredentials _ created).1.connection uri = _
    rw [Connector.reloadCredentials_eq]
    exact Connector.connection_endConnections w.connector uri
  | callback socket reason =>
    rcases w.current_or_stale socket with ⟨u, hu, hs⟩ | hstale
    · change (w.call socket reason).1.connection uri = _
      rw [next_callback_current hk hu hs, Connector.connection_store, happening, hu]
      by_cases huri : uri = u
      · subst huri
        rw [if_pos rfl, if_pos ⟨rfl, hs⟩]
        rfl
      · rw [if_neg huri, if_neg fun h => huri (Option.some.inj h.1).symm]
        rfl
    · rw [next_callback_stale hk hstale, happening_stale hstale]
      rfl

theorem reloading_next (hk : w.connector.reloading = false) (e : Event) :
    (w.next e).connector.reloading = false := by
  cases e with
  | connect u via =>
    rw [next_connect]
    cases hc : w.connector.canConnect u with
    | false => rw [Connector.connect_eq_of_not hc]; exact hk
    | true =>
      rw [Connector.connect_eq hk hc]
      cases via with
      | socket s => exact hk
      | null s reported =>
        dsimp only [Via.result]
        split_ifs <;> exact hk
  | disconnect u =>
    change (w.connector.disconnect u).reloading = _
    unfold Connector.disconnect
    split_ifs <;> exact hk
  | send u data =>
    change (w.connector.send u data).1.reloading = _
    unfold Connector.send
    dsimp only
    split_ifs <;> exact hk
  | popStatusEvent =>
    change w.connector.popStatusEvent.1.reloading = _
    unfold Connector.popStatusEvent
    split <;> exact hk
  | popReceived =>
    change w.connector.popReceived.1.reloading = _
    unfold Connector.popReceived
    split <;> exact hk
  | reloadCredentials callbacks created =>
    change (w.connector.reloadCredentials _ created).1.reloading = _
    rw [Connector.reloadCredentials_eq]
    dsimp only
    split_ifs
    · rfl
    · exact hk
  | callback socket reason =>
    rcases w.current_or_stale socket with ⟨u, hu, hs⟩ | hstale
    · change (w.call socket reason).1.reloading = _
      rw [next_callback_current hk hu hs, Connector.store_reloading]
      exact hk
    · rw [next_callback_stale hk hstale]
      exact hk

/-! ## The sockets of the entries -/

/-- The current socket of an entry is one that libwebsockets has, opened for that entry. -/
structure Live (w : World) : Prop where
  reloading : w.connector.reloading = false
  current : ∀ {uri socket}, (w.connector.connection uri).socket = some socket →
    ∃ x, w.sockets socket = some x ∧ x.user = uri

theorem live_started (created : Bool) : (started created).Live where
  reloading := rfl
  current := fun {uri socket} h => by
    have hnone : ((started created).connector.connection uri).socket = none := by
      simp [started, Connector.started, Connector.connection]
    rw [hnone] at h
    cases h

end World

/-- The event leaves the socket to the entry. -/
def Reason.keeps : Reason → Bool
  | .connectionError => false
  | .closed => false
  | _ => true

theorem Connection.handle_socket {c : Connection} {socket : Nat} (hc : c.socket = some socket)
    (reason : Reason) :
    (c.handle socket reason).connection.socket = if reason.keeps then some socket else none := by
  cases reason with
  | established => rfl
  | connectionError => rfl
  | closed => rfl
  | receive isBinary isFinal octets =>
    have hassemble : (c.assemble octets).socket = c.socket := by
      unfold assemble
      split_ifs <;> rfl
    change (c.receive isBinary isFinal octets).connection.socket = some socket
    unfold receive
    cases isBinary with
    | false => exact hc
    | true => cases isFinal <;> exact hassemble.trans hc
  | writeable written =>
    change (c.writeable written).connection.socket = some socket
    unfold writeable
    split_ifs
    · exact hc
    · cases c.sendQueue with
      | nil => exact hc
      | cons frame frames =>
        dsimp only
        split_ifs <;> exact hc
  | other => exact hc

theorem LwsSocket.after_of_keeps {reason : Reason} (h : reason.keeps = true) (x : LwsSocket)
    (result : Int) : ∃ y, x.after result reason = some y ∧ y.user = x.user := by
  cases reason with
  | connectionError => cases h
  | closed => cases h
  | _ => exact ⟨_, rfl, rfl⟩

namespace World

variable {w : World} {uri : Octets} {e : Event}

theorem happening_callback {socket : Nat} (h : w.user socket = some uri)
    (hs : (w.connector.connection uri).socket = some socket) (reason : Reason) :
    w.happening uri (.callback socket reason) = .report socket reason :=
  if_pos ⟨h, hs⟩

theorem user_of_live (hw : w.Live) {socket : Nat}
    (hs : (w.connector.connection uri).socket = some socket) : w.user socket = some uri := by
  obtain ⟨x, hx, hu⟩ := hw.current hs
  rw [user, hx, Option.map_some, hu]

/-- A step that is an event of the current socket. -/
theorem happening_report {socket : Nat} {reason : Reason}
    (h : w.happening uri e = .report socket reason) : e = .callback socket reason ∧
      w.user socket = some uri ∧ (w.connector.connection uri).socket = some socket := by
  cases e with
  | callback s r =>
    rw [happening] at h
    split_ifs at h with hcurrent
    cases h
    exact ⟨rfl, hcurrent⟩
  | connect u via => rw [happening] at h; split_ifs at h
  | disconnect u => rw [happening] at h; split_ifs at h
  | send u data => rw [happening] at h; split_ifs at h
  | popStatusEvent => cases h
  | popReceived => cases h
  | reloadCredentials callbacks created => cases h

/-- A socket that libwebsockets has stays as it is until one of its own events. -/
theorem sockets_next (hallows : w.allows e = true) {socket : Nat} {x : LwsSocket}
    (hx : w.sockets socket = some x) (hcallback : ∀ reason, e ≠ .callback socket reason)
    (hreload : ∀ callbacks created, e ≠ .reloadCredentials callbacks created) :
    (w.next e).sockets socket = some x := by
  cases e with
  | connect u via =>
    have hfresh : w.sockets via.made = none := by simpa [allows] using hallows
    have hne : socket ≠ via.made := by
      intro hsame
      rw [hsame, hfresh] at hx
      cases hx
    unfold next
    dsimp only
    split
    · rename_i t _ hvia
      have hmade : via.made = t := by
        cases via with
        | null _ _ => cases hvia
        | socket t' => exact Option.some.inj hvia
      dsimp only
      rw [← hmade, Function.update_of_ne hne, hx]
    · exact hx
  | disconnect u => exact hx
  | send u data => exact hx
  | popStatusEvent => exact hx
  | popReceived => exact hx
  | reloadCredentials callbacks created => exact absurd rfl (hreload callbacks created)
  | callback s reason =>
    have hne : socket ≠ s := by
      intro hsame
      exact hcallback reason (hsame ▸ rfl)
    change Function.update w.sockets s _ socket = some x
    rw [Function.update_of_ne hne, hx]

/-- **Steps keep the sockets of the entries live.** -/
theorem Live.next (hw : w.Live) (hallows : w.allows e = true) : (w.next e).Live where
  reloading := reloading_next hw.reloading e
  current := fun {uri s} hs => by
    rw [connection_next hw.reloading] at hs
    cases e with
    | connect u via =>
      rw [happening] at hs
      split_ifs at hs with hu
      · -- the new socket
        obtain ⟨rfl, hc⟩ := hu
        have hvia : via.result = some s := hs
        cases via with
        | null _ _ => cases hvia
        | socket t =>
          obtain rfl : t = s := Option.some.inj hvia
          refine ⟨⟨u, .connecting, none⟩, ?_, rfl⟩
          rw [World.next, Connector.connect_eq hw.reloading hc]
          exact Function.update_self _ _ _
      · obtain ⟨x, hx, hxu⟩ := hw.current hs
        exact ⟨x, sockets_next hallows hx nofun nofun, hxu⟩
    | disconnect u =>
      suffices hbefore : (w.connector.connection uri).socket = some s from hw.current hbefore
      rw [happening] at hs
      split_ifs at hs
      · unfold Connection.next at hs
        split_ifs at hs <;> exact hs
      · exact hs
    | send u data =>
      suffices hbefore : (w.connector.connection uri).socket = some s from hw.current hbefore
      rw [happening] at hs
      split_ifs at hs
      · unfold Connection.next at hs
        split_ifs at hs <;> exact hs
      · exact hs
    | popStatusEvent => exact hw.current hs
    | popReceived => exact hw.current hs
    | reloadCredentials callbacks created =>
      rw [happening, Connection.next] at hs
      split_ifs at hs with huse
      · cases hs
      · exact absurd (by simp [Connection.isInUse, hs]) huse
    | callback socket reason =>
      change ∃ x, Function.update w.sockets socket _ s = some x ∧ x.user = uri
      by_cases hcurrent : (w.connector.connection uri).socket = some socket
      · rw [happening_callback (user_of_live hw hcurrent) hcurrent, Connection.next,
          Connection.handle_socket hcurrent] at hs
        split_ifs at hs with hkeeps
        obtain rfl := Option.some.inj hs
        obtain ⟨x, hx, hxu⟩ := hw.current hcurrent
        obtain ⟨y, hy, hyu⟩ := x.after_of_keeps hkeeps (w.call socket reason).2.1
        refine ⟨y, ?_, hyu.trans hxu⟩
        rw [Function.update_self, hx, Option.bind_some, hy]
      · have hstale : w.happening uri (.callback socket reason) = .nothing :=
          if_neg fun h => hcurrent h.2
        rw [hstale] at hs
        obtain ⟨x, hx, hxu⟩ := hw.current hs
        have hne : s ≠ socket := by
          intro hsame
          exact hcurrent (hsame ▸ hs)
        exact ⟨x, by rw [Function.update_of_ne hne, hx], hxu⟩

/-- The socket after an event of the current socket. -/
theorem sockets_callback {socket : Nat} {x : LwsSocket} (hx : w.sockets socket = some x)
    (reason : Reason) : (w.next (.callback socket reason)).sockets socket =
      x.after (w.call socket reason).2.1 reason := by
  change Function.update w.sockets socket _ socket = _
  rw [Function.update_self, hx, Option.bind_some]

theorem mayReport_of_allows {socket : Nat} {reason : Reason} {x : LwsSocket}
    (hallows : w.allows (.callback socket reason) = true) (hx : w.sockets socket = some x) :
    x.mayReport reason = true := by
  rw [allows, hx] at hallows
  exact hallows

/-- What is left alone by a step that is no event of the entry's socket, and gives it no other. -/
structure Idle (w w' : World) (uri : Octets) : Prop where
  socket : (w'.connector.connection uri).socket = (w.connector.connection uri).socket
  sockets : ∀ {socket x}, (w.connector.connection uri).socket = some socket →
    w.sockets socket = some x → w'.sockets socket = some x

theorem idle_next (hw : w.Live) (hallows : w.allows e = true)
    (hquiet : (w.happening uri e).quiet = true) : w.Idle (w.next e) uri where
  socket := by
    rw [connection_next hw.reloading]
    cases h : w.happening uri e with
    | nothing => rfl
    | disconnect => rw [Connection.next]; split_ifs <;> rfl
    | send data => rw [Connection.next]; split_ifs <;> rfl
    | connect socket => rw [h] at hquiet; cases hquiet
    | reload => rw [h] at hquiet; cases hquiet
    | report socket reason => rw [h] at hquiet; cases hquiet
  sockets := fun {socket x} hsocket hx => by
    refine sockets_next hallows hx ?_ ?_
    · intro reason he
      rw [he, happening_callback (user_of_live hw hsocket) hsocket] at hquiet
      cases hquiet
    · intro callbacks created he
      rw [he] at hquiet
      cases hquiet

/-- Where a run that is allowed ends. -/
theorem final_of_isOk {w : World} {es : List Event}
    (h : (Trajectory.final step w es).isOk = true) :
    Trajectory.final step w es = .ok (es.foldl next w) := by
  induction es generalizing w with
  | nil => rfl
  | cons e es ih =>
    cases hstep : w.step e with
    | error _ =>
      rw [Trajectory.final, hstep] at h
      cases h
    | ok w' =>
      obtain ⟨-, rfl⟩ := step_eq_ok hstep
      rw [Trajectory.final_cons_ok hstep] at h ⊢
      rw [ih h, List.foldl_cons]

/-- In every run the sockets of the entries are live. -/
theorem live_of_run {created : Bool} {es : List Event} :
    ∀ w ∈ Trajectory.states step (started created) es, w.Live :=
  Trajectory.invariant World.Live (fun _ _ _ hw h => (step_eq_ok h).2 ▸ hw.next (step_eq_ok h).1)
    (live_started created) es

end World

end Hub

end BacnetBc
