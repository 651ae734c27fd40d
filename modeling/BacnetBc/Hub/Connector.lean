import BacnetBc.Cert.Pem
import Mathlib

/-!
# The hub connector

The WebSocket half of the BACnet/SC node opens, closes and carries octets for the stack. What
libwebsockets reports is queued in callbacks; the main loop takes it from the queues.

`g_connections` has one entry for each URI, which successive sockets use. `Connection` is an entry,
without its `uri`, which is the key it is found under; an entry that is not there yet is like a new
one. What the callback does with an event of the entry's current socket is `Connection.handle`.

The other side of each call to libwebsockets is an argument: how `lws_client_connect_via_info` goes
(`Via`), what `lws_write` returns, whether a context can be created.
-/

namespace BacnetBc

open Memory

namespace Hub

/-! ## ParseHubUri -/

/-- `isspace`. -/
def isSpaceOctet (octet : UInt8) : Bool := (9 ≤ octet && octet ≤ 13) || octet = 32

def isDigitOctet (octet : UInt8) : Bool := 48 ≤ octet && octet ≤ 57

def decimal (digits : Octets) : Nat := digits.foldl (fun n octet => 10 * n + (octet.toNat - 48)) 0

/-- `strtol`, base 10: the number, and what follows it. -/
def strtol (text : Octets) : Int × Octets :=
  let unspaced := text.dropWhile isSpaceOctet
  let negative := unspaced.head? = some 0x2D
  let unsigned := if negative ∨ unspaced.head? = some 0x2B then unspaced.drop 1 else unspaced
  let digits := unsigned.takeWhile isDigitOctet
  if digits = [] then (0, text)
  else
    (if negative then - min (decimal digits : Int) (2 ^ 63) else min (decimal digits) (2 ^ 63 - 1),
      unsigned.dropWhile isDigitOctet)

/-- A C string: what is before the first zero octet. -/
def cString (text : Octets) : Octets := text.takeWhile (· ≠ 0)

structure HubAddress where
  host : Octets
  port : Int
  path : Octets
deriving DecidableEq, Repr

/-- The host and the port's text of `hostAndPort`. -/
def splitHostAndPort (hostAndPort : Octets) : Option (Octets × Octets) :=
  let colon : UInt8 := 0x3A
  if hostAndPort.head? = some 0x5B then
    -- a bracketed IPv6 literal
    let literal := hostAndPort.drop 1
    if literal.contains 0x5D then
      let after := (literal.dropWhile (· ≠ 0x5D)).drop 1
      let host := literal.takeWhile (· ≠ 0x5D)
      if after = [] then some (host, [])
      else if after.head? ≠ some colon then none
      else some (host, after.drop 1)
    else none
  else if hostAndPort.contains colon then
    let reversed := hostAndPort.reverse
    some (((reversed.dropWhile (· ≠ colon)).drop 1).reverse,
      (reversed.takeWhile (· ≠ colon)).reverse)
  else some (hostAndPort, [])

/-- `ParseHubUri`. -/
def parseHubUri (uri : Octets) : Option HubAddress :=
  let scheme := octetsOf "wss://"
  if uri.take scheme.length ≠ scheme then none
  else
    let rest := uri.drop scheme.length
    let hostAndPort := rest.takeWhile (· ≠ 0x2F)
    let path := if rest.contains 0x2F then rest.dropWhile (· ≠ 0x2F) else octetsOf "/"
    match splitHostAndPort hostAndPort with
    | none => none
    | some (host, portText) =>
      if host = [] then none
      else if portText = [] then some ⟨host, 443, path⟩
      else
        let (parsedPort, parseEnd) := strtol (cString portText)
        if parseEnd ≠ [] ∨ parsedPort < 1 ∨ parsedPort > 65535 then none
        else some ⟨host, parsedPort, path⟩

/-- A hub to dial. -/
def hubUri : Octets := octetsOf "wss://hub:4443"

example : parseHubUri hubUri = some ⟨octetsOf "hub", 4443, octetsOf "/"⟩ := by decide

example : parseHubUri (octetsOf "wss://[fd00::1]:4443/hub") =
    some ⟨octetsOf "fd00::1", 4443, octetsOf "/hub"⟩ := by decide

/-! ## The state -/

/-- `MAX_RECEIVED_FRAME_OCTETS`. -/
def maxReceivedFrameOctets : Nat := 1600

/-- `MAX_QUEUED_FRAMES`. -/
def maxQueuedFrames : Nat := 64

/-- `WebSocketStatus`, as far as it is reported. -/
inductive WebSocketStatus
  | connected
  | disconnected
  | error
deriving DecidableEq, Repr

structure StatusEvent where
  uri : Octets
  status : WebSocketStatus
deriving DecidableEq, Repr

structure ReceivedFrame where
  uri : Octets
  data : Octets
deriving DecidableEq, Repr

/-- `Connection`. A socket is a number. -/
structure Connection where
  socket : Option Nat := none
  isOpen : Bool := false
  closeRequested : Bool := false
  sendQueue : List Octets := []
  receiveAssembly : Octets := []
  receiveOverflow : Bool := false
deriving DecidableEq, Repr

/-- The globals. `context` is that `g_context` is not NULL. -/
structure Connector where
  context : Bool
  connections : Std.ExtTreeMap Octets Connection
  statusEvents : List StatusEvent
  receivedFrames : List ReceivedFrame
  reloading : Bool

namespace Connector

/-- After `Start`, which could create the context or not. -/
def started (created : Bool) : Connector := ⟨created, ∅, [], [], false⟩

def connection (k : Connector) (uri : Octets) : Connection := k.connections[uri]?.getD {}

def setConnection (k : Connector) (uri : Octets) (c : Connection) : Connector :=
  { k with connections := k.connections.insert uri c }

/-- `QueueStatus`. -/
def queueStatus (k : Connector) (uri : Octets) (status : WebSocketStatus) : Connector :=
  { k with statusEvents := k.statusEvents ++ [⟨uri, status⟩] }

/-- `g_receivedFrames.push_back`. -/
def pushFrame (k : Connector) (uri : Octets) (data : Octets) : Connector :=
  { k with receivedFrames := k.receivedFrames ++ [⟨uri, data⟩] }

end Connector

/-! ## The callback -/

/-- `lws_callback_reasons`, with what libwebsockets answers when it is asked during the callback. -/
inductive Reason
  | established
  | connectionError
  | closed
  /-- A fragment: `lws_frame_is_binary`, `lws_is_final_fragment`, and its octets. -/
  | receive (isBinary isFinal : Bool) (octets : Octets)
  /-- What `lws_write` returns, if it is called. -/
  | writeable (written : Int)
  | other
deriving DecidableEq, Repr

/-- What the callback has done with an event: the entry, its result, and what it has queued or
written. -/
structure Handled where
  connection : Connection
  result : Int := 0
  status : Option WebSocketStatus := none
  frame : Option Octets := none
  written : Option Octets := none
deriving DecidableEq, Repr

namespace Connection

/-- The fragment is put to those before it, or the message is too large. -/
def assemble (c : Connection) (octets : Octets) : Connection :=
  if c.receiveOverflow then c
  else if c.receiveAssembly.length + octets.length > maxReceivedFrameOctets then
    { c with receiveOverflow := true, receiveAssembly := [] }
  else { c with receiveAssembly := c.receiveAssembly ++ octets }

/-- `LWS_CALLBACK_CLIENT_RECEIVE`. -/
def receive (c : Connection) (isBinary isFinal : Bool) (octets : Octets) : Handled :=
  if !isBinary then { connection := c }
  else
    let c := c.assemble octets
    if isFinal then
      { connection := { c with receiveAssembly := [], receiveOverflow := false }
        frame := if !c.receiveOverflow && !c.receiveAssembly.isEmpty then some c.receiveAssembly
          else none }
    else { connection := c }

/-- `LWS_CALLBACK_CLIENT_WRITEABLE`. -/
def writeable (c : Connection) (written : Int) : Handled :=
  if c.closeRequested then { connection := c, result := -1 }
  else
    match c.sendQueue with
    | [] => { connection := c }
    | frame :: frames =>
      if written < frame.length then { connection := c, result := -1 }
      else { connection := { c with sendQueue := frames }, written := some frame }

/-- The end of an attempt or of a connection. -/
def ended (c : Connection) : Connection :=
  { c with isOpen := false, socket := none, sendQueue := [] }

/-- The connection takes another frame. -/
def accepts (c : Connection) : Bool :=
  c.isOpen && c.socket.isSome && c.sendQueue.length < maxQueuedFrames

/-- There is a socket, or something to report. -/
def isInUse (c : Connection) : Bool := c.socket.isSome || c.isOpen

/-- The switch of `HubProtocolCallback`, for the entry's current socket. -/
def handle (c : Connection) (socket : Nat) : Reason → Handled
  | .established =>
    { connection := { c with isOpen := true, socket := some socket }, status := some .connected }
  | .connectionError => { connection := c.ended, status := some .error }
  | .closed => { connection := c.ended, status := some .disconnected }
  | .receive isBinary isFinal octets => c.receive isBinary isFinal octets
  | .writeable written => c.writeable written
  | .other => { connection := c }

end Connection

/-- A superseded attempt that is up or still talking is closed. -/
def staleResult : Reason → Int
  | .established => -1
  | .receive _ _ _ => -1
  | .writeable _ => -1
  | _ => 0

namespace Connector

/-- What the callback has queued. -/
def store (k : Connector) (uri : Octets) (h : Handled) : Connector :=
  let k := k.setConnection uri h.connection
  let k := match h.status with
    | some status => k.queueStatus uri status
    | none => k
  match h.frame with
  | some data => k.pushFrame uri data
  | none => k

/-- `HubProtocolCallback`: the state, the result, and the frame that was written. `user` is the
entry that the socket was opened for. -/
def hubProtocolCallback (k : Connector) (user : Option Octets) (socket : Nat) (reason : Reason) :
    Connector × Int × Option Octets :=
  match user with
  | none => (k, 0, none)
  | some uri =>
    if k.reloading then (k, 0, none)
    else if (k.connection uri).socket ≠ some socket then (k, staleResult reason, none)
    else
      let h := (k.connection uri).handle socket reason
      (k.store uri h, h.result, h.written)

end Connector

/-! ## The calls of the node -/

/-- How `lws_client_connect_via_info` goes: it returns the new socket, or NULL, after it has
reported the error for that socket or without. -/
inductive Via
  | socket (socket : Nat)
  | null (socket : Nat) (reported : Bool)
deriving DecidableEq, Repr

namespace Via

/-- The socket that libwebsockets makes for the attempt. -/
def made : Via → Nat
  | socket s => s
  | null s _ => s

/-- What `lws_client_connect_via_info` returns. -/
def result : Via → Option Nat
  | socket s => some s
  | null _ _ => none

end Via

namespace Connector

/-- The call of `lws_client_connect_via_info`: what its callbacks do, and what it returns. -/
def clientConnectViaInfo (k : Connector) (uri : Octets) : Via → Connector × Option Nat
  | .socket socket => (k, some socket)
  | .null socket reported =>
    (if reported then (k.hubProtocolCallback (some uri) socket .connectionError).1 else k, none)

/-- The last event in the queue is for `uri`. -/
def lastEventIsFor (k : Connector) (uri : Octets) : Bool :=
  match k.statusEvents.getLast? with
  | some event => event.uri = uri
  | none => false

/-- `Connect`. -/
def connect (k : Connector) (uri : Octets) (via : Via) : Connector × Bool :=
  if !k.context then (k, false)
  else
    match parseHubUri uri with
    | none => (k, false)
    | some _ =>
      -- an earlier attempt's socket is left to libwebsockets to close
      let k := k.setConnection uri {}
      let (k, socket) := k.clientConnectViaInfo uri via
      let k := k.setConnection uri { k.connection uri with socket := socket }
      match socket with
      | some _ => (k, true)
      | none =>
        -- a failure that has not already been reported, going by the last event
        (if k.lastEventIsFor uri then k else k.queueStatus uri .error, true)

/-- `Disconnect`. -/
def disconnect (k : Connector) (uri : Octets) : Connector :=
  if (k.connection uri).socket = none then k
  else k.setConnection uri { k.connection uri with closeRequested := true }

/-- `Send`. -/
def send (k : Connector) (uri : Octets) (data : Octets) : Connector × Bool :=
  let c := k.connection uri
  if c.accepts then (k.setConnection uri { c with sendQueue := c.sendQueue ++ [data] }, true)
  else (k, false)

/-- `PopStatusEvent`. -/
def popStatusEvent (k : Connector) : Connector × Option StatusEvent :=
  match k.statusEvents with
  | [] => (k, none)
  | event :: events => ({ k with statusEvents := events }, some event)

/-- `PopReceived`. -/
def popReceived (k : Connector) : Connector × Option ReceivedFrame :=
  match k.receivedFrames with
  | [] => (k, none)
  | frame :: frames => ({ k with receivedFrames := frames }, some frame)

/-- The callbacks of `lws_context_destroy`, for sockets and their entries. -/
def contextDestroy (k : Connector) : List (Option Octets × Nat × Reason) → Connector
  | [] => k
  | (user, socket, reason) :: callbacks =>
    (k.hubProtocolCallback user socket reason).1.contextDestroy callbacks

/-- The loop of `ReloadCredentials`: each entry in use is ended and reported, in the order of the
URIs. -/
def endConnections (k : Connector) : Connector :=
  { k with
    connections := k.connections.map fun _ c => if c.isInUse then c.ended else c
    statusEvents := k.statusEvents ++ (k.connections.toList.filter fun entry =>
      entry.2.isInUse).map fun entry => ⟨entry.1, .disconnected⟩ }

/-- `ReloadCredentials`: `callbacks` are those of the context that is destroyed, and `created` is
the result of `CreateContext`. -/
def reloadCredentials (k : Connector) (callbacks : List (Option Octets × Nat × Reason))
    (created : Bool) : Connector × Bool :=
  let k := k.endConnections
  let k := if k.context then
      { ({ k with reloading := true } : Connector).contextDestroy callbacks with
        reloading := false, context := false }
    else k
  ({ k with context := created }, created)

end Connector

end Hub

end BacnetBc
