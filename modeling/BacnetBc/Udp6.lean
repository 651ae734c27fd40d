import BacnetBc.Lib.Dedup
import BacnetBc.Lib.RoundRobin
import BacnetBc.Udp
import Mathlib

/-!
# BACnet/IPv6

A link-local IPv6 address means nothing without the interface it is on, and the 18 octets of a
BACnet/IPv6 address do not say it. So the socket (`SimpleUDP6`) keeps the interface each link-local
sender was heard on, in a table of 32 slots, and sends to a link-local address on that interface. A
BACnet broadcast goes to the multicast group, once on each interface the group was joined on.

**Theorem (`answer_scope`).** After any row of datagrams, an answer to one of them goes to the
address and the port it came from. It leaves, for a link-local address, on the interface where the
address was heard last, as long as it is one of the last 32 that were new to the table, and on the
default interface otherwise (`scopeOf`). Up to 32 link-local senders are never forgotten.

**Theorem (`broadcast_scopes`).** A broadcast leaves once on each of the interfaces that are up, can
multicast and are not the loopback, of the first 16 of them, on which the group could be joined; and
once on the default interface if there is none.

**Theorem (`getLocalIPv6Address_eq`).** The address the host reports is the first global one of the
interface that comes first, and the first one if all of them are link-local.

The host's answers (`Host`, `SendTo6`) are parameters.
-/

namespace BacnetBc

open Memory

/-! ## Addresses -/

/-- An IPv6 address. -/
abbrev Ipv6 := {octets : Octets // octets.length = 16}

namespace Ipv6

/-- FF02::BAC0. -/
def defaultGroup : Ipv6 := ⟨[0xFF, 0x02, 0, 0, 0, 0, 0, 0, 0, 0, 0, 0, 0, 0, 0xBA, 0xC0], rfl⟩

/-- `IsLinkLocal`: fe80::/10. -/
def isLinkLocal (address : Ipv6) : Bool :=
  address.val.getD 0 0 == 0xFE && address.val.getD 1 0 &&& 0xC0 == 0x80

/-- The address in the first 16 octets. -/
def ofOctets (octets : Octets) : Access Ipv6 :=
  if h : 16 ≤ octets.length then .ok ⟨octets.take 16, by simp [h]⟩ else .error (.readOutside 15)

end Ipv6

/-- The UDP port behind an IPv6 address. -/
def portOf6 (octets : Octets) : Access UInt16 := do
  return (← read octets 16).toUInt16 <<< 8 ||| (← read octets 17).toUInt16

/-- `struct ifaddrs`: an entry without an IPv6 address has none here. -/
structure InterfaceEntry where
  name : Octets
  address : Option Ipv6
  up : Bool
  loopback : Bool
  multicast : Bool
deriving DecidableEq

/-- What the operating system answers. -/
structure Host where
  socket : Bool
  bind : UInt16 → Bool
  getifaddrs : Option (List InterfaceEntry)
  nameToIndex : Octets → UInt32
  joinGroup : Ipv6 → UInt32 → Bool

/-! ## The socket -/

structure SimpleUDP6 where
  hasSocket : Bool
  connected : Bool
  localPort : UInt16
  group : Ipv6
  interfaces : List UInt32
  /-- `m_interfaces` has room. -/
  interfaces_le : interfaces.length ≤ 16
  senders : RoundRobin.Table Ipv6 UInt32 32

structure Datagram6 where
  address : Ipv6
  port : UInt16
  scopeId : UInt32
  message : Octets
deriving DecidableEq

/-- What is asked of the socket in order to send. -/
inductive SocketCall
  | multicastInterface (interfaceIndex : UInt32)
  | sendTo (datagram : Datagram6)
deriving DecidableEq

/-- What `sendto` returns for a datagram, after the calls before. -/
abbrev SendTo6 := List SocketCall → Datagram6 → Int

structure Transmission6 where
  calls : List SocketCall
  count : UInt16
deriving DecidableEq

/-- A datagram that waits in the socket. -/
structure Arrival where
  address : Ipv6
  port : UInt16
  scopeId : UInt32
  message : Octets
deriving DecidableEq

/-- The entries of interfaces that can carry a BACnet broadcast. -/
def InterfaceEntry.canMulticast (entry : InterfaceEntry) : Bool :=
  entry.address.isSome && entry.up && !entry.loopback && entry.multicast

/-- The loop of `ListMulticastInterfaces`. -/
def collectInterfaces (nameToIndex : Octets → UInt32) (maximum : Nat) :
    List InterfaceEntry → List UInt32 → List UInt32
  | [], indexes => indexes
  | entry :: rest, indexes =>
    if maximum ≤ indexes.length then indexes
    else if !entry.canMulticast then collectInterfaces nameToIndex maximum rest indexes
    else
      let index := nameToIndex entry.name
      let known := indexes.contains index
      collectInterfaces nameToIndex maximum rest
        (if index != 0 && !known then indexes ++ [index] else indexes)

/-- `ListMulticastInterfaces`. -/
def listMulticastInterfaces (host : Host) (maximum : Nat) : List UInt32 :=
  match host.getifaddrs with
  | none => []
  | some entries => collectInterfaces host.nameToIndex maximum entries []

theorem length_collectInterfaces (nameToIndex : Octets → UInt32) (maximum : Nat)
    (entries : List InterfaceEntry) (indexes : List UInt32) (h : indexes.length ≤ maximum) :
    (collectInterfaces nameToIndex maximum entries indexes).length ≤ maximum := by
  induction entries generalizing indexes with
  | nil => exact h
  | cons entry rest ih =>
    rw [collectInterfaces]
    split_ifs with hfull husable
    · exact h
    · exact ih _ h
    · apply ih
      split_ifs
      · rw [List.length_append, List.length_singleton]
        omega
      · exact h

theorem length_listMulticastInterfaces (host : Host) (maximum : Nat) :
    (listMulticastInterfaces host maximum).length ≤ maximum := by
  unfold listMulticastInterfaces
  split
  · exact Nat.zero_le _
  · exact length_collectInterfaces _ _ _ _ (Nat.zero_le _)

namespace SimpleUDP6

def MAX_INTERFACES : Nat := 16

/-- The constructor. -/
def new : SimpleUDP6 where
  hasSocket := false
  connected := false
  localPort := 0
  group := .defaultGroup
  interfaces := []
  interfaces_le := Nat.zero_le _
  senders := RoundRobin.empty Ipv6 UInt32 (by decide)

def disconnect (s : SimpleUDP6) : SimpleUDP6 :=
  { s with
    hasSocket := false
    connected := false
    interfaces := []
    interfaces_le := Nat.zero_le _ }

/-- The interfaces on which `Connect` tries to join the group. -/
def candidates (host : Host) (interfaceIndex : UInt32) : List UInt32 :=
  if interfaceIndex != 0 then [interfaceIndex] else listMulticastInterfaces host MAX_INTERFACES

theorem length_candidates (host : Host) (interfaceIndex : UInt32) :
    (candidates host interfaceIndex).length ≤ 16 := by
  unfold candidates
  split_ifs
  · exact Nat.le_of_ble_eq_true rfl
  · exact length_listMulticastInterfaces host 16

/-- `Connect`, and whether it succeeded. -/
def connect (host : Host) (s : SimpleUDP6) (localPort : UInt16) (interfaceIndex : UInt32)
    (multicastGroup : Option Ipv6) : SimpleUDP6 × Bool :=
  if !host.socket then ({ s with hasSocket := false }, false)
  else
    let group := multicastGroup.getD .defaultGroup
    let s := { s with hasSocket := true, group := group }
    if !host.bind localPort then (s.disconnect, false)
    else
      ({ s with
          connected := true
          localPort := localPort
          interfaces := (candidates host interfaceIndex).filter (host.joinGroup group)
          interfaces_le :=
            (List.length_filter_le _ _).trans (length_candidates host interfaceIndex) },
        true)

/-- `RememberSender`. -/
def rememberSender (s : SimpleUDP6) (address : Ipv6) (interfaceIndex : UInt32) : SimpleUDP6 :=
  if interfaceIndex == 0 || !address.isLinkLocal then s
  else { s with senders := RoundRobin.remember s.senders address interfaceIndex }

/-- The first interface the group was joined on. -/
def defaultInterface (s : SimpleUDP6) : UInt32 := s.interfaces.headD 0

/-- `InterfaceOf`. -/
def interfaceOf (s : SimpleUDP6) (address : Ipv6) : UInt32 :=
  (RoundRobin.lookup s.senders address).getD s.defaultInterface

/-- The count of a `sendto`. -/
def countOf (sent : Int) : UInt16 := if 0 < sent then UInt16.ofInt sent else 0

/-- `Send`. -/
def send (sendTo : SendTo6) (s : SimpleUDP6) (address : Ipv6) (port : UInt16) (data : Octets) :
    Transmission6 :=
  if !s.connected then ⟨[], 0⟩
  else
    let scopeId := if address.isLinkLocal then s.interfaceOf address else 0
    let datagram : Datagram6 := ⟨address, port, scopeId, data⟩
    ⟨[.sendTo datagram], countOf (sendTo [] datagram)⟩

/-- The broadcast on one interface. -/
def multicastOn (s : SimpleUDP6) (data : Octets) (interfaceIndex : UInt32) : Datagram6 :=
  ⟨s.group, s.localPort, interfaceIndex, data⟩

/-- The loop of `SendMulticast`. -/
def multicastLoop (sendTo : SendTo6) (s : SimpleUDP6) (data : Octets) :
    List UInt32 → List SocketCall → UInt16 → Transmission6
  | [], calls, firstSent => ⟨calls, firstSent⟩
  | interfaceIndex :: rest, calls, firstSent =>
    let calls := calls ++ [.multicastInterface interfaceIndex]
    let datagram := s.multicastOn data interfaceIndex
    let sent := sendTo calls datagram
    multicastLoop sendTo s data rest (calls ++ [.sendTo datagram])
      (if 0 < sent && firstSent == 0 then UInt16.ofInt sent else firstSent)

/-- The interfaces a broadcast leaves on. -/
def multicastInterfaces (s : SimpleUDP6) : List UInt32 :=
  if s.interfaces.isEmpty then [0] else s.interfaces

/-- `SendMulticast`. -/
def sendMulticast (sendTo : SendTo6) (s : SimpleUDP6) (data : Octets) : Transmission6 :=
  if !s.connected then ⟨[], 0⟩ else multicastLoop sendTo s data s.multicastInterfaces [] 0

/-- `Receive`: what `recvfrom` copied, and from where. -/
def receive (s : SimpleUDP6) (arrival : Option Arrival) (maxLength : UInt16) :
    SimpleUDP6 × Option (Octets × Ipv6 × UInt16) :=
  if !s.connected then (s, none)
  else
    match arrival with
    | none => (s, none)
    | some arrival =>
      let received := arrival.message.take maxLength.toNat
      if received.isEmpty then (s, none)
      else (s.rememberSender arrival.address arrival.scopeId,
        some (received, arrival.address, arrival.port))

end SimpleUDP6

/-! ## The data link -/

/-- A peer's connection string. -/
def connectionString6 (address : Ipv6) (port : UInt16) : ConnectionString where
  pointer := some (address.val ++ [portHigh port, portLow port])
  length := 18
  length_le := by simp [address.2]

/-- `ReceiveFromUdp` on BACnet/IPv6: the message and the connection string for the stack. -/
def receiveFromUdp6 (s : SimpleUDP6) (arrival : Option Arrival) (maxMessageLength : UInt16)
    (maxConnectionStringLength : UInt8) : SimpleUDP6 × Option (Octets × ConnectionString) :=
  if maxConnectionStringLength < 18 then (s, none)
  else
    match s.receive arrival maxMessageLength with
    | (s, none) => (s, none)
    | (s, some (message, address, port)) => (s, some (message, connectionString6 address port))

/-- `SendToUdp6`. -/
def sendToUdp6 (sendTo : SendTo6) (s : SimpleUDP6) (message : Message)
    (connectionString : ConnectionString) (broadcast : Bool) : Access Transmission6 :=
  match broadcast, connectionString.octets with
  | false, some octets =>
    if connectionString.length < 18 then .ok ⟨[], 0⟩
    else do
      let port ← portOf6 octets
      return s.send sendTo (← Ipv6.ofOctets octets) port message.octets
  | _, _ => .ok (s.sendMulticast sendTo message.octets)

/-- The socket after start-up, if the program goes on. -/
def startUp6 (host : Host) (udpPort : UInt16) (ipv6InterfaceIndex : UInt32) : Option SimpleUDP6 :=
  match SimpleUDP6.new.connect host udpPort ipv6InterfaceIndex none with
  | (s, true) => some s
  | (_, false) => none

/-- A call of the receive callback: what waits in the socket, and the room the stack gives. -/
structure Reception where
  arrival : Option Arrival
  maxMessageLength : UInt16
  maxConnectionStringLength : UInt8

/-- The socket after the stack has received, call by call. Sending does not change it. -/
def session (s : SimpleUDP6) (receptions : List Reception) : SimpleUDP6 :=
  receptions.foldl
    (fun s r => (receiveFromUdp6 s r.arrival r.maxMessageLength r.maxConnectionStringLength).1) s

/-! ## The host's address -/

/-- The entries `GetLocalIPv6Address` chooses from. -/
def InterfaceEntry.isCandidate (nameToIndex : Octets → UInt32) (interfaceIndex : UInt32)
    (entry : InterfaceEntry) : Bool :=
  entry.address.isSome && entry.up && !entry.loopback &&
    (interfaceIndex == 0 || nameToIndex entry.name == interfaceIndex)

def InterfaceEntry.isLinkLocal (entry : InterfaceEntry) : Bool :=
  entry.address.any Ipv6.isLinkLocal

/-- The loop of `GetLocalIPv6Address`. -/
def chooseEntry (nameToIndex : Octets → UInt32) (interfaceIndex : UInt32) :
    List InterfaceEntry → Option InterfaceEntry → Option InterfaceEntry
  | [], chosen => chosen
  | entry :: rest, chosen =>
    if !entry.isCandidate nameToIndex interfaceIndex then
      chooseEntry nameToIndex interfaceIndex rest chosen
    else
      chooseEntry nameToIndex interfaceIndex rest <|
        match chosen with
        | none => some entry
        | some chosen =>
          if chosen.name == entry.name && !entry.isLinkLocal && chosen.isLinkLocal then some entry
          else some chosen

/-- `GetLocalIPv6Address`: the entry the address is taken from. -/
def getLocalIPv6Address (host : Host) (interfaceIndex : UInt32) : Option InterfaceEntry :=
  match host.getifaddrs with
  | none => none
  | some entries => chooseEntry host.nameToIndex interfaceIndex entries none

/-! ## What arrives -/

/-- The datagram that a call of the receive callback takes out of a connected socket. -/
def Reception.taken (r : Reception) : Option Arrival :=
  if r.maxConnectionStringLength < 18 then none
  else r.arrival.filter fun a => !(a.message.take r.maxMessageLength.toNat).isEmpty

/-- The link-local senders that were heard, with the interface, in this order. -/
def heard (receptions : List Reception) : List (Ipv6 × UInt32) :=
  receptions.filterMap fun r =>
    (r.taken.filter fun a => a.scopeId != 0 && a.address.isLinkLocal).map fun a =>
      (a.address, a.scopeId)

theorem receive_of_connected {s : SimpleUDP6} (h : s.connected = true) (r : Reception) :
    receiveFromUdp6 s r.arrival r.maxMessageLength r.maxConnectionStringLength =
      match r.taken with
      | none => (s, none)
      | some a => (s.rememberSender a.address a.scopeId,
          some (a.message.take r.maxMessageLength.toNat, connectionString6 a.address a.port)) := by
  unfold receiveFromUdp6 Reception.taken SimpleUDP6.receive
  by_cases hroom : r.maxConnectionStringLength < 18
  · rw [if_pos hroom, if_pos hroom]
  · rw [if_neg hroom, if_neg hroom, h, if_neg (by decide)]
    cases r.arrival with
    | none => rfl
    | some a => cases hempty : (a.message.take r.maxMessageLength.toNat).isEmpty <;>
        simp [Option.filter_some, hempty]

namespace SimpleUDP6

@[simp] theorem rememberSender_connected (s : SimpleUDP6) (address : Ipv6) (i : UInt32) :
    (s.rememberSender address i).connected = s.connected := by
  unfold rememberSender
  split <;> rfl

@[simp] theorem rememberSender_localPort (s : SimpleUDP6) (address : Ipv6) (i : UInt32) :
    (s.rememberSender address i).localPort = s.localPort := by
  unfold rememberSender
  split <;> rfl

@[simp] theorem rememberSender_group (s : SimpleUDP6) (address : Ipv6) (i : UInt32) :
    (s.rememberSender address i).group = s.group := by
  unfold rememberSender
  split <;> rfl

@[simp] theorem rememberSender_interfaces (s : SimpleUDP6) (address : Ipv6) (i : UInt32) :
    (s.rememberSender address i).interfaces = s.interfaces := by
  unfold rememberSender
  split <;> rfl

theorem rememberSender_senders (s : SimpleUDP6) (a : Arrival) :
    (s.rememberSender a.address a.scopeId).senders =
      RoundRobin.run s.senders ((((some a).filter fun a =>
        a.scopeId != 0 && a.address.isLinkLocal).map fun a => (a.address, a.scopeId)).toList) := by
  unfold rememberSender
  cases hzero : a.scopeId == 0 <;> cases hlocal : a.address.isLinkLocal <;>
    simp [bne, Option.filter_some, hzero, hlocal, RoundRobin.run]

end SimpleUDP6

/-- What a row of datagrams leaves as it was, and what it leaves in the table. -/
structure AfterSession (s s' : SimpleUDP6) (receptions : List Reception) : Prop where
  connected : s'.connected = true
  localPort : s'.localPort = s.localPort
  group : s'.group = s.group
  interfaces : s'.interfaces = s.interfaces
  senders : s'.senders = RoundRobin.run s.senders (heard receptions)

theorem after_session {s : SimpleUDP6} (h : s.connected = true) (receptions : List Reception) :
    AfterSession s (session s receptions) receptions := by
  induction receptions using List.reverseRecOn with
  | nil => exact ⟨h, rfl, rfl, rfl, rfl⟩
  | append_singleton receptions r ih =>
    have hstep : session s (receptions ++ [r]) =
        (receiveFromUdp6 (session s receptions) r.arrival r.maxMessageLength
          r.maxConnectionStringLength).1 := by
      rw [session, List.foldl_append]
      rfl
    have hheard : heard (receptions ++ [r]) = heard receptions ++ (((r.taken.filter fun a =>
        a.scopeId != 0 && a.address.isLinkLocal).map fun a => (a.address, a.scopeId)).toList) := by
      rw [heard, List.filterMap_append, List.filterMap_cons, List.filterMap_nil]
      cases (r.taken.filter fun a => a.scopeId != 0 && a.address.isLinkLocal).map fun a =>
        (a.address, a.scopeId) <;> rfl
    have hrun : ∀ l, RoundRobin.run s.senders (heard receptions ++ l) =
        RoundRobin.run (session s receptions).senders l := by
      intro l
      rw [ih.senders, RoundRobin.run, RoundRobin.run, RoundRobin.run, List.foldl_append]
    rw [hstep, receive_of_connected ih.connected]
    cases htaken : r.taken with
    | none =>
      refine ⟨ih.connected, ih.localPort, ih.group, ih.interfaces, ?_⟩
      rw [hheard, htaken]
      exact (hrun []).symm
    | some a =>
      refine ⟨?_, ?_, ?_, ?_, ?_⟩
      · exact (SimpleUDP6.rememberSender_connected _ _ _).trans ih.connected
      · exact (SimpleUDP6.rememberSender_localPort _ _ _).trans ih.localPort
      · exact (SimpleUDP6.rememberSender_group _ _ _).trans ih.group
      · exact (SimpleUDP6.rememberSender_interfaces _ _ _).trans ih.interfaces
      · rw [hheard, htaken, hrun]
        exact SimpleUDP6.rememberSender_senders _ a

/-- The socket after start-up. -/
structure Started (host : Host) (udpPort : UInt16) (ipv6InterfaceIndex : UInt32) (s : SimpleUDP6) :
    Prop where
  connected : s.connected = true
  localPort : s.localPort = udpPort
  group : s.group = .defaultGroup
  interfaces : s.interfaces =
    (SimpleUDP6.candidates host ipv6InterfaceIndex).filter (host.joinGroup .defaultGroup)
  senders : s.senders = RoundRobin.empty Ipv6 UInt32 (by decide)

theorem started {host : Host} {udpPort : UInt16} {ipv6InterfaceIndex : UInt32} {s : SimpleUDP6}
    (h : startUp6 host udpPort ipv6InterfaceIndex = some s) :
    Started host udpPort ipv6InterfaceIndex s := by
  unfold startUp6 SimpleUDP6.connect at h
  cases hsocket : host.socket with
  | false =>
    rw [hsocket] at h
    cases h
  | true =>
    rw [hsocket, if_neg (by decide)] at h
    cases hbind : host.bind udpPort with
    | false =>
      simp only [hbind] at h
      cases h
    | true =>
      simp only [hbind] at h
      cases h
      exact ⟨rfl, rfl, rfl, rfl, rfl⟩

/-! ## An answer -/

/-- The interface for an address, after the senders that were heard. -/
def scopeOf (defaultInterface : UInt32) (heard : List (Ipv6 × UInt32)) (address : Ipv6) : UInt32 :=
  if address.isLinkLocal then (RoundRobin.remembered 32 heard address).getD defaultInterface else 0

theorem connectionString6_octets (address : Ipv6) (port : UInt16) :
    (connectionString6 address port).octets =
      some (address.val ++ [portHigh port, portLow port]) := rfl

theorem portOf6_append (address : Ipv6) (port : UInt16) :
    portOf6 (address.val ++ [portHigh port, portLow port]) = .ok port := by
  have hhigh : Memory.read (address.val ++ [portHigh port, portLow port]) 16 =
      .ok (portHigh port) := by
    rw [Memory.read, List.getElem?_append_right address.2.le, address.2]
    rfl
  have hlow : Memory.read (address.val ++ [portHigh port, portLow port]) 17 =
      .ok (portLow port) := by
    rw [Memory.read, List.getElem?_append_right (address.2.le.trans (by decide)), address.2]
    rfl
  rw [portOf6, hhigh, ok_bind, hlow, ok_bind, port_octets]
  rfl

theorem ofOctets_append (address : Ipv6) (rest : Octets) :
    Ipv6.ofOctets (address.val ++ rest) = .ok address := by
  have hle : 16 ≤ (address.val ++ rest).length := by
    rw [List.length_append, address.2]
    exact Nat.le_add_right 16 _
  rw [Ipv6.ofOctets, dif_pos hle]
  have htake : (address.val ++ rest).take 16 = address.val := by
    rw [List.take_append_of_le_length address.2.ge]
    exact List.take_of_length_le address.2.le
  exact congrArg Except.ok (Subtype.ext htake)

theorem interfaceOf_run {s : SimpleUDP6} {heard : List (Ipv6 × UInt32)} (address : Ipv6)
    (h : s.senders = RoundRobin.run (RoundRobin.empty Ipv6 UInt32 (by decide)) heard) :
    (if address.isLinkLocal then s.interfaceOf address else 0) =
      scopeOf s.defaultInterface heard address := by
  rw [scopeOf, SimpleUDP6.interfaceOf, h, RoundRobin.lookup_run]

/-- Up to 32 link-local senders are never forgotten. -/
theorem scopeOf_of_few {heard : List (Ipv6 × UInt32)} (h : (heard.map Prod.fst).dedup.length ≤ 32)
    (defaultInterface : UInt32) (address : Ipv6) :
    scopeOf defaultInterface heard address =
      if address.isLinkLocal then (LastWins.last heard address).getD defaultInterface else 0 := by
  rw [scopeOf, RoundRobin.recall_of_few h]

theorem sendToUdp6_octets (sendTo : SendTo6) (s : SimpleUDP6) (message : Message)
    {connectionString : ConnectionString} {octets : Octets}
    (hoctets : connectionString.octets = some octets) (hlength : ¬ connectionString.length < 18) :
    sendToUdp6 sendTo s message connectionString false = (do
      let port ← portOf6 octets
      return s.send sendTo (← Ipv6.ofOctets octets) port message.octets) := by
  unfold sendToUdp6
  rw [hoctets]
  exact if_neg hlength

theorem sendToUdp6_unicast (sendTo : SendTo6) {s : SimpleUDP6} (h : s.connected = true)
    (message : Message) (address : Ipv6) (port : UInt16) :
    let datagram : Datagram6 := ⟨address, port,
      if address.isLinkLocal then s.interfaceOf address else 0, message.octets⟩
    sendToUdp6 sendTo s message (connectionString6 address port) false =
      .ok ⟨[.sendTo datagram], SimpleUDP6.countOf (sendTo [] datagram)⟩ := by
  intro datagram
  have hlength : ¬ (connectionString6 address port).length < 18 := by
    change ¬ (18 : UInt8) < 18
    decide
  rw [sendToUdp6_octets sendTo s message (connectionString6_octets address port) hlength,
    portOf6_append, ok_bind, ofOctets_append, ok_bind, SimpleUDP6.send, h]
  rfl

/-- **An answer goes back where the request came from.** The request `r` may be followed by any
others. -/
theorem answer_scope (sendTo : SendTo6) {host : Host} {udpPort : UInt16}
    {ipv6InterfaceIndex : UInt32} {s : SimpleUDP6}
    (h : startUp6 host udpPort ipv6InterfaceIndex = some s) (before : List Reception)
    {r : Reception} {request : Arrival} (hr : r.taken = some request) (later : List Reception)
    (answer : Message) :
    ∃ received connectionString,
      (receiveFromUdp6 (session s before) r.arrival r.maxMessageLength
        r.maxConnectionStringLength).2 = some (received, connectionString) ∧
      let heard := heard (before ++ r :: later)
      let scopeId := scopeOf s.defaultInterface heard request.address
      let datagram : Datagram6 := ⟨request.address, request.port, scopeId, answer.octets⟩
      sendToUdp6 sendTo (session s (before ++ r :: later)) answer connectionString false =
          .ok ⟨[.sendTo datagram], SimpleUDP6.countOf (sendTo [] datagram)⟩ ∧
        ((heard.map Prod.fst).dedup.length ≤ 32 → scopeId =
          if request.address.isLinkLocal then
            (LastWins.last heard request.address).getD s.defaultInterface
          else 0) := by
  have hstarted := started h
  have hbefore := after_session hstarted.connected before
  have hafter := after_session hstarted.connected (before ++ r :: later)
  refine ⟨request.message.take r.maxMessageLength.toNat,
    connectionString6 request.address request.port, ?_, ?_, fun hfew => scopeOf_of_few hfew _ _⟩
  · rw [receive_of_connected hbefore.connected, hr]
  · rw [sendToUdp6_unicast sendTo hafter.connected, interfaceOf_run _ (by
      rw [hafter.senders, hstarted.senders]), SimpleUDP6.defaultInterface, hafter.interfaces]
    rfl

/-! ### A host with two networks -/

/-- The loopback, "e" with index 2 and "w" with index 3. -/
def twoNetworks : Host where
  socket := true
  bind _ := true
  getifaddrs := some [⟨[0x6C], some .defaultGroup, true, true, false⟩,
    ⟨[0x65], some .defaultGroup, true, false, true⟩,
    ⟨[0x77], some .defaultGroup, true, false, true⟩,
    ⟨[0x65], some .defaultGroup, true, false, true⟩]
  nameToIndex name := if name = [0x65] then 2 else if name = [0x77] then 3 else 1
  joinGroup _ _ := true

def onTwoNetworks : SimpleUDP6 := (SimpleUDP6.new.connect twoNetworks 0xBAC0 0 none).1

/-- A Who-Is from fe80::1 on "w". -/
def whoIsFromW : Arrival where
  address := ⟨[0xFE, 0x80, 0, 0, 0, 0, 0, 0, 0, 0, 0, 0, 0, 0, 0, 1], rfl⟩
  port := 0xBAC0
  scopeId := 3
  message := whoIs.octets

/-- The answer leaves on "w" too. -/
theorem answer_to_w :
    let datagram : Datagram6 := ⟨whoIsFromW.address, 0xBAC0, 3, whoIs.octets⟩
    ∃ received connectionString,
      (receiveFromUdp6 onTwoNetworks (some whoIsFromW) 1497 18).2 =
          some (received, connectionString) ∧
        sendToUdp6 (fun _ datagram => datagram.message.length)
            (session onTwoNetworks [⟨some whoIsFromW, 1497, 18⟩]) whoIs connectionString false =
          .ok ⟨[.sendTo datagram], 8⟩ := by
  obtain ⟨received, connectionString, hreceived, hanswer, -⟩ :=
    @answer_scope (fun _ datagram => datagram.message.length) twoNetworks 0xBAC0 0 onTwoNetworks rfl
      [] ⟨some whoIsFromW, 1497, 18⟩ whoIsFromW rfl [] whoIs
  have hscope : scopeOf onTwoNetworks.defaultInterface (heard [⟨some whoIsFromW, 1497, 18⟩])
      whoIsFromW.address = 3 := by decide
  refine ⟨received, connectionString, hreceived, ?_⟩
  dsimp only at hanswer
  rw [List.nil_append, hscope] at hanswer
  exact hanswer

/-! ## The address that is chosen -/

section
variable {nameToIndex : Octets → UInt32} {interfaceIndex : UInt32}

/-- A global address of the same interface takes the place of a link-local one, and stays. -/
theorem chooseEntry_some (entries : List InterfaceEntry) (chosen : InterfaceEntry) :
    chooseEntry nameToIndex interfaceIndex entries (some chosen) =
      some (if chosen.isLinkLocal then
        ((entries.filter (InterfaceEntry.isCandidate nameToIndex interfaceIndex)).find? fun entry =>
          entry.name == chosen.name && !entry.isLinkLocal).getD chosen
      else chosen) := by
  induction entries generalizing chosen with
  | nil => simp [chooseEntry]
  | cons entry rest ih =>
    rw [chooseEntry]
    cases hcandidate : entry.isCandidate nameToIndex interfaceIndex with
    | false =>
      rw [List.filter_cons, hcandidate]
      exact ih chosen
    | true =>
      rw [List.filter_cons, hcandidate]
      rw [Bool.not_true, if_neg Bool.false_ne_true, if_pos rfl, List.find?_cons]
      cases hlocal : chosen.isLinkLocal
      · simp [ih, hlocal]
      · by_cases hname : entry.name = chosen.name
        · cases hglobal : entry.isLinkLocal <;> simp [ih, hname, hglobal, hlocal]
        · have hother : (entry.name == chosen.name) = false := beq_eq_false_iff_ne.2 hname
          have hother' : (chosen.name == entry.name) = false :=
            beq_eq_false_iff_ne.2 (Ne.symm hname)
          rw [hother, hother', Bool.false_and, Bool.false_and, if_neg Bool.false_ne_true, ih,
            hlocal]

/-- **Which address the host reports.** -/
theorem getLocalIPv6Address_eq (host : Host) (interfaceIndex : UInt32) :
    getLocalIPv6Address host interfaceIndex =
      let candidates := (host.getifaddrs.getD []).filter
        (InterfaceEntry.isCandidate host.nameToIndex interfaceIndex)
      candidates.head?.map fun first =>
        (candidates.find? fun entry => entry.name == first.name && !entry.isLinkLocal).getD
          first := by
  unfold getLocalIPv6Address
  cases host.getifaddrs with
  | none => rfl
  | some entries =>
    dsimp only [Option.getD_some]
    induction entries with
    | nil => rfl
    | cons entry rest ih =>
      rw [chooseEntry, List.filter_cons]
      cases hcandidate : entry.isCandidate host.nameToIndex interfaceIndex with
      | false => exact ih
      | true =>
        rw [Bool.not_true, if_neg Bool.false_ne_true, if_pos rfl, chooseEntry_some,
          List.head?_cons, Option.map_some, List.find?_cons]
        cases hlocal : entry.isLinkLocal <;> simp

end

/-! ## A broadcast -/

/-- The indexes of the interfaces that can carry a broadcast, entry by entry. -/
def usableIndexes (nameToIndex : Octets → UInt32) (entries : List InterfaceEntry) : List UInt32 :=
  ((entries.filter InterfaceEntry.canMulticast).map fun entry => nameToIndex entry.name).filter
    (· != 0)

/-- The interfaces on which the group is joined. -/
def joinedInterfaces (host : Host) (ipv6InterfaceIndex : UInt32) : List UInt32 :=
  let candidates :=
    if ipv6InterfaceIndex = 0 then
      (usableIndexes host.nameToIndex (host.getifaddrs.getD [])).eraseDups.take 16
    else [ipv6InterfaceIndex]
  candidates.filter (host.joinGroup .defaultGroup)

theorem usableIndexes_cons (nameToIndex : Octets → UInt32) (entry : InterfaceEntry)
    (rest : List InterfaceEntry) :
    usableIndexes nameToIndex (entry :: rest) =
      (if entry.canMulticast ∧ nameToIndex entry.name ≠ 0 then [nameToIndex entry.name] else []) ++
        usableIndexes nameToIndex rest := by
  unfold usableIndexes
  cases hentry : entry.canMulticast
  · simp [hentry]
  · by_cases hzero : nameToIndex entry.name = 0 <;> simp [hentry, hzero]

/-- The first `maximum` are complete: more at the end of the list changes nothing. -/
theorem take_eraseDups_append {maximum : Nat} {l : List UInt32}
    (h : maximum ≤ (l.eraseDups.take maximum).length) (m : List UInt32) :
    (l ++ m).eraseDups.take maximum = l.eraseDups.take maximum := by
  rw [List.length_take] at h
  rw [List.eraseDups_append, List.take_append_of_le_length (by omega)]

theorem collectInterfaces_eq (nameToIndex : Octets → UInt32) (maximum : Nat)
    (entries : List InterfaceEntry) (l : List UInt32) :
    collectInterfaces nameToIndex maximum entries (l.eraseDups.take maximum) =
      (l ++ usableIndexes nameToIndex entries).eraseDups.take maximum := by
  induction entries generalizing l with
  | nil => simp [collectInterfaces, usableIndexes]
  | cons entry rest ih =>
    rw [collectInterfaces]
    by_cases hfull : maximum ≤ (l.eraseDups.take maximum).length
    · rw [if_pos hfull, take_eraseDups_append hfull]
    rw [if_neg hfull, usableIndexes_cons, ← List.append_assoc]
    have hall : l.eraseDups.take maximum = l.eraseDups := by
      rw [List.length_take] at hfull
      exact List.take_of_length_le (by omega)
    cases hentry : entry.canMulticast with
    | false => simpa using ih l
    | true =>
      by_cases hzero : nameToIndex entry.name = 0
      · simpa [hzero] using ih l
      · by_cases hknown : nameToIndex entry.name ∈ l
        · have hsame : (l ++ [nameToIndex entry.name]).eraseDups = l.eraseDups := by
            rw [Dedup.eraseDups_concat, if_pos hknown]
          have hih := ih (l ++ [nameToIndex entry.name])
          rw [hsame] at hih
          simpa [hzero, hall, hknown] using hih
        · have hnew : (l ++ [nameToIndex entry.name]).eraseDups =
              l.eraseDups ++ [nameToIndex entry.name] := by
            rw [Dedup.eraseDups_concat, if_neg hknown]
          have htake : (l ++ [nameToIndex entry.name]).eraseDups.take maximum =
              l.eraseDups ++ [nameToIndex entry.name] := by
            rw [hnew]
            apply List.take_of_length_le
            rw [hall] at hfull
            rw [List.length_append, List.length_singleton]
            omega
          have hih := ih (l ++ [nameToIndex entry.name])
          rw [htake] at hih
          simpa [hzero, hall, hknown] using hih

theorem listMulticastInterfaces_eq (host : Host) (maximum : Nat) :
    listMulticastInterfaces host maximum =
      (usableIndexes host.nameToIndex (host.getifaddrs.getD [])).eraseDups.take maximum := by
  unfold listMulticastInterfaces
  cases host.getifaddrs with
  | none => simp [usableIndexes]
  | some entries => simpa using collectInterfaces_eq host.nameToIndex maximum entries []

theorem nodup_joinedInterfaces (host : Host) (ipv6InterfaceIndex : UInt32) :
    (joinedInterfaces host ipv6InterfaceIndex).Nodup := by
  unfold joinedInterfaces
  apply List.Nodup.filter
  split_ifs
  · exact (Dedup.nodup_eraseDups _).sublist (List.take_sublist _ _)
  · exact List.nodup_singleton _

theorem Started.interfaces_eq {host : Host} {udpPort : UInt16} {ipv6InterfaceIndex : UInt32}
    {s : SimpleUDP6} (h : Started host udpPort ipv6InterfaceIndex s) :
    s.interfaces = joinedInterfaces host ipv6InterfaceIndex := by
  rw [h.interfaces, joinedInterfaces, SimpleUDP6.candidates]
  congr 1
  by_cases hzero : ipv6InterfaceIndex = 0
  · rw [if_pos hzero, hzero]
    exact listMulticastInterfaces_eq host 16
  · rw [if_neg hzero, if_pos (bne_iff_ne.2 hzero)]

/-- What a broadcast asks of the socket for one interface. -/
def multicastCalls (s : SimpleUDP6) (data : Octets) (interfaceIndex : UInt32) : List SocketCall :=
  [.multicastInterface interfaceIndex, .sendTo (s.multicastOn data interfaceIndex)]

/-- The counts of the broadcast, interface by interface. -/
def multicastCounts (sendTo : SendTo6) (s : SimpleUDP6) (data : Octets) :
    List SocketCall → List UInt32 → List UInt16
  | _, [] => []
  | calls, interfaceIndex :: rest =>
    SimpleUDP6.countOf (sendTo (calls ++ [.multicastInterface interfaceIndex])
        (s.multicastOn data interfaceIndex)) ::
      multicastCounts sendTo s data (calls ++ multicastCalls s data interfaceIndex) rest

theorem multicastLoop_eq (sendTo : SendTo6) (s : SimpleUDP6) (data : Octets)
    (interfaces : List UInt32) (calls : List SocketCall) (firstSent : UInt16) :
    s.multicastLoop sendTo data interfaces calls firstSent =
      ⟨calls ++ interfaces.flatMap (multicastCalls s data),
        if firstSent = 0 then
          ((multicastCounts sendTo s data calls interfaces).find? (· != 0)).getD 0
        else firstSent⟩ := by
  induction interfaces generalizing calls firstSent with
  | nil =>
    rw [SimpleUDP6.multicastLoop, List.flatMap_nil, List.append_nil]
    by_cases h : firstSent = 0 <;> simp [multicastCounts, h]
  | cons interfaceIndex rest ih =>
    rw [SimpleUDP6.multicastLoop, ih, List.flatMap_cons, multicastCounts, multicastCalls,
      SimpleUDP6.countOf]
    generalize sendTo (calls ++ [.multicastInterface interfaceIndex])
      (s.multicastOn data interfaceIndex) = sent
    by_cases hfirst : firstSent = 0
    · by_cases hsent : 0 < sent
      · by_cases hcast : UInt16.ofInt sent = 0 <;>
          simp [hfirst, hsent, hcast]
      · simp [hfirst, hsent]
    · simp [hfirst]

/-- **A broadcast leaves once on each interface the group was joined on.** -/
theorem broadcast_scopes (sendTo : SendTo6) {host : Host} {udpPort : UInt16}
    {ipv6InterfaceIndex : UInt32} {s : SimpleUDP6}
    (h : startUp6 host udpPort ipv6InterfaceIndex = some s) (receptions : List Reception)
    (message : Message) {connectionString : ConnectionString} {broadcast : Bool}
    (hbroadcast : broadcast = true ∨ connectionString.octets = none) :
    let joined := joinedInterfaces host ipv6InterfaceIndex
    let interfaces := if joined = [] then [0] else joined
    let datagram (i : UInt32) : Datagram6 := ⟨.defaultGroup, udpPort, i, message.octets⟩
    ∃ transmission,
      sendToUdp6 sendTo (session s receptions) message connectionString broadcast =
          .ok transmission ∧
        transmission.calls =
          interfaces.flatMap (fun i => [.multicastInterface i, .sendTo (datagram i)]) ∧
        transmission.count =
          ((multicastCounts sendTo (session s receptions) message.octets [] interfaces).find?
            (· != 0)).getD 0 ∧
        interfaces.Nodup := by
  intro joined interfaces datagram
  have hstarted := started h
  have hafter := after_session hstarted.connected receptions
  have hinterfaces : (session s receptions).multicastInterfaces = interfaces := by
    rw [SimpleUDP6.multicastInterfaces, hafter.interfaces, hstarted.interfaces_eq]
    simp [interfaces, joined]
  have hdatagram : multicastCalls (session s receptions) message.octets =
      fun i => [.multicastInterface i, .sendTo (datagram i)] := by
    funext i
    rw [multicastCalls, SimpleUDP6.multicastOn, hafter.group, hafter.localPort, hstarted.group,
      hstarted.localPort]
  have hsend : sendToUdp6 sendTo (session s receptions) message connectionString broadcast =
      .ok ((session s receptions).sendMulticast sendTo message.octets) := by
    unfold sendToUdp6
    rcases hbroadcast with rfl | hnone
    · rfl
    · rw [hnone]
      cases broadcast <;> rfl
  refine ⟨_, hsend, ?_, ?_, ?_⟩
  · rw [SimpleUDP6.sendMulticast, hafter.connected, if_neg (by decide), multicastLoop_eq,
      hinterfaces, hdatagram]
    rfl
  · rw [SimpleUDP6.sendMulticast, hafter.connected, if_neg (by decide), multicastLoop_eq,
      hinterfaces]
    rfl
  · by_cases hempty : joined = []
    · rw [show interfaces = [0] from if_pos hempty]
      exact List.nodup_singleton 0
    · rw [show interfaces = joined from if_neg hempty]
      exact nodup_joinedInterfaces host ipv6InterfaceIndex

/-- A Who-Is leaves on both networks, also when the second one does not take it. -/
theorem whoIs_on_both :
    ∃ transmission,
      sendToUdp6 (fun _ datagram => if datagram.scopeId = 3 then -1 else datagram.message.length)
          (session onTwoNetworks [⟨some whoIsFromW, 1497, 18⟩]) whoIs ⟨none, 0, by simp⟩ false =
          .ok transmission ∧
        transmission.calls =
          [.multicastInterface 2, .sendTo ⟨.defaultGroup, 0xBAC0, 2, whoIs.octets⟩,
            .multicastInterface 3, .sendTo ⟨.defaultGroup, 0xBAC0, 3, whoIs.octets⟩] ∧
        transmission.count = 8 := by
  obtain ⟨transmission, hsent, hcalls, hcount, -⟩ :=
    @broadcast_scopes
      (fun _ datagram => if datagram.scopeId = 3 then -1 else datagram.message.length) twoNetworks
      0xBAC0 0 onTwoNetworks rfl [⟨some whoIsFromW, 1497, 18⟩] whoIs ⟨none, 0, by simp⟩ false
      (.inr rfl)
  have hjoined : joinedInterfaces twoNetworks 0 = [2, 3] := by decide
  refine ⟨transmission, hsent, ?_, ?_⟩
  · rw [hcalls, hjoined]
    rfl
  · rw [hcount, hjoined]
    rfl

end BacnetBc
