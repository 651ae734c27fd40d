import BacnetBc.Lib.LittleEndian
import BacnetBc.Peer.Answer

/-!
# Sending on BACnet/IP

The example sends through a UDP socket of its own (`sendToUdp`) in place of the shared helper's
`helperSendMessage`. Both take a connection string of 6 octets for a destination, both broadcast on
the local subnet when there is none, and both copy an answer that the stack broadcasts to the last
peer on another port.

**The difference.** The helper does not send a broadcast to its own address: it goes to the subnet
broadcast instead. `sendToUdp` has no such rule, and sends it to itself.

**Theorem (`sendToUdp_eq_iff`).** The two send the same datagrams to the same destinations and
return the same count exactly when the message is not such a broadcast (`BroadcastToSelf`).

What `sendto` of the operating system returns is a parameter. No read of `sendToUdp` lies outside
the message or the connection string (`sendToUdp_inside`).
-/

namespace BacnetBc

open Memory

/-! ## Addresses and datagrams -/

/-- An IPv4 address or a subnet mask. -/
structure Ipv4 where
  first : UInt8
  second : UInt8
  third : UInt8
  fourth : UInt8
deriving DecidableEq, Repr

namespace Ipv4

def zero : Ipv4 := ⟨0, 0, 0, 0⟩

/-- `ip | ~mask`. -/
def subnetBroadcast (ip mask : Ipv4) : Ipv4 where
  first := ip.first ||| ~~~mask.first
  second := ip.second ||| ~~~mask.second
  third := ip.third ||| ~~~mask.third
  fourth := ip.fourth ||| ~~~mask.fourth

/-- The address in the first four octets. -/
def ofOctets (octets : Octets) : Access Ipv4 := do
  return ⟨← read octets 0, ← read octets 1, ← read octets 2, ← read octets 3⟩

end Ipv4

/-- The UDP port in octets 4 and 5. -/
def portOf (octets : Octets) : Access UInt16 := do
  return (← read octets 4).toUInt16 <<< 8 ||| (← read octets 5).toUInt16

def portHigh (port : UInt16) : UInt8 := (port >>> 8).toUInt8

def portLow (port : UInt16) : UInt8 := (port &&& 0xFF).toUInt8

theorem port_octets (port : UInt16) :
    (portHigh port).toUInt16 <<< 8 ||| (portLow port).toUInt16 = port := by
  rw [UInt16.or_comm]
  exact octets16 port

structure Endpoint where
  ip : Ipv4
  port : UInt16
deriving DecidableEq, Repr

/-- An IPv4 interface. -/
structure Interface where
  ip : Ipv4
  mask : Ipv4
deriving DecidableEq, Repr

/-- A message of the stack, with its length as the 16-bit parameter. -/
structure Message where
  octets : Octets
  length_lt : octets.length < 2 ^ 16

/-- A connection string of the stack: a pointer that may be NULL, and a length that the octets
behind the pointer have. -/
structure ConnectionString where
  pointer : Option Octets
  length : UInt8
  length_le : ∀ octets ∈ pointer, length.toNat ≤ octets.length

namespace ConnectionString

/-- The octets, unless the pointer is NULL or the length is 0. -/
def octets (s : ConnectionString) : Option Octets :=
  if s.length = 0 then none else s.pointer

theorem pointer_of_octets {s : ConnectionString} {octets : Octets} (h : s.octets = some octets) :
    octets ∈ s.pointer := by
  unfold ConnectionString.octets at h
  split_ifs at h
  exact h

end ConnectionString

structure Datagram where
  destination : Endpoint
  message : Octets
deriving DecidableEq, Repr

/-- What a send does: the datagrams it sends in this order, and the count it returns. -/
structure Transmission where
  datagrams : List Datagram
  count : UInt16
deriving DecidableEq, Repr

/-- What `sendto` returns for a datagram, after those sent before. -/
abbrev SendTo := List Datagram → Datagram → Int

/-- The count that `SimpleUDP::Send` returns on a bound socket. -/
def udpSend (sendTo : SendTo) (before : List Datagram) (datagram : Datagram) : UInt16 :=
  let sent := sendTo before datagram
  if 0 < sent then UInt16.ofInt sent else 0

/-! ## The frames that are copied to a peer on another port -/

/-- Behind the BVLL header: a network layer message, an I-Am or an I-Have. -/
def stackChosenNpdu (message : Octets) : Access Bool := do
  if message.length < 6 then return false
  else if (← read message 4) != 0x01 then return false
  else
    let control ← read message 5
    match ← skipAddress message (control &&& 0x20 != 0) 6 with
    | none => return false
    | some position =>
      match ← skipAddress message (control &&& 0x08 != 0) position with
      | none => return false
      | some position =>
        let position := if control &&& 0x20 != 0 then position + 1 else position -- hop count
        if control &&& 0x80 != 0 then return true
        else if message.length < position + 2 then return false
        else if (← read message position) >>> 4 != 1 then return false
        else
          let service ← read message (position + 1)
          return service == 0 || service == 1

/-- `IsStackChosenBroadcast` of the example. -/
def isStackChosenBroadcast (message : Octets) : Access Bool :=
  if message.length < 6 then .ok false
  else do
    let function ← read message 1
    if (← read message 0) != 0x81 || (function != 0x0A && function != 0x0B) then return false
    else stackChosenNpdu message

namespace CASExampleHelper

/-- `IsStackChosenBroadcast` of the helper. -/
def isStackChosenBroadcast (message : Octets) : Access Bool :=
  if message.length < 6 then .ok false
  else do
    if (← read message 0) != 0x81 then return false
    else
      let function ← read message 1
      if function != 0x0A && function != 0x0B then return false
      else stackChosenNpdu message

end CASExampleHelper

/-- Send to one destination, and copy a frame that the stack left without an address to the last
peer on another port. -/
def transmit (sendTo : SendTo) (isStackChosen : Octets → Access Bool) (lastPeer : Option Endpoint)
    (stringless : Bool) (message : Message) (destination : Endpoint) : Access Transmission := do
  let datagram : Datagram := ⟨destination, message.octets⟩
  let sent := udpSend sendTo [] datagram
  match stringless, lastPeer with
  | true, some peer =>
    if ← isStackChosen message.octets then
      return ⟨[datagram, ⟨peer, message.octets⟩], sent⟩
    else return ⟨[datagram], sent⟩
  | _, _ => return ⟨[datagram], sent⟩

/-! ## SendToUdp -/

/-- The example's UDP link: the address captured at start-up, and the last peer on another port. -/
structure UdpLink where
  ipAddress : Ipv4
  ipSubnetMask : Ipv4
  bacnetIpUdpPort : UInt16
  lastPeer : Option Endpoint

namespace UdpLink

/-- The link after start-up: `GetLocalIPv4` leaves the zeros in place when there is no interface. -/
def startUp (primary : Option Interface) (udpPort : UInt16) (lastPeer : Option Endpoint) : UdpLink
    where
  ipAddress := (primary.map Interface.ip).getD .zero
  ipSubnetMask := (primary.map Interface.mask).getD .zero
  bacnetIpUdpPort := udpPort
  lastPeer := lastPeer

/-- `LocalBroadcastConnString`. -/
def localBroadcastConnString (link : UdpLink) : Octets :=
  let ip := link.ipAddress.subnetBroadcast link.ipSubnetMask
  [ip.first, ip.second, ip.third, ip.fourth, portHigh link.bacnetIpUdpPort,
    portLow link.bacnetIpUdpPort]

end UdpLink

/-- `SendToUdp`. The broadcast flag is for the log only. -/
def sendToUdp (sendTo : SendTo) (link : UdpLink) (message : Message)
    (connectionString : ConnectionString) (_broadcast : Bool) : Access Transmission :=
  match connectionString.octets with
  | none => do
    let destination := link.localBroadcastConnString
    transmit sendTo isStackChosenBroadcast link.lastPeer true message
      ⟨← Ipv4.ofOctets destination, ← portOf destination⟩
  | some octets =>
    if connectionString.length < 6 then .ok ⟨[], 0⟩
    else do
      let destination ← slice octets 0 6
      transmit sendTo isStackChosenBroadcast link.lastPeer false message
        ⟨← Ipv4.ofOctets destination, ← portOf destination⟩

/-! ## HelperSendMessage -/

namespace CASExampleHelper

/-- A bound socket of the helper. -/
structure UdpBinding where
  port : UInt16
  networkPortInstance : UInt32
  bound : Bool
  /-- The last peer that sent from another port. -/
  peer : Option Endpoint

def findUdpBindingByInstance (bindings : List UdpBinding) (networkPortInstance : UInt32) :
    Option UdpBinding :=
  bindings.find? fun binding => binding.networkPortInstance == networkPortInstance

/-- `GetLocalBroadcastIPv4`. -/
def getLocalBroadcastIPv4 (primary : Option Interface) : Ipv4 :=
  match primary with
  | some interface => interface.ip.subnetBroadcast interface.mask
  | none => ⟨255, 255, 255, 255⟩

/-- `HelperSendMessage`. -/
def helperSendMessage (sendTo : SendTo) (primary : Option Interface) (bindings : List UdpBinding)
    (message : Message) (connectionString : ConnectionString) (networkPortInstance : UInt32)
    (broadcast : Bool) : Access Transmission :=
  match findUdpBindingByInstance bindings networkPortInstance with
  | none => .ok ⟨[], 0⟩
  | some binding =>
    if !binding.bound then .ok ⟨[], 0⟩
    else
      match connectionString.octets with
      | none =>
        transmit sendTo isStackChosenBroadcast binding.peer true message
          ⟨getLocalBroadcastIPv4 primary, binding.port⟩
      | some octets =>
        if connectionString.length < 6 then .ok ⟨[], 0⟩
        else do
          let ip ← Ipv4.ofOctets octets
          let port ← portOf octets
          -- a broadcast addressed to this socket itself: the stack means this subnet
          let ip := if broadcast && port == binding.port && primary.map Interface.ip == some ip then
            getLocalBroadcastIPv4 primary else ip
          transmit sendTo isStackChosenBroadcast binding.peer false message ⟨ip, port⟩

end CASExampleHelper

/-! ## Where the two agree -/

theorem ofOctets_cons (a b c d : UInt8) (rest : Octets) :
    Ipv4.ofOctets (a :: b :: c :: d :: rest) = .ok ⟨a, b, c, d⟩ := rfl

theorem portOf_cons (a b c d high low : UInt8) (rest : Octets) :
    portOf (a :: b :: c :: d :: high :: low :: rest) =
      .ok (high.toUInt16 <<< 8 ||| low.toUInt16) := rfl

/-- A connection string of 6 octets or more begins with an address and a port. -/
theorem exists_six {octets : Octets} (h : 6 ≤ octets.length) :
    ∃ a b c d high low rest, octets = a :: b :: c :: d :: high :: low :: rest := by
  match octets, h with
  | a :: b :: c :: d :: high :: low :: rest, _ => exact ⟨a, b, c, d, high, low, rest, rfl⟩

/-- The two recognize the same frames. -/
theorem isStackChosenBroadcast_eq (message : Octets) :
    CASExampleHelper.isStackChosenBroadcast message = isStackChosenBroadcast message := by
  unfold CASExampleHelper.isStackChosenBroadcast isStackChosenBroadcast
  by_cases hshort : message.length < 6
  · rw [if_pos hshort, if_pos hshort]
  · rw [if_neg hshort, if_neg hshort, read_of_lt (by omega : 0 < message.length),
      read_of_lt (by omega : 1 < message.length)]
    simp only [bind, Except.bind, Bool.or_eq_true]
    by_cases htype : (message[0] != 0x81) = true
    · simp only [htype, if_true, true_or]
    · simp only [htype, Bool.false_eq_true, if_false, false_or]

theorem isStackChosenBroadcast_funext :
    CASExampleHelper.isStackChosenBroadcast = isStackChosenBroadcast := by
  funext message
  exact isStackChosenBroadcast_eq message

/-- No read of a frame lies past its end. -/
theorem stackChosenNpdu_inside (message : Octets) :
    ∃ chosen, stackChosenNpdu message = .ok chosen := by
  unfold stackChosenNpdu
  by_cases hshort : message.length < 6
  · exact ⟨false, by rw [if_pos hshort]; rfl⟩
  · rw [if_neg hshort, read_of_lt (by omega : 4 < message.length),
      read_of_lt (by omega : 5 < message.length)]
    simp only [bind, Except.bind, pure, Except.pure]
    generalize message[5] = control
    obtain ⟨afterD, hD⟩ := skipAddress_spec message (control &&& 0x20 != 0) 6
    rw [hD]
    split
    · exact ⟨false, rfl⟩
    · cases afterD with
      | none => exact ⟨false, rfl⟩
      | some position =>
        obtain ⟨afterS, hS⟩ := skipAddress_spec message (control &&& 0x08 != 0) position
        simp only [hS]
        cases afterS with
        | none => exact ⟨false, rfl⟩
        | some position =>
          dsimp only
          generalize (if control &&& 0x20 != 0 then position + 1 else position) = service
          split
          · exact ⟨true, rfl⟩
          · by_cases hend : message.length < service + 2
            · exact ⟨false, by rw [if_pos hend]⟩
            · rw [if_neg hend, read_of_lt (by omega : service < message.length),
                read_of_lt (by omega : service + 1 < message.length)]
              dsimp only
              split <;> exact ⟨_, rfl⟩

theorem isStackChosenBroadcast_inside (message : Octets) :
    ∃ chosen, isStackChosenBroadcast message = .ok chosen := by
  unfold isStackChosenBroadcast
  by_cases hshort : message.length < 6
  · exact ⟨false, by rw [if_pos hshort]⟩
  · rw [if_neg hshort, read_of_lt (by omega : 0 < message.length),
      read_of_lt (by omega : 1 < message.length)]
    simp only [bind, Except.bind]
    split
    · exact ⟨false, rfl⟩
    · exact stackChosenNpdu_inside message

/-- A message with an address is one datagram. -/
theorem transmit_address (sendTo : SendTo) (isStackChosen : Octets → Access Bool)
    (lastPeer : Option Endpoint) (message : Message) (destination : Endpoint) :
    transmit sendTo isStackChosen lastPeer false message destination =
      .ok ⟨[⟨destination, message.octets⟩], udpSend sendTo [] ⟨destination, message.octets⟩⟩ := by
  cases lastPeer <;> rfl

/-- The subnet broadcast is the same for both, also when there is no interface. -/
theorem localBroadcast_eq (primary : Option Interface) (udpPort : UInt16)
    (lastPeer : Option Endpoint) :
    let destination := (UdpLink.startUp primary udpPort lastPeer).localBroadcastConnString
    Ipv4.ofOctets destination = .ok (CASExampleHelper.getLocalBroadcastIPv4 primary) ∧
      portOf destination = .ok udpPort := by
  refine ⟨?_, ?_⟩
  · cases primary with
    | none =>
      have hlimited : Ipv4.zero.subnetBroadcast .zero = ⟨255, 255, 255, 255⟩ := by decide
      exact congrArg Except.ok hlimited
    | some interface => rfl
  · rw [UdpLink.localBroadcastConnString, portOf_cons]
    exact congrArg Except.ok (port_octets udpPort)

/-- The message is a broadcast to the address and port of the socket it is sent from, and that is
not the subnet broadcast. -/
def BroadcastToSelf (primary : Option Interface) (udpPort : UInt16)
    (connectionString : ConnectionString) (broadcast : Bool) : Prop :=
  broadcast = true ∧ ∃ interface octets, primary = some interface ∧
    connectionString.octets = some octets ∧ ¬ connectionString.length < 6 ∧
    Ipv4.ofOctets octets = .ok interface.ip ∧ portOf octets = .ok udpPort ∧
    interface.ip.subnetBroadcast interface.mask ≠ interface.ip

theorem find_binding (udpPort : UInt16) (networkPortInstance : UInt32)
    (lastPeer : Option Endpoint) :
    CASExampleHelper.findUdpBindingByInstance [⟨udpPort, networkPortInstance, true, lastPeer⟩]
      networkPortInstance = some ⟨udpPort, networkPortInstance, true, lastPeer⟩ := by
  simp [CASExampleHelper.findUdpBindingByInstance]

/-- `SendToUdp` with an address: one datagram to it. -/
theorem sendToUdp_address (sendTo : SendTo) (link : UdpLink) (message : Message)
    {connectionString : ConnectionString} {octets : Octets} {ip : Ipv4} {port : UInt16}
    (hoctets : connectionString.octets = some octets) (hlength : ¬ connectionString.length < 6)
    (hsix : 6 ≤ octets.length) (hip : Ipv4.ofOctets octets = .ok ip)
      (hport : portOf octets = .ok port)
    (broadcast : Bool) :
    sendToUdp sendTo link message connectionString broadcast =
      .ok ⟨[⟨⟨ip, port⟩, message.octets⟩], udpSend sendTo [] ⟨⟨ip, port⟩, message.octets⟩⟩ := by
  obtain ⟨a, b, c, d, high, low, rest, rfl⟩ := exists_six hsix
  have hslice : slice (a :: b :: c :: d :: high :: low :: rest) 0 6 = .ok [a, b, c, d, high, low] :=
    slice_of_le hsix
  rw [ofOctets_cons] at hip
  rw [portOf_cons] at hport
  rw [sendToUdp, hoctets]
  simp only [if_neg hlength, hslice, bind, Except.bind, ofOctets_cons, portOf_cons, hip, hport]
  exact transmit_address sendTo _ _ message ⟨ip, port⟩

theorem ConnectionString.six_le {connectionString : ConnectionString} {octets : Octets}
    (hoctets : connectionString.octets = some octets) (hlength : ¬ connectionString.length < 6) :
    6 ≤ octets.length := by
  have hle := connectionString.length_le octets (pointer_of_octets hoctets)
  have hlength' := mt UInt8.lt_iff_toNat_lt.2 hlength
  have hnum : (6 : UInt8).toNat = 6 := rfl
  omega

/-- An address and a port to send to. -/
theorem exists_address {octets : Octets} (h : 6 ≤ octets.length) :
    ∃ ip port, Ipv4.ofOctets octets = .ok ip ∧ portOf octets = .ok port := by
  obtain ⟨a, b, c, d, high, low, rest, rfl⟩ := exists_six h
  exact ⟨_, _, ofOctets_cons a b c d _, portOf_cons a b c d high low rest⟩

/-- `SendToUdp` does not read outside the message or the connection string. -/
theorem sendToUdp_inside (sendTo : SendTo) (primary : Option Interface) (udpPort : UInt16)
    (lastPeer : Option Endpoint) (message : Message) (connectionString : ConnectionString)
    (broadcast : Bool) :
    ∃ transmission, sendToUdp sendTo (.startUp primary udpPort lastPeer) message connectionString
      broadcast = .ok transmission := by
  cases hoctets : connectionString.octets with
  | none =>
    obtain ⟨hip, hport⟩ := localBroadcast_eq primary udpPort lastPeer
    obtain ⟨chosen, hchosen⟩ := isStackChosenBroadcast_inside message.octets
    rw [sendToUdp, hoctets]
    simp only [hip, hport, bind, Except.bind, transmit, hchosen]
    split
    · split <;> exact ⟨_, rfl⟩
    · exact ⟨_, rfl⟩
  | some octets =>
    by_cases hlength : connectionString.length < 6
    · rw [sendToUdp, hoctets]
      exact ⟨_, if_pos hlength⟩
    · obtain ⟨ip, port, hip, hport⟩ := exists_address (connectionString.six_le hoctets hlength)
      exact ⟨_, sendToUdp_address sendTo _ message hoctets hlength
        (connectionString.six_le hoctets hlength) hip hport broadcast⟩

/-- The helper with an address: one datagram, to the subnet if the address is its own. -/
theorem helperSendMessage_address (sendTo : SendTo) (primary : Option Interface) (udpPort : UInt16)
    (lastPeer : Option Endpoint) (message : Message) {connectionString : ConnectionString}
    {octets : Octets} {ip : Ipv4} {port : UInt16} (hoctets : connectionString.octets = some octets)
    (hlength : ¬ connectionString.length < 6) (hip : Ipv4.ofOctets octets = .ok ip)
    (hport : portOf octets = .ok port) (networkPortInstance : UInt32) (broadcast : Bool) :
    let target := if broadcast && port == udpPort && primary.map Interface.ip == some ip then
      CASExampleHelper.getLocalBroadcastIPv4 primary else ip
    CASExampleHelper.helperSendMessage sendTo primary
        [⟨udpPort, networkPortInstance, true, lastPeer⟩] message connectionString
        networkPortInstance broadcast =
      .ok ⟨[⟨⟨target, port⟩, message.octets⟩],
        udpSend sendTo [] ⟨⟨target, port⟩, message.octets⟩⟩ := by
  intro target
  rw [CASExampleHelper.helperSendMessage, find_binding, hoctets]
  simp only [Bool.not_true, Bool.false_eq_true, if_false, if_neg hlength, hip, hport, bind,
    Except.bind]
  exact transmit_address sendTo _ _ message ⟨target, port⟩

/-- The helper's test, as a statement. -/
theorem addressed_to_self_iff {primary : Option Interface} {udpPort port : UInt16} {ip : Ipv4}
    {broadcast : Bool} :
    (broadcast && port == udpPort && primary.map Interface.ip == some ip) = true ↔
      broadcast = true ∧ port = udpPort ∧ ∃ mask, primary = some ⟨ip, mask⟩ := by
  simp only [Bool.and_eq_true, beq_iff_eq, and_assoc, Option.map_eq_some_iff]
  refine and_congr_right fun _ => and_congr_right fun _ => ⟨?_, ?_⟩
  · rintro ⟨⟨_, mask⟩, hprimary, rfl⟩
    exact ⟨mask, hprimary⟩
  · rintro ⟨mask, hprimary⟩
    exact ⟨_, hprimary, rfl⟩

theorem broadcastToSelf_iff {primary : Option Interface} {udpPort : UInt16}
    {connectionString : ConnectionString} {octets : Octets} {ip : Ipv4} {port : UInt16}
    (hoctets : connectionString.octets = some octets) (hlength : ¬ connectionString.length < 6)
    (hip : Ipv4.ofOctets octets = .ok ip) (hport : portOf octets = .ok port) (broadcast : Bool) :
    BroadcastToSelf primary udpPort connectionString broadcast ↔
      (broadcast && port == udpPort && primary.map Interface.ip == some ip) = true ∧
        CASExampleHelper.getLocalBroadcastIPv4 primary ≠ ip := by
  rw [addressed_to_self_iff]
  constructor
  · rintro ⟨hbroadcast, ⟨ip', mask⟩, octets', rfl, hoctets', -, hip', hport', hne⟩
    cases hoctets.symm.trans hoctets'
    cases hip.symm.trans hip'
    cases hport.symm.trans hport'
    exact ⟨⟨hbroadcast, rfl, mask, rfl⟩, hne⟩
  · rintro ⟨⟨hbroadcast, rfl, mask, rfl⟩, hne⟩
    exact ⟨hbroadcast, ⟨ip, mask⟩, octets, rfl, hoctets, hlength, hip, hport, hne⟩

/-- **The example sends as the helper does, except for broadcasts to itself.** -/
theorem sendToUdp_eq_iff (sendTo : SendTo) (primary : Option Interface) (udpPort : UInt16)
    (lastPeer : Option Endpoint) (message : Message) (connectionString : ConnectionString)
    (networkPortInstance : UInt32) (broadcast : Bool) :
    sendToUdp sendTo (.startUp primary udpPort lastPeer) message connectionString broadcast =
        CASExampleHelper.helperSendMessage sendTo primary
          [⟨udpPort, networkPortInstance, true, lastPeer⟩] message connectionString
          networkPortInstance broadcast ↔
      ¬ BroadcastToSelf primary udpPort connectionString broadcast := by
  cases hoctets : connectionString.octets with
  | none =>
    refine iff_of_true ?_ ?_
    · obtain ⟨hip, hport⟩ := localBroadcast_eq primary udpPort lastPeer
      rw [sendToUdp, CASExampleHelper.helperSendMessage, find_binding, hoctets,
        isStackChosenBroadcast_funext]
      simp only [hip, hport]
      rfl
    · rintro ⟨-, interface, octets, -, h, -⟩
      rw [hoctets] at h
      cases h
  | some octets =>
    by_cases hlength : connectionString.length < 6
    · refine iff_of_true ?_ ?_
      · rw [sendToUdp, CASExampleHelper.helperSendMessage, find_binding, hoctets]
        simp only [if_pos hlength]
        rfl
      · rintro ⟨-, interface, octets', -, -, h, -⟩
        exact h hlength
    · have hsix := connectionString.six_le hoctets hlength
      obtain ⟨ip, port, hip, hport⟩ := exists_address hsix
      rw [sendToUdp_address sendTo _ message hoctets hlength hsix hip hport,
        helperSendMessage_address sendTo primary udpPort lastPeer message hoctets hlength hip hport,
        broadcastToSelf_iff hoctets hlength hip hport]
      by_cases hself : (broadcast && port == udpPort && primary.map Interface.ip == some ip) = true
      · rw [if_pos hself, not_and, not_not]
        constructor
        · intro heq _
          simp only [Except.ok.injEq, Transmission.mk.injEq, List.cons.injEq, Datagram.mk.injEq,
            Endpoint.mk.injEq] at heq
          exact heq.1.1.1.1.symm
        · intro heq
          rw [heq hself]
      · rw [if_neg hself]
        exact iff_of_true rfl fun h => hself h.1

/-! ### A device that looks for itself -/

/-- A Who-Is broadcast. -/
def whoIs : Message := ⟨[0x81, 0x0B, 0x00, 0x08, 0x01, 0x00, 0x10, 0x08], by decide⟩

/-- 192.168.1.10:47808. -/
def ownConnectionString : ConnectionString where
  pointer := some [0xC0, 0xA8, 0x01, 0x0A, 0xBA, 0xC0]
  length := 6
  length_le := by simp

/-- A Who-Is that the stack broadcasts to the device's own address goes to the device itself, where
the helper sends it to the subnet. -/
theorem whoIs_to_self :
    ¬ ∀ (sendTo : SendTo) (primary : Option Interface) (udpPort : UInt16)
      (lastPeer : Option Endpoint) (message : Message) (connectionString : ConnectionString)
      (broadcast : Bool),
      sendToUdp sendTo (.startUp primary udpPort lastPeer) message connectionString broadcast =
        CASExampleHelper.helperSendMessage sendTo primary [⟨udpPort, 1, true, lastPeer⟩] message
          connectionString 1 broadcast := by
  intro h
  have heq := h (fun _ datagram => datagram.message.length)
    (some ⟨⟨192, 168, 1, 10⟩, ⟨255, 255, 255, 0⟩⟩) 0xBAC0 none whoIs ownConnectionString true
  exact absurd heq (by decide)

end BacnetBc
