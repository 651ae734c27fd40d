import BacnetBc.Lib.Rotation
import BacnetBc.Udp

/-!
# Receiving on BACnet/IP

The shared helper receives on several UDP sockets, one for each Network Port
(`helperReceiveMessage`). It polls them in turn, from the one behind the last that had something,
and each call gives the stack at most one datagram.

A run is any order of such calls and of datagrams that arrive (`SocketEvent`).

**Theorem (`no_starvation`).** With `n` sockets, the first `m` datagrams that wait on one of them
are taken within `n * m` calls, in order, whatever arrives on the others. Each that is not empty is
given to the stack, with its sender and the Network Port of its socket.

**Theorem (`peer_remembered`).** Each socket remembers the last sender on another port that the
stack was given a datagram of for this Network Port; and a frame the stack chose to broadcast itself
is copied to it.
-/

namespace BacnetBc

open Memory Trajectory Fifo Rotation

/-! ## The sockets -/

/-- What `recvfrom` finds: a datagram, or an error in place of one. -/
inductive Incoming
  | datagram (source : Endpoint) (message : Octets)
  | error
deriving DecidableEq, Repr

/-- A socket of the helper, with what waits in it. -/
structure UdpSocket where
  binding : CASExampleHelper.UdpBinding
  waiting : List Incoming

/-- `SimpleUDP::Receive` on what `recvfrom` finds. -/
def Incoming.received (maxLength : UInt16) : Incoming → Option (Octets × Endpoint)
  | .datagram source message =>
    let received := message.take maxLength.toNat
    if received.isEmpty then none else some (received, source)
  | .error => none

namespace UdpSocket

/-- `SimpleUDP::Receive`. -/
def receive (maxLength : UInt16) (s : UdpSocket) : UdpSocket × Option (Octets × Endpoint) :=
  match s.waiting with
  | [] => (s, none)
  | incoming :: rest => ({ s with waiting := rest }, incoming.received maxLength)

def arrive (s : UdpSocket) (incoming : Incoming) : UdpSocket :=
  { s with waiting := s.waiting ++ [incoming] }

/-- What the loop does with a socket. -/
def poll (maxLength : UInt16) (s : UdpSocket) : UdpSocket × Option (Octets × Endpoint) :=
  if !s.binding.bound then (s, none) else s.receive maxLength

/-- The last peer that is not on the port the socket is bound to. -/
def remember (s : UdpSocket) (networkPortInstance : UInt32) (source : Endpoint) : UdpSocket :=
  if s.binding.bound && s.binding.networkPortInstance == networkPortInstance &&
      source.port != s.binding.port then
    { s with binding := { s.binding with peer := some source } }
  else s

end UdpSocket

/-- A BACnet/IP peer's connection string. -/
def connectionString4 (source : Endpoint) : ConnectionString where
  pointer := some [source.ip.first, source.ip.second, source.ip.third, source.ip.fourth,
    portHigh source.port, portLow source.port]
  length := 6
  length_le := by simp

/-- What the stack is given. -/
structure HelperReceived where
  message : Octets
  source : ConnectionString
  networkPortInstance : UInt32

namespace CASExampleHelper

variable {n : Nat} [NeZero n]

/-- `HelperReceiveMessage`. -/
def helperReceiveMessage (maxMessageLength : UInt16) (maxConnectionStringLength : UInt8)
    (h : Slots UdpSocket n) : Slots UdpSocket n × Option HelperReceived :=
  if maxConnectionStringLength < 6 then (h, none)
  else
    match serve (UdpSocket.poll maxMessageLength) h with
    | (h, none) => (h, none)
    | (h, some (i, message, source)) =>
      let servicedInstance := (h.slots i).binding.networkPortInstance
      (⟨fun j => (h.slots j).remember servicedInstance source, h.next⟩,
        some ⟨message, connectionString4 source, servicedInstance⟩)

end CASExampleHelper

/-! ## Runs -/

inductive SocketEvent (n : Nat)
  | arrives (j : Fin n) (incoming : Incoming)
  /-- The stack calls the receive callback. -/
  | receive
deriving DecidableEq, Repr

section
variable {n : Nat} [NeZero n] (maxMessageLength : UInt16) (maxConnectionStringLength : UInt8)

namespace SocketEvent

def next (h : Slots UdpSocket n) : SocketEvent n → Slots UdpSocket n
  | .arrives j incoming =>
    { h with slots := Function.update h.slots j ((h.slots j).arrive incoming) }
  | .receive => (CASExampleHelper.helperReceiveMessage maxMessageLength maxConnectionStringLength
    h).1

def step (h : Slots UdpSocket n) (e : SocketEvent n) : Except Unit (Slots UdpSocket n) :=
  .ok (e.next maxMessageLength maxConnectionStringLength h)

/-- A call that has room for the connection string. -/
def calls (_ : Slots UdpSocket n) : SocketEvent n → Nat
  | .arrives _ _ => 0
  | .receive => if maxConnectionStringLength < 6 then 0 else 1

/-- What is taken from a socket. -/
def takes (j : Fin n) (h : Slots UdpSocket n) (e : SocketEvent n) : List Incoming :=
  (h.slots j).waiting.take ((h.slots j).waiting.length -
    ((e.next maxMessageLength maxConnectionStringLength h).slots j).waiting.length)

/-- What the stack is given from a socket. -/
def gives (j : Fin n) (h : Slots UdpSocket n) : SocketEvent n → List HelperReceived
  | .arrives _ _ => []
  | .receive =>
    match (serve (UdpSocket.poll maxMessageLength) h).2 with
    | none => []
    | some (i, _) =>
      if i = j then
        (CASExampleHelper.helperReceiveMessage maxMessageLength maxConnectionStringLength
          h).2.toList
      else []

end SocketEvent

/-! ## A call -/

variable {maxMessageLength maxConnectionStringLength}

/-- What is handed over of a socket's first datagram. -/
def handedOver (maxMessageLength : UInt16) (networkPortInstance : UInt32) (incoming : Incoming) :
    Option HelperReceived :=
  (incoming.received maxMessageLength).map fun r =>
    ⟨r.1, connectionString4 r.2, networkPortInstance⟩

@[simp] theorem UdpSocket.waiting_remember (s : UdpSocket) (networkPortInstance : UInt32)
    (source : Endpoint) : (s.remember networkPortInstance source).waiting = s.waiting := by
  unfold remember
  split <;> rfl

/-- The binding, but for the peer it remembers. -/
def UdpSocket.fixed (s : UdpSocket) : UInt16 × UInt32 × Bool :=
  (s.binding.port, s.binding.networkPortInstance, s.binding.bound)

@[simp] theorem UdpSocket.fixed_remember (s : UdpSocket) (networkPortInstance : UInt32)
    (source : Endpoint) : (s.remember networkPortInstance source).fixed = s.fixed := by
  unfold remember
  split <;> rfl

theorem UdpSocket.binding_poll (maxLength : UInt16) (s : UdpSocket) :
    (s.poll maxLength).1.binding = s.binding := by
  unfold poll receive
  split
  · rfl
  · split <;> rfl

/-- The slots and the result behind `helperReceiveMessage`. -/
theorem helperReceive_eq (hroom : ¬ maxConnectionStringLength < 6) (h : Slots UdpSocket n) :
    let served := serve (UdpSocket.poll maxMessageLength) h
    let out := CASExampleHelper.helperReceiveMessage maxMessageLength maxConnectionStringLength h
    out.1.next = served.1.next ∧
      (∀ j, (out.1.slots j).waiting = (served.1.slots j).waiting ∧
        (out.1.slots j).fixed = (served.1.slots j).fixed) ∧
      out.2 = served.2.map fun r => ⟨r.2.1, connectionString4 r.2.2,
        (served.1.slots r.1).binding.networkPortInstance⟩ := by
  intro served out
  rcases hserved : serve (UdpSocket.poll maxMessageLength) h with ⟨r, _ | ⟨i, message, source⟩⟩
  · have hout : out = (r, none) := by
      simp only [out, CASExampleHelper.helperReceiveMessage, if_neg hroom, hserved]
    rw [hout, show served = (r, none) from hserved]
    exact ⟨rfl, fun _ => ⟨rfl, rfl⟩, rfl⟩
  · have hout : out = (⟨fun j => (r.slots j).remember
        (r.slots i).binding.networkPortInstance source, r.next⟩,
        some ⟨message, connectionString4 source, (r.slots i).binding.networkPortInstance⟩) := by
      simp only [out, CASExampleHelper.helperReceiveMessage, if_neg hroom, hserved]
    rw [hout, show served = (r, some (i, message, source)) from hserved]
    exact ⟨rfl, fun _ => ⟨UdpSocket.waiting_remember _ _ _, UdpSocket.fixed_remember _ _ _⟩, rfl⟩

namespace SocketEvent

variable {h : Slots UdpSocket n} {j : Fin n} {e : SocketEvent n}

theorem takes_of_isPrefix (hkept : (h.slots j).waiting <+:
    ((e.next maxMessageLength maxConnectionStringLength h).slots j).waiting) :
    takes maxMessageLength maxConnectionStringLength j h e = [] := by
  rw [takes, Nat.sub_eq_zero_of_le hkept.length_le, List.take_zero]

/-- A call that gives the slot's result, if it is its turn. -/
theorem gives_receive (hroom : ¬ maxConnectionStringLength < 6) :
    gives maxMessageLength maxConnectionStringLength j h .receive =
      ((resultFor j (serve (UdpSocket.poll maxMessageLength) h).2).map fun r =>
        ⟨r.1, connectionString4 r.2, ((serve (UdpSocket.poll maxMessageLength) h).1.slots
          j).binding.networkPortInstance⟩).toList := by
  obtain ⟨-, -, hout⟩ := @helperReceive_eq n _ maxMessageLength _ hroom h
  rw [gives, hout]
  rcases (serve (UdpSocket.poll maxMessageLength) h).2 with _ | ⟨i, message, source⟩
  · rfl
  · dsimp only
    by_cases hij : i = j
    · subst hij
      rw [if_pos rfl, show resultFor i (some (i, message, source)) = some (message, source) from
        if_pos rfl]
      rfl
    · rw [if_neg hij, resultFor_of_ne hij]
      rfl

/-- What one step does to a socket that is bound. -/
structure Spec (maxMessageLength : UInt16) (maxConnectionStringLength : UInt8) (j : Fin n)
    (h : Slots UdpSocket n) (e : SocketEvent n) : Prop where
  fixed : ((e.next maxMessageLength maxConnectionStringLength h).slots j).fixed = (h.slots j).fixed
  gives : gives maxMessageLength maxConnectionStringLength j h e =
    (takes maxMessageLength maxConnectionStringLength j h e).filterMap
      (handedOver maxMessageLength (h.slots j).binding.networkPortInstance)
  happens : (h.slots j).waiting ≠ [] →
    Happens n (h.slots j).waiting
      ((e.next maxMessageLength maxConnectionStringLength h).slots j).waiting (turn h.next j)
      (turn (e.next maxMessageLength maxConnectionStringLength h).next j)
      (takes maxMessageLength maxConnectionStringLength j h e)
      (calls maxConnectionStringLength h e)

/-- A socket from which nothing is taken. -/
theorem spec_of_isPrefix
    (hfixed : ((e.next maxMessageLength maxConnectionStringLength h).slots j).fixed =
      (h.slots j).fixed)
    (hkept : (h.slots j).waiting <+:
      ((e.next maxMessageLength maxConnectionStringLength h).slots j).waiting)
    (hgives : gives maxMessageLength maxConnectionStringLength j h e = [])
    (hturn : calls maxConnectionStringLength h e +
      turn (e.next maxMessageLength maxConnectionStringLength h).next j ≤ turn h.next j) :
    Spec maxMessageLength maxConnectionStringLength j h e := by
  have htakes : takes maxMessageLength maxConnectionStringLength j h e = [] :=
    takes_of_isPrefix hkept
  refine ⟨hfixed, ?_, fun _ => ⟨turn_lt _ _, .inl ⟨htakes, hkept, hturn⟩⟩⟩
  rw [hgives, htakes]
  rfl

theorem spec_arrives (k : Fin n) (incoming : Incoming) :
    Spec maxMessageLength maxConnectionStringLength j h (.arrives k incoming) := by
  have hslot : ((SocketEvent.arrives k incoming).next maxMessageLength maxConnectionStringLength
      h).slots j = if j = k then (h.slots j).arrive incoming else h.slots j := by
    by_cases hjk : j = k
    · subst hjk
      simp [next]
    · simp [next, hjk]
  refine spec_of_isPrefix ?_ ?_ rfl (Nat.zero_add _).le
  · rw [hslot]
    split_ifs <;> rfl
  · rw [hslot]
    split_ifs
    · exact List.prefix_append _ _
    · exact List.prefix_rfl

/-- Without room for a connection string nothing is received. -/
theorem spec_receive_of_no_room (hroom : maxConnectionStringLength < 6) :
    Spec maxMessageLength maxConnectionStringLength j h .receive := by
  have hout : CASExampleHelper.helperReceiveMessage maxMessageLength maxConnectionStringLength h =
      (h, none) := if_pos hroom
  have hnext : SocketEvent.receive.next maxMessageLength maxConnectionStringLength h = h := by
    rw [next, hout]
  refine spec_of_isPrefix (by rw [hnext]) (by rw [hnext]) ?_ ?_
  · rw [SocketEvent.gives, hout]
    rcases (serve (UdpSocket.poll maxMessageLength) h).2 with _ | ⟨i, _⟩
    · rfl
    · dsimp only
      split <;> rfl
  · rw [hnext, calls, if_pos hroom, Nat.zero_add]

section
variable (hroom : ¬ maxConnectionStringLength < 6)
include hroom

theorem spec_receive_of_polled (hbound : (h.slots j).binding.bound = true)
    (hslot : (serve (UdpSocket.poll maxMessageLength) h).1.slots j =
      ((h.slots j).poll maxMessageLength).1)
    (hresult : resultFor j (serve (UdpSocket.poll maxMessageLength) h).2 =
      ((h.slots j).poll maxMessageLength).2) :
    Spec maxMessageLength maxConnectionStringLength j h .receive := by
  obtain ⟨-, hslots, -⟩ := @helperReceive_eq n _ maxMessageLength _ hroom h
  obtain ⟨hwaiting, hfixed⟩ := hslots j
  have hbinding : ((serve (UdpSocket.poll maxMessageLength) h).1.slots j).binding =
      (h.slots j).binding := by rw [hslot, UdpSocket.binding_poll]
  have hfixed' : ((SocketEvent.receive.next maxMessageLength maxConnectionStringLength
      h).slots j).fixed = (h.slots j).fixed :=
    hfixed.trans (by rw [UdpSocket.fixed, hbinding, UdpSocket.fixed])
  have hgives := @gives_receive n _ maxMessageLength _ h j hroom
  rw [hresult, hbinding] at hgives
  rw [hslot, UdpSocket.poll, hbound, if_neg (by decide), UdpSocket.receive] at hwaiting
  rw [UdpSocket.poll, hbound, if_neg (by decide), UdpSocket.receive] at hgives
  cases hw : (h.slots j).waiting with
  | nil =>
    rw [hw] at hwaiting hgives
    dsimp only at hwaiting hgives
    refine ⟨hfixed', ?_, fun hne => absurd hw hne⟩
    rw [takes, hw, hgives, List.take_nil]
    rfl
  | cons incoming rest =>
    rw [hw] at hwaiting hgives
    dsimp only at hwaiting hgives
    have hcalls : calls maxConnectionStringLength h .receive = 1 := if_neg hroom
    have htakes : takes maxMessageLength maxConnectionStringLength j h .receive = [incoming] := by
      rw [takes, hw, next, hwaiting, List.length_cons, Nat.add_sub_cancel_left]
      rfl
    refine ⟨hfixed', ?_, fun _ => ⟨turn_lt _ _, .inr ⟨hcalls.le, incoming, htakes, ?_⟩⟩⟩
    · rw [htakes, hgives, List.filterMap_cons, List.filterMap_nil, handedOver]
      cases incoming.received maxMessageLength <;> rfl
    · rw [next, hwaiting, hw]

theorem spec_receive_of_nearer
    (hslot : (serve (UdpSocket.poll maxMessageLength) h).1.slots j = h.slots j)
    (hresult : resultFor j (serve (UdpSocket.poll maxMessageLength) h).2 = none)
    (hnearer : turn (serve (UdpSocket.poll maxMessageLength) h).1.next j < turn h.next j) :
    Spec maxMessageLength maxConnectionStringLength j h .receive := by
  obtain ⟨hturn, hslots, -⟩ := @helperReceive_eq n _ maxMessageLength _ hroom h
  obtain ⟨hwaiting, hfixed⟩ := hslots j
  have hsame : ((SocketEvent.receive.next maxMessageLength maxConnectionStringLength
      h).slots j).waiting = (h.slots j).waiting := hwaiting.trans (by rw [hslot])
  refine spec_of_isPrefix (hfixed.trans (by rw [hslot])) (by rw [hsame]) ?_ ?_
  · rw [gives_receive hroom, hresult]
    rfl
  · rw [calls, if_neg hroom, next, hturn, Nat.add_comm]
    exact hnearer

end

theorem spec_receive (hbound : (h.slots j).binding.bound = true) :
    Spec maxMessageLength maxConnectionStringLength j h .receive := by
  by_cases hroom : maxConnectionStringLength < 6
  · exact spec_receive_of_no_room hroom
  · obtain ⟨hslot, hresult⟩ | ⟨hslot, hresult, hnearer⟩ :=
      serve_cases (UdpSocket.poll maxMessageLength) h j
    · exact spec_receive_of_polled hroom hbound hslot hresult
    · exact spec_receive_of_nearer hroom hslot hresult hnearer

theorem spec_of_bound (hbound : (h.slots j).binding.bound = true) (e : SocketEvent n) :
    Spec maxMessageLength maxConnectionStringLength j h e := by
  cases e with
  | arrives k incoming => exact spec_arrives k incoming
  | receive => exact spec_receive hbound

end SocketEvent

/-! ## No socket starves -/

/-- How many times the stack has called, with room for the connection string. -/
def callCount (maxMessageLength : UInt16) (maxConnectionStringLength : UInt8)
    (h : Slots UdpSocket n) (es : List (SocketEvent n)) : Nat :=
  (outputs (SocketEvent.step maxMessageLength maxConnectionStringLength) (fun h e =>
    [SocketEvent.calls maxConnectionStringLength h e]) h es).sum

theorem bound_of_fixed {s s' : UdpSocket} (h : s'.fixed = s.fixed)
    (hbound : s.binding.bound = true) : s'.binding.bound = true :=
  (congrArg (fun fixed => fixed.2.2) h).trans hbound

theorem instance_of_fixed {s s' : UdpSocket} (h : s'.fixed = s.fixed) :
    s'.binding.networkPortInstance = s.binding.networkPortInstance :=
  congrArg (fun fixed => fixed.2.1) h

/-- **No socket starves.** -/
theorem no_starvation (maxMessageLength : UInt16) (maxConnectionStringLength : UInt8)
    (h : Slots UdpSocket n) (es : List (SocketEvent n)) {j : Fin n}
    (hbound : (h.slots j).binding.bound = true) {m : Nat} (hm : m ≤ (h.slots j).waiting.length)
    (hcalls : n * m ≤ callCount maxMessageLength maxConnectionStringLength h es) :
    let step := SocketEvent.step maxMessageLength maxConnectionStringLength
    let taken := outputs step (SocketEvent.takes maxMessageLength maxConnectionStringLength j) h es
    (h.slots j).waiting.take m <+: taken ∧
      outputs step (SocketEvent.gives maxMessageLength maxConnectionStringLength j) h es =
        taken.filterMap (handedOver maxMessageLength (h.slots j).binding.networkPortInstance) := by
  intro step taken
  have hkeep : ∀ (h' : Slots UdpSocket n) (e : SocketEvent n) (h'' : Slots UdpSocket n),
      (h'.slots j).fixed = (h.slots j).fixed → step h' e = .ok h'' →
        (h''.slots j).fixed = (h.slots j).fixed := by
    intro h' e h'' hfixed hstep
    obtain rfl := Except.ok.inj hstep
    exact (SocketEvent.spec_of_bound (bound_of_fixed hfixed hbound) e).fixed.trans hfixed
  have hfinal : final step h es =
      .ok (es.foldl (fun h e => e.next maxMessageLength maxConnectionStringLength h) h) :=
    final_eq_foldl (fun _ _ => rfl) h es
  constructor
  · have hhappens : ∀ (h' : Slots UdpSocket n) (e : SocketEvent n) (h'' : Slots UdpSocket n),
        (h'.slots j).fixed = (h.slots j).fixed → step h' e = .ok h'' → (h'.slots j).waiting ≠ [] →
          Happens n (h'.slots j).waiting (h''.slots j).waiting (turn h'.next j) (turn h''.next j)
            (SocketEvent.takes maxMessageLength maxConnectionStringLength j h' e)
            (SocketEvent.calls maxConnectionStringLength h' e) := by
      intro h' e h'' hfixed hstep hne
      obtain rfl := Except.ok.inj hstep
      exact (SocketEvent.spec_of_bound (bound_of_fixed hfixed hbound) e).happens hne
    have henough : n * m + turn h.next j <
        callCount maxMessageLength maxConnectionStringLength h es + n :=
      Nat.lt_of_lt_of_le (Nat.add_lt_add_left (turn_lt _ _) _) (Nat.add_le_add_right hcalls n)
    exact served_of_calls hkeep hhappens rfl hfinal (turn_lt _ _) hm henough
  · rw [map_outputs rfl fun _ _ => List.filterMap_append]
    refine outputs_congr hkeep (fun h' e hfixed => ?_) rfl es
    rw [(SocketEvent.spec_of_bound (bound_of_fixed hfixed hbound) e).gives,
      instance_of_fixed hfixed]

/-- A datagram that waits on the second socket while the first one has two. -/
def oneBehindTwo : Slots UdpSocket 2 where
  slots i :=
    if i = 0 then
      ⟨⟨47808, 1, true, none⟩, [.datagram ⟨⟨10, 0, 0, 1⟩, 47808⟩ [1],
        .datagram ⟨⟨10, 0, 0, 1⟩, 47808⟩ [2]]⟩
    else ⟨⟨47808, 2, true, none⟩, [.datagram ⟨⟨10, 0, 0, 2⟩, 50000⟩ [3]]⟩
  next := 0

theorem no_starvation_two :
    let step := SocketEvent.step 1497 18
    let es : List (SocketEvent 2) := [.receive, .arrives 0 .error, .receive]
    let taken := outputs step (SocketEvent.takes 1497 18 1) oneBehindTwo es
    (oneBehindTwo.slots 1).waiting.take 1 <+: taken ∧
      outputs step (SocketEvent.gives 1497 18 1) oneBehindTwo es =
        taken.filterMap (handedOver 1497 2) :=
  no_starvation 1497 18 oneBehindTwo [.receive, .arrives 0 .error, .receive] (j := 1) rfl
    (m := 1) (by decide) (by decide)

/-! ## The peer on another port -/

namespace SocketEvent

/-- The sender of what the stack is given for the Network Port of a socket, if it is on another
port. -/
def hears (maxMessageLength : UInt16) (maxConnectionStringLength : UInt8) (j : Fin n)
    (h : Slots UdpSocket n) : SocketEvent n → List Endpoint
  | .arrives _ _ => []
  | .receive =>
    if maxConnectionStringLength < 6 then []
    else
      match (serve (UdpSocket.poll maxMessageLength) h).2 with
      | none => []
      | some (i, _, source) =>
        let binding := (h.slots j).binding
        if binding.networkPortInstance = (h.slots i).binding.networkPortInstance ∧
            source.port ≠ binding.port then
          [source]
        else []

end SocketEvent

theorem binding_serve (maxMessageLength : UInt16) (h : Slots UdpSocket n) (j : Fin n) :
    ((serve (UdpSocket.poll maxMessageLength) h).1.slots j).binding = (h.slots j).binding := by
  obtain ⟨hslot, -⟩ | ⟨hslot, -⟩ := serve_cases (UdpSocket.poll maxMessageLength) h j
  · rw [hslot, UdpSocket.binding_poll]
  · rw [hslot]

/-- A step leaves the binding of a socket as it is, but for the peer. -/
theorem SocketEvent.fixed_next (h : Slots UdpSocket n) (j : Fin n) (e : SocketEvent n) :
    ((e.next maxMessageLength maxConnectionStringLength h).slots j).fixed = (h.slots j).fixed := by
  cases e with
  | arrives k incoming => exact (SocketEvent.spec_arrives k incoming).fixed
  | receive =>
    by_cases hroom : maxConnectionStringLength < 6
    · rw [SocketEvent.next, CASExampleHelper.helperReceiveMessage, if_pos hroom]
    · obtain ⟨-, hslots, -⟩ := @helperReceive_eq n _ maxMessageLength _ hroom h
      refine (hslots j).2.trans ?_
      rw [UdpSocket.fixed, binding_serve maxMessageLength, UdpSocket.fixed]

theorem SocketEvent.peer_next (h : Slots UdpSocket n) {j : Fin n}
    (hbound : (h.slots j).binding.bound = true) (e : SocketEvent n) :
    ((e.next maxMessageLength maxConnectionStringLength h).slots j).binding.peer =
      (e.hears maxMessageLength maxConnectionStringLength j h).getLast?.or
        (h.slots j).binding.peer := by
  cases e with
  | arrives k incoming =>
    by_cases hjk : j = k
    · subst hjk
      simp [SocketEvent.next, UdpSocket.arrive, SocketEvent.hears]
    · simp [SocketEvent.next, Function.update_of_ne hjk, SocketEvent.hears]
  | receive =>
    rw [SocketEvent.next, SocketEvent.hears, CASExampleHelper.helperReceiveMessage]
    by_cases hroom : maxConnectionStringLength < 6
    · rw [if_pos hroom, if_pos hroom]
      rfl
    · have hj := binding_serve maxMessageLength h j
      rw [if_neg hroom, if_neg hroom]
      rcases hserved : serve (UdpSocket.poll maxMessageLength) h with ⟨r, _ | ⟨i, message, source⟩⟩
      · rw [hserved] at hj
        exact congrArg CASExampleHelper.UdpBinding.peer hj
      · have hi := binding_serve maxMessageLength h i
        rw [hserved] at hj hi
        dsimp only at hj hi ⊢
        rw [hi, UdpSocket.remember, hj, hbound, Bool.true_and, ← hj]
        simp only [Bool.and_eq_true, beq_iff_eq, bne_iff_ne]
        split
        · rfl
        · rw [hj]
          rfl

/-- The sockets behind a run that has heard these senders for a socket's Network Port. -/
structure Remembers (start : Slots UdpSocket n) (j : Fin n) (h : Slots UdpSocket n)
    (heard : List Endpoint) : Prop where
  fixed : ∀ i, (h.slots i).fixed = (start.slots i).fixed
  peer : (h.slots j).binding.peer = heard.getLast?.or (start.slots j).binding.peer

theorem remembers_foldl (maxMessageLength : UInt16) (maxConnectionStringLength : UInt8)
    {h : Slots UdpSocket n} (es : List (SocketEvent n)) {j : Fin n}
    (hbound : (h.slots j).binding.bound = true) :
    Remembers h j (es.foldl (fun h e => e.next maxMessageLength maxConnectionStringLength h) h)
      (outputs (SocketEvent.step maxMessageLength maxConnectionStringLength)
        (SocketEvent.hears maxMessageLength maxConnectionStringLength j) h es) := by
  have hstep : ∀ s e s' heard, Remembers h j s heard →
      SocketEvent.step maxMessageLength maxConnectionStringLength s e = .ok s' →
        Remembers h j s'
          (heard ++ SocketEvent.hears maxMessageLength maxConnectionStringLength j s e) := by
    intro s e s' heard hs hstep
    obtain rfl := Except.ok.inj hstep
    refine ⟨fun i => (SocketEvent.fixed_next s i e).trans (hs.fixed i), ?_⟩
    rw [SocketEvent.peer_next s (bound_of_fixed (hs.fixed j) hbound), hs.peer, List.getLast?_append,
      Option.or_assoc]
  exact outputs_invariant hstep (l := []) ⟨fun _ => rfl, rfl⟩ (final_eq_foldl (fun _ _ => rfl) h es)

/-- **The last sender is remembered**, and hears what the stack broadcasts itself. -/
theorem peer_remembered (maxMessageLength : UInt16) (maxConnectionStringLength : UInt8)
    (h : Slots UdpSocket n) (es : List (SocketEvent n)) {j : Fin n}
    (hbound : (h.slots j).binding.bound = true)
    (hfirst : ∀ i < j, (h.slots i).binding.networkPortInstance ≠
      (h.slots j).binding.networkPortInstance)
    (sendTo : SendTo) (primary : Option Interface) (message : Message)
    (connectionString : ConnectionString) (hstringless : connectionString.octets = none)
    (broadcast : Bool) (hchosen : isStackChosenBroadcast message.octets = .ok true) :
    let h' := es.foldl (fun h e => e.next maxMessageLength maxConnectionStringLength h) h
    let heard := outputs (SocketEvent.step maxMessageLength maxConnectionStringLength)
      (SocketEvent.hears maxMessageLength maxConnectionStringLength j) h es
    let datagram : Datagram := ⟨⟨CASExampleHelper.getLocalBroadcastIPv4 primary,
      (h.slots j).binding.port⟩, message.octets⟩
    CASExampleHelper.helperSendMessage sendTo primary (List.ofFn fun i => (h'.slots i).binding)
        message connectionString (h.slots j).binding.networkPortInstance broadcast =
      .ok ⟨datagram :: ((heard.getLast?.or (h.slots j).binding.peer).toList.map
        (⟨·, message.octets⟩)), udpSend sendTo [] datagram⟩ := by
  intro h' heard datagram
  obtain ⟨hfixed, hpeer⟩ := remembers_foldl maxMessageLength maxConnectionStringLength es hbound
  have hfound : CASExampleHelper.findUdpBindingByInstance
      (List.ofFn fun i => (h'.slots i).binding) (h.slots j).binding.networkPortInstance =
        some (h'.slots j).binding := by
    refine List.find?_ofFn_eq_some.2 ⟨beq_iff_eq.2 (instance_of_fixed (hfixed j)), j, rfl, ?_⟩
    intro i hi hsame
    exact hfirst i hi ((instance_of_fixed (hfixed i)).symm.trans (beq_iff_eq.1 hsame))
  have hport : (h'.slots j).binding.port = (h.slots j).binding.port :=
    congrArg (fun fixed => fixed.1) (hfixed j)
  have hbound' : (h'.slots j).binding.bound = true := bound_of_fixed (hfixed j) hbound
  rw [CASExampleHelper.helperSendMessage, hfound]
  dsimp only
  rw [hbound', hstringless, hport, show (h'.slots j).binding.peer = _ from hpeer]
  cases heard.getLast?.or (h.slots j).binding.peer with
  | none => rfl
  | some peer =>
    dsimp only [transmit]
    rw [isStackChosenBroadcast_eq, hchosen]
    rfl

/-- A router's start-up I-Am-Router-To-Network. -/
def iAmRouter : Message := ⟨[0x81, 0x0B, 0x00, 0x09, 0x01, 0x80, 0x01, 0x00, 0x05], by decide⟩

theorem peer_remembered_iAmRouter :
    CASExampleHelper.helperSendMessage (fun _ _ => 9) none
        (List.ofFn fun i => (([.receive, .receive] : List (SocketEvent 2)).foldl
          (fun h e => e.next 1497 18 h) oneBehindTwo).slots i |>.binding)
        iAmRouter ⟨none, 0, by simp⟩ 2 true =
      .ok ⟨[⟨⟨⟨255, 255, 255, 255⟩, 47808⟩, iAmRouter.octets⟩,
        ⟨⟨⟨10, 0, 0, 2⟩, 50000⟩, iAmRouter.octets⟩], 9⟩ :=
  peer_remembered 1497 18 oneBehindTwo [.receive, .receive] (j := 1) rfl (by decide)
    (fun _ _ => 9) none iAmRouter ⟨none, 0, by simp⟩ rfl true (by decide)

end

end BacnetBc
