import BacnetBc.Hub.World
import BacnetBc.Lib.Reassembly

/-!
# Received frames

The octets of a WebSocket message arrive in fragments, and `HubProtocolCallback` puts the binary
ones together. A run is cut at each `Connect` to a URI; in each segment there are the fragments that
arrive on the connection it opens, and the frames that are queued for the URI (`Item`).

**Theorem (`frames_delivered`).** In each segment the frames are the binary messages of 1 to 1600
octets that have arrived in full, whole and in order. What is too large, is text, or is cut off by
the end of the connection or by another `Connect` leaves nothing behind.
-/

namespace BacnetBc

open Memory Trajectory Reassembly

namespace Hub

/-! ## What arrives and what is delivered -/

inductive Item
  | arrived (fragment : Fragment UInt8)
  | delivered (data : Octets)

namespace Item

def fragmentOf : Item → Option (Fragment UInt8)
  | arrived fragment => some fragment
  | delivered _ => none

def frameOf : Item → Option Octets
  | arrived _ => none
  | delivered data => some data

end Item

def arrivedIn (items : List Item) : List (Fragment UInt8) := items.filterMap Item.fragmentOf

def deliveredIn (items : List Item) : List Octets := items.filterMap Item.frameOf

theorem arrivedIn_append (items more : List Item) :
    arrivedIn (items ++ more) = arrivedIn items ++ arrivedIn more := List.filterMap_append

theorem deliveredIn_append (items more : List Item) :
    deliveredIn (items ++ more) = deliveredIn items ++ deliveredIn more := List.filterMap_append

namespace World

/-- The fragment that arrives on the entry's connection. -/
def arrives (w : World) (uri : Octets) (e : Event) : List (Fragment UInt8) :=
  match w.happening uri e with
  | .report _ (.receive isBinary isFinal octets) => [⟨isBinary, isFinal, octets⟩]
  | _ => []

/-- The frames that a step appends to the queue for a URI. -/
def delivers (w : World) (uri : Octets) (e : Event) : List Octets :=
  ((w.next e).connector.receivedFrames.drop w.connector.receivedFrames.length).filterMap
    fun frame => if frame.uri = uri then some frame.data else none

def items (uri : Octets) (w : World) (e : Event) : List Item :=
  (w.arrives uri e).map Item.arrived ++ (w.delivers uri e).map Item.delivered

/-- A `Connect` to the URI that returns true. -/
def startsAttempt (uri : Octets) (w : World) (e : Event) : Bool :=
  match w.happening uri e with
  | .connect _ => true
  | _ => false

variable {w : World} {uri : Octets} {e : Event}

theorem arrivedIn_items : arrivedIn (w.items uri e) = w.arrives uri e := by
  rw [items, arrivedIn_append]
  simp [arrivedIn, Item.fragmentOf, Function.comp_def]

theorem deliveredIn_items : deliveredIn (w.items uri e) = w.delivers uri e := by
  rw [items, deliveredIn_append]
  simp [deliveredIn, Item.frameOf, Function.comp_def]

theorem delivers_of_eq (h : (w.next e).connector.receivedFrames = w.connector.receivedFrames) :
    w.delivers uri e = [] := by
  rw [delivers, h, List.drop_length]
  rfl

/-- **The frames of a step** are those of its happening. -/
theorem delivers_eq (hk : w.connector.reloading = false) (uri : Octets) (e : Event) :
    w.delivers uri e = match w.happening uri e with
      | .report socket reason =>
        ((w.connector.connection uri).handle socket reason).frame.toList
      | _ => [] := by
  cases e with
  | connect u via =>
    have hsame : (w.next (.connect u via)).connector.receivedFrames =
        w.connector.receivedFrames := by
      rw [next_connect]
      cases hc : w.connector.canConnect u with
      | false => rw [Connector.connect_eq_of_not hc]
      | true =>
        rw [Connector.connect_eq hk hc]
        cases via with
        | socket s => rfl
        | null s reported =>
          dsimp only [Via.result]
          split_ifs <;> rfl
    rw [delivers_of_eq hsame, happening]
    split_ifs <;> rfl
  | disconnect u =>
    have hsame : (w.next (.disconnect u)).connector.receivedFrames =
        w.connector.receivedFrames := by
      change (w.connector.disconnect u).receivedFrames = _
      unfold Connector.disconnect
      split_ifs <;> rfl
    rw [delivers_of_eq hsame, happening]
    split_ifs <;> rfl
  | send u data =>
    have hsame : (w.next (.send u data)).connector.receivedFrames =
        w.connector.receivedFrames := by
      change (w.connector.send u data).1.receivedFrames = _
      unfold Connector.send
      dsimp only
      split_ifs <;> rfl
    rw [delivers_of_eq hsame, happening]
    split_ifs <;> rfl
  | popStatusEvent =>
    refine delivers_of_eq ?_
    change w.connector.popStatusEvent.1.receivedFrames = _
    unfold Connector.popStatusEvent
    split <;> rfl
  | popReceived =>
    unfold delivers
    change List.filterMap _ (w.connector.popReceived.1.receivedFrames.drop _) = []
    unfold Connector.popReceived
    cases hframes : w.connector.receivedFrames with
    | nil => rw [hframes]; rfl
    | cons frame frames =>
      have hgone : frames.drop (frame :: frames).length = [] :=
        List.drop_eq_nil_of_le (Nat.le_succ _)
      dsimp only
      rw [hgone]
      rfl
  | reloadCredentials callbacks created =>
    refine delivers_of_eq ?_
    change (w.connector.reloadCredentials _ created).1.receivedFrames = _
    rw [Connector.reloadCredentials_eq]
    rfl
  | callback socket reason =>
    rcases w.current_or_stale socket with ⟨u, hu, hs⟩ | hstale
    · have hadded : (w.next (.callback socket reason)).connector.receivedFrames =
          w.connector.receivedFrames ++
            ((w.connector.connection u).handle socket reason).frame.toList.map
              fun data => ⟨u, data⟩ := by
        change (w.call socket reason).1.receivedFrames = _
        rw [next_callback_current hk hu hs, Connector.store_receivedFrames]
      rw [delivers, hadded, List.drop_left, List.filterMap_map]
      by_cases huri : u = uri
      · subst huri
        rw [happening_callback hu hs]
        simp
      · rw [happening, hu, if_neg fun h => huri (Option.some.inj h.1), List.filterMap_eq_nil_iff]
        intro data _
        exact if_neg huri
    · rw [delivers_of_eq (by rw [next_callback_stale hk hstale]), happening_stale hstale]

end World

/-! ## The entry's assembler -/

namespace Connection

def assembler (c : Connection) : Assembler UInt8 := ⟨c.receiveAssembly, c.receiveOverflow⟩

theorem assembler_assemble (c : Connection) (octets : Octets) :
    (c.assemble octets).assembler = c.assembler.add maxReceivedFrameOctets octets := by
  unfold assemble Assembler.add assembler
  dsimp only
  split_ifs with hoverflow hlong
  · rfl
  · rfl
  · simp only [Bool.not_eq_true] at hoverflow
    rw [hoverflow]

/-- A fragment goes to the assembler. -/
theorem assembler_receive (c : Connection) (f : Fragment UInt8) :
    (c.receive f.isBinary f.isFinal f.data).connection.assembler =
        (c.assembler.receive maxReceivedFrameOctets f).1 ∧
      (c.receive f.isBinary f.isFinal f.data).frame =
        (c.assembler.receive maxReceivedFrameOctets f).2 := by
  have hassembler := c.assembler_assemble f.data
  unfold receive Assembler.receive
  cases f.isBinary with
  | false => exact ⟨rfl, rfl⟩
  | true =>
    rw [← hassembler]
    cases f.isFinal with
    | false => exact ⟨rfl, rfl⟩
    | true => exact ⟨rfl, rfl⟩

/-- No other event makes or takes octets. -/
theorem assembler_handle (c : Connection) (socket : Nat) {reason : Reason}
    (h : ∀ isBinary isFinal octets, reason ≠ .receive isBinary isFinal octets) :
    (c.handle socket reason).connection.assembler = c.assembler ∧
      (c.handle socket reason).frame = none := by
  cases reason with
  | receive isBinary isFinal octets => exact absurd rfl (h isBinary isFinal octets)
  | writeable written =>
    rw [handle, writeable]
    split_ifs
    · exact ⟨rfl, rfl⟩
    · cases c.sendQueue with
      | nil => exact ⟨rfl, rfl⟩
      | cons frame frames =>
        dsimp only
        split_ifs <;> exact ⟨rfl, rfl⟩
  | _ => exact ⟨rfl, rfl⟩

theorem assembler_of_quiet (c : Connection) {h : Happening} (hquiet : h.quiet = true) :
    (c.next h).assembler = c.assembler := by
  cases h with
  | nothing => rfl
  | disconnect => rw [next]; split_ifs <;> rfl
  | send data => rw [next]; split_ifs <;> rfl
  | connect socket => cases hquiet
  | reload => cases hquiet
  | report socket reason => cases hquiet

end Connection

/-! ## A segment while it grows -/

namespace World

/-- What has been delivered in a segment so far, and what the assembler and libwebsockets know of
the message that has begun to arrive. -/
structure Assembled (uri : Octets) (w : World) (items : List Item) : Prop where
  live : w.Live
  delivered : deliveredIn items = ((progress (arrivedIn items)).complete.filter
    (Assembler.deliverable maxReceivedFrameOctets)).map content
  pending : ∀ socket x, (w.connector.connection uri).socket = some socket →
    w.sockets socket = some x →
    (w.connector.connection uri).assembler.Holds maxReceivedFrameOctets
        (progress (arrivedIn items)).pending ∧
      ∀ f ∈ (progress (arrivedIn items)).pending, x.message = some f.isBinary

variable {w w' : World} {uri : Octets} {e : Event} {items : List Item}

/-- A step that delivers nothing, and through which nothing arrives. -/
theorem items_of_not_receive (hk : w.connector.reloading = false)
    (h : ∀ socket isBinary isFinal octets,
      w.happening uri e ≠ .report socket (.receive isBinary isFinal octets)) :
    w.items uri e = [] := by
  have harrives : w.arrives uri e = [] := by
    unfold arrives
    split
    · rename_i socket isBinary isFinal octets heq
      exact absurd heq (h socket isBinary isFinal octets)
    · rfl
  have hdelivers : w.delivers uri e = [] := by
    rw [delivers_eq hk]
    split
    · rename_i socket reason heq
      have hreason : ∀ isBinary isFinal octets, reason ≠ .receive isBinary isFinal octets := by
        intro isBinary isFinal octets hreceive
        exact h socket isBinary isFinal octets (hreceive ▸ heq)
      rw [(Connection.assembler_handle _ socket hreason).2]
      rfl
    · rfl
  rw [items, harrives, hdelivers]
  rfl

theorem message_after {x y : LwsSocket} {result : Int} {reason : Reason}
    (h : ∀ isBinary isFinal octets, reason ≠ .receive isBinary isFinal octets)
    (hy : x.after result reason = some y) : y.message = x.message := by
  cases reason with
  | receive isBinary isFinal octets => exact absurd rfl (h isBinary isFinal octets)
  | connectionError => cases hy
  | closed => cases hy
  | _ =>
    obtain rfl := Option.some.inj hy
    rfl

/-- **A fragment arrives** on the connection of the entry. -/
theorem Assembled.receive {socket : Nat} {f : Fragment UInt8} (h : w.Assembled uri items)
    (hcurrent : (w.connector.connection uri).socket = some socket)
    (hallows : w.allows (.callback socket (.receive f.isBinary f.isFinal f.data)) = true) :
    (w.next (.callback socket (.receive f.isBinary f.isFinal f.data))).Assembled uri
      (items ++ w.items uri (.callback socket (.receive f.isBinary f.isFinal f.data))) := by
  have hk := h.live.reloading
  have hhappening := happening_callback (user_of_live h.live hcurrent) hcurrent
    (.receive f.isBinary f.isFinal f.data)
  obtain ⟨x, hx, -⟩ := h.live.current hcurrent
  obtain ⟨hholds, hmessage⟩ := h.pending socket x hcurrent hx
  have hmay := mayReport_of_allows hallows hx
  have hkind : ∀ g ∈ (progress (arrivedIn items)).pending, g.isBinary = f.isBinary := by
    intro g hg
    have hknown := hmessage g hg
    simp only [LwsSocket.mayReport, hknown, reduceCtorEq, decide_false, Bool.false_or,
      Bool.and_eq_true, decide_eq_true_eq, Option.some.injEq] at hmay
    exact hmay.2
  obtain ⟨hassembler, hframe⟩ := (w.connector.connection uri).assembler_receive f
  have harrived : arrivedIn (items ++ w.items uri
      (.callback socket (.receive f.isBinary f.isFinal f.data))) = arrivedIn items ++ [f] := by
    rw [arrivedIn_append, arrivedIn_items, arrives, hhappening]
  have hdelivered : deliveredIn (items ++ w.items uri
      (.callback socket (.receive f.isBinary f.isFinal f.data))) = deliveredIn items ++
        ((w.connector.connection uri).assembler.receive maxReceivedFrameOctets f).2.toList := by
    rw [deliveredIn_append, deliveredIn_items, delivers_eq hk, hhappening, ← hframe]
    rfl
  have hentry : ((w.next (.callback socket
      (.receive f.isBinary f.isFinal f.data))).connector.connection uri).assembler =
        ((w.connector.connection uri).assembler.receive maxReceivedFrameOctets f).1 := by
    rw [connection_next hk, hhappening, ← hassembler]
    rfl
  have hsocket : ((w.next (.callback socket
      (.receive f.isBinary f.isFinal f.data))).connector.connection uri).socket = some socket := by
    rw [connection_next hk, hhappening, Connection.next, Connection.handle_socket hcurrent]
    rfl
  have hafter := sockets_callback hx (.receive f.isBinary f.isFinal f.data)
  refine ⟨h.live.next hallows, ?_, ?_⟩
  · rw [hdelivered, harrived, h.delivered, progress_concat, Progress.push]
    cases hfinal : f.isFinal with
    | true =>
      obtain ⟨-, hout⟩ := Assembler.receive_final hholds hfinal hkind
      rw [hout, if_pos rfl]
      dsimp only
      rw [List.filter_append, List.map_append]
      congr 1
      cases hdeliver : Assembler.deliverable maxReceivedFrameOctets
        ((progress (arrivedIn items)).pending ++ [f]) <;> simp [hdeliver]
    | false =>
      rw [(Assembler.holds_receive hholds hfinal).2]
      exact List.append_nil _
  · intro s y hs hy
    obtain rfl := Option.some.inj (hsocket.symm.trans hs)
    rw [hentry, harrived, progress_concat, Progress.push]
    cases hfinal : f.isFinal with
    | true =>
      refine ⟨(Assembler.receive_final hholds hfinal hkind).1, ?_⟩
      intro g hg
      cases hg
    | false =>
      refine ⟨(Assembler.holds_receive hholds hfinal).1, ?_⟩
      have hy' : y.message = some f.isBinary := by
        rw [hafter] at hy
        obtain rfl := Option.some.inj hy
        simp [hfinal]
      intro g hg
      rw [hy']
      rcases List.mem_append.1 hg with hg | hg
      · rw [hkind g hg]
      · rw [List.mem_singleton.1 hg]

/-- **Every other step** keeps what is assembled, or ends the connection. -/
theorem Assembled.keep (h : w.Assembled uri items) (hallows : w.allows e = true)
    (hreceive : ∀ socket isBinary isFinal octets,
      w.happening uri e ≠ .report socket (.receive isBinary isFinal octets))
    (hconnect : ∀ socket, w.happening uri e ≠ .connect socket) :
    (w.next e).Assembled uri (items ++ w.items uri e) := by
  have hk := h.live.reloading
  rw [items_of_not_receive hk hreceive, List.append_nil]
  refine ⟨h.live.next hallows, h.delivered, ?_⟩
  intro s y hs hy
  cases hhappening : w.happening uri e with
  | connect socket => exact absurd hhappening (hconnect socket)
  | reload =>
    rw [connection_next hk, hhappening, Connection.next] at hs
    split_ifs at hs with huse
    · cases hs
    · exact absurd (by simp [Connection.isInUse, hs]) huse
  | report socket reason =>
    obtain ⟨rfl, huser, hcurrent⟩ := happening_report hhappening
    have hreason : ∀ isBinary isFinal octets, reason ≠ .receive isBinary isFinal octets := by
      intro isBinary isFinal octets heq
      exact hreceive socket isBinary isFinal octets (heq ▸ hhappening)
    obtain ⟨x, hx, -⟩ := h.live.current hcurrent
    obtain ⟨hholds, hmessage⟩ := h.pending socket x hcurrent hx
    rw [connection_next hk, hhappening, Connection.next] at hs ⊢
    rw [Connection.handle_socket hcurrent] at hs
    split_ifs at hs with hkeeps
    obtain rfl := Option.some.inj hs
    rw [sockets_callback hx] at hy
    rw [((w.connector.connection uri).assembler_handle socket hreason).1,
      message_after hreason hy]
    exact ⟨hholds, hmessage⟩
  | _ =>
    have hquiet : (w.happening uri e).quiet = true := by rw [hhappening]; rfl
    have hidle := idle_next h.live hallows hquiet
    rw [hidle.socket] at hs
    obtain ⟨x, hx, -⟩ := h.live.current hs
    obtain rfl := Option.some.inj ((hidle.sockets hs hx).symm.trans hy)
    rw [connection_next hk, Connection.assembler_of_quiet _ hquiet]
    exact h.pending s x hs hx

/-- A new attempt begins with nothing. -/
theorem Assembled.start (h : w.Assembled uri items) (hallows : w.allows e = true)
    {socket : Option Nat} (hhappening : w.happening uri e = .connect socket) :
    (w.next e).Assembled uri (w.items uri e) := by
  have hk := h.live.reloading
  have hreceive : ∀ s isBinary isFinal octets,
      w.happening uri e ≠ .report s (.receive isBinary isFinal octets) := by
    intro s isBinary isFinal octets heq
    rw [hhappening] at heq
    cases heq
  rw [items_of_not_receive hk hreceive]
  refine ⟨h.live.next hallows, rfl, ?_⟩
  intro s y hs hy
  rw [connection_next hk, hhappening]
  exact ⟨Assembler.holds_empty, nofun⟩

/-- A segment grows. -/
theorem Assembled.grow (h : w.Assembled uri items) (hallows : w.allows e = true)
    (hstarts : w.startsAttempt uri e = false) :
    (w.next e).Assembled uri (items ++ w.items uri e) := by
  have hconnect : ∀ socket, w.happening uri e ≠ .connect socket := by
    intro socket heq
    rw [startsAttempt, heq] at hstarts
    cases hstarts
  by_cases hreceive : ∃ socket isBinary isFinal octets,
      w.happening uri e = .report socket (.receive isBinary isFinal octets)
  · obtain ⟨socket, isBinary, isFinal, octets, heq⟩ := hreceive
    obtain ⟨rfl, -, hcurrent⟩ := happening_report heq
    exact Assembled.receive (f := ⟨isBinary, isFinal, octets⟩) h hcurrent hallows
  · refine h.keep hallows ?_ hconnect
    intro socket isBinary isFinal octets heq
    exact hreceive ⟨socket, isBinary, isFinal, octets, heq⟩

theorem Assembled.begin (h : w.Assembled uri items) (hallows : w.allows e = true)
    (hstarts : w.startsAttempt uri e = true) : (w.next e).Assembled uri (w.items uri e) := by
  cases hhappening : w.happening uri e with
  | connect socket => exact h.start hallows hhappening
  | _ =>
    rw [startsAttempt, hhappening] at hstarts
    cases hstarts

theorem assembled_started (created : Bool) : (started created).Assembled uri [] where
  live := live_started created
  delivered := rfl
  pending := fun socket x _ hx => by cases hx

end World

/-! ## Runs -/

/-- What arrives and what is delivered for a URI, cut at each attempt. -/
def segmentsOf (uri : Octets) (w : World) (es : List Event) : List (List Item) :=
  segments World.step (World.startsAttempt uri) (World.items uri) w es

/-- **The frames of each connection** are the messages of 1 to 1600 octets that have arrived on it
in full. -/
theorem frames_delivered (created : Bool) (es : List Event) (uri : Octets) :
    ∀ items ∈ segmentsOf uri (.started created) es,
      ∀ (messages : List (List (Fragment UInt8))) (rest : List (Fragment UInt8)),
        arrivedIn items = messages.flatten ++ rest → (∀ m ∈ messages, Whole m) →
        (∀ f ∈ rest, f.isFinal = false) →
        deliveredIn items = (messages.filter fun m => m.all Fragment.isBinary &&
          1 ≤ (content m).length && (content m).length ≤ 1600).map content := by
  have hgrow : ∀ (w : World) (e : Event) (w' : World) (items : List Item),
      w.Assembled uri items → w.step e = .ok w' → w.startsAttempt uri e = false →
        w'.Assembled uri (items ++ w.items uri e) := by
    intro w e w' items h hstep hstarts
    obtain ⟨hallows, rfl⟩ := World.step_eq_ok hstep
    exact h.grow hallows hstarts
  have hbegin : ∀ (w : World) (e : Event) (w' : World) (items : List Item),
      w.Assembled uri items → w.step e = .ok w' → w.startsAttempt uri e = true →
        w'.Assembled uri (w.items uri e) := by
    intro w e w' items h hstep hstarts
    obtain ⟨hallows, rfl⟩ := World.step_eq_ok hstep
    exact h.begin hallows hstarts
  have hgood : ∀ items ∈ segmentsOf uri (.started created) es,
      deliveredIn items = ((progress (arrivedIn items)).complete.filter
        (Assembler.deliverable maxReceivedFrameOctets)).map content :=
    good_segments (fun w items h => World.Assembled.delivered h) hgrow hbegin es
      (World.assembled_started created)
  intro items hitems messages rest harrived hmessages hrest
  have hsegment := hgood items hitems
  rw [harrived, progress_messages hmessages hrest] at hsegment
  exact hsegment

/-- A message in three fragments, one of them empty, and a message that the close cuts off. -/
def fragmentRun : List Event :=
  [.connect hubUri (.socket 1), .callback 1 .established,
    .callback 1 (.receive true false [1, 2]), .callback 1 (.receive true false []),
    .callback 1 (.receive true true [3]), .callback 1 (.receive true false [4]),
    .callback 1 .closed, .connect hubUri (.socket 2), .callback 2 .established,
    .callback 2 (.receive false true [5]), .callback 2 (.receive true true [6])]

theorem frames_delivered_fragments :
    ∃ items ∈ segmentsOf hubUri (.started true) fragmentRun,
      arrivedIn items = [⟨true, false, [1, 2]⟩, ⟨true, false, []⟩, ⟨true, true, [3]⟩,
        ⟨true, false, [4]⟩] ∧ deliveredIn items = [[1, 2, 3]] := by
  have hitems : ∃ items ∈ segmentsOf hubUri (.started true) fragmentRun,
      arrivedIn items = [⟨true, false, [1, 2]⟩, ⟨true, false, []⟩, ⟨true, true, [3]⟩,
        ⟨true, false, [4]⟩] := by decide
  obtain ⟨items, hmem, harrived⟩ := hitems
  have hwhole : ∀ m ∈ [[(⟨true, false, [1, 2]⟩ : Fragment UInt8), ⟨true, false, []⟩,
      ⟨true, true, [3]⟩]], Whole m := by
    intro m hm
    obtain rfl := List.mem_singleton.1 hm
    exact ⟨[⟨true, false, [1, 2]⟩, ⟨true, false, []⟩], ⟨true, true, [3]⟩, rfl, by decide, rfl⟩
  refine ⟨items, hmem, harrived, ?_⟩
  exact frames_delivered true fragmentRun hubUri items hmem _ [⟨true, false, [4]⟩]
    (by rw [harrived]; rfl) hwhole (by decide)

end Hub

end BacnetBc
