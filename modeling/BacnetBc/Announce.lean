import BacnetBc.CommandLine.Checked
import BacnetBc.Lib.Fifo
import BacnetBc.Udp6
import Mathlib.Data.List.Chain

/-!
# The device announces itself

`main` broadcasts an I-Am and a Who-Is when the device can be heard: at once on BACnet/IP and
BACnet/IPv6, once it is in the token ring on MS/TP, and each time the hub connection comes up on
BACnet/SC. A restart broadcasts an I-Am.

A run is any row of passes of the main loop (`LoopPass`). Of the stack a pass takes the state
changes it reports, and where: it may report them inside every call. Of the MS/TP engine it takes
whether the station is in the token ring.

**Theorem (`announced_once`).** Except on BACnet/SC, the two go out exactly once in every run: at
the start, or in the first pass on MS/TP that finds the station in the token ring or comes too late.

**Theorem (`ring_log`).** What is printed about the token ring is what has happened: each line comes
behind one that it may follow, and not before its time.

**Theorem (`hub_announced`).** On BACnet/SC a pass announces the device exactly when the stack has
reported a connection since the pass before looked. Each of the two goes to the hub the stack
reported last, under its whole URI, and not at all when that is no hub.
-/

namespace BacnetBc

open CommandLine Memory Trajectory Fifo

/-! ## Broadcasts -/

inductive BroadcastService
  | iAm
  | whoIs
deriving DecidableEq, Repr

/-- What `BACnetStack_SendIAm` or `BACnetStack_SendWhoIs` is called with, to broadcast. -/
structure StackBroadcast where
  service : BroadcastService
  connectionString : ConnectionString
  networkPortInstance : UInt32
  network : UInt16

def networkPortInstanceOf : DataLink → UInt32
  | .ipv4 => 1
  | .ipv6 => 2
  | .mstp => 3
  | .sc => 4

/-- A state change that the stack reports. -/
structure StateChange where
  stateMachine : UInt8
  newState : UInt8
deriving DecidableEq, Repr

def stateMachineHubConnectionStatus : UInt8 := 1

/-- `g_hubConnectionStatus` and `g_hubConnectedEvent`. -/
structure HubStatus where
  hubConnectionStatus : UInt8 := 0
  hubConnectedEvent : Bool := false
deriving DecidableEq, Repr

namespace HubStatus

/-- `CallbackBACnetSCStateChange`. -/
def stateChange (s : HubStatus) (change : StateChange) : HubStatus :=
  if change.stateMachine = stateMachineHubConnectionStatus then
    { hubConnectionStatus := change.newState
      hubConnectedEvent :=
        s.hubConnectedEvent || (change.newState == 1 || change.newState == 2) }
  else s

/-- `TakeHubConnectedEvent`. -/
def takeHubConnectedEvent (s : HubStatus) : HubStatus × Bool :=
  ({ s with hubConnectedEvent := false }, s.hubConnectedEvent)

end HubStatus

/-- `ConnectedHubUri`, for a status. -/
def connectedHubUri (options : Options) (hubConnectionStatus : UInt8) : Octets :=
  if hubConnectionStatus = 1 then options.scPrimaryHubUri
  else if hubConnectionStatus = 2 then options.scFailoverHubUri
  else []

/-- A connection string with the length in one octet. -/
def connectionStringOf (octets : Octets) : ConnectionString where
  pointer := some octets
  length := .ofNat octets.length
  length_le := by
    rintro _ ⟨⟩
    rw [UInt8.toNat_ofNat']
    exact Nat.mod_le _ _

/-- `Ipv6MulticastConnectionString`. -/
def ipv6MulticastConnectionString (udpPort : UInt16) : Octets :=
  Ipv6.defaultGroup.val ++ [portHigh udpPort, portLow udpPort]

/-- A broadcast on the active data link. -/
def broadcastOn (service : BroadcastService) (mstpNetwork : UInt16) (options : Options)
    (link : UdpLink) (hub : HubStatus) : Option StackBroadcast :=
  let networkPortInstance := networkPortInstanceOf options.dataLink
  match options.dataLink with
  | .ipv4 => some ⟨service, connectionStringOf link.localBroadcastConnString,
    networkPortInstance, 0⟩
  | .ipv6 => some ⟨service, connectionStringOf (ipv6MulticastConnectionString options.udpPort),
      networkPortInstance, 0⟩
  | .mstp => some ⟨service, connectionStringOf [0xFF], networkPortInstance, mstpNetwork⟩
  | .sc =>
    let hubUri := connectedHubUri options hub.hubConnectionStatus
    if hubUri.isEmpty then none
    else some ⟨service, connectionStringOf hubUri, networkPortInstance, 0⟩

/-- `SendIAmBroadcast`. -/
def sendIAmBroadcast : Options → UdpLink → HubStatus → Option StackBroadcast := broadcastOn .iAm 0

/-- `SendWhoIsBroadcast`: on MS/TP to all networks. -/
def sendWhoIsBroadcast : Options → UdpLink → HubStatus → Option StackBroadcast :=
  broadcastOn .whoIs 65535

/-! ## The main loop -/

/-- What `main` prints about the token ring, with the readings of the clock behind it. -/
inductive RingLine
  | joined (joinedTokenRingTime : Time)
  | left
  | oneMinute (now : Time)
  | notInRing (now lastMstpStatus : Time)
deriving DecidableEq, Repr

inductive LoopOutput
  /-- An I-Am or a Who-Is that announces the device. -/
  | announced (broadcast : StackBroadcast)
  /-- The I-Am of a restart. -/
  | restarted (broadcast : StackBroadcast)
  | line (line : RingLine)

/-- What the main loop keeps between its passes. -/
structure Announcer where
  announcementPending : Bool
  wasInTokenRing : Bool
  tokenRingSnapshotPending : Bool
  joinedTokenRingTime : Time
  lastMstpStatus : Time
  hub : HubStatus

/-- What a pass finds: the clock, each time it is read, and what the stack reports, up to the next
call. -/
structure LoopPass where
  inTokenRing : Bool := false
  announceTime : Time := 0
  joinedTime : Time := 0
  snapshotTime : Time := 0
  statusTime : Time := 0
  statusSetTime : Time := 0
  /-- In the tick, and in `ScNode::Service`. -/
  beforeTake : List StateChange := []
  /-- In the call that sends the I-Am. -/
  beforeWhoIs : List StateChange := []
  beforeRestart : List StateChange := []
  afterwards : List StateChange := []
  /-- `RestartDue`. -/
  restart : Bool := false

def mstpAnnounceTimeoutMilliseconds : Nat := 10000
def mstpStatusIntervalMilliseconds : Nat := 10000
def mstpTokenRingSnapshotMilliseconds : Nat := 60000

namespace Announcer

section
variable (options : Options) (link : UdpLink) (startTime : Time)

def start : Announcer where
  announcementPending := !(options.dataLink == .ipv4 || options.dataLink == .ipv6)
  wasInTokenRing := false
  tokenRingSnapshotPending := false
  joinedTokenRingTime := startTime
  lastMstpStatus := startTime
  hub := {}

/-- The I-Am and the Who-Is, with the state changes that the stack reports in between. -/
def announce (hub : HubStatus) (between : List StateChange) : List StackBroadcast :=
  (sendIAmBroadcast options link hub).toList ++
    (sendWhoIsBroadcast options link (between.foldl .stateChange hub)).toList

/-- What goes out before the main loop. -/
def startUp : List LoopOutput :=
  if options.dataLink == .ipv4 || options.dataLink == .ipv6 then
    (announce options link {} []).map .announced
  else []

/-- The start-up announcement on MS/TP. -/
def mstpAnnounce (p : LoopPass) (a : Announcer) : Announcer × List LoopOutput :=
  if a.announcementPending && (p.inTokenRing ||
      mstpAnnounceTimeoutMilliseconds < millisecondsSince p.announceTime startTime) then
    ({ a with announcementPending := false },
      (announce options link a.hub []).map .announced)
  else (a, [])

end

/-- A line when the station joins or leaves the token ring. -/
def joinedOrLeft (p : LoopPass) (a : Announcer) : Announcer × List LoopOutput :=
  if p.inTokenRing != a.wasInTokenRing then
    if p.inTokenRing then
      ({ a with
          wasInTokenRing := true
          joinedTokenRingTime := p.joinedTime
          tokenRingSnapshotPending := true },
        [.line (.joined p.joinedTime)])
    else ({ a with wasInTokenRing := false }, [.line .left])
  else (a, [])

def snapshot (p : LoopPass) (a : Announcer) : Announcer × List LoopOutput :=
  if p.inTokenRing && a.tokenRingSnapshotPending &&
      mstpTokenRingSnapshotMilliseconds <
        millisecondsSince p.snapshotTime a.joinedTokenRingTime then
    ({ a with tokenRingSnapshotPending := false }, [.line (.oneMinute p.snapshotTime)])
  else (a, [])

def status (p : LoopPass) (a : Announcer) : Announcer × List LoopOutput :=
  if !p.inTokenRing &&
      mstpStatusIntervalMilliseconds < millisecondsSince p.statusTime a.lastMstpStatus then
    ({ a with lastMstpStatus := p.statusSetTime },
      [.line (.notInRing p.statusTime p.statusSetTime)])
  else (a, [])

/-- One behind the other. -/
def andThen (first second : Announcer → Announcer × List LoopOutput) (a : Announcer) :
    Announcer × List LoopOutput :=
  let (a, out) := first a
  let (a, more) := second a
  (a, out ++ more)

section
variable (options : Options) (link : UdpLink) (startTime : Time)

/-- What a pass does for MS/TP, behind `MstpDataLink::Loop`. -/
def mstpWork (p : LoopPass) : Announcer → Announcer × List LoopOutput :=
  andThen (mstpAnnounce options link startTime p)
    (andThen (joinedOrLeft p) (andThen (snapshot p) (status p)))

/-- What a pass does for BACnet/SC, behind `ScNode::Service`. -/
def scWork (p : LoopPass) (a : Announcer) : Announcer × List LoopOutput :=
  let (hub, connected) := a.hub.takeHubConnectedEvent
  if connected then
    ({ a with announcementPending := false, hub := p.beforeWhoIs.foldl .stateChange hub },
      (announce options link hub p.beforeWhoIs).map .announced)
  else ({ a with hub := p.beforeWhoIs.foldl .stateChange hub }, [])

def dataLinkWork (p : LoopPass) : Announcer → Announcer × List LoopOutput :=
  match options.dataLink with
  | .ipv4 | .ipv6 => fun a => (a, [])
  | .mstp => mstpWork options link startTime p
  | .sc => scWork options link p

/-- The stack reports these. -/
def reports (changes : List StateChange) (a : Announcer) : Announcer :=
  { a with hub := changes.foldl .stateChange a.hub }

/-- A pass of the main loop. -/
def pass (p : LoopPass) (a : Announcer) : Announcer × List LoopOutput :=
  let (a, out) := dataLinkWork options link startTime p (a.reports p.beforeTake)
  let a := a.reports p.beforeRestart
  let iAm := if p.restart then (sendIAmBroadcast options link a.hub).toList else []
  (a.reports p.afterwards, out ++ iAm.map .restarted)

def step (a : Announcer) (p : LoopPass) : Except Unit Announcer :=
  .ok (pass options link startTime p a).1

def puts (a : Announcer) (p : LoopPass) : List LoopOutput := (pass options link startTime p a).2

/-- What `main` has put out at the end of a run. -/
def run (passes : List LoopPass) : List LoopOutput :=
  startUp options link ++
    outputs (step options link startTime) (puts options link startTime) (start options startTime)
      passes

end

end Announcer

/-! ## What was put out -/

namespace LoopOutput

def announced? : LoopOutput → Option StackBroadcast
  | announced broadcast => some broadcast
  | _ => none

def restarted? : LoopOutput → Option StackBroadcast
  | restarted broadcast => some broadcast
  | _ => none

def line? : LoopOutput → Option RingLine
  | line l => some l
  | _ => none

@[simp] theorem filterMap_announced? (l : List StackBroadcast) :
    (l.map announced).filterMap announced? = l := by
  rw [List.filterMap_map]
  exact List.filterMap_some

@[simp] theorem filterMap_announced?_restarted (l : List StackBroadcast) :
    (l.map restarted).filterMap announced? = [] := by
  rw [List.filterMap_map]
  exact List.filterMap_eq_nil_iff.2 fun _ _ => rfl

@[simp] theorem filterMap_restarted?_announced (l : List StackBroadcast) :
    (l.map announced).filterMap restarted? = [] := by
  rw [List.filterMap_map]
  exact List.filterMap_eq_nil_iff.2 fun _ _ => rfl

@[simp] theorem filterMap_line?_announced (l : List StackBroadcast) :
    (l.map announced).filterMap line? = [] := by
  rw [List.filterMap_map]
  exact List.filterMap_eq_nil_iff.2 fun _ _ => rfl

@[simp] theorem filterMap_line?_restarted (l : List StackBroadcast) :
    (l.map restarted).filterMap line? = [] := by
  rw [List.filterMap_map]
  exact List.filterMap_eq_nil_iff.2 fun _ _ => rfl

end LoopOutput

namespace Announcer

variable {options : Options} {link : UdpLink} {startTime : Time}

/-- Off BACnet/SC a broadcast does not depend on the hub. -/
theorem broadcastOn_of_ne (service : BroadcastService) (mstpNetwork : UInt16) (link : UdpLink)
    (h : options.dataLink ≠ .sc) :
    ∃ broadcast, ∀ hub, broadcastOn service mstpNetwork options link hub = some broadcast := by
  unfold broadcastOn
  cases hlink : options.dataLink with
  | ipv4 => exact ⟨_, fun _ => rfl⟩
  | ipv6 => exact ⟨_, fun _ => rfl⟩
  | mstp => exact ⟨_, fun _ => rfl⟩
  | sc => exact absurd hlink h

/-! ## The start-up announcement -/

/-- The start-up announcement is not put off any longer. The 10 s are measured by
`MillisecondsSince`, which begins again at 0 after 2^32 ms. -/
def Ready (startTime : Time) (p : LoopPass) : Prop :=
  p.inTokenRing = true ∨
    mstpAnnounceTimeoutMilliseconds < millisecondsSince p.announceTime startTime

instance (startTime : Time) (p : LoopPass) : Decidable (Ready startTime p) :=
  inferInstanceAs (Decidable (_ ∨ _))

@[simp] theorem andThen_fst (first second : Announcer → Announcer × List LoopOutput)
    (a : Announcer) : (andThen first second a).1 = (second (first a).1).1 := rfl

@[simp] theorem andThen_snd (first second : Announcer → Announcer × List LoopOutput)
    (a : Announcer) : (andThen first second a).2 = (first a).2 ++ (second (first a).1).2 := rfl

/-- A part of a pass that only prints lines. -/
structure Prints (part : Announcer → Announcer × List LoopOutput) : Prop where
  pending : ∀ a, (part a).1.announcementPending = a.announcementPending
  announced : ∀ a, (part a).2.filterMap LoopOutput.announced? = []
  restarted : ∀ a, (part a).2.filterMap LoopOutput.restarted? = []

theorem prints_joinedOrLeft (p : LoopPass) : Prints (joinedOrLeft p) := by
  constructor <;> intro a <;> unfold joinedOrLeft <;> split_ifs <;> rfl

theorem prints_snapshot (p : LoopPass) : Prints (snapshot p) := by
  constructor <;> intro a <;> unfold snapshot <;> split_ifs <;> rfl

theorem prints_status (p : LoopPass) : Prints (status p) := by
  constructor <;> intro a <;> unfold status <;> split_ifs <;> rfl

theorem Prints.andThen {first second : Announcer → Announcer × List LoopOutput}
    (hfirst : Prints first) (hsecond : Prints second) :
    Prints (Announcer.andThen first second) where
  pending a := (hsecond.pending _).trans (hfirst.pending a)
  announced a := by
    rw [andThen_snd, List.filterMap_append, hfirst.announced, hsecond.announced, List.append_nil]
  restarted a := by
    rw [andThen_snd, List.filterMap_append, hfirst.restarted, hsecond.restarted, List.append_nil]

theorem prints_lines (p : LoopPass) :
    Prints (andThen (joinedOrLeft p) (andThen (snapshot p) (status p))) :=
  (prints_joinedOrLeft p).andThen ((prints_snapshot p).andThen (prints_status p))

/-- What a part of a pass announces, if it is the time for it. -/
structure Announces (options : Options) (link : UdpLink) (startTime : Time) (p : LoopPass)
    (part : Announcer → Announcer × List LoopOutput) : Prop where
  pending : ∀ a, (part a).1.announcementPending =
    (a.announcementPending && !decide (Ready startTime p))
  announced : ∀ a, (part a).2.filterMap LoopOutput.announced? =
    if a.announcementPending = true ∧ Ready startTime p then announce options link a.hub [] else []

theorem announces_mstpAnnounce (options : Options) (link : UdpLink) (startTime : Time)
    (p : LoopPass) :
    Announces options link startTime p (mstpAnnounce options link startTime p) := by
  have hcond : ∀ a : Announcer, ((a.announcementPending && (p.inTokenRing ||
      mstpAnnounceTimeoutMilliseconds < millisecondsSince p.announceTime startTime)) = true) ↔
        a.announcementPending = true ∧ Ready startTime p := by
    intro a
    simp [Ready]
  constructor
  · intro a
    rw [mstpAnnounce]
    by_cases h : a.announcementPending = true ∧ Ready startTime p
    · rw [if_pos ((hcond a).2 h), h.1, decide_eq_true h.2]
      rfl
    · rw [if_neg (mt (hcond a).1 h)]
      cases hpending : a.announcementPending with
      | false => rfl
      | true => rw [decide_eq_false fun hready => h ⟨hpending, hready⟩]; rfl
  · intro a
    rw [mstpAnnounce]
    by_cases h : a.announcementPending = true ∧ Ready startTime p
    · rw [if_pos ((hcond a).2 h), if_pos h, LoopOutput.filterMap_announced?]
    · rw [if_neg (mt (hcond a).1 h), if_neg h]
      rfl

theorem announced_mstpWork (options : Options) (link : UdpLink) (startTime : Time) (p : LoopPass)
    (a : Announcer) :
    (mstpWork options link startTime p a).1.announcementPending =
        (a.announcementPending && !decide (Ready startTime p)) ∧
      (mstpWork options link startTime p a).2.filterMap LoopOutput.announced? =
        if a.announcementPending = true ∧ Ready startTime p then announce options link a.hub []
        else [] := by
  have hannounces := announces_mstpAnnounce options link startTime p
  have hprints := prints_lines p
  constructor
  · rw [mstpWork, andThen_fst, hprints.pending, hannounces.pending]
  · rw [mstpWork, andThen_snd, List.filterMap_append, hannounces.announced, hprints.announced,
      List.append_nil]

/-- What a pass announces is what its work for the data link announces. -/
theorem announced_pass (options : Options) (link : UdpLink) (startTime : Time) (p : LoopPass)
    (a : Announcer) :
    (pass options link startTime p a).1.announcementPending =
        (dataLinkWork options link startTime p (a.reports p.beforeTake)).1.announcementPending ∧
      (puts options link startTime a p).filterMap LoopOutput.announced? =
        (dataLinkWork options link startTime p (a.reports p.beforeTake)).2.filterMap
          LoopOutput.announced? := by
  constructor
  · rfl
  · rw [puts, pass, List.filterMap_append, LoopOutput.filterMap_announced?_restarted,
      List.append_nil]

/-- A pass announces the device on MS/TP when it has not been announced, and it is the time. -/
theorem announced_mstp (hlink : options.dataLink = .mstp) {broadcasts : List StackBroadcast}
    (hannounce : ∀ hub, announce options link hub [] = broadcasts) (a : Announcer)
    (passes : List LoopPass) :
    (outputs (step options link startTime) (puts options link startTime) a passes).filterMap
        LoopOutput.announced? =
      if a.announcementPending = true ∧ ∃ p ∈ passes, Ready startTime p then broadcasts
      else [] := by
  induction passes generalizing a with
  | nil => simp [outputs]
  | cons p passes ih =>
    obtain ⟨hpending, hannounced⟩ := announced_pass options link startTime p a
    obtain ⟨hwork, hworks⟩ := announced_mstpWork options link startTime p (a.reports p.beforeTake)
    rw [outputs_cons_ok rfl, List.filterMap_append, ih, hannounced, hpending]
    simp only [dataLinkWork, hlink]
    rw [hwork, hworks, hannounce, show (a.reports p.beforeTake).announcementPending =
      a.announcementPending from rfl]
    by_cases ha : a.announcementPending = true
    · by_cases hready : Ready startTime p
      · simp [ha, hready]
      · simp [ha, hready]
    · simp [ha]

/-- Nothing is announced in the passes on BACnet/IP and BACnet/IPv6. -/
theorem announced_ip (hlink : options.dataLink = .ipv4 ∨ options.dataLink = .ipv6) (a : Announcer)
    (passes : List LoopPass) :
    (outputs (step options link startTime) (puts options link startTime) a passes).filterMap
      LoopOutput.announced? = [] := by
  induction passes generalizing a with
  | nil => rfl
  | cons p passes ih =>
    have hwork : dataLinkWork options link startTime p (a.reports p.beforeTake) =
        (a.reports p.beforeTake, []) := by
      unfold dataLinkWork
      obtain hlink | hlink := hlink <;> rw [hlink]
    rw [outputs_cons_ok rfl, List.filterMap_append, ih, (announced_pass options link startTime p
      a).2, hwork]
    rfl

/-- Off BACnet/SC each restart broadcasts the same I-Am. -/
theorem restarted_of_ne (h : options.dataLink ≠ .sc) {iAm : StackBroadcast}
    (hiAm : ∀ hub, sendIAmBroadcast options link hub = some iAm) (a : Announcer)
    (passes : List LoopPass) :
    (outputs (step options link startTime) (puts options link startTime) a passes).filterMap
        LoopOutput.restarted? = (passes.filter (·.restart)).map fun _ => iAm := by
  rw [map_outputs rfl fun _ _ => List.filterMap_append]
  induction passes generalizing a with
  | nil => rfl
  | cons p passes ih =>
    have hwork : (dataLinkWork options link startTime p (a.reports p.beforeTake)).2.filterMap
        LoopOutput.restarted? = [] := by
      unfold dataLinkWork
      cases hlink : options.dataLink with
      | ipv4 => rfl
      | ipv6 => rfl
      | sc => exact absurd hlink h
      | mstp =>
        dsimp only
        rw [mstpWork, andThen_snd, List.filterMap_append, (prints_lines p).restarted,
          List.append_nil, mstpAnnounce]
        split_ifs
        · exact LoopOutput.filterMap_restarted?_announced _
        · rfl
    have hputs : (puts options link startTime a p).filterMap LoopOutput.restarted? =
        if p.restart then [iAm] else [] := by
      rw [puts, pass, List.filterMap_append, hwork, List.nil_append, hiAm]
      split_ifs <;> rfl
    rw [outputs_cons_ok rfl, hputs, ih, List.filter_cons]
    split_ifs <;> rfl

/-- **The device is announced once.** -/
theorem announced_once (options : Options) (link : UdpLink) (startTime : Time)
    (hlink : options.dataLink ≠ .sc) :
    ∃ iAm whoIs, sendIAmBroadcast options link {} = some iAm ∧
      sendWhoIsBroadcast options link {} = some whoIs ∧ ∀ passes,
        (run options link startTime passes).filterMap LoopOutput.announced? =
            (if options.dataLink = .mstp ∧ ¬ ∃ p ∈ passes, Ready startTime p then []
            else [iAm, whoIs]) ∧
          (run options link startTime passes).filterMap LoopOutput.restarted? =
            (passes.filter (·.restart)).map fun _ => iAm := by
  obtain ⟨iAm, hiAm⟩ := broadcastOn_of_ne .iAm 0 link hlink
  obtain ⟨whoIs, hwhoIs⟩ := broadcastOn_of_ne .whoIs 65535 link hlink
  have hannounce : ∀ hub, announce options link hub [] = [iAm, whoIs] := by
    intro hub
    rw [announce, sendIAmBroadcast, sendWhoIsBroadcast, hiAm, hwhoIs]
    rfl
  refine ⟨iAm, whoIs, hiAm _, hwhoIs _, fun passes => ⟨?_, ?_⟩⟩
  · rw [run, List.filterMap_append]
    by_cases hmstp : options.dataLink = .mstp
    · have hstart : startUp options link = [] := by
        rw [startUp, hmstp]
        rfl
      have hpending : (start options startTime).announcementPending = true := by
        rw [start, hmstp]
        rfl
      rw [announced_mstp hmstp hannounce, hstart, hpending]
      by_cases hready : ∃ p ∈ passes, Ready startTime p
      · rw [if_pos ⟨rfl, hready⟩, if_neg fun h => h.2 hready]
        rfl
      · rw [if_neg fun h => hready h.2, if_pos ⟨hmstp, hready⟩]
        rfl
    · have hip : options.dataLink = .ipv4 ∨ options.dataLink = .ipv6 := by
        cases h : options.dataLink with
        | ipv4 => exact .inl rfl
        | ipv6 => exact .inr rfl
        | mstp => exact absurd h hmstp
        | sc => exact absurd h hlink
      have hstart : startUp options link = [iAm, whoIs].map .announced := by
        rw [startUp, if_pos (by simpa using hip), hannounce]
      rw [announced_ip hip, hstart, LoopOutput.filterMap_announced?, List.append_nil,
        if_neg fun h => hmstp h.1]
  · have hstart : (startUp options link).filterMap LoopOutput.restarted? = [] := by
      rw [startUp]
      split_ifs
      · exact LoopOutput.filterMap_restarted?_announced _
      · rfl
    rw [run, List.filterMap_append, restarted_of_ne hlink hiAm, hstart, List.nil_append]

/-- A device without an IPv4 interface. -/
def udpLinkDown : UdpLink := .startUp none 47808 none

def secondsOf (n : Int) : Time := milliseconds (n * 1000)

/-- The station waits, joins the token ring, stays for over a minute and leaves it. -/
def ringPasses : List LoopPass :=
  [{ announceTime := secondsOf 1, statusTime := secondsOf 1 },
    { inTokenRing := true, joinedTime := secondsOf 2, snapshotTime := secondsOf 2 },
    { inTokenRing := true, snapshotTime := secondsOf 63 },
    { statusTime := secondsOf 64, statusSetTime := secondsOf 64 }]

theorem announced_once_mstp :
    ((run mstpOptions udpLinkDown 0 ringPasses).filterMap LoopOutput.announced?).length = 2 := by
  obtain ⟨iAm, whoIs, -, -, h⟩ := announced_once mstpOptions udpLinkDown 0 (by decide)
  rw [(h ringPasses).1, if_neg fun hnot => hnot.2 (by decide)]
  rfl

end Announcer

/-! ## The token ring -/

namespace RingLine

/-- A line may come right behind another, the one-minute line more than a minute later, measured as
in `Ready`. -/
def Follows : RingLine → RingLine → Prop
  | joined joinedTokenRingTime, oneMinute now =>
    mstpTokenRingSnapshotMilliseconds < millisecondsSince now joinedTokenRingTime
  | joined _, left => True
  | oneMinute _, left => True
  | left, joined _ => True
  | left, notInRing _ _ => True
  | notInRing _ _, joined _ => True
  | notInRing _ _, notInRing _ _ => True
  | _, _ => False

/-- The station is in the token ring behind this line. -/
def isInRing : RingLine → Bool
  | joined _ => true
  | oneMinute _ => true
  | _ => false

/-- What has changed. -/
def change? : RingLine → Option Bool
  | joined _ => some true
  | left => some false
  | _ => none

/-- The readings of the clock behind a status line. -/
def status? : RingLine → Option (Time × Time)
  | notInRing now lastMstpStatus => some (now, lastMstpStatus)
  | _ => none

/-- The next status line comes late enough: 10 s, measured by `MillisecondsSince` as in `Ready`. -/
def Later (earlier later : Time × Time) : Prop :=
  mstpStatusIntervalMilliseconds < millisecondsSince later.1 earlier.2

theorem follows_left {l : RingLine} (h : l.isInRing = true) : Follows l .left := by
  cases l with
  | joined _ => trivial
  | oneMinute _ => trivial
  | left => cases h
  | notInRing _ _ => cases h

theorem follows_joined {l : RingLine} (h : l.isInRing = false) (time : Time) :
    Follows l (.joined time) := by
  cases l with
  | joined _ => cases h
  | oneMinute _ => cases h
  | left => trivial
  | notInRing _ _ => trivial

theorem follows_notInRing {l : RingLine} (h : l.isInRing = false) (now lastMstpStatus : Time) :
    Follows l (.notInRing now lastMstpStatus) := by
  cases l with
  | joined _ => cases h
  | oneMinute _ => cases h
  | left => trivial
  | notInRing _ _ => trivial

end RingLine

/-- How a row of Booleans changes. -/
def changes : Bool → List Bool → List Bool
  | _, [] => []
  | was, now :: rest => if now = was then changes was rest else now :: changes now rest

theorem isChain_append_singleton {α : Type} {R : α → α → Prop} {a b : α} {l : List α}
    (h : (a :: l).IsChain R) (hlast : R (l.getLast?.getD a) b) : (a :: (l ++ [b])).IsChain R := by
  rw [← List.cons_append]
  refine h.append (List.isChain_singleton b) ?_
  rintro x hx y hy
  rw [List.getLast?_cons, Option.mem_some_iff] at hx
  obtain rfl : b = y := Option.some.inj hy
  exact hx ▸ hlast

open RingLine

/-- What is kept about the lines that are printed. -/
structure RingLog (startTime : Time) (a : Announcer) (log : List RingLine) : Prop where
  follows : (RingLine.left :: log).IsChain Follows
  later : ((startTime, startTime) :: log.filterMap status?).IsChain Later
  inRing : (log.getLast?.getD .left).isInRing = a.wasInTokenRing
  joined : a.wasInTokenRing = true → a.tokenRingSnapshotPending = true →
    log.getLast?.getD .left = .joined a.joinedTokenRingTime
  lastStatus : ((log.filterMap status?).getLast?.getD (startTime, startTime)).2 = a.lastMstpStatus

namespace Announcer

variable {a : Announcer} {log : List RingLine}

/-- A line that is no status line. -/
theorem ringLog_append {a' : Announcer} {l : RingLine} (h : RingLog startTime a log)
    (hl : l.status? = none) (hfollows : Follows (log.getLast?.getD .left) l)
    (hring : l.isInRing = a'.wasInTokenRing)
    (hjoined : a'.wasInTokenRing = true → a'.tokenRingSnapshotPending = true →
      l = .joined a'.joinedTokenRingTime)
    (hstatus : a'.lastMstpStatus = a.lastMstpStatus) : RingLog startTime a' (log ++ [l]) := by
  have hstatuses : (log ++ [l]).filterMap status? = log.filterMap status? := by
    rw [List.filterMap_append, List.filterMap_cons_none hl, List.filterMap_nil, List.append_nil]
  have hlast : (log ++ [l]).getLast?.getD .left = l := by
    rw [List.getLast?_concat]
    rfl
  constructor
  · exact isChain_append_singleton h.follows hfollows
  · rw [hstatuses]
    exact h.later
  · rw [hlast, hring]
  · rw [hlast]
    exact hjoined
  · rw [hstatuses, hstatus]
    exact h.lastStatus

/-- The lines among what is put out. -/
def lines (out : List LoopOutput) : List RingLine := out.filterMap LoopOutput.line?

@[simp] theorem wasInTokenRing_joinedOrLeft (p : LoopPass) (a : Announcer) :
    (joinedOrLeft p a).1.wasInTokenRing = p.inTokenRing := by
  unfold joinedOrLeft
  cases hnow : p.inTokenRing <;> cases hwas : a.wasInTokenRing <;> first | rfl | exact hwas

@[simp] theorem wasInTokenRing_snapshot (p : LoopPass) (a : Announcer) :
    (snapshot p a).1.wasInTokenRing = a.wasInTokenRing := by
  unfold snapshot
  split_ifs <;> rfl

@[simp] theorem wasInTokenRing_status (p : LoopPass) (a : Announcer) :
    (status p a).1.wasInTokenRing = a.wasInTokenRing := by
  unfold status
  split_ifs <;> rfl

theorem ringLog_joinedOrLeft (h : RingLog startTime a log) (p : LoopPass) :
    RingLog startTime (joinedOrLeft p a).1 (log ++ lines (joinedOrLeft p a).2) := by
  unfold joinedOrLeft
  by_cases hsame : p.inTokenRing = a.wasInTokenRing
  · rw [if_neg (by simp [hsame])]
    simpa [lines] using h
  · rw [if_pos (by simpa using hsame)]
    have hlast := h.inRing
    cases hring : p.inTokenRing with
    | true =>
      have hout : a.wasInTokenRing = false := by
        rw [hring] at hsame
        exact Bool.eq_false_iff.2 (Ne.symm hsame)
      rw [hout] at hlast
      exact ringLog_append h rfl (follows_joined hlast _) rfl (fun _ _ => rfl) rfl
    | false =>
      have hin : a.wasInTokenRing = true := by
        rw [hring] at hsame
        exact Bool.not_eq_false _ ▸ Ne.symm hsame
      rw [hin] at hlast
      exact ringLog_append h rfl (follows_left hlast) rfl nofun rfl

theorem ringLog_snapshot (h : RingLog startTime a log) {p : LoopPass}
    (hring : a.wasInTokenRing = p.inTokenRing) :
    RingLog startTime (snapshot p a).1 (log ++ lines (snapshot p a).2) := by
  unfold snapshot
  split_ifs with hdue
  · simp only [Bool.and_eq_true, decide_eq_true_eq] at hdue
    obtain ⟨⟨hin, hpending⟩, hlate⟩ := hdue
    have hlast := h.joined (hring.trans hin) hpending
    have hfollows : Follows (log.getLast?.getD .left) (.oneMinute p.snapshotTime) := by
      rw [hlast]
      exact hlate
    exact ringLog_append h rfl hfollows (hring.trans hin).symm nofun rfl
  · simpa [lines] using h

theorem ringLog_status (h : RingLog startTime a log) {p : LoopPass}
    (hring : a.wasInTokenRing = p.inTokenRing) :
    RingLog startTime (status p a).1 (log ++ lines (status p a).2) := by
  unfold status
  split_ifs with hdue
  · simp only [Bool.and_eq_true, Bool.not_eq_true', decide_eq_true_eq] at hdue
    obtain ⟨hout, hlate⟩ := hdue
    have hlast : (log.getLast?.getD .left).isInRing = false := h.inRing.trans (hring.trans hout)
    have hlater : Later ((log.filterMap status?).getLast?.getD (startTime, startTime))
        (p.statusTime, p.statusSetTime) := by
      rw [Later, h.lastStatus]
      exact hlate
    refine ⟨isChain_append_singleton h.follows (follows_notInRing hlast _ _), ?_, ?_, ?_, ?_⟩
    · rw [List.filterMap_append]
      exact isChain_append_singleton h.later hlater
    · simp [lines, LoopOutput.line?, isInRing, hring, hout]
    · intro hin
      exact absurd (hin.symm.trans (hring.trans hout)) (by decide)
    · simp [lines, LoopOutput.line?, status?]
  · simpa [lines] using h

theorem lines_append (out more : List LoopOutput) : lines (out ++ more) = lines out ++ lines more :=
  List.filterMap_append

/-- The work of a pass that prints lines. -/
def ringWork (p : LoopPass) : Announcer → Announcer × List LoopOutput :=
  andThen (joinedOrLeft p) (andThen (snapshot p) (status p))

theorem wasInTokenRing_ringWork (p : LoopPass) (a : Announcer) :
    (ringWork p a).1.wasInTokenRing = p.inTokenRing := by
  simp [ringWork]

theorem ringLog_ringWork (h : RingLog startTime a log) (p : LoopPass) :
    RingLog startTime (ringWork p a).1 (log ++ lines (ringWork p a).2) := by
  have hjoined := ringLog_joinedOrLeft h p
  have hsnapshot := ringLog_snapshot hjoined (wasInTokenRing_joinedOrLeft p a)
  have hring : (snapshot p (joinedOrLeft p a).1).1.wasInTokenRing = p.inTokenRing := by simp
  have hstatus := ringLog_status hsnapshot hring
  rw [ringWork, andThen_fst, andThen_fst, andThen_snd, andThen_snd, lines_append, lines_append,
    ← List.append_assoc, ← List.append_assoc]
  exact hstatus

theorem changes_ringWork (p : LoopPass) (a : Announcer) :
    (lines (ringWork p a).2).filterMap change? =
      if p.inTokenRing = a.wasInTokenRing then [] else [p.inTokenRing] := by
  have hjoined : (lines (joinedOrLeft p a).2).filterMap change? =
      if p.inTokenRing = a.wasInTokenRing then [] else [p.inTokenRing] := by
    unfold joinedOrLeft
    cases p.inTokenRing <;> cases a.wasInTokenRing <;> rfl
  have hsnapshot : ∀ a, (lines (snapshot p a).2).filterMap change? = [] := by
    intro a
    unfold snapshot
    split_ifs <;> rfl
  have hstatus : ∀ a, (lines (status p a).2).filterMap change? = [] := by
    intro a
    unfold status
    split_ifs <;> rfl
  rw [ringWork, andThen_snd, andThen_snd, lines_append, lines_append, List.filterMap_append,
    List.filterMap_append, hjoined, hsnapshot, hstatus, List.append_nil, List.append_nil]

/-- What a pass keeps about the token ring, and what it prints. -/
structure RingPass (startTime : Time) (a a' : Announcer) (p : LoopPass) (printed : List RingLine) :
    Prop where
  ringLog : ∀ log, RingLog startTime a log → RingLog startTime a' (log ++ printed)
  inRing : a'.wasInTokenRing = p.inTokenRing
  changes : printed.filterMap change? =
    if p.inTokenRing = a.wasInTokenRing then [] else [p.inTokenRing]

theorem ringPass (hlink : options.dataLink = .mstp) (a : Announcer) (p : LoopPass) :
    RingPass startTime a (pass options link startTime p a).1 p
      (lines (puts options link startTime a p)) := by
  have hwork : dataLinkWork options link startTime p = mstpWork options link startTime p := by
    unfold dataLinkWork
    rw [hlink]
  -- the announcement, and what the stack reports, leave the token ring alone
  obtain ⟨b, hb, hout⟩ : ∃ b, b = (mstpAnnounce options link startTime p
      (a.reports p.beforeTake)).1 ∧ lines (mstpAnnounce options link startTime p
        (a.reports p.beforeTake)).2 = [] := by
    refine ⟨_, rfl, ?_⟩
    unfold mstpAnnounce
    split_ifs
    · exact LoopOutput.filterMap_line?_announced _
    · rfl
  have hsame : b.wasInTokenRing = a.wasInTokenRing ∧
      ∀ log, RingLog startTime a log → RingLog startTime b log := by
    rw [hb]
    unfold mstpAnnounce
    split_ifs
    · exact ⟨rfl, fun _ h => ⟨h.follows, h.later, h.inRing, h.joined, h.lastStatus⟩⟩
    · exact ⟨rfl, fun _ h => ⟨h.follows, h.later, h.inRing, h.joined, h.lastStatus⟩⟩
  have hlines : lines (puts options link startTime a p) = lines (ringWork p b).2 := by
    rw [puts, pass, hwork, mstpWork, lines_append, andThen_snd, lines_append, hout, ← hb,
      List.nil_append]
    exact (congrArg _ (LoopOutput.filterMap_line?_restarted _)).trans (List.append_nil _)
  have hstate : (pass options link startTime p a).1 =
      ((ringWork p b).1.reports p.beforeRestart).reports p.afterwards := by
    rw [pass, hwork, mstpWork, hb]
    rfl
  rw [hlines, hstate]
  refine ⟨fun log h => ?_, wasInTokenRing_ringWork p b, ?_⟩
  · have h := ringLog_ringWork (hsame.2 log h) p
    exact ⟨h.follows, h.later, h.inRing, h.joined, h.lastStatus⟩
  · rw [changes_ringWork, hsame.1]

theorem changes_outputs (hlink : options.dataLink = .mstp) (a : Announcer)
    (passes : List LoopPass) :
    (lines (outputs (step options link startTime) (puts options link startTime) a
        passes)).filterMap change? =
      changes a.wasInTokenRing (passes.map (·.inTokenRing)) := by
  induction passes generalizing a with
  | nil => rfl
  | cons p passes ih =>
    obtain ⟨-, hring, hchanges⟩ := @ringPass startTime options link hlink a p
    rw [outputs_cons_ok rfl, lines_append, List.filterMap_append, ih, hring, hchanges,
      List.map_cons, changes]
    split_ifs with hsame
    · rw [hsame]
      rfl
    · rfl

/-- **The lines about the token ring.** -/
theorem ring_log (options : Options) (link : UdpLink) (startTime : Time)
    (hlink : options.dataLink = .mstp) (passes : List LoopPass) :
    let log := (run options link startTime passes).filterMap LoopOutput.line?
    (RingLine.left :: log).IsChain Follows ∧
      ((startTime, startTime) :: log.filterMap status?).IsChain Later ∧
      log.filterMap change? = changes false (passes.map (·.inTokenRing)) := by
  intro log
  have hstart : startUp options link = [] := by
    rw [startUp, hlink]
    rfl
  have hlog : log = lines (outputs (step options link startTime) (puts options link startTime)
      (start options startTime) passes) := by
    rw [show log = lines (startUp options link ++ _) from rfl, hstart, List.nil_append]
  have hempty : RingLog startTime (start options startTime) [] :=
    ⟨List.isChain_singleton _, List.isChain_singleton _, rfl, nofun, rfl⟩
  have hstep : ∀ a p a' log, RingLog startTime a log → step options link startTime a p = .ok a' →
      RingLog startTime a' (log ++ lines (puts options link startTime a p)) := by
    intro a p a' log hlog hstep
    obtain rfl := Except.ok.inj hstep
    exact (ringPass hlink a p).ringLog log hlog
  have hend := outputs_invariant hstep hempty
    (final_eq_foldl (fun _ _ => rfl) (start options startTime) passes)
  rw [List.nil_append, ← map_outputs rfl lines_append, ← hlog] at hend
  refine ⟨hend.follows, hend.later, ?_⟩
  rw [hlog]
  exact changes_outputs hlink _ passes

theorem ring_log_joined :
    let log : List RingLine := [.joined (secondsOf 2), .oneMinute (secondsOf 63), .left,
      .notInRing (secondsOf 64) (secondsOf 64)]
    (RingLine.left :: log).IsChain Follows ∧
      ((0, 0) :: log.filterMap status?).IsChain Later ∧
      log.filterMap change? = changes false [false, true, true, false] :=
  ring_log mstpOptions udpLinkDown 0 rfl ringPasses

end Announcer

/-! ## The hub -/

namespace StateChange

/-- The status of the hub connection, if this is the change of it. -/
def hubStatus? (change : StateChange) : Option UInt8 :=
  if change.stateMachine = stateMachineHubConnectionStatus then some change.newState else none

/-- The hub connection comes up. -/
def connects (change : StateChange) : Bool :=
  change.hubStatus? == some 1 || change.hubStatus? == some 2

/-- The last status among the changes, which at first is that there is no hub. -/
def lastHubStatus (changes : List StateChange) : UInt8 :=
  (changes.filterMap hubStatus?).getLast?.getD 0

theorem lastHubStatus_append (earlier later : List StateChange) :
    lastHubStatus (earlier ++ later) =
      (later.filterMap hubStatus?).getLast?.getD (lastHubStatus earlier) := by
  rw [lastHubStatus, List.filterMap_append, List.getLast?_append, Option.getD_or]
  rfl

theorem foldl_stateChange (changes : List StateChange) (s : HubStatus) :
    changes.foldl .stateChange s =
      { hubConnectionStatus :=
          (changes.filterMap hubStatus?).getLast?.getD s.hubConnectionStatus
        hubConnectedEvent := s.hubConnectedEvent || changes.any connects } := by
  induction changes generalizing s with
  | nil => simp
  | cons change changes ih =>
    rw [List.foldl_cons, ih, HubStatus.stateChange, List.any_cons, connects, hubStatus?]
    split_ifs with hhub
    · simp [hubStatus?, hhub, List.getLast?_cons, Bool.or_assoc]
    · simp [hubStatus?, hhub]

theorem hubConnectionStatus_foldl {earlier : List StateChange} {s : HubStatus}
    (h : s.hubConnectionStatus = lastHubStatus earlier) (later : List StateChange) :
    (later.foldl .stateChange s).hubConnectionStatus = lastHubStatus (earlier ++ later) := by
  rw [foldl_stateChange, lastHubStatus_append, h]

end StateChange

/-- The changes that the stack reports in a pass. -/
def LoopPass.reported (p : LoopPass) : List StateChange :=
  p.beforeTake ++ p.beforeWhoIs ++ p.beforeRestart ++ p.afterwards

/-- Those behind the look of the pass at the hub connection. -/
def LoopPass.unseen (p : LoopPass) : List StateChange :=
  p.beforeWhoIs ++ p.beforeRestart ++ p.afterwards

namespace Announcer

open StateChange

/-- The announcer behind a row of passes. -/
def after (options : Options) (link : UdpLink) (startTime : Time) (passes : List LoopPass) :
    Announcer :=
  passes.foldl (fun a p => (pass options link startTime p a).1) (start options startTime)

theorem after_concat (options : Options) (link : UdpLink) (startTime : Time)
    (passes : List LoopPass) (p : LoopPass) :
    after options link startTime (passes ++ [p]) =
      (pass options link startTime p (after options link startTime passes)).1 := by
  rw [after, List.foldl_append]
  rfl

theorem run_concat (options : Options) (link : UdpLink) (startTime : Time)
    (passes : List LoopPass) (p : LoopPass) :
    run options link startTime (passes ++ [p]) =
      run options link startTime passes ++
        puts options link startTime (after options link startTime passes) p := by
  have hfinal : final (step options link startTime) (start options startTime) passes =
      .ok (after options link startTime passes) := final_eq_foldl (fun _ _ => rfl) _ passes
  rw [run, outputs_append hfinal, outputs_cons_ok rfl, outputs, List.append_nil,
    ← List.append_assoc]
  rfl

/-- The hub status behind a pass. -/
theorem hub_pass (hlink : options.dataLink = .sc) (p : LoopPass) (a : Announcer) :
    (pass options link startTime p a).1.hub =
      p.unseen.foldl .stateChange
        { p.beforeTake.foldl HubStatus.stateChange a.hub with hubConnectedEvent := false } := by
  rw [pass, dataLinkWork, hlink]
  dsimp only
  rw [scWork, LoopPass.unseen, List.foldl_append, List.foldl_append]
  dsimp only [HubStatus.takeHubConnectedEvent]
  split_ifs <;> rfl

/-- What is kept of the changes so far. -/
theorem hub_after (hlink : options.dataLink = .sc) (passes : List LoopPass) :
    (after options link startTime passes).hub =
      { hubConnectionStatus := lastHubStatus (passes.flatMap LoopPass.reported)
        hubConnectedEvent := (passes.getLast?.elim [] LoopPass.unseen).any connects } := by
  induction passes using List.reverseRecOn with
  | nil => rfl
  | append_singleton passes p ih =>
    have hreported : (passes ++ [p]).flatMap LoopPass.reported =
        passes.flatMap LoopPass.reported ++ p.beforeTake ++ p.unseen := by
      simp [LoopPass.reported, LoopPass.unseen]
    rw [after_concat, hub_pass hlink, ih, foldl_stateChange, foldl_stateChange, hreported,
      lastHubStatus_append, lastHubStatus_append, List.getLast?_concat]
    rfl

/-- A broadcast to a hub, if there is one. -/
def toHub (service : BroadcastService) (uri : Octets) : List StackBroadcast :=
  if uri = [] then [] else [⟨service, connectionStringOf uri, networkPortInstanceOf .sc, 0⟩]

theorem broadcastOn_sc (hlink : options.dataLink = .sc) (service : BroadcastService)
    (mstpNetwork : UInt16) (hub : HubStatus) :
    (broadcastOn service mstpNetwork options link hub).toList =
      toHub service (connectedHubUri options hub.hubConnectionStatus) := by
  rw [broadcastOn, hlink, toHub]
  simp only [List.isEmpty_iff]
  split_ifs <;> rfl

/-- The hub that the stack has reported last. -/
def hubOf (options : Options) (changes : List StateChange) : Octets :=
  connectedHubUri options (lastHubStatus changes)

/-- The length octet holds the length of a hub's URI. -/
theorem length_connectionStringOf_hubOf {b : Build} {args : List Octets}
    (h : parseCommandLine b args = .run options) (changes : List StateChange) :
    (connectionStringOf (hubOf options changes)).length.toNat = (hubOf options changes).length := by
  obtain ⟨items, -, hruns⟩ := (run_iff b args options).1 h
  have hshort : ∀ o : LinkOption, (o = .scHub ∨ o = .scFailoverHub) →
      ((CommandLine.lastValue items (.link o)).getD []).length ≤ 255 := by
    intro o ho
    cases hlast : CommandLine.lastValue items (.link o) with
    | none => exact Nat.zero_le _
    | some uri =>
      have haccepts := hruns.accepted _ _ (lastValue_mem hlast)
      obtain rfl | rfl := ho
      · exact haccepts.length_le
      · exact haccepts.length_le
  have hle : (hubOf options changes).length ≤ 255 := by
    rw [hubOf, connectedHubUri, hruns.options_eq]
    split_ifs
    · exact hshort .scHub (.inl rfl)
    · exact hshort .scFailoverHub (.inr rfl)
    · exact Nat.zero_le _
  exact toNat_ofNat8 hle

/-- **Each hub connection is announced.** -/
theorem hub_announced {b : Build} {args : List Octets} {options : Options}
    (hparsed : parseCommandLine b args = .run options) (hlink : options.dataLink = .sc)
    (link : UdpLink) (startTime : Time) (passes : List LoopPass) (p : LoopPass) :
    let news := passes.getLast?.elim [] LoopPass.unseen ++ p.beforeTake
    let atIAm := passes.flatMap LoopPass.reported ++ p.beforeTake
    let atWhoIs := atIAm ++ p.beforeWhoIs
    let atRestart := atWhoIs ++ p.beforeRestart
    run options link startTime [] = [] ∧
      run options link startTime (passes ++ [p]) = run options link startTime passes ++
        (if news.any connects then
          (toHub .iAm (hubOf options atIAm) ++ toHub .whoIs (hubOf options atWhoIs)).map .announced
        else []) ++
        (if p.restart then (toHub .iAm (hubOf options atRestart)).map .restarted else []) ∧
      ∀ changes, (connectionStringOf (hubOf options changes)).length.toNat =
        (hubOf options changes).length := by
  intro news atIAm atWhoIs atRestart
  refine ⟨?_, ?_, length_connectionStringOf_hubOf hparsed⟩
  · rw [run, startUp, hlink]
    rfl
  · have hbefore : p.beforeTake.foldl .stateChange (after options link startTime passes).hub =
        { hubConnectionStatus := lastHubStatus atIAm, hubConnectedEvent := news.any connects } := by
      rw [hub_after hlink, foldl_stateChange, List.any_append, lastHubStatus_append]
    -- the take leaves the status as it is
    have hwhoIs : (p.beforeWhoIs.foldl HubStatus.stateChange
        { hubConnectionStatus := lastHubStatus atIAm }).hubConnectionStatus =
          lastHubStatus atWhoIs := hubConnectionStatus_foldl rfl _
    have hrestart := hubConnectionStatus_foldl hwhoIs p.beforeRestart
    have hputs : puts options link startTime (after options link startTime passes) p =
        (if news.any connects then
          (announce options link { hubConnectionStatus := lastHubStatus atIAm } p.beforeWhoIs).map
            .announced
        else []) ++
        (if p.restart then (toHub .iAm (hubOf options atRestart)).map .restarted else []) := by
      rw [puts, pass, dataLinkWork, hlink]
      dsimp only
      rw [scWork, show (reports p.beforeTake (after options link startTime passes)).hub = _ from
        hbefore]
      dsimp only [HubStatus.takeHubConnectedEvent]
      have hiAm : (sendIAmBroadcast options link (p.beforeRestart.foldl .stateChange
          (p.beforeWhoIs.foldl .stateChange
            { hubConnectionStatus := lastHubStatus atIAm }))).toList =
              toHub .iAm (hubOf options atRestart) := by
        rw [sendIAmBroadcast, broadcastOn_sc hlink, hrestart]
        rfl
      cases news.any connects
      · refine congrArg ([] ++ ·) ?_
        cases p.restart
        · rfl
        · exact congrArg (List.map LoopOutput.restarted) hiAm
      · refine congrArg (_ ++ ·) ?_
        cases p.restart
        · rfl
        · exact congrArg (List.map LoopOutput.restarted) hiAm
    have hannounce : announce options link { hubConnectionStatus := lastHubStatus atIAm }
        p.beforeWhoIs = toHub .iAm (hubOf options atIAm) ++
          toHub .whoIs (hubOf options atWhoIs) := by
      rw [announce, sendIAmBroadcast, sendWhoIsBroadcast, broadcastOn_sc hlink,
        broadcastOn_sc hlink, hwhoIs, hubOf, hubOf]
    rw [run_concat, hputs, hannounce, List.append_assoc]

/-- `--datalink sc --sc-hub wss://hub`. -/
def scArguments : List Octets :=
  ["--datalink", "sc", "--sc-hub", "wss://hub"].map octetsOf

def scOptions : Options where
  dataLink := .sc
  scPrimaryHubUri := octetsOf "wss://hub"

/-- The primary hub is reported in the tick, and lost again while the I-Am is sent. -/
def connectedPass : LoopPass where
  beforeTake := [⟨1, 1⟩]
  beforeWhoIs := [⟨1, 0⟩]

theorem hub_announced_primary :
    run scOptions udpLinkDown 0 [] = [] ∧
      run scOptions udpLinkDown 0 ([] ++ [connectedPass]) = run scOptions udpLinkDown 0 [] ++
        (if ([⟨1, 1⟩] : List StateChange).any connects then
          (toHub .iAm (hubOf scOptions [⟨1, 1⟩]) ++
            toHub .whoIs (hubOf scOptions [⟨1, 1⟩, ⟨1, 0⟩])).map .announced
        else []) ++
        (if connectedPass.restart then
          (toHub .iAm (hubOf scOptions [⟨1, 1⟩, ⟨1, 0⟩])).map .restarted
        else []) ∧
      ∀ changes, (connectionStringOf (hubOf scOptions changes)).length.toNat =
        (hubOf scOptions changes).length :=
  hub_announced (show parseCommandLine linux scArguments = .run scOptions by decide) rfl udpLinkDown
    0 [] connectedPass

end Announcer

end BacnetBc
