import BacnetBc.Cert.Keys
import BacnetBc.Objects.Commands
import BacnetBc.Peer.Answer
import BacnetBc.Restore

/-!
# The deferred restart

`ReinitializeDevice` arms a restart (`requestRestart`), and the main loop performs it once it is
due (`restartDue`). A COLDSTART gives Analog Input 1, Diamond's Present_Value and the three outputs
their power-on values; it does not touch Diamond's Reliability, nor File 1 and its Archive
(`leftover`).

A run is any order of the events that change what the Get callbacks answer (`MainEvent`).

**One restart** (`restores_iff`). A WARMSTART leaves all answers as they were. After a COLDSTART two
devices answer alike exactly when they had the same left over (`restart_cold_sameAnswers_iff`).

**Theorem (`restarts_restore_iff`).** In a run every COLDSTART leaves a device that answers as one
that has just started, exactly when every COLDSTART finds File 1 empty, its Archive false and
Diamond in communication-failure.
-/

namespace BacnetBc

open Memory Trajectory

/-! ## The pending restart -/

/-- `g_restartPending`, `g_restartDueAtMs` and `g_restartKind`. -/
structure PendingRestart where
  pending : Bool := false
  dueAt : UInt64 := 0
  kind : RestartKind := .warm
deriving DecidableEq, Repr

/-- `RESTART_DELAY_MS`. -/
def restartDelayMs : UInt64 := 1000

/-- `RequestRestart`, at a time of the monotonic clock in milliseconds. -/
def requestRestart (r : PendingRestart) (now : UInt64) (kind : RestartKind) : PendingRestart :=
  let dueAt := now + restartDelayMs
  if r.pending then
    -- an earlier promise is kept, and a cold request upgrades a warm one
    { r with
      dueAt := if dueAt < r.dueAt then dueAt else r.dueAt
      kind := if kind = .cold then .cold else r.kind }
  else ⟨true, dueAt, kind⟩

/-- `RestartDue`. -/
def restartDue (r : PendingRestart) (now : UInt64) : Option RestartKind × PendingRestart :=
  if !r.pending || now < r.dueAt then (none, r) else (some r.kind, { r with pending := false })

namespace Application

variable {L : Layout}

/-- The main loop's restart block. -/
def restart (kind : RestartKind) (app : Application L) : Application L :=
  match kind with
  | .cold =>
    { app with
      analogInput1Value := analogInput1AtPowerOn
      controller := BacnetBc.restart .cold app.controller
      outputs := Output.atPowerOn }
  | .warm => app

end Application

/-! ## Runs -/

/-- `1.1f`. -/
def arrowStep : Single := ⟨0x3F8CCCCD⟩

inductive Arrow
  | up
  | down
deriving DecidableEq, Repr

/-- What happens to the running process. `certificates` is whatever the certificate store has come
to by the calls that ScNode handles. -/
inductive MainEvent (L : Layout)
  | set (call : SetCall)
  | setArchive (reference : PropertyReference) (value : Bool)
  | writeFile (deviceInstance fileInstance : UInt32) (call : WriteFileCall)
  | iAm (now : Time) (deviceIdentifier : UInt32) (connectionString : Octets)
    (sourceNetwork : UInt16)
  | datagram (now : Time) (message fromAddress : Octets) (fromPort : UInt16)
  | pollPeer (now : Time) (invokeId : Option UInt8)
  | key (arrow : Arrow)
  | certificates (store : Store L)
  | requestRestart (now : UInt64) (kind : RestartKind)
  | deferredRestart (now : UInt64)

structure MainLoop (L : Layout) where
  app : Application L
  pendingRestart : PendingRestart

namespace Application

variable {L : Layout}

/-- `WriteFile`. A call for another File object does nothing here. -/
def writeFile (app : Application L) (deviceInstance fileInstance : UInt32)
    (call : WriteFileCall) : Access (Application L) :=
  if deviceInstance ≠ app.options.deviceInstance ∨ fileInstance ≠ objectInstance1 then .ok app
  else (writeFileStep app.file call).map fun file => { app with file := file }

/-- What the peer's I-Am and answers and the polls do. -/
def peerEvent (app : Application L) (event : Event) : Access (Application L) :=
  (app.controller.step app.options.dataLink event).map fun c => { app with controller := c }

/-- An arrow key. -/
def press (app : Application L) : Arrow → Application L
  | .up => { app with analogInput1Value := app.analogInput1Value.add arrowStep }
  | .down => { app with analogInput1Value := app.analogInput1Value.sub arrowStep }

end Application

namespace MainLoop

variable {L : Layout}

/-- The process has started. -/
def start (L : Layout) (options : CommandLineOptions) (host : HostAddressing) : MainLoop L where
  app := .start L options host
  pendingRestart := {}

/-- The restart that an event performs. -/
def performs (m : MainLoop L) : MainEvent L → Option RestartKind
  | .deferredRestart now => (restartDue m.pendingRestart now).1
  | _ => none

def step (m : MainLoop L) : MainEvent L → Access (MainLoop L)
  | .set call => .ok { m with app := (m.app.set call).1 }
  | .setArchive reference value => .ok { m with app := (m.app.setPropertyBool reference value).1 }
  | .writeFile deviceInstance fileInstance call =>
    (m.app.writeFile deviceInstance fileInstance call).map fun app => { m with app := app }
  | .iAm now deviceIdentifier connectionString sourceNetwork =>
    (m.app.peerEvent (.iAm now deviceIdentifier connectionString sourceNetwork)).map fun app =>
      { m with app := app }
  | .datagram now message fromAddress fromPort =>
    (m.app.peerEvent (.datagram now message fromAddress fromPort)).map fun app =>
      { m with app := app }
  | .pollPeer now invokeId =>
    (m.app.peerEvent (.tick now invokeId)).map fun app => { m with app := app }
  | .key arrow => .ok { m with app := m.app.press arrow }
  | .certificates store => .ok { m with app := { m.app with store := store } }
  | .requestRestart now kind =>
    .ok { m with pendingRestart := BacnetBc.requestRestart m.pendingRestart now kind }
  | .deferredRestart now =>
    let (due, pendingRestart) := restartDue m.pendingRestart now
    .ok ⟨match due with
      | some kind => m.app.restart kind
      | none => m.app, pendingRestart⟩

end MainLoop

/-! ## Answers -/

namespace Application

variable {L : Layout} {a b c : Application L}

/-- Every Get callback gives the same answers. Left out are the Network Port's properties, its
addressing and the Max_Master and Max_Info_Frames that survive a COLDSTART, and what is read of the
certificate files, their File_Size too. -/
structure SameAnswers (a b : Application L) : Prop where
  real : ∀ p, p.objectType ≠ objectTypeNetworkPort → b.getPropertyReal p = a.getPropertyReal p
  enumerated : ∀ p, b.getPropertyEnumerated p = a.getPropertyEnumerated p
  unsigned : ∀ d p, p.objectType ≠ objectTypeNetworkPort → a.isScCertificateFile p = false →
    b.getPropertyUnsignedInteger d p = a.getPropertyUnsignedInteger d p
  bool : ∀ p, b.getPropertyBool p = a.getPropertyBool p
  readFile : ∀ fileStart requestedCount maxFileDataLength,
    BacnetBc.readFile b.file fileStart requestedCount maxFileDataLength =
      BacnetBc.readFile a.file fileStart requestedCount maxFileDataLength

/-- What a COLDSTART leaves alone of what the Get callbacks answer. -/
def leftover (app : Application L) : Octets × Bool × Reliability :=
  (app.file.content, app.fileArchive, app.controller.diamondReliability)

/-- What the answers are made of. -/
structure SameState (a b : Application L) : Prop where
  identity : SameIdentity a b
  analogInput1Value : b.analogInput1Value = a.analogInput1Value
  outputs : b.outputs = a.outputs
  analogValue1Value : b.controller.analogValue1Value = a.controller.analogValue1Value
  leftover : b.leftover = a.leftover

theorem getDataLinkPortReal_of_ne (app : Application L) {p : PropertyReference}
    (h : p.objectType ≠ objectTypeNetworkPort) : app.getDataLinkPortReal p = none := by
  simp [getDataLinkPortReal, isDataLinkPort, h]

theorem getDataLinkPortUnsigned_of_ne (app : Application L) {p : PropertyReference}
    (h : p.objectType ≠ objectTypeNetworkPort) : app.getDataLinkPortUnsigned p =
      if app.options.dataLink = .mstp ∧ p.objectType = objectTypeDevice ∧
        p.objectInstance = app.options.deviceInstance ∧
        p.propertyIdentifier = propertyIdentifierMaxApduLengthAccepted then some mstpMaxApduLength
      else none := by
  simp [getDataLinkPortUnsigned, isDataLinkPort, h]

theorem SameState.fileDataLength (h : SameState a b) :
    b.file.fileDataLength = a.file.fileDataLength := by
  have hcontent : b.file.content = a.file.content := congrArg Prod.fst h.leftover
  rw [← UInt32.toNat_inj, ← IvoryFile.length_content, ← IvoryFile.length_content, hcontent]

/-- Applications that differ in nothing else answer alike. -/
theorem SameState.sameAnswers (h : SameState a b) : SameAnswers a b := by
  have hlength := h.fileDataLength
  obtain ⟨⟨hdevice, hlink⟩, hinput, houtputs, hvalue, hleft⟩ := h
  have hcontent : b.file.content = a.file.content := congrArg Prod.fst hleft
  have harchive : b.fileArchive = a.fileArchive := congrArg (Prod.fst ∘ Prod.snd) hleft
  have hreliability : b.controller.diamondReliability = a.controller.diamondReliability :=
    congrArg (Prod.snd ∘ Prod.snd) hleft
  have hcert (p : PropertyReference) : b.isScCertificateFile p = a.isScCertificateFile p := by
    rw [isScCertificateFile, isScCertificateFile, hlink]
  refine ⟨?_, ?_, ?_, ?_, ?_⟩
  · intro p hp
    unfold getPropertyReal
    rw [getDataLinkPortReal_of_ne a hp, getDataLinkPortReal_of_ne b hp, hdevice, hinput, houtputs,
      hvalue]
    simp only [hp, false_and, if_false]
  · intro p
    unfold getPropertyEnumerated
    rw [hdevice, houtputs, hreliability]
  · intro d p hp hfile
    unfold getPropertyUnsignedInteger servedFileSize
    rw [getDataLinkPortUnsigned_of_ne a hp, getDataLinkPortUnsigned_of_ne b hp, hcert, hdevice,
      hlink, houtputs, hlength]
    simp only [hp, hfile, false_and, if_false, Bool.false_eq_true]
  · intro p
    unfold getPropertyBool servedFlag
    rw [hcert, hdevice, houtputs, harchive]
  · intro fileStart requestedCount maxFileDataLength
    rw [readFile_eq, readFile_eq, hcontent]

theorem code_injective : Function.Injective Reliability.code := by
  intro r r'
  cases r <;> cases r' <;> decide

/-- A read of a property of an object of this device. -/
def objectReference (app : Application L) (objectType : UInt16) (propertyIdentifier : UInt32) :
    PropertyReference where
  deviceInstance := app.options.deviceInstance
  objectType := objectType
  objectInstance := objectInstance1
  propertyIdentifier := propertyIdentifier
  useArrayIndex := false
  propertyArrayIndex := 0

theorem isScCertificateFile_file1 (app : Application L) (propertyIdentifier : UInt32) :
    app.isScCertificateFile (app.objectReference objectTypeFile propertyIdentifier) = false := by
  have hfile : isCertificateFile objectInstance1 = false := by decide
  simp [isScCertificateFile, objectReference, hfile]

theorem getPropertyUnsignedInteger_fileSize (app : Application L) (d : CertDisk) :
    app.getPropertyUnsignedInteger d (app.objectReference objectTypeFile
      propertyIdentifierFileSize) = .value app.file.fileDataLength := by
  have hport : objectTypeFile ≠ objectTypeNetworkPort := by decide
  have hlink := app.getDataLinkPortUnsigned_of_ne
    (p := app.objectReference objectTypeFile propertyIdentifierFileSize) hport
  have hapdu : propertyIdentifierFileSize ≠ propertyIdentifierMaxApduLengthAccepted := by decide
  rw [if_neg fun h => hapdu h.2.2.2] at hlink
  have hcommandable : getCommandable objectTypeFile objectInstance1 = none := by decide
  unfold getPropertyUnsignedInteger
  rw [hlink, isScCertificateFile_file1]
  simp only [objectReference, ne_eq, not_true_eq_false, if_false, Bool.false_eq_true, false_and,
    hcommandable]
  rfl

theorem getPropertyBool_archive (app : Application L) :
    app.getPropertyBool (app.objectReference objectTypeFile propertyIdentifierArchive) =
      .value app.fileArchive := by
  have hcommandable : getCommandable objectTypeFile objectInstance1 = none := by decide
  unfold getPropertyBool servedFlag
  rw [isScCertificateFile_file1]
  simp only [objectReference, ne_eq, not_true_eq_false, if_false, Bool.false_eq_true, false_and,
    hcommandable]
  rfl

theorem getPropertyEnumerated_reliability (app : Application L) :
    app.getPropertyEnumerated (app.objectReference objectTypeAnalogValue
      propertyIdentifierReliability) = .value app.controller.diamondReliability.code := by
  unfold getPropertyEnumerated
  simp only [objectReference, ne_eq, not_true_eq_false, if_false]
  rfl

/-- The answers tell what is left over. -/
theorem SameAnswers.leftover (h : SameAnswers a b) (hid : SameIdentity a b) :
    b.leftover = a.leftover := by
  have hreference (objectType : UInt16) (property : UInt32) :
      b.objectReference objectType property = a.objectReference objectType property := by
    rw [objectReference, objectReference, hid.deviceInstance]
  have hsize : b.file.fileDataLength = a.file.fileDataLength := by
    have hport : objectTypeFile ≠ objectTypeNetworkPort := by decide
    have heq := h.unsigned (fun _ => none)
      (a.objectReference objectTypeFile propertyIdentifierFileSize) hport
      (a.isScCertificateFile_file1 propertyIdentifierFileSize)
    rw [getPropertyUnsignedInteger_fileSize, ← hreference,
      getPropertyUnsignedInteger_fileSize] at heq
    simpa using heq
  have harchive : b.fileArchive = a.fileArchive := by
    have heq := h.bool (a.objectReference objectTypeFile propertyIdentifierArchive)
    rw [getPropertyBool_archive, ← hreference, getPropertyBool_archive] at heq
    simpa using heq
  have hreliability : b.controller.diamondReliability = a.controller.diamondReliability := by
    have heq := h.enumerated
      (a.objectReference objectTypeAnalogValue propertyIdentifierReliability)
    rw [getPropertyEnumerated_reliability, ← hreference, getPropertyEnumerated_reliability] at heq
    exact code_injective (by simpa using heq)
  have hcontent : b.file.content = a.file.content := by
    refine readsBack_iff.1 ⟨?_, ?_⟩
    · intro fileStart requestedCount maxFileDataLength
      rw [h.readFile, readFile_eq]
    · rw [fileSize, hsize, IvoryFile.length_content]
  rw [Application.leftover, Application.leftover, hcontent, harchive, hreliability]

/-- **After a COLDSTART two devices answer alike exactly when they had the same left over.** -/
theorem restart_cold_sameAnswers_iff (h : SameIdentity a b) :
    SameAnswers (a.restart .cold) (b.restart .cold) ↔ b.leftover = a.leftover := by
  constructor
  · intro hsame
    exact hsame.leftover ⟨h.deviceInstance, h.dataLink⟩
  · intro hleft
    refine SameState.sameAnswers ⟨⟨h.deviceInstance, h.dataLink⟩, rfl, rfl, rfl, hleft⟩

/-- **A COLDSTART restores the power-on answers exactly when nothing is left over.** -/
theorem sameAnswers_start_iff (L : Layout) (options : CommandLineOptions) (host : HostAddressing)
    {app : Application L} (h : SameIdentity (start L options host) app) :
    SameAnswers (start L options host) (app.restart .cold) ↔
      app.leftover = ([], false, .communicationFailure) :=
  restart_cold_sameAnswers_iff h

theorem SameAnswers.refl (app : Application L) : SameAnswers app app :=
  SameState.sameAnswers ⟨.refl app, rfl, rfl, rfl, rfl⟩

end Application

/-! ## Whole runs -/

namespace Application

variable {L : Layout} {app app' : Application L}

theorem setPropertyBool_identity (app : Application L) (p : PropertyReference) (value : Bool) :
    SameIdentity app (app.setPropertyBool p value).1 := by
  unfold setPropertyBool
  split_ifs <;> exact ⟨rfl, rfl⟩

theorem writeFile_identity {deviceInstance fileInstance : UInt32} {call : WriteFileCall}
    (h : app.writeFile deviceInstance fileInstance call = .ok app') : SameIdentity app app' := by
  unfold writeFile at h
  split_ifs at h
  · cases h
    exact .refl app
  · cases hwrite : writeFileStep app.file call with
    | error fault =>
      rw [hwrite] at h
      cases h
    | ok file =>
      rw [hwrite] at h
      cases h
      exact ⟨rfl, rfl⟩

theorem peerEvent_identity {event : Event} (h : app.peerEvent event = .ok app') :
    SameIdentity app app' := by
  unfold peerEvent at h
  cases hstep : app.controller.step app.options.dataLink event with
  | error fault =>
    rw [hstep] at h
    cases h
  | ok controller =>
    rw [hstep] at h
    cases h
    exact ⟨rfl, rfl⟩

theorem press_identity (app : Application L) (arrow : Arrow) :
    SameIdentity app (app.press arrow) := by
  cases arrow <;> exact ⟨rfl, rfl⟩

theorem restart_identity (app : Application L) (kind : RestartKind) :
    SameIdentity app (app.restart kind) := by
  cases kind <;> exact ⟨rfl, rfl⟩

end Application

namespace MainLoop

variable {L : Layout} {m m' : MainLoop L} {e : MainEvent L}

open Application

theorem exists_of_map {α β : Type} {x : Access α} {f : α → β} {b : β} (h : x.map f = .ok b) :
    ∃ a, x = .ok a ∧ f a = b := by
  cases x with
  | error fault => cases h
  | ok a => exact ⟨a, rfl, Except.ok.inj h⟩

theorem step_identity (h : m.step e = .ok m') : SameIdentity m.app m'.app := by
  cases e with
  | set call =>
    cases h
    exact set_identity m.app call
  | setArchive reference value =>
    cases h
    exact setPropertyBool_identity m.app reference value
  | writeFile deviceInstance fileInstance call =>
    rw [step] at h
    obtain ⟨app, happ, rfl⟩ := exists_of_map h
    exact writeFile_identity happ
  | iAm now deviceIdentifier connectionString sourceNetwork =>
    rw [step] at h
    obtain ⟨app, happ, rfl⟩ := exists_of_map h
    exact peerEvent_identity happ
  | datagram now message fromAddress fromPort =>
    rw [step] at h
    obtain ⟨app, happ, rfl⟩ := exists_of_map h
    exact peerEvent_identity happ
  | pollPeer now invokeId =>
    rw [step] at h
    obtain ⟨app, happ, rfl⟩ := exists_of_map h
    exact peerEvent_identity happ
  | key arrow =>
    cases h
    exact press_identity m.app arrow
  | certificates store =>
    cases h
    exact ⟨rfl, rfl⟩
  | requestRestart now kind =>
    cases h
    exact .refl m.app
  | deferredRestart now =>
    cases h
    show SameIdentity m.app (match (restartDue m.pendingRestart now).1 with
      | some kind => m.app.restart kind
      | none => m.app)
    cases (restartDue m.pendingRestart now).1 with
    | none => exact .refl m.app
    | some kind => exact restart_identity m.app kind

theorem identity_of_run (L : Layout) (options : CommandLineOptions) (host : HostAddressing)
    (events : List (MainEvent L)) :
    ∀ m ∈ states step (start L options host) events,
      SameIdentity (Application.start L options host) m.app := by
  refine invariant (fun m : MainLoop L => SameIdentity (Application.start L options host) m.app)
    ?_ (.refl _) events
  intro m e m' hm hstep
  exact hm.trans (step_identity hstep)

/-- What a restart leaves. -/
theorem app_of_performs {kind : RestartKind} (h : m.performs e = some kind)
    (hstep : m.step e = .ok m') : m'.app = m.app.restart kind := by
  cases e with
  | deferredRestart now =>
    cases hstep
    show (match (restartDue m.pendingRestart now).1 with
      | some kind => m.app.restart kind
      | none => m.app) = _
    have hdue : (restartDue m.pendingRestart now).1 = some kind := h
    rw [hdue]
  | _ => cases h

/-- How the device is to answer after a restart. -/
def expected (fresh app : Application L) : RestartKind → Application L
  | .cold => fresh
  | .warm => app

/-- If the step restarts the device, then it answers as it should. -/
def Restores (fresh : Application L) (m : MainLoop L) (e : MainEvent L) : Prop :=
  ∀ kind, m.performs e = some kind → ∀ m', m.step e = .ok m' →
    SameAnswers (expected fresh m.app kind) m'.app

/-- A COLDSTART finds File 1 empty, its Archive false and Diamond in communication-failure. -/
def ColdStartsClean (m : MainLoop L) (e : MainEvent L) : Prop :=
  m.performs e = some .cold → m.app.leftover = ([], false, .communicationFailure)

/-- **One restart.** -/
theorem restores_iff {options : CommandLineOptions} {host : HostAddressing}
    (h : SameIdentity (Application.start L options host) m.app) (e : MainEvent L) :
    m.Restores (Application.start L options host) e ↔ m.ColdStartsClean e := by
  have hok {kind : RestartKind} (hkind : m.performs e = some kind) : ∃ m', m.step e = .ok m' := by
    cases e with
    | deferredRestart now => exact ⟨_, rfl⟩
    | _ => cases hkind
  constructor
  · intro hrestores hcold
    obtain ⟨m', hstep⟩ := hok hcold
    have hsame := hrestores .cold hcold m' hstep
    rw [app_of_performs hcold hstep] at hsame
    exact (sameAnswers_start_iff L options host h).1 hsame
  · intro hclean kind hkind m' hstep
    rw [app_of_performs hkind hstep]
    cases kind with
    | cold => exact (sameAnswers_start_iff L options host h).2 (hclean hkind)
    | warm => exact .refl m.app

/-- **Restarts over whole runs.** All restore the answers they should exactly when every COLDSTART
finds nothing left over; and after a COLDSTART two devices answer alike exactly when the same was
left over in both. -/
theorem restarts_restore_iff (L : Layout) (options : CommandLineOptions) (host : HostAddressing)
    (events : List (MainEvent L)) :
    ((∀ p ∈ steps step (start L options host) events,
        p.1.Restores (Application.start L options host) p.2) ↔
      ∀ p ∈ steps step (start L options host) events, p.1.ColdStartsClean p.2) ∧
    ∀ events', ∀ p ∈ steps step (start L options host) events,
      ∀ p' ∈ steps step (start L options host) events',
        p.1.performs p.2 = some .cold → p'.1.performs p'.2 = some .cold →
        ∀ m m', p.1.step p.2 = .ok m → p'.1.step p'.2 = .ok m' →
          (SameAnswers m.app m'.app ↔ p'.1.app.leftover = p.1.app.leftover) := by
  have hidentity {events : List (MainEvent L)} {p : MainLoop L × MainEvent L}
      (hp : p ∈ steps step (start L options host) events) :
      SameIdentity (Application.start L options host) p.1.app :=
    identity_of_run L options host events p.1 (mem_states_of_mem_steps hp)
  refine ⟨?_, ?_⟩
  · refine forall₂_congr ?_
    intro p hp
    exact restores_iff (hidentity hp) p.2
  · intro events' p hp p' hp' hcold hcold' m m' hstep hstep'
    rw [app_of_performs hcold hstep, app_of_performs hcold' hstep']
    have hid := hidentity hp
    have hid' := hidentity hp'
    refine restart_cold_sameAnswers_iff ⟨?_, ?_⟩
    · exact hid'.deviceInstance.trans hid.deviceInstance.symm
    · exact hid'.dataLink.trans hid.dataLink.symm

/-- The Archive that was set is still set after the COLDSTART. -/
theorem coldStart_keeps_archive :
    ¬ ∀ (L : Layout) (options : CommandLineOptions) (host : HostAddressing)
      (events : List (MainEvent L)), ∀ p ∈ steps step (start L options host) events,
        p.1.Restores (Application.start L options host) p.2 := by
  intro h
  let fresh := Application.start exampleLayout.toLayout {} ⟨⟨0⟩, 0, false⟩
  let archive := fresh.objectReference objectTypeFile propertyIdentifierArchive
  let armed : MainLoop exampleLayout.toLayout := ⟨{ fresh with fileArchive := true }, true, 1000,
    .cold⟩
  have hrun : final step (start exampleLayout.toLayout {} ⟨⟨0⟩, 0, false⟩)
      [.setArchive archive true, .requestRestart 0 .cold] = .ok armed := rfl
  have hsame := h _ _ _ _ _ (mem_steps_of_final hrun (.deferredRestart 1000) []) .cold rfl _ rfl
  have harchive : Served.value true = .value false :=
    ((armed.app.restart .cold).getPropertyBool_archive.symm.trans (hsame.bool archive)).trans
      fresh.getPropertyBool_archive
  cases harchive

end MainLoop

end BacnetBc
