import BacnetBc.Lib.Deadline
import BacnetBc.Objects.Password
import BacnetBc.Objects.Restart

/-!
# ReinitializeDevice

`ReinitializeDevice` accepts a request or refuses it with an error code. On BACnet/SC an
ACTIVATE_CHANGES or a WARMSTART first activates the staged certificates. An accepted COLDSTART or
WARMSTART promises a restart, `restartDelayMs` later, which a pass of the main loop performs.

A run is any order of requests, passes of the main loop, and events of the certificate node, which
include that the process stops and starts again (`RunningEvent`).

**Theorem (`reinitialize_answered`).** Which requests are accepted, with which error code the others
are refused, and what each leaves (`Answered`). No request puts off or weakens a restart that is
promised, and one that is refused for anything but the staged certificates changes nothing.

**Theorem (`restarts_iff`).** In every run a pass performs a restart exactly when a request that was
accepted since the last restart is due, and it is a COLDSTART exactly when one of these requests
was.

**Theorem (`restart_promised`).** A restart that was promised is performed at the first pass from
its deadline on, or before, whatever is asked in between; a COLDSTART is not turned into a
WARMSTART.
-/

namespace BacnetBc

open Deadline FaultyDisk Memory Trajectory

variable {X509 Key : Type} (ssl : OpenSsl X509 Key) {N : NodeLayout}

/-! ## The callback -/

def reinitializeStateColdstart : UInt32 := 0
def reinitializeStateWarmstart : UInt32 := 1
def reinitializeStateStartbackup : UInt32 := 2
def reinitializeStateEndbackup : UInt32 := 3
def reinitializeStateStartrestore : UInt32 := 4
def reinitializeStateEndrestore : UInt32 := 5
def reinitializeStateAbortrestore : UInt32 := 6
def reinitializeStateActivateChanges : UInt32 := 7

/-- What the stack hands to `ReinitializeDevice`. -/
structure ReinitializeRequest where
  deviceInstance : UInt32
  reinitializedState : UInt32
  password : Option Octets
  passwordLength : UInt32
  length_eq : ∀ octets ∈ password, octets.length = passwordLength.toNat

/-- What is fixed when the process starts. -/
structure Configuration where
  deviceInstance : UInt32
  dataLink : DataLink
  dccPassword : CString

/-- The certificates that ACTIVATE_CHANGES and WARMSTART first apply. -/
def applyPending (config : Configuration) (node : ScNode N) (state : UInt32) (wallClock : Int) :
    CertAction (Except Nat Unit × ScNode N) :=
  if config.dataLink = .sc ∧
      (state = reinitializeStateActivateChanges ∨ state = reinitializeStateWarmstart) then
    node.applyStagedCertificates ssl wallClock
  else return (.ok (), node)

/-- `ReinitializeDevice`, with the error code when it returns false. The clocks are the monotonic
one, in milliseconds, and the one that dates files. -/
def reinitializeDevice (config : Configuration) (node : ScNode N) (restart : PendingRestart)
    (request : ReinitializeRequest) (now : UInt64) (wallClock : Int) :
    Access (CertAction (Except Nat Unit × ScNode N × PendingRestart)) :=
  let state := request.reinitializedState
  if request.deviceInstance ≠ config.deviceInstance then
    .ok (return (.error errorCodeOptionalFunctionalityNotSupported, node, restart))
  else do
    let accepted ← passwordAccepted config.dccPassword request.password request.passwordLength
    if !accepted then .ok (return (.error errorCodePasswordFailure, node, restart))
    else .ok do
      let (applied, node) ← applyPending ssl config node state wallClock
      match applied with
      | .error code => return (.error code, node, restart)
      | .ok () =>
        if state = reinitializeStateActivateChanges then return (.ok (), node, restart)
        else if state = reinitializeStateColdstart then
          return (.ok (), node, requestRestart restart now .cold)
        else if state = reinitializeStateWarmstart then
          return (.ok (), node, requestRestart restart now .warm)
        else if state = reinitializeStateStartbackup ∨ state = reinitializeStateEndbackup ∨
            state = reinitializeStateStartrestore ∨ state = reinitializeStateEndrestore ∨
            state = reinitializeStateAbortrestore then
          -- the stack goes on from here
          return (.ok (), node, restart)
        else return (.error errorCodeOptionalFunctionalityNotSupported, node, restart)

/-! ## The running process -/

/-- The node, its disk, and what `RequestRestart` keeps. -/
structure Running (N : NodeLayout) where
  device : Device N
  pendingRestart : PendingRestart

inductive RunningEvent
  | asked (request : ReinitializeRequest) (now : UInt64) (on : Circumstances)
  /-- The main loop asks `RestartDue`. -/
  | pass (now : UInt64)
  | node (event : NodeEvent)

namespace Running

/-- A process that has just started, on this disk. -/
def start (device : Device N) : Running N := ⟨device, {}⟩

/-- A request: whether it is accepted, and the process afterwards. -/
def handle (config : Configuration) (r : Running N) (request : ReinitializeRequest)
    (now : UInt64) (on : Circumstances) : Access (Except Nat Unit × Running N) := do
  let action ← reinitializeDevice ssl config r.device.node r.pendingRestart request now on.now
  let o := action on.faults r.device.disk
  .ok (o.value.1, ⟨⟨o.value.2.1, o.disk⟩, o.value.2.2⟩)

/-- The restart that a pass performs. -/
def performs (r : Running N) : RunningEvent → Option RestartKind
  | .pass now => (restartDue r.pendingRestart now).1
  | _ => none

/-- What a restart of the process forgets. -/
def afterNode (r : Running N) (device : Device N) : NodeEvent → Running N
  | .call _ _ => ⟨device, r.pendingRestart⟩
  | .stop _ _ _ _ => start device
  | .restart _ => start device

def step (config : Configuration) (r : Running N) : RunningEvent → Access (Running N)
  | .asked request now on => (r.handle ssl config request now on).map Prod.snd
  | .pass now => .ok ⟨r.device, (restartDue r.pendingRestart now).2⟩
  | .node event => .ok (r.afterNode (r.device.next ssl event) event)

end Running

/-! ## One request -/

/-- The restart that is promised with this state. -/
def restartKindOf (state : UInt32) : Option RestartKind :=
  if state = reinitializeStateColdstart then some .cold
  else if state = reinitializeStateWarmstart then some .warm
  else none

/-- The states of `ReinitializeDevice` that the device knows. -/
def Supported (state : UInt32) : Prop := state ≤ reinitializeStateActivateChanges

instance (state : UInt32) : Decidable (Supported state) := inferInstanceAs (Decidable (_ ≤ _))

/-- `PasswordAccepted`, on a buffer that has the length it should. -/
def ReinitializeRequest.HasPassword (config : Configuration) (request : ReinitializeRequest) :
    Prop :=
  cutLength config.dccPassword = 0 ∨
    request.password = some (config.dccPassword.octets.take (cutLength config.dccPassword))

instance (config : Configuration) (request : ReinitializeRequest) :
    Decidable (request.HasPassword config) := inferInstanceAs (Decidable (_ ∨ _))

theorem ReinitializeRequest.passwordAccepted_eq (config : Configuration)
    (request : ReinitializeRequest) :
    passwordAccepted config.dccPassword request.password request.passwordLength =
      .ok (decide (request.HasPassword config)) := by
  rw [passwordAccepted_of_length request.length_eq]
  exact congrArg Except.ok (decide_eq_decide.2 Iff.rfl)

theorem supported_iff (state : UInt32) :
    Supported state ↔ state = reinitializeStateActivateChanges ∨
      state = reinitializeStateColdstart ∨ state = reinitializeStateWarmstart ∨
      state = reinitializeStateStartbackup ∨ state = reinitializeStateEndbackup ∨
      state = reinitializeStateStartrestore ∨ state = reinitializeStateEndrestore ∨
      state = reinitializeStateAbortrestore := by
  simp only [Supported, reinitializeStateActivateChanges, reinitializeStateColdstart,
    reinitializeStateWarmstart, reinitializeStateStartbackup, reinitializeStateEndbackup,
    reinitializeStateStartrestore, reinitializeStateEndrestore, reinitializeStateAbortrestore,
    UInt32.le_iff_toNat_le, ← UInt32.toNat_inj, UInt32.toNat_ofNat]
  omega

namespace Running

variable {ssl} {config : Configuration} {r r' : Running N} {request : ReinitializeRequest}
  {now : UInt64} {on : Circumstances} {result : Except Nat Unit}

/-- What becomes of the pending certificates. -/
def applied (ssl : OpenSsl X509 Key) (config : Configuration) (r : Running N)
    (request : ReinitializeRequest) (on : Circumstances) :
    Outcome String DiskFile (Except Nat Unit × ScNode N) :=
  applyPending ssl config r.device.node request.reinitializedState on.now on.faults r.device.disk

/-- The process after the pending certificates have been applied. -/
def afterApplied (ssl : OpenSsl X509 Key) (config : Configuration) (r : Running N)
    (request : ReinitializeRequest) (on : Circumstances) (restart : PendingRestart) : Running N :=
  ⟨⟨(r.applied ssl config request on).value.2, (r.applied ssl config request on).disk⟩, restart⟩

theorem reinitialize_of_other (h : request.deviceInstance ≠ config.deviceInstance) :
    r.handle ssl config request now on =
      .ok (.error errorCodeOptionalFunctionalityNotSupported, r) := by
  unfold handle reinitializeDevice
  simp only [if_pos h]
  rfl

theorem reinitialize_of_password (h : request.deviceInstance = config.deviceInstance)
    (hpassword : ¬ request.HasPassword config) :
    r.handle ssl config request now on = .ok (.error errorCodePasswordFailure, r) := by
  unfold handle reinitializeDevice
  rw [if_neg (not_not_intro h), request.passwordAccepted_eq, decide_eq_false hpassword]
  rfl

/-- What the rest of the callback answers, and the restart it promises. -/
theorem reinitialize_of_granted (h : request.deviceInstance = config.deviceInstance)
    (hpassword : request.HasPassword config) :
    r.handle ssl config request now on =
      .ok (match (r.applied ssl config request on).value.1 with
        | .error code => (.error code, r.afterApplied ssl config request on r.pendingRestart)
        | .ok () =>
          if Supported request.reinitializedState then
            (.ok (), r.afterApplied ssl config request on
              ((restartKindOf request.reinitializedState).elim r.pendingRestart
                (requestRestart r.pendingRestart now)))
          else (.error errorCodeOptionalFunctionalityNotSupported,
            r.afterApplied ssl config request on r.pendingRestart)) := by
  unfold handle reinitializeDevice
  rw [if_neg (not_not_intro h), request.passwordAccepted_eq, decide_eq_true hpassword]
  show Except.ok _ = Except.ok _
  congr 1
  simp only [bind_value, bind_disk]
  unfold afterApplied applied
  set o := applyPending ssl config r.device.node request.reinitializedState on.now on.faults
    r.device.disk
  cases o.value.1 with
  | error code => rfl
  | ok _ =>
    dsimp only
    by_cases hactivate : request.reinitializedState = reinitializeStateActivateChanges
    · rw [if_pos hactivate, if_pos ((supported_iff _).2 (.inl hactivate)), hactivate]
      rfl
    by_cases hcold : request.reinitializedState = reinitializeStateColdstart
    · rw [if_neg hactivate, if_pos hcold, if_pos ((supported_iff _).2 (.inr (.inl hcold))), hcold]
      rfl
    by_cases hwarm : request.reinitializedState = reinitializeStateWarmstart
    · have hsupported := (supported_iff _).2 (.inr (.inr (.inl hwarm)))
      rw [if_neg hactivate, if_neg hcold, if_pos hwarm, if_pos hsupported, hwarm]
      rfl
    have hkind : restartKindOf request.reinitializedState = none := by
      rw [restartKindOf, if_neg hcold, if_neg hwarm]
    simp only [supported_iff, hactivate, hcold, hwarm, hkind, false_or, if_false, Option.elim_none]
    split_ifs <;> rfl

/-- The requests that are to be accepted. -/
structure Accepts (ssl : OpenSsl X509 Key) (config : Configuration) (r : Running N)
    (request : ReinitializeRequest) (on : Circumstances) : Prop where
  device : request.deviceInstance = config.deviceInstance
  password : request.HasPassword config
  state : Supported request.reinitializedState
  certificates : (r.applied ssl config request on).value.1 = .ok ()

/-- What a request leaves. -/
structure Leaves (ssl : OpenSsl X509 Key) (config : Configuration) (r : Running N)
    (request : ReinitializeRequest) (now : UInt64) (on : Circumstances)
    (result : Except Nat Unit) (r' : Running N) : Prop where
  accepted : result = .ok () → r' = r.afterApplied ssl config request on
    ((restartKindOf request.reinitializedState).elim r.pendingRestart
      (requestRestart r.pendingRestart now))
  promisesNothing : result ≠ .ok () → r'.pendingRestart = r.pendingRestart
  refused : ∀ code, result = .error code → code ≠ errorCodeInvalidConfigurationData → r' = r

theorem code_of_applyEnd {node : ScNode N} {wallClock : Int} {e : Faults String DiskFile}
    {d d' : CertDisk} {x : Except Nat Unit × ScNode N} {code : Nat}
    (h : ApplyEnd ssl node wallClock e d x d') (hcode : x.1 = .error code) :
    code = errorCodeInvalidConfigurationData := by
  cases h with
  | nothingStaged _ => cases hcode
  | notValid _ _ => exact (Except.error.inj hcode).symm
  | notCommitted _ _ _ => exact (Except.error.inj hcode).symm
  | activated _ _ _ _ => cases hcode

theorem applied_error {code : Nat} (h : (r.applied ssl config request on).value.1 = .error code) :
    code = errorCodeInvalidConfigurationData := by
  unfold applied applyPending at h
  split_ifs at h
  · exact code_of_applyEnd (applyStaged_run ssl r.device.node on.now on.faults r.device.disk).1 h
  · cases h

/-- A request for an unknown state does not touch the certificates. -/
theorem afterApplied_of_not_supported (h : ¬ Supported request.reinitializedState) :
    r.afterApplied ssl config request on r.pendingRestart = r := by
  rw [supported_iff, not_or, not_or, not_or] at h
  obtain ⟨hactivate, _, hwarm, _⟩ := h
  unfold afterApplied applied applyPending
  rw [if_neg (fun hsc => hsc.2.elim hactivate hwarm)]
  rfl

/-- Which requests are accepted, and the process afterwards. -/
theorem reinitialize_spec (ssl : OpenSsl X509 Key) (config : Configuration) (r : Running N)
    (request : ReinitializeRequest) (now : UInt64) (on : Circumstances) :
    ∃ result r', r.handle ssl config request now on = .ok (result, r') ∧
      (result = .ok () ↔ r.Accepts ssl config request on) ∧
      r.Leaves ssl config request now on result r' := by
  by_cases hdevice : request.deviceInstance = config.deviceInstance
  case neg =>
    refine ⟨_, r, reinitialize_of_other hdevice, ?_, ?_, ?_, ?_⟩
    · exact iff_of_false (by simp) fun h => hdevice h.device
    · intro h
      cases h
    · intro _
      rfl
    · intro _ _ _
      rfl
  by_cases hpassword : request.HasPassword config
  case neg =>
    refine ⟨_, r, reinitialize_of_password hdevice hpassword, ?_, ?_, ?_, ?_⟩
    · exact iff_of_false (by simp) fun h => hpassword h.password
    · intro h
      cases h
    · intro _
      rfl
    · intro _ _ _
      rfl
  rw [reinitialize_of_granted hdevice hpassword]
  cases happlied : (r.applied ssl config request on).value.1 with
  | error code =>
    refine ⟨_, _, rfl, ?_, ?_, ?_, ?_⟩
    · refine iff_of_false (by simp) fun h => ?_
      rw [h.certificates] at happlied
      cases happlied
    · intro h
      cases h
    · intro _
      rfl
    · intro code' hcode hne
      cases hcode
      exact absurd (applied_error happlied) hne
  | ok _ =>
    by_cases hstate : Supported request.reinitializedState
    · refine ⟨.ok (), _, congrArg Except.ok (if_pos hstate), ?_, ?_, ?_, ?_⟩
      · exact iff_of_true rfl ⟨hdevice, hpassword, hstate, happlied⟩
      · intro _
        rfl
      · intro h
        exact absurd rfl h
      · intro _ hcode
        cases hcode
    · refine ⟨.error errorCodeOptionalFunctionalityNotSupported, r, ?_, ?_, ?_, ?_, ?_⟩
      · simp only [if_neg hstate, afterApplied_of_not_supported hstate]
      · exact iff_of_false (by simp) fun h => hstate h.state
      · intro h
        cases h
      · intro _
        rfl
      · intro _ _ _
        rfl

end Running

/-! ## The pending restart is a timer -/

/-- A COLDSTART does all that a WARMSTART does. -/
def RestartKind.rank : RestartKind → Nat
  | .warm => 0
  | .cold => 1

theorem RestartKind.rank_injective : Function.Injective RestartKind.rank := by
  intro k k'
  cases k <;> cases k' <;> decide

instance : LinearOrder RestartKind := LinearOrder.lift' RestartKind.rank RestartKind.rank_injective

theorem RestartKind.cold_le_iff {kind : RestartKind} : .cold ≤ kind ↔ kind = .cold := by
  cases kind <;> decide

namespace PendingRestart

/-- The promise that is pending. -/
def timer (restart : PendingRestart) : Option (Promise Nat RestartKind) :=
  if restart.pending then some ⟨restart.dueAt.toNat, restart.kind⟩ else none

/-- What `RequestRestart` promises. -/
def promiseAt (now : UInt64) (kind : RestartKind) : Promise Nat RestartKind :=
  ⟨(now + restartDelayMs).toNat, kind⟩

theorem timer_requestRestart (restart : PendingRestart) (now : UInt64) (kind : RestartKind) :
    (requestRestart restart now kind).timer = some (arm restart.timer (promiseAt now kind)) := by
  unfold requestRestart timer
  cases hpending : restart.pending with
  | false => rfl
  | true =>
    simp only [if_true, arm, promiseAt, Option.some.injEq, Promise.mk.injEq]
    constructor
    · by_cases hless : now + restartDelayMs < restart.dueAt
      · rw [if_pos hless, min_eq_right (UInt64.lt_iff_toNat_lt.1 hless).le]
      · rw [if_neg hless, min_eq_left (UInt64.le_iff_toNat_le.1 (UInt64.not_lt.1 hless))]
    · cases kind <;> cases restart.kind <;> decide

theorem restartDue_eq_look (restart : PendingRestart) (now : UInt64) :
    ((restartDue restart now).1, (restartDue restart now).2.timer) =
      Deadline.look restart.timer now.toNat := by
  unfold restartDue timer
  cases hpending : restart.pending with
  | false => simp [Deadline.look, hpending]
  | true =>
    simp only [Bool.not_true, Bool.false_or, if_true, look_some, decide_eq_true_eq,
      UInt64.lt_iff_toNat_lt]
    by_cases hdue : restart.dueAt.toNat ≤ now.toNat
    · rw [if_neg (not_lt.2 hdue), if_pos hdue]
      simp
    · rw [if_pos (not_le.1 hdue), if_neg hdue]
      simp [hpending]

end PendingRestart

/-! ## What a request is answered -/

/-- A request that first activates the staged certificates. -/
def ReinitializeRequest.Activates (request : ReinitializeRequest) (config : Configuration) : Prop :=
  config.dataLink = .sc ∧ (request.reinitializedState = reinitializeStateActivateChanges ∨
    request.reinitializedState = reinitializeStateWarmstart)

namespace Running

/-- Why a request is refused, and the error code. -/
inductive Refuses (ssl : OpenSsl X509 Key) (config : Configuration) (r : Running N)
    (request : ReinitializeRequest) (on : Circumstances) : Nat → Prop
  | otherDevice (h : request.deviceInstance ≠ config.deviceInstance) :
      Refuses ssl config r request on errorCodeOptionalFunctionalityNotSupported
  | password (hd : request.deviceInstance = config.deviceInstance)
      (h : ¬ request.HasPassword config) : Refuses ssl config r request on errorCodePasswordFailure
  /-- The staged certificates cannot be activated. -/
  | certificates (hd : request.deviceInstance = config.deviceInstance)
      (hp : request.HasPassword config) (h : (r.applied ssl config request on).value.1 ≠ .ok ()) :
      Refuses ssl config r request on errorCodeInvalidConfigurationData
  | state (hd : request.deviceInstance = config.deviceInstance) (hp : request.HasPassword config)
      (h : ¬ Supported request.reinitializedState) :
      Refuses ssl config r request on errorCodeOptionalFunctionalityNotSupported

/-- What a request is answered, and what it leaves. -/
structure Answered (ssl : OpenSsl X509 Key) (config : Configuration) (r : Running N)
    (request : ReinitializeRequest) (now : UInt64) (on : Circumstances)
    (result : Except Nat Unit) (r' : Running N) : Prop where
  accepts : result = .ok () ↔ r.Accepts ssl config request on
  refuses : ∀ code, result = .error code ↔ r.Refuses ssl config request on code
  /-- The staged certificates are activated. -/
  activates : result = .ok () → request.Activates config →
    ApplyEnd ssl r.device.node on.now on.faults r.device.disk (.ok (), r'.device.node)
      r'.device.disk
  keepsDevice : result = .ok () → ¬ request.Activates config → r'.device = r.device
  /-- A COLDSTART and a WARMSTART promise a restart. -/
  promises : result = .ok () → ∀ kind ∈ restartKindOf request.reinitializedState,
    r'.pendingRestart.timer =
      some (arm r.pendingRestart.timer (PendingRestart.promiseAt now kind))
  promisesNothing : result ≠ .ok () ∨ restartKindOf request.reinitializedState = none →
    r'.pendingRestart = r.pendingRestart
  /-- A restart that is promised already is not put off, nor weakened. -/
  keepsPromise : ∀ promise ∈ r.pendingRestart.timer, ∃ promise' ∈ r'.pendingRestart.timer,
    promise'.Covers promise
  changesNothing : ∀ code, result = .error code → code ≠ errorCodeInvalidConfigurationData → r' = r

section
variable {ssl} {config : Configuration} {r : Running N} {request : ReinitializeRequest}
  {on : Circumstances}

theorem applied_of_activates (h : request.Activates config) : r.applied ssl config request on =
    r.device.node.applyStagedCertificates ssl on.now on.faults r.device.disk := by
  unfold applied applyPending
  exact congrArg (fun action : CertAction (Except Nat Unit × ScNode N) =>
    action on.faults r.device.disk) (if_pos h)

theorem applied_of_not_activates (h : ¬ request.Activates config) :
    r.applied ssl config request on =
      (return (.ok (), r.device.node) : CertAction (Except Nat Unit × ScNode N)) on.faults
        r.device.disk := by
  unfold applied applyPending
  exact congrArg (fun action : CertAction (Except Nat Unit × ScNode N) =>
    action on.faults r.device.disk) (if_neg h)

theorem handle_of_refuses {code : Nat} (now : UInt64) (h : r.Refuses ssl config request on code) :
    ∃ r', r.handle ssl config request now on = .ok (.error code, r') := by
  cases h with
  | otherDevice h => exact ⟨r, reinitialize_of_other h⟩
  | password hd h => exact ⟨r, reinitialize_of_password hd h⟩
  | certificates hd hp h =>
    rw [reinitialize_of_granted hd hp]
    cases happlied : (r.applied ssl config request on).value.1 with
    | ok _ => exact absurd happlied h
    | error code =>
      obtain rfl := applied_error happlied
      exact ⟨_, rfl⟩
  | state hd hp h =>
    rw [reinitialize_of_granted hd hp]
    have happlied : (r.applied ssl config request on).value.1 = .ok () := by
      rw [applied_of_not_activates fun hactivates => h ?_]
      · rfl
      · rcases hactivates.2 with hstate | hstate <;> rw [hstate] <;> decide
    rw [happlied]
    exact ⟨_, congrArg Except.ok (if_neg h)⟩

theorem exists_refuses (h : ¬ r.Accepts ssl config request on) :
    ∃ code, r.Refuses ssl config request on code := by
  by_cases hd : request.deviceInstance = config.deviceInstance
  · by_cases hp : request.HasPassword config
    · by_cases hs : Supported request.reinitializedState
      · exact ⟨_, .certificates hd hp fun hc => h ⟨hd, hp, hs, hc⟩⟩
      · exact ⟨_, .state hd hp hs⟩
    · exact ⟨_, .password hd hp⟩
  · exact ⟨_, .otherDevice hd⟩

/-- An accepted request leaves the staged certificates activated, if it activates them. -/
theorem applyEnd_of_activates (h : (r.applied ssl config request on).value.1 = .ok ())
    (hactivates : request.Activates config) (restart : PendingRestart) :
    ApplyEnd ssl r.device.node on.now on.faults r.device.disk
      (.ok (), (r.afterApplied ssl config request on restart).device.node)
      (r.afterApplied ssl config request on restart).device.disk := by
  have hend := (applyStaged_run ssl r.device.node on.now on.faults r.device.disk).1
  rw [← applied_of_activates hactivates] at hend
  have hvalue : (r.applied ssl config request on).value =
      (.ok (), (r.afterApplied ssl config request on restart).device.node) := Prod.ext h rfl
  rw [hvalue] at hend
  exact hend

theorem afterApplied_of_not_activates (h : ¬ request.Activates config) (restart : PendingRestart) :
    (r.afterApplied ssl config request on restart).device = r.device := by
  unfold afterApplied
  rw [applied_of_not_activates h]
  rfl

end

/-- **What each request is answered, and what it leaves.** -/
theorem reinitialize_answered (ssl : OpenSsl X509 Key) (config : Configuration) (r : Running N)
    (request : ReinitializeRequest) (now : UInt64) (on : Circumstances) :
    ∃ result r', r.handle ssl config request now on = .ok (result, r') ∧
      r.Answered ssl config request now on result r' := by
  obtain ⟨result, r', hrun, haccepts, hleaves⟩ := r.reinitialize_spec ssl config request now on
  refine ⟨result, r', hrun, haccepts, fun code => ⟨?_, ?_⟩, ?_, ?_, ?_, ?_, ?_, hleaves.refused⟩
  · rintro rfl
    obtain ⟨code', hrefuses⟩ := exists_refuses (fun h => by cases haccepts.2 h)
    obtain ⟨r'', hrun'⟩ := handle_of_refuses now hrefuses
    cases hrun.symm.trans hrun'
    exact hrefuses
  · intro hrefuses
    obtain ⟨r'', hrun'⟩ := handle_of_refuses now hrefuses
    cases hrun.symm.trans hrun'
    rfl
  · intro hok hactivates
    rw [hleaves.accepted hok]
    exact applyEnd_of_activates (haccepts.1 hok).certificates hactivates _
  · intro hok hactivates
    rw [hleaves.accepted hok]
    exact afterApplied_of_not_activates hactivates _
  · intro hok kind hkind
    rw [hleaves.accepted hok, Option.mem_def.1 hkind]
    exact PendingRestart.timer_requestRestart r.pendingRestart now kind
  · rintro (hnot | hnone)
    · exact hleaves.promisesNothing hnot
    · cases result with
      | error code => exact hleaves.promisesNothing (by simp)
      | ok _ => rw [hleaves.accepted rfl, hnone, afterApplied, Option.elim_none]
  · intro promise hpromise
    cases result with
    | error code => exact ⟨promise, by rw [hleaves.promisesNothing (by simp)]; exact hpromise,
        promise.covers_refl⟩
    | ok _ =>
      rw [hleaves.accepted rfl, afterApplied]
      cases restartKindOf request.reinitializedState with
      | none => exact ⟨promise, hpromise, promise.covers_refl⟩
      | some kind =>
        refine ⟨arm r.pendingRestart.timer (PendingRestart.promiseAt now kind),
          PendingRestart.timer_requestRestart r.pendingRestart now kind, ?_⟩
        rw [Option.mem_def.1 hpromise]
        exact covers_arm promise _

end Running

/-! ## Restarts over whole runs -/

namespace Running

variable (config : Configuration)

/-- What an event promises. -/
def promised (r : Running N) : RunningEvent → Option (Promise Nat RestartKind)
  | .asked request now on =>
    match r.handle ssl config request now on with
    | .ok (.ok (), _) =>
      (restartKindOf request.reinitializedState).map (PendingRestart.promiseAt now)
    | _ => none
  | _ => none

/-- A restart is performed, or the process is another one. -/
def clears (r : Running N) : RunningEvent → Bool
  | .asked _ _ _ => false
  | .pass now => (r.performs (.pass now)).isSome
  | .node (.call _ _) => false
  | .node (.stop _ _ _ _) => true
  | .node (.restart _) => true

/-- The restarts that are still to come. -/
def openRestarts (device : Device N) (events : List RunningEvent) :
    List (Promise Nat RestartKind) :=
  openPromises (step ssl config) clears (promised ssl config) [] (start device) events

variable {ssl config} {r r' : Running N}

/-- A request: it promises a restart, or leaves the pending one as it is. -/
theorem timer_asked {request : ReinitializeRequest} {now : UInt64} {on : Circumstances}
    (h : r.step ssl config (.asked request now on) = .ok r') :
    r'.pendingRestart.timer =
      (promised ssl config r (.asked request now on)).elim r.pendingRestart.timer
        fun p => some (arm r.pendingRestart.timer p) := by
  obtain ⟨result, r'', hrun, -, hleaves⟩ := r.reinitialize_spec ssl config request now on
  have hstep : r'' = r' := by
    rw [step, hrun] at h
    exact Except.ok.inj h
  subst hstep
  rw [promised, hrun]
  cases result with
  | error code =>
    rw [hleaves.promisesNothing (by simp)]
    rfl
  | ok _ =>
    rw [hleaves.accepted rfl, afterApplied]
    cases restartKindOf request.reinitializedState with
    | none => rfl
    | some kind => exact PendingRestart.timer_requestRestart r.pendingRestart now kind

theorem timer_step {e : RunningEvent} (h : r.step ssl config e = .ok r') :
    r'.pendingRestart.timer = if r.clears e then none else
      (promised ssl config r e).elim r.pendingRestart.timer
        fun p => some (arm r.pendingRestart.timer p) := by
  cases e with
  | asked request now on => exact timer_asked h
  | pass now =>
    cases h
    have hlook := r.pendingRestart.restartDue_eq_look now
    have hfires : (restartDue r.pendingRestart now).1 =
        (Deadline.look r.pendingRestart.timer now.toNat).1 := congrArg Prod.fst hlook
    show (restartDue r.pendingRestart now).2.timer =
      if (restartDue r.pendingRestart now).1.isSome then none else r.pendingRestart.timer
    have htimer : (restartDue r.pendingRestart now).2.timer =
        (Deadline.look r.pendingRestart.timer now.toNat).2 := congrArg Prod.snd hlook
    rw [htimer, hfires]
    by_cases hsome : (Deadline.look r.pendingRestart.timer now.toNat).1.isSome
    · rw [if_pos hsome, look_of_isSome hsome]
    · rw [if_neg hsome, look_of_none (Option.not_isSome_iff_eq_none.1 hsome)]
  | node event =>
    cases h
    cases event <;> rfl

theorem exists_step (ssl : OpenSsl X509 Key) (config : Configuration) (r : Running N)
    (e : RunningEvent) : ∃ r', r.step ssl config e = .ok r' := by
  cases e with
  | asked request now on =>
    obtain ⟨result, r', hrun, -⟩ := r.reinitialize_spec ssl config request now on
    exact ⟨r', by rw [step, hrun]; rfl⟩
  | pass now => exact ⟨_, rfl⟩
  | node event => exact ⟨_, rfl⟩

theorem exists_final (ssl : OpenSsl X509 Key) (config : Configuration) (r : Running N)
    (events : List RunningEvent) : ∃ r', final (step ssl config) r events = .ok r' := by
  induction events generalizing r with
  | nil => exact ⟨r, rfl⟩
  | cons e events ih =>
    obtain ⟨r', hr'⟩ := exists_step ssl config r e
    rw [final_cons_ok hr']
    exact ih r'

theorem performs_pass (r : Running N) (now : UInt64) :
    r.performs (.pass now) = (Deadline.look r.pendingRestart.timer now.toNat).1 :=
  congrArg Prod.fst (r.pendingRestart.restartDue_eq_look now)

/-- The restarts that are still to come are what the timer keeps. -/
theorem keeps_openRestarts {device : Device N} {events : List RunningEvent}
    (h : final (step ssl config) (start device) events = .ok r) :
    Keeps r.pendingRestart.timer (openRestarts ssl config device events) :=
  keeps_of_final (fun r : Running N => r.pendingRestart.timer) (fun _ _ _ => timer_step)
    keeps_nil h

/-- **Restarts over whole runs.** A pass performs a restart exactly when one that was promised since
the last restart is due, and a COLDSTART exactly when one of them is. -/
theorem restarts_iff (ssl : OpenSsl X509 Key) (config : Configuration) (device : Device N)
    (events : List RunningEvent) :
    ∃ r, final (step ssl config) (start device) events = .ok r ∧ ∀ now,
      ((r.performs (.pass now)).isSome ↔
        ∃ p ∈ openRestarts ssl config device events, p.dueAt ≤ now.toNat) ∧
      ∀ kind, r.performs (.pass now) = some kind →
        (kind = .cold ↔ ∃ p ∈ openRestarts ssl config device events, p.kind = .cold) := by
  obtain ⟨r, hr⟩ := exists_final ssl config (start device) events
  have hkeeps := keeps_openRestarts hr
  refine ⟨r, hr, ?_⟩
  intro now
  rw [performs_pass]
  refine ⟨hkeeps.look_isSome_iff, ?_⟩
  intro kind hkind
  have hlub := hkeeps.isLUB_of_look hkind
  constructor
  · intro hcold
    by_contra hnone
    -- otherwise WARMSTART would cover them all
    have hwarm : kind ≤ .warm := by
      refine hlub.2 ?_
      rintro k ⟨p, hp, rfl⟩
      cases hk : p.kind with
      | cold => exact absurd ⟨p, hp, hk⟩ hnone
      | warm => exact le_rfl
    rw [hcold] at hwarm
    exact absurd hwarm (by decide)
  · rintro ⟨p, hp, hcold⟩
    refine RestartKind.cold_le_iff.1 ?_
    rw [← hcold]
    exact hlub.1 ⟨p, hp, rfl⟩

/-- **A restart that was promised is performed**, by the first pass from its deadline on at the
latest, as long as the process is the same; and a COLDSTART is not turned into a WARMSTART. -/
theorem restart_promised {ssl : OpenSsl X509 Key} {config : Configuration} {device : Device N}
    {before between : List RunningEvent} {request : ReinitializeRequest} {now later : UInt64}
    {on : Circumstances} {r r' s : Running N} {kind : RestartKind}
    (hr : final (step ssl config) (start device) before = .ok r)
    (haccepted : r.handle ssl config request now on = .ok (.ok (), r'))
    (hkind : restartKindOf request.reinitializedState = some kind)
    (hbetween : ∀ p ∈ steps (step ssl config) r' between, p.1.clears p.2 = false)
    (hs : final (step ssl config) r' between = .ok s)
    (hdue : now + restartDelayMs ≤ later) :
    ∃ kind', s.performs (.pass later) = some kind' ∧ kind ≤ kind' := by
  have hstep : r.step ssl config (.asked request now on) = .ok r' := by
    rw [step, haccepted]
    rfl
  have hpromised : promised ssl config r (.asked request now on) =
      some (PendingRestart.promiseAt now kind) := by
    rw [promised, haccepted, hkind]
    rfl
  have hfinal : final (step ssl config) (start device)
      (before ++ .asked request now on :: between) = .ok s := by
    rw [final_append hr, final_cons_ok hstep]
    exact hs
  have hkeeps := keeps_openRestarts hfinal
  have hmem : PendingRestart.promiseAt now kind ∈ openRestarts ssl config device
      (before ++ .asked request now on :: between) := by
    unfold openRestarts
    rw [openPromises_append hr, openPromises_cons_ok hstep]
    refine mem_openPromises ?_ hbetween
    simp [clears, hpromised]
  obtain ⟨kind', hkind'⟩ := Option.isSome_iff_exists.1
    (hkeeps.look_isSome_iff.2 ⟨_, hmem, UInt64.le_iff_toNat_le.1 hdue⟩)
  rw [performs_pass]
  exact ⟨kind', hkind', (hkeeps.isLUB_of_look hkind').1 ⟨_, hmem, rfl⟩⟩

/-- A request to a device without a password. -/
def exampleRequest (state : UInt32) : ReinitializeRequest :=
  ⟨389005, state, none, 0, fun _ h => by cases h⟩

def exampleConfiguration : Configuration :=
  ⟨389005, .ipv4, ⟨[], fun _ h => by cases h⟩⟩

def exampleDevice : Device exampleLayout := ⟨.initial _, exampleDisk⟩

/-- A COLDSTART takes over the deadline of a WARMSTART. -/
theorem coldstart_promised_after_warmstart :
    ∃ kind, (⟨exampleDevice, true, 1005, .cold⟩ : Running exampleLayout).performs (.pass 1010) =
      some kind ∧ .cold ≤ kind := by
  let on : Circumstances := ⟨0, 0, .none⟩
  have hr : final (step exampleSsl exampleConfiguration) (start exampleDevice)
      [.asked (exampleRequest reinitializeStateWarmstart) 5 on] =
        .ok ⟨exampleDevice, true, 1005, .warm⟩ := rfl
  let armed : Running exampleLayout := ⟨exampleDevice, true, 1005, .cold⟩
  have haccepted : handle exampleSsl exampleConfiguration
      ⟨exampleDevice, true, 1005, .warm⟩ (exampleRequest reinitializeStateColdstart) 10 on =
        .ok (.ok (), armed) := rfl
  have hs : final (step exampleSsl exampleConfiguration) armed [.pass 500] = .ok armed := rfl
  refine restart_promised hr haccepted rfl ?_ hs (by decide)
  intro p hp
  obtain rfl := List.mem_singleton.1 hp
  rfl

end Running

end BacnetBc
