import BacnetBc.Cert.Commit
import BacnetBc.Lib.Trajectory

/-!
# The node's certificate procedures

`ScNode` hands the certificate procedures of BACnet/SC to the store: clients write and resize the
File objects, ReinitializeDevice activates what is staged, a Network Port command discards it or
generates a new key, and the process can stop at any moment and start again.

**Theorem (`applyStaged_run`).** An activation ends in one of four ways (`ApplyEnd`), and its
moments are those of the commit.

`Device.step` is one event, `momentsOf` the disks that an event goes through.
-/

namespace BacnetBc

open FaultyDisk Memory

variable {X509 Key : Type} (ssl : OpenSsl X509 Key) {N : NodeLayout}

/-! ## Activation and commands -/

/-- The certificate store and `g_reloadCredentialsRequested`. -/
structure ScNode (N : NodeLayout) where
  store : Store N.toLayout
  reloadCredentialsRequested : Bool

def errorCodeInvalidConfigurationData : Nat := 46
def errorCodeOptionalFunctionalityNotSupported : Nat := 45
def networkPortCommandDiscardChanges : Nat := 1
def networkPortCommandGenerateCsrFile : Nat := 9

namespace ScNode

/-- The node of a process that has just started. -/
def initial (N : NodeLayout) : ScNode N := ⟨.initial _, false⟩

/-- `ApplyStagedCertificates`: the error code when it returns false. -/
def applyStagedCertificates (node : ScNode N) (now : Int) :
    CertAction (Except Nat Unit × ScNode N) := do
  if !node.store.hasStagedChanges then return (.ok (), node)
  else
    let d ← look
    match node.store.validateStaged ssl d with
    | (.error _, store) => return (.error errorCodeInvalidConfigurationData,
      { node with store := store })
    | (.ok (), store) =>
      match ← store.commitStaged now with
      | (.error _, store) =>
        return (.error errorCodeInvalidConfigurationData, { node with store := store })
      | (.ok (), store) =>
        -- a bundle that cannot be written is only reported
        let _ ← store.writeTrustedIssuerBundle ssl now N.trustedIssuers
        return (.ok (), { store := store, reloadCredentialsRequested := true })

/-- `NetworkPortCommand`. -/
def networkPortCommand (node : ScNode N) (now : Int) (seed : Nat) (command : Nat) :
    CertAction (Except Nat Unit × ScNode N) := do
  if command = networkPortCommandDiscardChanges then
    return (.ok (), { node with store := node.store.discardStaged })
  else if command = networkPortCommandGenerateCsrFile then
    match ← node.store.generateKeyAndCsr ssl now seed with
    | .error _ => return (.error errorCodeInvalidConfigurationData, node)
    | .ok () => return (.ok (), node)
  else return (.error errorCodeOptionalFunctionalityNotSupported, node)

end ScNode

/-! ## How an activation ends -/

/-- How `ApplyStagedCertificates` ends: the result and the node, and the disk as far as it is
files. -/
inductive ApplyEnd (node : ScNode N) (now : Int) (e : Faults String DiskFile) (d : CertDisk) :
    Except Nat Unit × ScNode N → CertDisk → Prop
  | nothingStaged (hs : node.store.hasStagedChanges = false) :
      ApplyEnd node now e d (.ok (), node) d
  | notValid {reason store} (hs : node.store.hasStagedChanges = true)
      (hv : node.store.validateStaged ssl d = (.error reason, store)) :
      ApplyEnd node now e d
        (.error errorCodeInvalidConfigurationData, { node with store := store }) d
  | notCommitted {store reason store' d'} (hs : node.store.hasStagedChanges = true)
      (hv : node.store.validateStaged ssl d = (.ok (), store))
      (hc : store.CommitEnd now e d (.error reason, store') d') :
      ApplyEnd node now e d
        (.error errorCodeInvalidConfigurationData, { node with store := store' }) d'
  | activated {store store' d' d''} (hs : node.store.hasStagedChanges = true)
      (hv : node.store.validateStaged ssl d = (.ok (), store))
      (hc : store.CommitEnd now e d (.ok (), store') d') (hd : Agree N.IsFile d' d'') :
      ApplyEnd node now e d (.ok (), { store := store', reloadCredentialsRequested := true }) d''

/-- **What an activation does.** -/
theorem applyStaged_run (node : ScNode N) (now : Int) (e : Faults String DiskFile) (d : CertDisk) :
    ApplyEnd ssl node now e d (node.applyStagedCertificates ssl now e d).value
        (node.applyStagedCertificates ssl now e d).disk ∧
      ∀ d' ∈ (node.applyStagedCertificates ssl now e d).moments,
        d' = d ∨ ∃ store, node.store.validateStaged ssl d = (.ok (), store) ∧
          store.CommitMoment now d d' := by
  unfold ScNode.applyStagedCertificates
  cases hs : node.store.hasStagedChanges with
  | false => exact ⟨.nothingStaged hs, fun d' hd' => Or.inl (List.mem_singleton.1 hd')⟩
  | true =>
    simp only [Bool.not_true, Bool.false_eq_true, if_false, bind_value, bind_disk, bind_moments,
      look_run, List.mem_append, List.mem_singleton]
    rcases hv : node.store.validateStaged ssl d with ⟨reason | _, store⟩
    · exact ⟨.notValid hs hv, fun d' hd' => Or.inl (hd'.elim id List.mem_singleton.1)⟩
    · obtain ⟨hend, hmoments⟩ := store.commitStaged_run now e d
      have hmoment {d' : CertDisk} (h : store.CommitMoment now d d') :
          d' = d ∨ ∃ s, ((.ok (), store) : Except String Unit × Store N.toLayout) = (.ok (), s) ∧
            s.CommitMoment now d d' := Or.inr ⟨store, rfl, h⟩
      simp only [bind_value, bind_disk, bind_moments, List.mem_append]
      set o := store.commitStaged now e d
      rcases hc : o.value with ⟨reason | _, store'⟩
      · rw [hc] at hend
        refine ⟨.notCommitted hs hv hend, ?_⟩
        intro d' hd'
        rcases hd' with hd' | hd' | hd'
        · exact Or.inl hd'
        · exact hmoment (hmoments d' hd')
        · exact hmoment (List.mem_singleton.1 hd' ▸ hend.commitMoment)
      · rw [hc] at hend
        obtain ⟨hbundle, hd⟩ := spares_writeTrustedIssuerBundle ssl store' now e o.disk
        simp only [bind_value, bind_disk, bind_moments, List.mem_append]
        refine ⟨.activated hs hv hend hd, ?_⟩
        intro d' hd'
        rcases hd' with hd' | hd' | hd' | hd'
        · exact Or.inl hd'
        · exact hmoment (hmoments d' hd')
        · exact hmoment (hend.commitMoment.agree (hbundle d' hd'))
        · exact hmoment (hend.commitMoment.agree (List.mem_singleton.1 hd' ▸ hd))

/-! ## Runs -/

/-- What is asked of the node. -/
inductive Call
  | write (fileInstance : Nat) (fileStart : Int32) (fileData : Octets)
  | resize (fileInstance newSize : Nat)
  | networkPortCommand (command : Nat)
  | applyStagedCertificates
deriving DecidableEq, Repr

/-- When a call happens, the key pair it would make, and which file actions fail. -/
structure Circumstances where
  now : Int
  seed : Nat
  faults : Faults String DiskFile

/-- A call: whether it returns true, and the node afterwards. -/
def ScNode.call (node : ScNode N) (now : Int) (seed : Nat) : Call → CertAction (Bool × ScNode N)
  | .write i fileStart fileData => do
    let d ← look
    let (store, result) := node.store.write now d i fileStart fileData
    return (result.isOk, { node with store := store })
  | .resize i newSize => do
    let d ← look
    let (store, result) := node.store.resize now d i newSize
    return (result.isOk, { node with store := store })
  | .networkPortCommand command => do
    let (result, node) ← node.networkPortCommand ssl now seed command
    return (result.isOk, node)
  | .applyStagedCertificates => do
    let (result, node) ← node.applyStagedCertificates ssl now
    return (result.isOk, node)

/-- What `PrepareCertificates` does about the keys when the process starts: `SetLayout` and
`ReconcilePendingKey`. -/
def startUp (N : NodeLayout) : CertAction (ScNode N) := do
  let _ ← reconcilePendingKey ssl N.toLayout
  return .initial N

/-- The node and its disk. -/
structure Device (N : NodeLayout) where
  node : ScNode N
  disk : CertDisk

inductive NodeEvent
  | call (c : Call) (on : Circumstances)
  /-- The process stops at a moment of a call, and starts again. -/
  | stop (c : Call) (on : Circumstances) (moment : Nat) (startFaults : Faults String DiskFile)
  | restart (startFaults : Faults String DiskFile)

namespace Device

/-- A call on the device. -/
def run (device : Device N) (c : Call) (on : Circumstances) :
    Outcome String DiskFile (Bool × ScNode N) :=
  device.node.call ssl on.now on.seed c on.faults device.disk

/-- What an event comes to. -/
def outcome (device : Device N) : NodeEvent → Outcome String DiskFile (ScNode N)
  | .call c on =>
    let o := device.run ssl c on
    ⟨o.value.2, o.disk, o.moments⟩
  | .stop c on moment startFaults =>
    let o := device.run ssl c on
    let start := startUp ssl N startFaults (o.moments.getD moment o.disk)
    ⟨start.value, start.disk, o.moments.take (moment + 1) ++ start.moments⟩
  | .restart startFaults => startUp ssl N startFaults device.disk

/-- The device after an event. -/
def next (device : Device N) (event : NodeEvent) : Device N :=
  ⟨(device.outcome ssl event).value, (device.outcome ssl event).disk⟩

def step (device : Device N) (event : NodeEvent) : Access (Device N) := .ok (device.next ssl event)

/-- The disks that the device goes through in an event. -/
def momentsOf (device : Device N) (event : NodeEvent) : List CertDisk :=
  (device.outcome ssl event).moments

end Device

end BacnetBc
