import BacnetBc.Cert.CommitStops
import BacnetBc.Cert.KeyRuns

/-!
# Activations over whole runs

An activation that returns true with files staged leaves a matched pair. One that finds nothing
staged returns true as well, and leaves what it finds: what that is depends on the run so far.

* `HalfActivates`: an activation puts a certificate for the pending key in place and not the key,
  since a file after it or the key cannot be renamed, or since the process stops in between; and no
  start of the process moves the key in the same event.
* `Completes`: a start moves the pending key, or an activation moves it, or it puts a certificate
  for the private key in place.

**Theorem (`not_matched_next_iff`).** An event leaves a pair that is not matched exactly if it half
activates, or finds one and does not complete it.

**Theorem (`activations_matched_iff`).** Every activation of a run that returns true leaves a
matched pair exactly if none finds nothing staged after a half activation that no event has
completed.
-/

namespace BacnetBc

open FaultyDisk Memory Trajectory

variable {X509 Key : Type} (ssl : OpenSsl X509 Key) {L : Layout} {N : NodeLayout}

/-! ## Half an activation -/

namespace Store

/-- The operational certificate's file is one of those in place. -/
def PutsCertificate (s : Store L) (now : Int) (e : Faults String DiskFile) (stop : Option Nat) :
    Prop :=
  ∃ x ∈ s.inPlace now e stop, L.paths L.operationalInstance = some x.1

section
variable {ssl} {s s' : Store L} {d d' : CertDisk} {certificate old : X509} {now : Int}
  {e : Faults String DiskFile} {stop : Option Nat}

theorem exists_inPlace_eq_take (s : Store L) (now : Int) (e : Faults String DiskFile)
    (stop : Option Nat) : ∃ k, s.inPlace now e stop = (s.entries now).take k := by
  have hreplaced := take_length_replaced (e := e) (s.entries now)
  unfold inPlace
  dsimp only
  split_ifs
  · cases stop with
    | none => exact ⟨_, hreplaced.symm⟩
    | some moment =>
      rw [← hreplaced]
      exact ⟨_, List.take_take⟩
  · exact ⟨0, rfl⟩

/-- The files in place leave the private key, and the pending one. -/
theorem keys_inPlace (hd : Agree L.IsFile (install (s.inPlace now e stop) d) d') :
    d' L.privateKeyPath = d L.privateKeyPath ∧
      d' L.pendingPrivateKeyPath = d L.pendingPrivateKeyPath := by
  obtain ⟨k, hk⟩ := s.exists_inPlace_eq_take now e stop
  rw [hk] at hd
  exact ⟨private_install (fun x => List.mem_of_mem_take) hd,
    pending_install (fun x => List.mem_of_mem_take) hd⟩

theorem operational_of_putsCertificate (hv : s.Validated ssl d s' certificate)
    (hold : operationalCertificate ssl L d = some old) (hp : s'.PutsCertificate now e stop)
    (hd : Agree L.IsFile (install (s'.inPlace now e stop) d) d') :
    operationalCertificate ssl L d' = some certificate := by
  obtain ⟨⟨p, c⟩, hmem, hpath⟩ := hp
  obtain ⟨k, hk⟩ := s'.exists_inPlace_eq_take now e stop
  obtain ⟨q, file, hq, hfile, -⟩ := exists_operationalFile hold
  obtain rfl := Option.some.inj (hpath.symm.trans hq)
  have hnodup : ((s'.inPlace now e stop).map Prod.fst).Nodup := by
    rw [hk, List.map_take]
    exact nodup_entries.sublist (List.take_sublist _ _)
  have hnew : d' p = some c := (hd p (Layout.isFile_of_paths hpath)).trans
    (install_of_mem (x := (p, c)) hnodup hmem)
  rw [hk] at hmem
  have hfirst := firstCertificate_of_entry hv hpath hfile (List.mem_of_mem_take hmem)
  simp only [operationalCertificate, hpath, Option.bind_some, readDisk, hnew, Option.map_some,
    hfirst]

theorem agree_of_not_putsCertificate (hp : ¬ s.PutsCertificate now e stop)
    (hd : Agree L.IsFile (install (s.inPlace now e stop) d) d') : Agree (IsInUse L) d d' := by
  rintro p (rfl | hpath)
  · exact (keys_inPlace hd).1
  · refine (hd p (Layout.isFile_of_paths hpath)).trans (install_of_not_mem fun hmem => ?_)
    obtain ⟨x, hx, rfl⟩ := List.mem_map.1 hmem
    exact hp ⟨x, hx, hpath⟩

/-- **Where a valid activation leaves a matched pair.** -/
theorem CommitAt.matched_iff (h : s'.CommitAt now e d stop d')
    (hv : s.Validated ssl d s' certificate) (hold : operationalCertificate ssl L d = some old) :
    Matched ssl L d' ↔ s'.MovesKey now e stop ∨
      s'.PutsCertificate now e stop ∧ s'.commitPromotesPendingKey = false ∨
      ¬ s'.PutsCertificate now e stop ∧ Matched ssl L d := by
  cases h with
  | moved hm hc hd =>
    have hmatched : Matched ssl L d' := ⟨certificate, operational_promoted hv hold hd,
      isKeyOf_promoted hc (hv.pending hm.promotes).2 hd⟩
    exact iff_of_true hmatched (Or.inl hm)
  | notMoved hm hd =>
    by_cases hp : s'.PutsCertificate now e stop
    · have hcert := operational_of_putsCertificate hv hold hp hd
      rw [matched_iff_isKeyOf hcert, isKeyOf_congr ssl (keys_inPlace hd).1]
      have hkey : isKeyOf ssl d L.privateKeyPath certificate = true ↔
          s'.commitPromotesPendingKey = false := by
        refine ⟨fun hk => ?_, hv.current⟩
        by_contra hflag
        have hpending := hv.pending (by simpa using hflag)
        exact Bool.false_ne_true (hpending.1.symm.trans hk)
      simp only [hm, hp, hkey, false_or, not_true_eq_false, false_and, or_false, true_and]
    · have hsame : Matched ssl L d' ↔ Matched ssl L d :=
        matched_congr (agree_of_not_putsCertificate hp hd)
      simp only [hm, hp, hsame, false_or, false_and, not_false_iff, true_and]

end

end Store

/-! ## Events -/

namespace NodeEvent

/-- The activation of an event: its circumstances, and the moment at which the process stops. -/
def activation : NodeEvent → Option (Circumstances × Option Nat)
  | .call .applyStagedCertificates on => some (on, none)
  | .stop .applyStagedCertificates on moment _ => some (on, some moment)
  | _ => none

/-- The start of the process in an event: which of its file actions fail. -/
def start : NodeEvent → Option (Faults String DiskFile)
  | .call _ _ => none
  | .stop _ _ _ startFaults => some startFaults
  | .restart startFaults => some startFaults

end NodeEvent

namespace Device

/-- The disk that an event leaves, or that the start in it finds. -/
def diskBeforeStart (device : Device N) : NodeEvent → CertDisk
  | .call c on => (device.run ssl c on).disk
  | .stop c on moment _ => ((device.run ssl c on).upTo moment).disk
  | .restart _ => device.disk

/-- A start that finds the pending key to be the certificate's, and moves it. -/
def StartMovesKey (device : Device N) (event : NodeEvent) : Prop :=
  needsPromotion ssl N.toLayout (device.diskBeforeStart ssl event) = true ∧
    ∃ startFaults ∈ event.start,
      startFaults.rename N.toLayout.pendingPrivateKeyPath N.toLayout.privateKeyPath = true

/-- An activation of staged files that `ValidateStaged` accepts. -/
structure Activates (device : Device N) (event : NodeEvent) (on : Circumstances)
    (stop : Option Nat) (store : Store N.toLayout) : Prop where
  activation : event.activation = some (on, stop)
  staged : device.node.store.hasStagedChanges = true
  valid : device.node.store.validateStaged ssl device.disk = (.ok (), store)

/-- An activation that puts a certificate for the pending key in place, and not the key. -/
def HalfActivates (device : Device N) (event : NodeEvent) : Prop :=
  ∃ on stop store, device.Activates ssl event on stop store ∧
    store.commitPromotesPendingKey = true ∧ store.PutsCertificate on.now on.faults stop ∧
    ¬ store.MovesKey on.now on.faults stop ∧ ∀ startFaults ∈ event.start,
      startFaults.rename N.toLayout.pendingPrivateKeyPath N.toLayout.privateKeyPath = false

/-- An event that puts the certificate's key in place, or a certificate for the key that is. -/
def Completes (device : Device N) (event : NodeEvent) : Prop :=
  device.StartMovesKey ssl event ∨ ∃ on stop store, device.Activates ssl event on stop store ∧
    (store.MovesKey on.now on.faults stop ∨
      store.PutsCertificate on.now on.faults stop ∧ store.commitPromotesPendingKey = false)

section
variable {ssl} {device : Device N} {event : NodeEvent}

/-- What a start leaves. -/
theorem matched_startUp_iff (e : Faults String DiskFile) (d : CertDisk) :
    Matched ssl N.toLayout (startUp ssl N e d).disk ↔ Matched ssl N.toLayout d ∨
      needsPromotion ssl N.toLayout d = true ∧
        e.rename N.toLayout.pendingPrivateKeyPath N.toLayout.privateKeyPath = true := by
  have hdisk : (startUp ssl N e d).disk =
      if needsPromotion ssl N.toLayout d then (promotePendingKey N.toLayout e d).disk else d := by
    show (reconcilePendingKey ssl N.toLayout e d).disk = _
    cases hn : needsPromotion ssl N.toLayout d with
    | false =>
      simp only [reconcilePendingKey, bind_disk, look_run, hn, Bool.false_eq_true, if_false,
        pure_run]
    | true =>
      simp only [reconcilePendingKey, bind_disk, look_run, hn, if_true]
      generalize (promotePendingKey N.toLayout e d).value = result
      cases result <;> rfl
  rw [hdisk]
  cases hn : needsPromotion ssl N.toLayout d with
  | false => simp
  | true =>
    obtain ⟨certificate, -, -, hk⟩ := (needsPromotion_iff ssl).1 hn
    obtain ⟨c, hc⟩ := exists_file_of_isKeyOf ssl hk
    cases hrename : e.rename N.toLayout.pendingPrivateKeyPath N.toLayout.privateKeyPath with
    | false =>
      rw [if_pos rfl, (promotePendingKey_fail (Or.inr hrename)).2.1]
      simp
    | true =>
      rw [if_pos rfl, (promotePendingKey_ok hc hrename).2.1]
      exact iff_of_true (matched_promoted hn hc) (Or.inr ⟨rfl, rfl⟩)

/-- The start that an event ends in. -/
theorem matched_next (device : Device N) (event : NodeEvent) :
    Matched ssl N.toLayout (device.next ssl event).disk ↔
      Matched ssl N.toLayout (device.diskBeforeStart ssl event) ∨
        device.StartMovesKey ssl event := by
  cases event with
  | call c on =>
    show Matched ssl N.toLayout (device.run ssl c on).disk ↔ _
    simp [diskBeforeStart, StartMovesKey, NodeEvent.start]
  | stop c on moment startFaults =>
    show Matched ssl N.toLayout
      (startUp ssl N startFaults ((device.run ssl c on).upTo moment).disk).disk ↔ _
    simp [diskBeforeStart, StartMovesKey, NodeEvent.start, matched_startUp_iff]
  | restart startFaults =>
    show Matched ssl N.toLayout (startUp ssl N startFaults device.disk).disk ↔ _
    simp [diskBeforeStart, StartMovesKey, NodeEvent.start, matched_startUp_iff]

/-- A call that is no valid activation leaves the certificate and its key. -/
theorem sparesAt_call {node : ScNode N} {c : Call} {now : Int} {seed : Nat}
    {e : Faults String DiskFile} {d : CertDisk}
    (h : c = .applyStagedCertificates → node.store.hasStagedChanges = true →
      ∀ store, node.store.validateStaged ssl d ≠ (.ok (), store)) :
    SparesAt (node.call ssl now seed c) (IsInUse N.toLayout) e d := by
  cases c with
  | write i fileStart fileData => exact SparesAt.bind (Spares.look e d) (Spares.pure _ e _)
  | resize i newSize => exact SparesAt.bind (Spares.look e d) (Spares.pure _ e _)
  | networkPortCommand command =>
    have hrun : Spares (node.networkPortCommand ssl now seed command) (IsInUse N.toLayout) := by
      unfold ScNode.networkPortCommand
      split_ifs with hdiscard hcsr
      · exact Spares.pure _
      · refine Spares.bind (Store.spares_generateKeyAndCsr ssl node.store now seed) fun result => ?_
        cases result <;> exact Spares.pure _
      · exact Spares.pure _
    exact SparesAt.bind (hrun e d) (Spares.pure _ e _)
  | applyStagedCertificates =>
    have hrun : SparesAt (node.applyStagedCertificates ssl now) (IsInUse N.toLayout) e d := by
      unfold ScNode.applyStagedCertificates
      cases hs : node.store.hasStagedChanges with
      | false => exact Spares.pure _ e d
      | true =>
        refine SparesAt.bind (Spares.look e d) ?_
        simp only [look_run]
        rcases hv : node.store.validateStaged ssl d with ⟨reason | _, store⟩
        · exact Spares.pure _ e d
        · exact absurd hv (h rfl hs store)
    exact SparesAt.bind hrun (Spares.pure _ e _)

/-- A valid activation as far as the event gets with it. -/
theorem Activates.commitAt {on : Circumstances} {stop : Option Nat} {store : Store N.toLayout}
    (h : device.Activates ssl event on stop store) :
    store.CommitAt on.now on.faults device.disk stop (device.diskBeforeStart ssl event) := by
  obtain ⟨hactivation, hs, hv⟩ := h
  have hat := applyStaged_at ssl hs hv on.now on.faults stop
  cases event with
  | call c callOn =>
    cases c with
    | applyStagedCertificates =>
      obtain ⟨rfl, rfl⟩ := Prod.mk.inj (Option.some.inj hactivation)
      exact hat
    | write | resize | networkPortCommand => cases hactivation
  | stop c stopOn moment startFaults =>
    cases c with
    | applyStagedCertificates =>
      obtain ⟨rfl, rfl⟩ := Prod.mk.inj (Option.some.inj hactivation)
      exact hat.agree (agree_upTo_bind (Throughout.pure (Agree.refl _ _) _) moment)
    | write | resize | networkPortCommand => cases hactivation
  | restart startFaults => cases hactivation

/-- **Before the start**, an event that is no valid activation leaves the certificate and its
key. -/
theorem agree_of_not_activates (h : ∀ on stop store, ¬ device.Activates ssl event on stop store) :
    Agree (IsInUse N.toLayout) device.disk (device.diskBeforeStart ssl event) := by
  cases event with
  | call c on =>
    refine (sparesAt_call fun hc hs store hv => ?_).2
    subst hc
    exact h on none store ⟨rfl, hs, hv⟩
  | stop c on moment startFaults =>
    refine Throughout.stop (sparesAt_call fun hc hs store hv => ?_) moment
    subst hc
    exact h on (some moment) store ⟨rfl, hs, hv⟩
  | restart startFaults => exact Agree.refl _ _

/-- The start after half an activation finds the pending key to be the certificate's. -/
theorem needsPromotion_of_half {on : Circumstances} {stop : Option Nat} {store : Store N.toLayout}
    (h : HasCertificate ssl N.toLayout device.disk)
    (hactivates : device.Activates ssl event on stop store)
    (hp : store.commitPromotesPendingKey = true)
    (hputs : store.PutsCertificate on.now on.faults stop)
    (hm : ¬ store.MovesKey on.now on.faults stop) :
    needsPromotion ssl N.toLayout (device.diskBeforeStart ssl event) = true := by
  obtain ⟨old, hold⟩ := h
  obtain ⟨certificate, hv⟩ := Store.validateStaged_spec ssl hactivates.valid
  obtain ⟨hfalse, hk⟩ := hv.pending hp
  cases hactivates.commitAt with
  | moved hmoves => exact absurd hmoves hm
  | notMoved _ hd =>
    obtain ⟨hprivate, hpending⟩ := Store.keys_inPlace hd
    refine (needsPromotion_iff ssl).2
      ⟨certificate, Store.operational_of_putsCertificate hv hold hputs hd, ?_, ?_⟩
    · rw [isKeyOf_congr ssl hprivate]
      exact hfalse
    · rw [isKeyOf_congr ssl hpending]
      exact hk

/-- An event has one activation. -/
theorem Activates.unique {on on' : Circumstances} {stop stop' : Option Nat}
    {store store' : Store N.toLayout} (h : device.Activates ssl event on stop store)
    (h' : device.Activates ssl event on' stop' store') :
    on' = on ∧ stop' = stop ∧ store' = store := by
  obtain ⟨rfl, rfl⟩ := Prod.mk.inj (Option.some.inj (h'.activation.symm.trans h.activation))
  exact ⟨rfl, rfl, (Prod.mk.inj (h'.valid.symm.trans h.valid)).2⟩

section
variable {on : Circumstances} {stop : Option Nat} {store : Store N.toLayout}

theorem Activates.halfActivates_iff (h : device.Activates ssl event on stop store) :
    device.HalfActivates ssl event ↔ store.commitPromotesPendingKey = true ∧
      store.PutsCertificate on.now on.faults stop ∧ ¬ store.MovesKey on.now on.faults stop ∧
      ∀ startFaults ∈ event.start,
        startFaults.rename N.toLayout.pendingPrivateKeyPath N.toLayout.privateKeyPath = false := by
  refine ⟨?_, fun hhalf => ⟨on, stop, store, h, hhalf⟩⟩
  rintro ⟨on', stop', store', h', hhalf⟩
  obtain ⟨rfl, rfl, rfl⟩ := h.unique h'
  exact hhalf

theorem Activates.completes_iff (h : device.Activates ssl event on stop store) :
    device.Completes ssl event ↔ device.StartMovesKey ssl event ∨
      store.MovesKey on.now on.faults stop ∨
      store.PutsCertificate on.now on.faults stop ∧ store.commitPromotesPendingKey = false := by
  refine or_congr_right ⟨?_, fun hcompletes => ⟨on, stop, store, h, hcompletes⟩⟩
  rintro ⟨on', stop', store', h', hcompletes⟩
  obtain ⟨rfl, rfl, rfl⟩ := h.unique h'
  exact hcompletes

end

/-- **One event**: what it takes to leave a pair that is not matched. -/
theorem not_matched_next_iff (h : HasCertificate ssl N.toLayout device.disk) (event : NodeEvent) :
    ¬ Matched ssl N.toLayout (device.next ssl event).disk ↔ device.HalfActivates ssl event ∨
      ¬ Matched ssl N.toLayout device.disk ∧ ¬ device.Completes ssl event := by
  rw [matched_next, not_or]
  by_cases hactivates : ∃ on stop store, device.Activates ssl event on stop store
  · obtain ⟨on, stop, store, hactivates⟩ := hactivates
    obtain ⟨old, hold⟩ := id h
    obtain ⟨certificate, hv⟩ := Store.validateStaged_spec ssl hactivates.valid
    rw [hactivates.commitAt.matched_iff hv hold, hactivates.halfActivates_iff,
      hactivates.completes_iff]
    by_cases hhalf : store.commitPromotesPendingKey = true ∧
        store.PutsCertificate on.now on.faults stop ∧ ¬ store.MovesKey on.now on.faults stop
    · obtain ⟨hp, hputs, hm⟩ := hhalf
      have hneeds := needsPromotion_of_half h hactivates hp hputs hm
      have hstart : ¬ device.StartMovesKey ssl event ↔ ∀ startFaults ∈ event.start,
          startFaults.rename N.toLayout.pendingPrivateKeyPath N.toLayout.privateKeyPath =
            false := by
        simp [StartMovesKey, hneeds]
      rw [← hstart]
      simp only [hp, hputs, hm]
      tauto
    · have hflag : store.commitPromotesPendingKey = false ↔
          ¬ store.commitPromotesPendingKey = true := by simp
      rw [hflag]
      tauto
  · have hnone : ∀ on stop store, ¬ device.Activates ssl event on stop store :=
      fun on stop store ha => hactivates ⟨on, stop, store, ha⟩
    have hsame : Matched ssl N.toLayout (device.diskBeforeStart ssl event) ↔
        Matched ssl N.toLayout device.disk := matched_congr (agree_of_not_activates hnone)
    have hhalf : ¬ device.HalfActivates ssl event := fun ⟨on, stop, store, ha, _⟩ =>
      hnone on stop store ha
    have hcompletes : device.Completes ssl event ↔ device.StartMovesKey ssl event :=
      or_iff_left fun ⟨on, stop, store, ha, _⟩ => hnone on stop store ha
    rw [hsame, hcompletes, or_iff_right hhalf]

end

end Device

/-! ## Runs -/

theorem Device.hasCertificate_step (device : Device N) (event : NodeEvent) (device' : Device N)
    (h : HasCertificate ssl N.toLayout device.disk) (hstep : device.step ssl event = .ok device') :
    HasCertificate ssl N.toLayout device'.disk := by
  cases hstep
  exact (Device.hasCertificate_outcome ssl event h).2

/-- **What a run leaves**: a pair that is not matched comes from half an activation that nothing has
completed since. -/
theorem not_matched_iff_setSince {device t : Device N} (h : Matched ssl N.toLayout device.disk)
    {events : List NodeEvent} (hfinal : final (Device.step ssl) device events = .ok t) :
    ¬ Matched ssl N.toLayout t.disk ↔ SetSince (Device.HalfActivates ssl) (Device.Completes ssl)
      (steps (Device.step ssl) device events) := by
  have hflag : ∀ (device : Device N) (event : NodeEvent) (device' : Device N),
      HasCertificate ssl N.toLayout device.disk → device.step ssl event = .ok device' →
      (¬ Matched ssl N.toLayout device'.disk ↔ device.HalfActivates ssl event ∨
        ¬ Matched ssl N.toLayout device.disk ∧ ¬ device.Completes ssl event) := by
    rintro device event device' hcert ⟨⟩
    exact Device.not_matched_next_iff hcert event
  have hrun := flag_iff_setSince (Device.hasCertificate_step ssl) hflag h.keyHeld.hasCertificate
    hfinal
  exact hrun.trans (or_iff_left fun hnot => hnot.1 h)

/-- **Every activation of a run that returns true leaves a matched pair, exactly if none finds
nothing staged after half an activation that nothing has completed since.** -/
theorem activations_matched_iff {device : Device N} (h : Matched ssl N.toLayout device.disk)
    (events : List NodeEvent) :
    (∀ p ∈ steps (Device.step ssl) device events, ∀ on, p.2 = .call .applyStagedCertificates on →
      (p.1.run ssl .applyStagedCertificates on).value.1 = true →
        Matched ssl N.toLayout (p.1.run ssl .applyStagedCertificates on).disk) ↔
    ∀ before on after t, events = before ++ .call .applyStagedCertificates on :: after →
      final (Device.step ssl) device before = .ok t → t.node.store.hasStagedChanges = false →
        ¬ SetSince (Device.HalfActivates ssl) (Device.Completes ssl)
          (steps (Device.step ssl) device before) := by
  have hcert {before : List NodeEvent} {t : Device N}
      (hfinal : final (Device.step ssl) device before = .ok t) :
      HasCertificate ssl N.toLayout t.disk :=
    invariant _ (Device.hasCertificate_step ssl) h.keyHeld.hasCertificate before t
      (by simpa using mem_states_of_final hfinal [])
  constructor
  · rintro hall before on after t rfl hfinal hnone hsince
    refine (not_matched_iff_setSince ssl h hfinal).2 hsince ?_
    refine (Device.activation_matched_iff ssl (hcert hfinal) on).1 (fun hvalue => ?_) hnone
    exact hall _ (mem_steps_of_final hfinal _ after) on rfl hvalue
  · rintro hall ⟨t, event⟩ hp on rfl
    obtain ⟨before, after, hevents, hfinal⟩ := exists_final_of_mem_steps hp
    refine (Device.activation_matched_iff ssl (hcert hfinal) on).2 fun hnone => ?_
    by_contra hnot
    exact hall before on after t hevents hfinal hnone
      ((not_matched_iff_setSince ssl h hfinal).1 hnot)

/-- A start between the half activation and the second one moves the key. -/
theorem activations_matched_iff_restart :
    ¬ Matched exampleSsl exampleLayout.toLayout halfActivated.disk ∧
    ∀ p ∈ steps (Device.step exampleSsl) exampleDevice
        (halfActivation ++ [.restart .none, .call .applyStagedCertificates ⟨3, 0, .none⟩]),
      ∀ on, p.2 = .call .applyStagedCertificates on →
        (p.1.run exampleSsl .applyStagedCertificates on).value.1 = true →
          Matched exampleSsl exampleLayout.toLayout
            (p.1.run exampleSsl .applyStagedCertificates on).disk := by
  refine ⟨by decide +kernel, (activations_matched_iff exampleSsl matched_exampleDisk _).2 ?_⟩
  intro before on after t hevents hfinal hnone
  rw [← not_matched_iff_setSince exampleSsl matched_exampleDisk hfinal, not_not]
  obtain rfl := Except.ok.inj ((final_eq_foldl (fun _ _ => rfl) _ _).symm.trans hfinal)
  have hstaged : ((halfActivation.take 2).foldl (Device.next exampleSsl)
      exampleDevice).node.store.hasStagedChanges = true := by decide +kernel
  have hmatched : Matched exampleSsl exampleLayout.toLayout
      (halfActivated.next exampleSsl (.restart .none)).disk := by decide +kernel
  -- the two activations are the third event and the fifth
  rcases before with _ | ⟨e₁, _ | ⟨e₂, _ | ⟨e₃, _ | ⟨e₄, _ | ⟨e₅, before⟩⟩⟩⟩⟩ <;>
    simp only [halfActivation, List.cons_append, List.nil_append, List.cons.injEq,
      NodeEvent.call.injEq, reduceCtorEq, false_and, and_false] at hevents
  · obtain ⟨rfl, rfl, -⟩ := hevents
    exact Bool.noConfusion (hstaged.symm.trans hnone)
  · obtain ⟨rfl, rfl, rfl, rfl, -⟩ := hevents
    exact hmatched
  · simp at hevents

/-- A second activation finds nothing staged, and accepts the second certificate with the first
key. -/
theorem second_activation_not_matched :
    Matched exampleSsl exampleLayout.toLayout exampleDevice.disk ∧
    ∃ p ∈ steps (Device.step exampleSsl) exampleDevice
        (halfActivation ++ [.call .applyStagedCertificates ⟨3, 0, .none⟩]),
      ∃ on, p.2 = .call .applyStagedCertificates on ∧
        (p.1.run exampleSsl .applyStagedCertificates on).value.1 = true ∧
        ¬ Matched exampleSsl exampleLayout.toLayout
          (p.1.run exampleSsl .applyStagedCertificates on).disk := by
  refine ⟨matched_exampleDisk, _, mem_steps_of_final final_halfActivation _ [], _, rfl, ?_⟩
  decide +kernel

end BacnetBc
