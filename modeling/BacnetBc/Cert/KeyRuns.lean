import BacnetBc.Cert.Generate

/-!
# The key over whole runs

A condition on the disk that the moments of a commit and the promotion of the pending key keep is
`Lasting`. It holds at every moment of a run but for GENERATE_CSR_FILE, which is left to show
(`throughout_outcome`).

**Theorem (`keyHeld_throughout`).** A device that starts matched holds the key at every moment of a
run, as long as no GENERATE_CSR_FILE comes to replace a pending key that the certificate needs.
-/

namespace BacnetBc

open FaultyDisk Memory Trajectory

variable {X509 Key : Type} (ssl : OpenSsl X509 Key) {L : Layout} {N : NodeLayout}

/-! ## What lasts -/

/-- A condition on the files that commits of validated files and the promotion of the pending key
keep. -/
structure Lasting (L : Layout) (I : CertDisk → Prop) : Prop where
  agree : ∀ {d d'}, Agree L.IsFile d d' → I d → I d'
  commitMoment : ∀ {s s' : Store L} {d d' certificate now}, s.Validated ssl d s' certificate →
    s'.CommitMoment now d d' → I d → I d'
  promoted : ∀ {d c}, needsPromotion ssl L d = true → d L.pendingPrivateKeyPath = some c →
    I d → I (promoted L c d)

/-- The operational certificate's file on disk holds a certificate. -/
def HasCertificate (L : Layout) (d : CertDisk) : Prop :=
  ∃ certificate, operationalCertificate ssl L d = some certificate

theorem KeyHeld.hasCertificate {d : CertDisk} (h : KeyHeld ssl L d) : HasCertificate ssl L d := by
  obtain ⟨certificate, hc, -⟩ := h
  exact ⟨certificate, hc⟩

theorem lasting_keyHeld : Lasting ssl L (KeyHeld ssl L) where
  agree hd h := h.agree hd
  commitMoment hv hm h := keyHeld_commitMoment hv h hm
  promoted hn hc _ := (matched_promoted hn hc).keyHeld

theorem lasting_hasCertificate : Lasting ssl L (HasCertificate ssl L) where
  agree hd h := by
    obtain ⟨certificate, hc⟩ := h
    exact ⟨certificate, (operationalCertificate_agree hd).trans hc⟩
  commitMoment := fun {s s' d d' certificate now} hv hm h => by
    obtain ⟨old, hold⟩ := h
    rcases hm with ⟨k, hd⟩ | ⟨-, c, -, hd⟩
    · rcases operational_install_take hv hold hd with hcert | hcert
      · exact ⟨old, hcert⟩
      · exact ⟨certificate, hcert⟩
    · exact ⟨certificate, operational_promoted hv hold hd⟩
  promoted hn hc _ := (matched_promoted hn hc).keyHeld.hasCertificate

section
variable {ssl} {I : CertDisk → Prop} {e : Faults String DiskFile} {d : CertDisk}

theorem Lasting.reconcile (hI : Lasting ssl L I) (h : I d) :
    Throughout I (reconcilePendingKey ssl L e d) := by
  obtain ⟨hend, hmoments⟩ := reconcile_run ssl L e d
  have hdisk : I (reconcilePendingKey ssl L e d).disk := by
    cases hend with
    | nothing hn hv hd => exact hd.symm ▸ h
    | notPromoted hn hv hd => exact hd.symm ▸ h
    | promotes hn hc hv hd => exact hd.symm ▸ hI.promoted hn hc h
  exact ⟨fun d' hd' => (hmoments d' hd').elim (· ▸ h) (· ▸ hdisk), hdisk⟩

theorem Lasting.startUp (hI : Lasting ssl N.toLayout I) (h : I d) :
    Throughout I (startUp ssl N e d) :=
  Throughout.bind (hI.reconcile h) (Throughout.pure (hI.reconcile h).2 _)

theorem Lasting.applyStaged (hI : Lasting ssl N.toLayout I) (node : ScNode N)
    (now : Int) (h : I d) : Throughout I (node.applyStagedCertificates ssl now e d) := by
  obtain ⟨hend, hmoments⟩ := applyStaged_run ssl node now e d
  have hmoment {store : Store N.toLayout} {d' : CertDisk}
      (hv : node.store.validateStaged ssl d = (.ok (), store)) (hm : store.CommitMoment now d d') :
      I d' := by
    obtain ⟨certificate, hvalidated⟩ := Store.validateStaged_spec ssl hv
    exact hI.commitMoment hvalidated hm h
  refine ⟨fun d' hd' => ?_, ?_⟩
  · rcases hmoments d' hd' with rfl | ⟨store, hv, hm⟩
    · exact h
    · exact hmoment hv hm
  · generalize (node.applyStagedCertificates ssl now e d).value = r,
      (node.applyStagedCertificates ssl now e d).disk = d' at hend
    cases hend with
    | nothingStaged hs => exact h
    | notValid hs hv => exact h
    | notCommitted hs hv hc => exact hmoment hv hc.commitMoment
    | activated hs hv hc hd => exact hI.agree hd (hmoment hv hc.commitMoment)

/-- A call other than GENERATE_CSR_FILE keeps it. -/
theorem Lasting.call (hI : Lasting ssl N.toLayout I) (node : ScNode N) {c : Call}
    (hc : c ≠ .networkPortCommand networkPortCommandGenerateCsrFile) (now : Int) (seed : Nat)
    (h : I d) : Throughout I (node.call ssl now seed c e d) := by
  cases c with
  | write i fileStart fileData => exact Throughout.bind (Throughout.look h) (Throughout.pure h _)
  | resize i newSize => exact Throughout.bind (Throughout.look h) (Throughout.pure h _)
  | networkPortCommand command =>
    suffices hrun : Throughout I (node.networkPortCommand ssl now seed command e d) from
      Throughout.bind hrun (Throughout.pure hrun.2 _)
    unfold ScNode.networkPortCommand
    split_ifs with hdiscard hcsr
    · exact Throughout.pure h _
    · exact absurd (congrArg Call.networkPortCommand hcsr) hc
    · exact Throughout.pure h _
  | applyStagedCertificates =>
    have hrun := hI.applyStaged node now (e := e) h
    exact Throughout.bind hrun (Throughout.pure hrun.2 _)

end

/-! ### GENERATE_CSR_FILE -/

/-- A GENERATE_CSR_FILE comes to what `GenerateKeyAndCsr` does, and a moment or two. -/
theorem throughout_generate {I : CertDisk → Prop} {node : ScNode N} {now : Int} {seed : Nat}
    {e : Faults String DiskFile} {d : CertDisk}
    (h : Throughout I (node.store.generateKeyAndCsr ssl now seed e d)) :
    Throughout I (node.call ssl now seed
      (.networkPortCommand networkPortCommandGenerateCsrFile) e d) := by
  have hrun : Throughout I (node.networkPortCommand ssl now seed
      networkPortCommandGenerateCsrFile e d) := by
    refine Throughout.bind h ?_
    cases (node.store.generateKeyAndCsr ssl now seed e d).value with
    | error reason => exact Throughout.pure h.2 _
    | ok _ => exact Throughout.pure h.2 _
  exact Throughout.bind hrun (Throughout.pure hrun.2 _)

/-- Before the new key is in place no file has changed. -/
theorem generate_before_keyMoment (node : ScNode N) (now : Int) (seed : Nat)
    (e : Faults String DiskFile) (d : CertDisk) {moment : Nat} (hm : moment < keyMoment) :
    Throughout (Agree N.IsFile d) ((node.call ssl now seed
      (.networkPortCommand networkPortCommandGenerateCsrFile) e d).upTo moment) := by
  by_cases hreplaces : node.store.ReplacesPendingKey ssl d seed e
  · obtain ⟨-, -, -, -, before, d₃, after, -, -, hmoments, hlength, hbefore, -⟩ :=
      replaces_run ssl now hreplaces
    have hcall : ∃ rest, (node.call ssl now seed
        (.networkPortCommand networkPortCommandGenerateCsrFile) e d).moments =
          (node.store.generateKeyAndCsr ssl now seed e d).moments ++ rest :=
      ⟨_, List.append_assoc _ _ _⟩
    obtain ⟨rest, hrest⟩ := hcall
    rw [hmoments, List.append_assoc, List.append_assoc] at hrest
    exact Throughout.upTo_of_append hrest hbefore (hlength.symm ▸ hm)
  · have hspares := Store.sparesAt_of_not_replacesPendingKey ssl hreplaces now
    exact (throughout_generate ssl hspares).upTo moment

/-! ## Events -/

namespace NodeEvent

/-- The call of an event. -/
def request : NodeEvent → Option (Call × Circumstances)
  | .call c on => some (c, on)
  | .stop c on _ _ => some (c, on)
  | .restart _ => none

/-- The event gets to this moment of its call. -/
def Reaches (moment : Nat) : NodeEvent → Prop
  | .stop _ _ last _ => moment ≤ last
  | _ => True

/-- As much of the call as the event gets to. -/
def cut {α : Type} (o : Outcome String DiskFile α) : NodeEvent → Outcome String DiskFile α
  | .stop _ _ last _ => o.upTo last
  | _ => o

theorem throughout_cut {α : Type} {I : CertDisk → Prop} {o : Outcome String DiskFile α}
    (h : Throughout I o) (event : NodeEvent) : Throughout I (event.cut o) := by
  cases event with
  | call | restart => exact h
  | stop c on last startFaults => exact h.upTo last

end NodeEvent

namespace Device

/-- The disk has it, and every disk that an event goes through, if GENERATE_CSR_FILE keeps it. -/
theorem throughout_outcome {I : CertDisk → Prop} (hI : Lasting ssl N.toLayout I) (device : Device N)
    (event : NodeEvent) (h : I device.disk)
    (hgenerate : ∀ on, event.request =
        some (.networkPortCommand networkPortCommandGenerateCsrFile, on) →
      Throughout I (event.cut
        (device.run ssl (.networkPortCommand networkPortCommandGenerateCsrFile) on))) :
    Throughout I (device.outcome ssl event) := by
  have hrun (c : Call) (on : Circumstances) (hc : event.request = some (c, on)) :
      Throughout I (event.cut (device.run ssl c on)) := by
    by_cases hcsr : c = .networkPortCommand networkPortCommandGenerateCsrFile
    · subst hcsr
      exact hgenerate on hc
    · exact NodeEvent.throughout_cut (hI.call device.node hcsr on.now on.seed h) event
  cases event with
  | call c on => exact hrun c on rfl
  | stop c on moment startFaults =>
    obtain ⟨hmoments, hdisk⟩ := hrun c on rfl
    have hstart := hI.startUp (e := startFaults) hdisk
    refine ⟨fun d' hd' => ?_, hstart.2⟩
    rcases List.mem_append.1 hd' with hd' | hd'
    · exact hmoments d' hd'
    · exact hstart.1 d' hd'
  | restart startFaults => exact hI.startUp h

/-- A GENERATE_CSR_FILE that replaces the pending key while the private key is not the key of the
operational certificate, and gets as far as that. -/
def ReplacesNeededKey (device : Device N) (event : NodeEvent) : Prop :=
  ∃ on, event.request = some (.networkPortCommand networkPortCommandGenerateCsrFile, on) ∧
    ¬ Matched ssl N.toLayout device.disk ∧
    device.node.store.InstallsNewKey ssl device.disk on.seed on.faults ∧ event.Reaches keyMoment

/-- One event keeps the key. -/
theorem keyHeld_outcome {device : Device N} {event : NodeEvent}
    (h : KeyHeld ssl N.toLayout device.disk) (hg : ¬ device.ReplacesNeededKey ssl event) :
    Throughout (KeyHeld ssl N.toLayout) (device.outcome ssl event) := by
  refine throughout_outcome ssl (lasting_keyHeld ssl) device event h ?_
  intro on hon
  by_cases hm : Matched ssl N.toLayout device.disk
  · have hspares := Store.spares_generateKeyAndCsr ssl device.node.store on.now on.seed on.faults
    have hkept := (hspares device.disk).throughout fun d' hd' => (hm.agree hd').keyHeld
    exact NodeEvent.throughout_cut (throughout_generate ssl hkept) event
  · by_cases hi : device.node.store.InstallsNewKey ssl device.disk on.seed on.faults
    · -- the process stops before the new key is in place
      have hbefore : ¬ event.Reaches keyMoment := fun hr => hg ⟨on, hon, hm, hi, hr⟩
      cases event with
      | call | restart => exact absurd trivial hbefore
      | stop c stopOn last startFaults =>
        obtain ⟨hmoments, hdisk⟩ := generate_before_keyMoment ssl device.node on.now on.seed
          on.faults device.disk (Nat.lt_of_not_le hbefore)
        exact ⟨fun d' hd' => h.agree (hmoments d' hd'), h.agree hdisk⟩
    · obtain ⟨certificate, hc, -⟩ := id h
      have hspares := Store.sparesAt_generateKeyAndCsr ssl hc hi on.now
      have hkept := hspares.throughout fun d' hd' => h.agree hd'
      exact NodeEvent.throughout_cut (throughout_generate ssl hkept) event

/-- One event keeps a certificate in the operational certificate's file. -/
theorem hasCertificate_outcome {device : Device N} (event : NodeEvent)
    (h : HasCertificate ssl N.toLayout device.disk) :
    Throughout (HasCertificate ssl N.toLayout) (device.outcome ssl event) := by
  refine throughout_outcome ssl (lasting_hasCertificate ssl) device event h fun on _ => ?_
  obtain ⟨certificate, hc⟩ := h
  have hspares := Store.spares_generateKeyAndCsr ssl device.node.store on.now on.seed on.faults
  have hkept : Throughout (HasCertificate ssl N.toLayout)
      (device.node.store.generateKeyAndCsr ssl on.now on.seed on.faults device.disk) := by
    refine (hspares device.disk).throughout fun d' hd' => ⟨certificate, ?_⟩
    exact (operationalCertificate_congr fun p hp => hd' p (Or.inr hp)).trans hc
  exact NodeEvent.throughout_cut (throughout_generate ssl hkept) event

/-- One activation: nothing staged is what it takes to leave a pair that is not matched. -/
theorem activation_matched_iff {device : Device N} (h : HasCertificate ssl N.toLayout device.disk)
    (on : Circumstances) :
    ((device.run ssl .applyStagedCertificates on).value.1 = true →
      Matched ssl N.toLayout (device.run ssl .applyStagedCertificates on).disk) ↔
    (device.node.store.hasStagedChanges = false → Matched ssl N.toLayout device.disk) := by
  obtain ⟨old, hold⟩ := h
  have hend := (applyStaged_run ssl device.node on.now on.faults device.disk).1
  have hvalue : (device.run ssl .applyStagedCertificates on).value.1 =
    (device.node.applyStagedCertificates ssl on.now on.faults device.disk).value.1.isOk := rfl
  have hdisk : (device.run ssl .applyStagedCertificates on).disk =
    (device.node.applyStagedCertificates ssl on.now on.faults device.disk).disk := rfl
  rw [hvalue, hdisk]
  generalize (device.node.applyStagedCertificates ssl on.now on.faults device.disk).value = r,
    (device.node.applyStagedCertificates ssl on.now on.faults device.disk).disk = d' at hend
  cases hend with
  | nothingStaged hs => exact ⟨fun h _ => h rfl, fun h _ => h hs⟩
  | notValid hs hv =>
    exact ⟨fun _ hnone => Bool.noConfusion (hs.symm.trans hnone), fun _ h => Bool.noConfusion h⟩
  | notCommitted hs hv hc =>
    exact ⟨fun _ hnone => Bool.noConfusion (hs.symm.trans hnone), fun _ h => Bool.noConfusion h⟩
  | activated hs hv hc hd =>
    obtain ⟨certificate, hvalidated⟩ := Store.validateStaged_spec ssl hv
    have hmatched := matched_commitEnd hvalidated hold hc
    exact ⟨fun _ hnone => Bool.noConfusion (hs.symm.trans hnone),
      fun _ _ => hmatched.agree fun p hp => hd p hp.isFile⟩

end Device

/-! ## Runs

The runs below start with the first key in use and the second one pending. The certificate for the
second key is written and activated, and its key cannot be put in place. -/

def exampleDevice : Device exampleLayout := ⟨.initial _, exampleDisk⟩

/-- Nothing fails but the rename of the pending key. -/
def promotionFails : Faults String DiskFile :=
  { Faults.none with rename := fun source _ => source != exampleLayout.pendingPrivateKeyPath }

def halfActivation : List NodeEvent :=
  [.call (.resize 2 0) ⟨1, 0, .none⟩, .call (.write 2 0 secondCertificatePem) ⟨1, 0, .none⟩,
    .call .applyStagedCertificates ⟨2, 0, promotionFails⟩]

/-- The device afterwards: the second certificate, the first key, and the second one pending. -/
def halfActivated : Device exampleLayout :=
  halfActivation.foldl (Device.next exampleSsl) exampleDevice

theorem final_halfActivation :
    final (Device.step exampleSsl) exampleDevice halfActivation = .ok halfActivated :=
  final_eq_foldl (fun _ _ => rfl) exampleDevice halfActivation

/-- **A matched device holds the key at every moment of a run**, if no GENERATE_CSR_FILE replaces a
key that the certificate needs. -/
theorem keyHeld_throughout {device : Device N} (h : Matched ssl N.toLayout device.disk)
    (events : List NodeEvent)
    (hg : ∀ p ∈ steps (Device.step ssl) device events, ¬ p.1.ReplacesNeededKey ssl p.2) :
    (∀ p ∈ steps (Device.step ssl) device events, ∀ d ∈ p.1.momentsOf ssl p.2,
      KeyHeld ssl N.toLayout d) ∧
    ∀ t ∈ states (Device.step ssl) device events, KeyHeld ssl N.toLayout t.disk := by
  have hstates : ∀ t ∈ states (Device.step ssl) device events, KeyHeld ssl N.toLayout t.disk := by
    have hstep : ∀ (device : Device N) (event : NodeEvent) (device' : Device N),
        KeyHeld ssl N.toLayout device.disk → ¬ device.ReplacesNeededKey ssl event →
        device.step ssl event = .ok device' → KeyHeld ssl N.toLayout device'.disk := by
      rintro device event device' hheld hguard ⟨⟩
      exact (Device.keyHeld_outcome ssl hheld hguard).2
    exact invariant_of_guard hstep h.keyHeld events hg
  refine ⟨fun p hp => ?_, hstates⟩
  exact (Device.keyHeld_outcome ssl (hstates p.1 (mem_states_of_mem_steps hp)) (hg p hp)).1

/-- A GENERATE_CSR_FILE with the first key in use, and the activation. -/
theorem keyHeld_throughout_halfActivation :
    (∀ p ∈ steps (Device.step exampleSsl) exampleDevice
        (.call (.networkPortCommand 9) ⟨0, 0, .none⟩ :: halfActivation),
      ∀ d ∈ p.1.momentsOf exampleSsl p.2, KeyHeld exampleSsl exampleLayout.toLayout d) ∧
    ∀ t ∈ states (Device.step exampleSsl) exampleDevice
        (.call (.networkPortCommand 9) ⟨0, 0, .none⟩ :: halfActivation),
      KeyHeld exampleSsl exampleLayout.toLayout t.disk :=
  keyHeld_throughout exampleSsl matched_exampleDisk
    (.call (.networkPortCommand 9) ⟨0, 0, .none⟩ :: halfActivation) (by
      intro p hp
      rcases List.mem_cons.1 hp with rfl | hp
      · rintro ⟨on, -, hnot, -⟩
        exact hnot matched_exampleDisk
      · rintro ⟨on, hon, -⟩
        have hmem := mem_events_of_mem_steps hp
        simp only [halfActivation, List.mem_cons, List.not_mem_nil, or_false] at hmem
        rcases hmem with h | h | h <;> rw [h] at hon <;> cases hon)

/-- A GENERATE_CSR_FILE after the activation replaces the second key, and the certificate has
none. -/
theorem key_lost_after_halfActivation :
    Matched exampleSsl exampleLayout.toLayout exampleDevice.disk ∧
    ∃ t ∈ states (Device.step exampleSsl) exampleDevice
        (halfActivation ++ [.call (.networkPortCommand 9) ⟨3, 0, .none⟩]),
      ¬ KeyHeld exampleSsl exampleLayout.toLayout t.disk := by
  refine ⟨matched_exampleDisk,
    halfActivated.next exampleSsl (.call (.networkPortCommand 9) ⟨3, 0, .none⟩), ?_, ?_⟩
  · have hfinal := (final_append final_halfActivation
      [.call (.networkPortCommand 9) ⟨3, 0, .none⟩]).trans (final_cons_ok rfl [])
    simpa using mem_states_of_final (hfinal.trans (final_nil _)) []
  · decide +kernel

end BacnetBc
