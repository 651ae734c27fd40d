import BacnetBc.Cert.Node

/-!
# The key of the operational certificate

The operational certificate, the private key and the pending key are three files, and different
operations replace them. Two conditions say that they go together:

* `Matched`: the private key on disk is the key of the operational certificate on disk.
* `KeyHeld`: the private key or the pending key is.

**Theorem (`keyHeld_commitMoment`, `matched_commitEnd`).** A commit of validated files holds the key
at every moment, and leaves a matched pair when it returns true.

**Theorem (`matched_after_stop`).** Wherever a commit of validated files stops, a start-up whose
`ReconcilePendingKey` returns true leaves a matched pair.
-/

namespace BacnetBc

open FaultyDisk Memory Trajectory

variable {X509 Key : Type} (ssl : OpenSsl X509 Key) {L : Layout}

/-! ## Matched, and held -/

/-- The private key on disk is the key of the operational certificate on disk. -/
def Matched (L : Layout) (d : CertDisk) : Prop :=
  ∃ certificate ∈ operationalCertificate ssl L d, isKeyOf ssl d L.privateKeyPath certificate = true

/-- One of the two keys on disk is the key of the operational certificate on disk. -/
def KeyHeld (L : Layout) (d : CertDisk) : Prop :=
  ∃ certificate ∈ operationalCertificate ssl L d,
    isKeyOf ssl d L.privateKeyPath certificate = true ∨
      isKeyOf ssl d L.pendingPrivateKeyPath certificate = true

instance (L : Layout) (d : CertDisk) : Decidable (Matched ssl L d) :=
  inferInstanceAs (Decidable (∃ _ ∈ _, _))

instance (L : Layout) (d : CertDisk) : Decidable (KeyHeld ssl L d) :=
  inferInstanceAs (Decidable (∃ _ ∈ _, _))

/-- The files that say whether the device is matched. -/
def IsInUse (L : Layout) (p : String) : Prop :=
  p = L.privateKeyPath ∨ L.paths L.operationalInstance = some p

theorem IsInUse.isFile {p : String} (h : IsInUse L p) : L.IsFile p :=
  h.elim (fun h => Or.inl h) Layout.isFile_of_paths

section
variable {ssl}

theorem Matched.keyHeld {d : CertDisk} (h : Matched ssl L d) : KeyHeld ssl L d := by
  obtain ⟨certificate, hc, hk⟩ := h
  exact ⟨certificate, hc, Or.inl hk⟩

theorem operationalCertificate_congr {d d' : CertDisk}
    (h : ∀ p, L.paths L.operationalInstance = some p → d' p = d p) :
    operationalCertificate ssl L d' = operationalCertificate ssl L d := by
  unfold operationalCertificate
  cases hp : L.paths L.operationalInstance with
  | none => rfl
  | some p => simp only [Option.bind_some, readDisk, h p hp]

theorem operationalCertificate_agree {d d' : CertDisk} (h : Agree L.IsFile d d') :
    operationalCertificate ssl L d' = operationalCertificate ssl L d :=
  operationalCertificate_congr fun p hp => h p (Layout.isFile_of_paths hp)

/-- The operational certificate has a file on disk. -/
theorem exists_operationalFile {d : CertDisk} {certificate : X509}
    (h : operationalCertificate ssl L d = some certificate) :
    ∃ p file, L.paths L.operationalInstance = some p ∧ d p = some file ∧
      firstCertificate ssl file.bytes = some certificate := by
  unfold operationalCertificate at h
  obtain ⟨bytes, hbytes, hfirst⟩ := Option.bind_eq_some_iff.1 h
  obtain ⟨p, hp, hread⟩ := Option.bind_eq_some_iff.1 hbytes
  obtain ⟨file, hfile, rfl⟩ := Option.map_eq_some_iff.1 hread
  exact ⟨p, file, hp, hfile, hfirst⟩

theorem Matched.agree {d d' : CertDisk} (hd : Agree (IsInUse L) d d') (h : Matched ssl L d) :
    Matched ssl L d' := by
  obtain ⟨certificate, hc, hk⟩ := h
  refine ⟨certificate, ?_, ?_⟩
  · rw [operationalCertificate_congr fun p hp => hd p (Or.inr hp)]
    exact hc
  · rw [isKeyOf_congr ssl (hd _ (Or.inl rfl))]
    exact hk

theorem matched_congr {d d' : CertDisk} (h : Agree (IsInUse L) d d') :
    Matched ssl L d' ↔ Matched ssl L d :=
  ⟨fun hm => hm.agree h.symm, fun hm => hm.agree h⟩

theorem matched_iff_isKeyOf {d : CertDisk} {certificate : X509}
    (h : operationalCertificate ssl L d = some certificate) :
    Matched ssl L d ↔ isKeyOf ssl d L.privateKeyPath certificate = true := by
  refine ⟨?_, fun hk => ⟨certificate, h, hk⟩⟩
  rintro ⟨certificate', hcert, hk⟩
  obtain rfl := Option.some.inj (h.symm.trans hcert)
  exact hk

theorem KeyHeld.agree {d d' : CertDisk} (hd : Agree L.IsFile d d') (h : KeyHeld ssl L d) :
    KeyHeld ssl L d' := by
  obtain ⟨certificate, hc, hk⟩ := h
  refine ⟨certificate, ?_, ?_⟩
  · rw [operationalCertificate_agree hd]
    exact hc
  · rw [isKeyOf_congr ssl (hd _ L.isFile_private), isKeyOf_congr ssl (hd _ L.isFile_pending)]
    exact hk

end

/-! ## A commit of validated files -/

section
variable {ssl} {s s' : Store L} {d d' : CertDisk} {certificate old : X509} {now : Int}

theorem private_install {es : List (String × DiskFile)} (h : ∀ x ∈ es, x ∈ s.entries now)
    (hd : Agree L.IsFile (install es d) d') : d' L.privateKeyPath = d L.privateKeyPath := by
  refine (hd _ L.isFile_private).trans (install_of_not_mem ?_)
  intro hm
  obtain ⟨x, hx, hp⟩ := List.mem_map.1 hm
  exact s.private_not_mem_entries now (List.mem_map.2 ⟨x, h x hx, hp⟩)

theorem pending_install {es : List (String × DiskFile)} (h : ∀ x ∈ es, x ∈ s.entries now)
    (hd : Agree L.IsFile (install es d) d') :
    d' L.pendingPrivateKeyPath = d L.pendingPrivateKeyPath := by
  refine (hd _ L.isFile_pending).trans (install_of_not_mem ?_)
  intro hm
  obtain ⟨x, hx, hp⟩ := List.mem_map.1 hm
  exact s.pending_not_mem_entries now (List.mem_map.2 ⟨x, h x hx, hp⟩)

/-- An entry for the operational certificate's file holds the validated certificate. -/
theorem firstCertificate_of_entry (hv : s.Validated ssl d s' certificate) {p : String}
    (hp : L.paths L.operationalInstance = some p) {file c : DiskFile} (hfile : d p = some file)
    (hmem : (p, c) ∈ s'.entries now) : firstCertificate ssl c.bytes = some certificate := by
  obtain ⟨i, copy, hs, hi, rfl⟩ := Store.mem_entries.1 hmem
  obtain rfl := L.paths_inj hi hp
  have heff := Store.effective_of_disk (s := s) hp hfile
  rw [← hv.staged, hs] at heff
  rw [← hv.operational, heff]

/-- With a first part of the files in place, the operational certificate is the old or the new
one. -/
theorem operational_install_take (hv : s.Validated ssl d s' certificate)
    (hold : operationalCertificate ssl L d = some old) {k : Nat}
    (hd : Agree L.IsFile (install ((s'.entries now).take k) d) d') :
    operationalCertificate ssl L d' = some old ∨ operationalCertificate ssl L d' =
      some certificate := by
  obtain ⟨p, file, hp, hfile, hfirst⟩ := exists_operationalFile hold
  have hd' := hd p (Layout.isFile_of_paths hp)
  rcases install_eq_or ((s'.entries now).take k) d p with hsame | ⟨c, hc, hnew⟩
  · left
    rw [← hold]
    refine operationalCertificate_congr ?_
    intro q hq
    obtain rfl := Option.some.inj (hp.symm.trans hq)
    exact hd'.trans hsame
  · right
    have hcert := firstCertificate_of_entry hv hp hfile (List.mem_of_mem_take hc)
    simp only [operationalCertificate, hp, Option.bind_some, readDisk, hd', hnew,
      Option.map_some, hcert]

/-- With all files in place, it is the new one. -/
theorem operational_install (hv : s.Validated ssl d s' certificate)
    (hold : operationalCertificate ssl L d = some old)
    (hd : Agree L.IsFile (install (s'.entries now) d) d') :
    operationalCertificate ssl L d' = some certificate := by
  obtain ⟨p, file, hp, hfile, hfirst⟩ := exists_operationalFile hold
  have hd' := hd p (Layout.isFile_of_paths hp)
  have hread {file' : DiskFile} (h : d' p = some file')
      (hf : firstCertificate ssl file'.bytes = some certificate) :
      operationalCertificate ssl L d' = some certificate := by
    simp only [operationalCertificate, hp, Option.bind_some, readDisk, h, Option.map_some, hf]
  cases hs : s'.staged[L.operationalInstance]? with
  | some copy =>
    have hmem : (p, (⟨copy.bytes, now, false⟩ : DiskFile)) ∈ s'.entries now :=
      Store.mem_entries.2 ⟨_, copy, hs, hp, rfl⟩
    exact hread (hd'.trans (install_of_mem Store.nodup_entries hmem))
      (firstCertificate_of_entry hv hp hfile hmem)
  | none =>
    -- the file stays, so that it is what was validated
    have hstays : install (s'.entries now) d p = d p := install_of_not_mem fun hm => by
      obtain ⟨x, hx, rfl⟩ := List.mem_map.1 hm
      obtain ⟨i, copy, hcopy, hi, -⟩ := Store.mem_entries.1 hx
      rw [L.paths_inj hi hp, hs] at hcopy
      cases hcopy
    have heff := Store.effective_of_disk (s := s) hp hfile
    rw [← hv.staged, hs] at heff
    exact hread (hd'.trans (hstays.trans hfile)) (by rw [← hv.operational, heff])

/-- The pending key is in place of the private key. -/
theorem isKeyOf_promoted {c : DiskFile} (hc : d L.pendingPrivateKeyPath = some c)
    (hk : isKeyOf ssl d L.pendingPrivateKeyPath certificate = true) {d₁ : CertDisk}
    (hd : Agree L.IsFile (promoted L c d₁) d') :
      isKeyOf ssl d' L.privateKeyPath certificate = true := by
  refine isKeyOf_of_moved ssl L.private_ne_empty ?_ hk
  rw [hd _ L.isFile_private, promoted, Function.update_self, hc]

theorem operational_promoted (hv : s.Validated ssl d s' certificate)
    (hold : operationalCertificate ssl L d = some old) {c : DiskFile}
    (hd : Agree L.IsFile (promoted L c (install (s'.entries now) d)) d') :
    operationalCertificate ssl L d' = some certificate := by
  have hinstalled := operational_install hv hold (Agree.refl L.IsFile (install (s'.entries now) d))
  rw [← hinstalled]
  refine operationalCertificate_congr ?_
  intro p hp
  rw [hd p (Layout.isFile_of_paths hp), promoted,
    Function.update_of_ne (L.paths_ne_private hp), Function.update_of_ne (L.paths_ne_pending hp)]

/-- **No moment of a commit loses the key.** -/
theorem keyHeld_commitMoment (hv : s.Validated ssl d s' certificate) (h : KeyHeld ssl L d)
    (hm : s'.CommitMoment now d d') : KeyHeld ssl L d' := by
  obtain ⟨old, hold, hk⟩ := h
  rcases hm with ⟨k, hd⟩ | ⟨hp, c, hc, hd⟩
  · have hpriv := private_install (fun x => List.mem_of_mem_take) hd
    have hpend := pending_install (fun x => List.mem_of_mem_take) hd
    rcases operational_install_take hv hold hd with hcert | hcert
    · refine ⟨old, hcert, ?_⟩
      rw [isKeyOf_congr ssl hpriv, isKeyOf_congr ssl hpend]
      exact hk
    · refine ⟨certificate, hcert, ?_⟩
      rw [isKeyOf_congr ssl hpriv, isKeyOf_congr ssl hpend]
      cases hflag : s'.commitPromotesPendingKey with
      | false => exact Or.inl (hv.current hflag)
      | true => exact Or.inr (hv.pending hflag).2
  · exact ⟨certificate, operational_promoted hv hold hd,
      Or.inl (isKeyOf_promoted hc (hv.pending hp).2 hd)⟩

/-- **A commit that returns true leaves a matched pair.** -/
theorem matched_commitEnd (hv : s.Validated ssl d s' certificate)
    (hold : operationalCertificate ssl L d = some old) {e : Faults String DiskFile} {s'' : Store L}
    (h : s'.CommitEnd now e d (.ok (), s'') d') : Matched ssl L d' := by
  cases h with
  | promotes hw hr hp hc hm hd =>
    exact ⟨certificate, operational_promoted hv hold hd, isKeyOf_promoted hc (hv.pending hp).2 hd⟩
  | installs hw hr hp hd =>
    refine ⟨certificate, operational_install hv hold hd, ?_⟩
    rw [isKeyOf_congr ssl (private_install (fun x => id) hd)]
    exact hv.current hp

end

/-! ## The start-up -/

theorem needsPromotion_iff {d : CertDisk} : needsPromotion ssl L d = true ↔
    ∃ certificate ∈ operationalCertificate ssl L d,
      isKeyOf ssl d L.privateKeyPath certificate = false ∧
        isKeyOf ssl d L.pendingPrivateKeyPath certificate = true := by
  have hexists {certificate : X509}
      (hk : isKeyOf ssl d L.pendingPrivateKeyPath certificate = true) :
      ¬ (L.pendingPrivateKeyPath = "" ∨ d L.pendingPrivateKeyPath = none) := by
    rintro (h | h)
    · simp [isKeyOf, loadKey, h] at hk
    · simp [isKeyOf, loadKey, readDisk, h] at hk
  unfold needsPromotion
  constructor
  · intro h
    split_ifs at h
    cases hcert : operationalCertificate ssl L d with
    | none => simp [hcert] at h
    | some certificate => exact ⟨certificate, rfl, by simpa [hcert] using h⟩
  · rintro ⟨certificate, hcert, hfalse, hk⟩
    rw [if_neg (hexists hk), hcert]
    simp [hfalse, hk]

/-- How `ReconcilePendingKey` ends. -/
inductive ReconcileEnd (L : Layout) (d : CertDisk)
    (o : Outcome String DiskFile (Bool × String)) : Prop
  | nothing (hn : needsPromotion ssl L d = false) (hv : o.value = (true, "")) (hd : o.disk = d)
  | notPromoted (hn : needsPromotion ssl L d = true) (hv : o.value.1 = false) (hd : o.disk = d)
  | promotes {c : DiskFile} (hn : needsPromotion ssl L d = true)
      (hc : d L.pendingPrivateKeyPath = some c) (hv : o.value.1 = true)
      (hd : o.disk = promoted L c d)

section
variable {ssl} {d : CertDisk}

variable (ssl) in
/-- **What `ReconcilePendingKey` does.** -/
theorem reconcile_run (L : Layout) (e : Faults String DiskFile) (d : CertDisk) :
    ReconcileEnd ssl L d (reconcilePendingKey ssl L e d) ∧
      ∀ d' ∈ (reconcilePendingKey ssl L e d).moments,
        d' = d ∨ d' = (reconcilePendingKey ssl L e d).disk := by
  unfold reconcilePendingKey
  cases hn : needsPromotion ssl L d with
  | false =>
    simp only [bind_run, look_run, hn, Bool.false_eq_true, if_false, pure_run]
    exact ⟨.nothing hn rfl rfl, by simp⟩
  | true =>
    simp only [bind_run, look_run, hn, if_true]
    by_cases hm : d L.pendingPrivateKeyPath = none ∨
        e.rename L.pendingPrivateKeyPath L.privateKeyPath = false
    · obtain ⟨⟨reason, hvalue⟩, hdisk, hmoments⟩ := promotePendingKey_fail (L := L) hm
      simp only [hvalue, hdisk, pure_run]
      refine ⟨.notPromoted hn rfl rfl, fun d' hd' => Or.inl ?_⟩
      simp only [List.mem_append, List.mem_singleton] at hd'
      exact hd'.elim id fun h => h.elim (hmoments d') id
    · obtain ⟨hsome, hrename⟩ := not_or.1 hm
      obtain ⟨c, hc⟩ := Option.ne_none_iff_exists'.1 hsome
      obtain ⟨hvalue, hdisk, hmoments⟩ := promotePendingKey_ok (L := L) hc (by simpa using hrename)
      simp only [hvalue, hdisk, pure_run]
      refine ⟨.promotes hn hc rfl rfl, ?_⟩
      intro d' hd'
      simp only [List.mem_append, List.mem_singleton] at hd'
      exact hd'.elim Or.inl fun h => h.elim (hmoments d') Or.inr

/-- The private key is the certificate's key once the pending key has replaced it. -/
theorem matched_promoted {c : DiskFile} (hn : needsPromotion ssl L d = true)
    (hc : d L.pendingPrivateKeyPath = some c) : Matched ssl L (promoted L c d) := by
  obtain ⟨certificate, hcert, -, hk⟩ := (needsPromotion_iff ssl).1 hn
  refine ⟨certificate, ?_, isKeyOf_promoted hc hk (Agree.refl L.IsFile (promoted L c d))⟩
  rw [operationalCertificate_congr fun p hp => ?_]
  · exact hcert
  · rw [promoted, Function.update_of_ne (L.paths_ne_private hp),
      Function.update_of_ne (L.paths_ne_pending hp)]

/-- A held key that needs no promotion is the private key. -/
theorem KeyHeld.matched (h : KeyHeld ssl L d) (hn : needsPromotion ssl L d = false) :
    Matched ssl L d := by
  obtain ⟨certificate, hcert, hk⟩ := h
  refine ⟨certificate, hcert, ?_⟩
  by_contra hnot
  have hfalse : isKeyOf ssl d L.privateKeyPath certificate = false := by simpa using hnot
  rw [(needsPromotion_iff ssl).2 ⟨certificate, hcert, hfalse, hk.resolve_left hnot⟩] at hn
  cases hn

theorem Matched.needsPromotion_eq (h : Matched ssl L d) : needsPromotion ssl L d = false := by
  obtain ⟨certificate, hcert, hk⟩ := h
  by_contra hn
  obtain ⟨certificate', hcert', hfalse, -⟩ := (needsPromotion_iff ssl).1 (by simpa using hn)
  obtain rfl := Option.mem_unique hcert hcert'
  rw [hk] at hfalse
  cases hfalse

/-- **A start-up that returns true leaves a matched pair**, if the key is held. -/
theorem KeyHeld.matched_of_reconcile (h : KeyHeld ssl L d) (e : Faults String DiskFile)
    (hr : (reconcilePendingKey ssl L e d).value.1 = true) :
    Matched ssl L (reconcilePendingKey ssl L e d).disk := by
  cases (reconcile_run ssl L e d).1 with
  | nothing hn hv hd => exact hd.symm ▸ h.matched hn
  | notPromoted hn hv hd => exact Bool.noConfusion (hv.symm.trans hr)
  | promotes hn hc hv hd => exact hd.symm ▸ matched_promoted hn hc

/-- Once `ReconcilePendingKey` has returned true, it finds nothing to do. -/
theorem reconcile_idempotent (L : Layout) {e : Faults String DiskFile}
    (hr : (reconcilePendingKey ssl L e d).value.1 = true) (e' : Faults String DiskFile) :
    (reconcilePendingKey ssl L e' (reconcilePendingKey ssl L e d).disk).value = (true, "") ∧
      (reconcilePendingKey ssl L e' (reconcilePendingKey ssl L e d).disk).disk =
        (reconcilePendingKey ssl L e d).disk := by
  have hdone : needsPromotion ssl L (reconcilePendingKey ssl L e d).disk = false := by
    cases (reconcile_run ssl L e d).1 with
    | nothing hn hv hd => exact hd.symm ▸ hn
    | notPromoted hn hv hd => exact Bool.noConfusion (hv.symm.trans hr)
    | promotes hn hc hv hd => exact hd.symm ▸ (matched_promoted hn hc).needsPromotion_eq
  cases (reconcile_run ssl L e' (reconcilePendingKey ssl L e d).disk).1 with
  | nothing hn hv hd => exact ⟨hv, hd⟩
  | notPromoted hn hv hd => exact Bool.noConfusion (hdone.symm.trans hn)
  | promotes hn hc hv hd => exact Bool.noConfusion (hdone.symm.trans hn)

end

/-! ## Stops and starts -/

/-- **Wherever a commit of validated files stops, the next start leaves a matched pair**, and a
start after that finds nothing to do. -/
theorem matched_after_stop {s s' : Store L} {d : CertDisk} (h : Matched ssl L d)
    (hv : s.validateStaged ssl d = (.ok (), s')) (now : Int) (e : Faults String DiskFile) :
    (∀ d' ∈ (s'.commitStaged now e d).moments, ∀ e' : Faults String DiskFile,
      (reconcilePendingKey ssl L e' d').value.1 = true →
        Matched ssl L (reconcilePendingKey ssl L e' d').disk) ∧
    ∀ (d₁ : CertDisk) (e₁ e₂ : Faults String DiskFile),
      (reconcilePendingKey ssl L e₁ d₁).value.1 = true →
        (reconcilePendingKey ssl L e₂ (reconcilePendingKey ssl L e₁ d₁).disk).value = (true, "") ∧
          (reconcilePendingKey ssl L e₂ (reconcilePendingKey ssl L e₁ d₁).disk).disk =
            (reconcilePendingKey ssl L e₁ d₁).disk := by
  obtain ⟨certificate, hvalidated⟩ := Store.validateStaged_spec ssl hv
  refine ⟨fun d' hd' e' hr => ?_, fun d₁ e₁ e₂ hr => reconcile_idempotent L hr e₂⟩
  have hheld := keyHeld_commitMoment hvalidated h.keyHeld ((s'.commitStaged_run now e d).2 d' hd')
  exact hheld.matched_of_reconcile e' hr

/-! ### A device with a second key pending

The operational certificate on disk is for the first key; a certificate for the second key, which is
pending, has come back from the issuer. -/

/-- The octets of a text, line by line. -/
def linesOf (lines : List String) : Octets := lines.flatMap fun line => octetsOf line ++ [0x0A]

/-- A PEM file with one block. -/
def pemText (label : String) (body : List String) : Octets :=
  linesOf (("-----BEGIN " ++ label ++ "-----") :: body ++ ["-----END " ++ label ++ "-----"])

/-- The certificate of the issuer. -/
def issuerPem : Octets := pemText "CERTIFICATE"
  ["MIH3MIGqoAMCAQICAQEwBQYDK2VwMAwxCjAIBgNVBAMMAUEwIBcNMjYxMTE4MjI1",
    "NjM4WhgPMjEyNjEwMjUyMjU2MzhaMAwxCjAIBgNVBAMMAUEwKjAFBgMrZXADIQDa",
    "gerYwaNAMK0DISc4fnLvk9U0w0q+Q4R6VMsc/n/YIqMvMC0wDAYDVR0TBAUwAwEB",
    "/zAdBgNVHQ4EFgQUFJLYFpyD6dRdyCuOmQ1yHVa4N90wBQYDK2VwA0EA2L7mi6R0",
    "ydbFdtrTlUk9PkZZWShnFLsPkZWLQZ2in8wdM7X4GmhbqsJj1HqOmut04eopUJn0",
    "tUK+dQVTLeAfCg=="]

/-- The certificate for the first key. -/
def firstCertificatePem : Octets := pemText "CERTIFICATE"
  ["MIHAMHQCAQIwBQYDK2VwMAwxCjAIBgNVBAMMAUEwIBcNMjYxMTE4MjI1NjM4WhgP",
    "MjEyNjEwMjUyMjU2MzhaMAwxCjAIBgNVBAMMAU4wKjAFBgMrZXADIQDgmfTvGBDE",
    "9bpWSvivpnHk2kkow2rQBPsTw1bvrjGO1zAFBgMrZXADQQBl1R6C7nS5/d3qUNRc",
    "de81/hOL33DXBYOzPW8LPAvei0Cv1y6MDFibFEiPHIJ15zgujOsKA21yz77yhZHZ",
    "n04D"]

/-- The certificate for the second key. -/
def secondCertificatePem : Octets := pemText "CERTIFICATE"
  ["MIHAMHQCAQIwBQYDK2VwMAwxCjAIBgNVBAMMAUEwIBcNMjYxMTE4MjI1NjM4WhgP",
    "MjEyNjEwMjUyMjU2MzhaMAwxCjAIBgNVBAMMAU4wKjAFBgMrZXADIQCz6RlLotPr",
    "024e7oHPzVFkHIn1JlbK/yZc1Y9WIl+LLDAFBgMrZXADQQCucJ6IQ4oasXW4NTu3",
    "SZlK+XTCNiUzFY9vG2+zYQLe/OOP7cRNRJwhShVJfQ0DfpvP1Bl1r/wvUFsifjm0",
    "sr0J"]

/-- The first key. -/
def firstKeyPem : Octets := pemText "PRIVATE KEY"
  ["MC4CAQAwBQYDK2VwBCIEIOzash/mqAtqutS67z+DTZ6j1IAKmVui7LJFcT9osN7G"]

/-- The second key. -/
def secondKeyPem : Octets := pemText "PRIVATE KEY"
  ["MC4CAQAwBQYDK2VwBCIEIFu9U99lAtXfq5vx0t004dfT2AZIs7F/AXoO5U0vaqOy"]

/-- The key that the next GENERATE_CSR_FILE makes. -/
def thirdKeyPem : Octets := pemText "PRIVATE KEY"
  ["MIGHAgEAMBMGByqGSM49AgEGCCqGSM49AwEHBG0wawIBAQQgA/CJeaGTCc+oWEON",
    "En8dXkCXdjTxqKW7u40OKhKOWpyhRANCAATcMUbsLx3y81gSPsypQbLhtIYkKQNP",
    "GiohXO+OGeViEHtBG79xIM30LFCSBT2C/Vk9ORntFDuJnc9fwibIj9SD"]

/-- The request for it. -/
def thirdRequestPem : Octets := pemText "CERTIFICATE REQUEST"
  ["MIHGMG4CAQAwDDEKMAgGA1UEAwwBTjBZMBMGByqGSM49AgEGCCqGSM49AwEHA0IA",
    "BNwxRuwvHfLzWBI+zKlBsuG0hiQpA08aKiFc744Z5WIQe0Ebv3EgzfQsUJIFPYL9",
    "WT05Ge0UO4mdz1/CJsiP1IOgADAKBggqhkjOPQQDAgNIADBFAiEA1Y7a9OWW43pu",
    "QLg3SJhrYSq30O9A8vcugH0unVOSf+ACIEo6X0CfWFEZk55vWSADsUyyzzFTTImB",
    "veAfX4DysThF"]

inductive ExampleCertificate
  | issuer
  | first
  | second
deriving DecidableEq, Repr

inductive ExampleKey
  | first
  | second
  | third
deriving DecidableEq, Repr

/-- OpenSSL on the files above. -/
def exampleSsl : OpenSsl ExampleCertificate ExampleKey where
  readX509 block :=
    if block = issuerPem.dropLast then some .issuer
    else if block = firstCertificatePem.dropLast then some .first
    else if block = secondCertificatePem.dropLast then some .second
    else none
  writeX509
    | .issuer => some issuerPem
    | .first => some firstCertificatePem
    | .second => some secondCertificatePem
  readPrivateKey pem :=
    if pem = firstKeyPem then some .first
    else if pem = secondKeyPem then some .second
    else if pem = thirdKeyPem then some .third
    else none
  checkPrivateKey
    | .first, .first => true
    | .second, .second => true
    | _, _ => false
  checkCa
    | .issuer => 1
    | _ => 0
  verify leaf _ store _ :=
    if leaf ≠ .issuer ∧ .issuer ∈ store then none else some "unable to get local issuer certificate"
  newKeyAndRequest _ _ := some (thirdKeyPem, thirdRequestPem)

def exampleLayout : NodeLayout := prepareLayout "sc" "cert1/device-389005/port-4"

/-- The first key in use, the second one pending. -/
def exampleDisk : CertDisk :=
  install
    [("sc/cert1/device-389005/port-4/opr-node.pem", ⟨firstCertificatePem, 0, false⟩),
      ("sc/cert1/device-389005/port-4/key-node.pem", ⟨firstKeyPem, 0, true⟩),
      ("sc/cert1/issuer/iss-1.pem", ⟨issuerPem, 0, false⟩),
      ("sc/key-node-pending.pem", ⟨secondKeyPem, 0, true⟩)]
    fun _ => none

/-- The certificate for the second key is staged. -/
def exampleStore : Store exampleLayout.toLayout :=
  (((Store.initial _).resize 1 exampleDisk 2 0).1.write 1 exampleDisk 2 0 secondCertificatePem).1

theorem matched_exampleDisk : Matched exampleSsl exampleLayout.toLayout exampleDisk := by
  decide +kernel

/-- The activation of the second certificate can stop anywhere. -/
theorem matched_after_stop_example :
    (∀ d' ∈ ((exampleStore.validateStaged exampleSsl exampleDisk).2.commitStaged 2 .none
        exampleDisk).moments, ∀ e' : Faults String DiskFile,
      (reconcilePendingKey exampleSsl exampleLayout.toLayout e' d').value.1 = true →
        Matched exampleSsl exampleLayout.toLayout
          (reconcilePendingKey exampleSsl exampleLayout.toLayout e' d').disk) ∧
    ∀ (d₁ : CertDisk) (e₁ e₂ : Faults String DiskFile),
      (reconcilePendingKey exampleSsl exampleLayout.toLayout e₁ d₁).value.1 = true →
        (reconcilePendingKey exampleSsl exampleLayout.toLayout e₂
          (reconcilePendingKey exampleSsl exampleLayout.toLayout e₁ d₁).disk).value = (true, "") ∧
          (reconcilePendingKey exampleSsl exampleLayout.toLayout e₂
            (reconcilePendingKey exampleSsl exampleLayout.toLayout e₁ d₁).disk).disk =
            (reconcilePendingKey exampleSsl exampleLayout.toLayout e₁ d₁).disk :=
  matched_after_stop exampleSsl matched_exampleDisk (Prod.ext (by decide +kernel) rfl) 2 .none

end BacnetBc
