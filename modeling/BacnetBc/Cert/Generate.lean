import BacnetBc.Cert.Keys

/-!
# GENERATE_CSR_FILE

A GENERATE_CSR_FILE writes two temp files, renames the new key over the pending one, and then the
new request over the old one.

**Theorem (`sparesAt_of_not_replacesPendingKey`).** A call that does not come to the first rename,
or whose rename fails, changes no file.

**The moments of a call** (`replaces_run`). A call that comes to the renames goes through disks that
are the old one, then have the new key, then have the new key and its request.
-/

namespace BacnetBc

open FaultyDisk Memory

variable {X509 Key : Type} (ssl : OpenSsl X509 Key) {L : Layout}

/-! ## What it changes -/

namespace Store

/-- `GenerateKeyAndCsr` comes to the rename of the new pending key, and the rename succeeds. -/
def InstallsNewKey (s : Store L) (d : CertDisk) (seed : Nat) (e : Faults String DiskFile) : Prop :=
  s.hasStagedChanges = false ∧
    (∃ certificate ∈ operationalCertificate ssl L d,
      (ssl.newKeyAndRequest seed certificate).isSome = true) ∧
    (∃ csrPath ∈ L.paths L.csrInstance, e.write (tempPath csrPath) = true) ∧
    e.write (tempPath L.pendingPrivateKeyPath) = true ∧
    e.rename (tempPath L.pendingPrivateKeyPath) L.pendingPrivateKeyPath = true

/-- It comes to that rename and the rename succeeds, wherever the certificate for the subject is
read. -/
def ReplacesPendingKey (s : Store L) (d : CertDisk) (seed : Nat) (e : Faults String DiskFile) :
    Prop :=
  s.hasStagedChanges = false ∧ L.pendingPrivateKeyPath ≠ "" ∧
    (∃ certificate ∈ firstCertificate ssl (s.effective d L.operationalInstance),
      (ssl.newKeyAndRequest seed certificate).isSome = true) ∧
    (∃ csrPath ∈ L.paths L.csrInstance, e.write (tempPath csrPath) = true) ∧
    e.write (tempPath L.pendingPrivateKeyPath) = true ∧
    e.rename (tempPath L.pendingPrivateKeyPath) L.pendingPrivateKeyPath = true

end Store

section
variable {ssl} {e : Faults String DiskFile} {d : CertDisk}

theorem not_isInUse_tempPath {p : String} (h : L.IsFile p) : ¬ IsInUse L (tempPath p) := by
  rintro (hp | hp)
  · exact Layout.not_isFile_tempPath h (hp ▸ L.isFile_private)
  · exact Layout.not_isFile_tempPath h (Layout.isFile_of_paths hp)

theorem not_isInUse_pending : ¬ IsInUse L L.pendingPrivateKeyPath := by
  rintro (hp | hp)
  · exact L.private_ne_pending hp.symm
  · exact L.paths_ne_pending hp rfl

theorem not_isInUse_csr {csrPath : String} (h : L.paths L.csrInstance = some csrPath) :
    ¬ IsInUse L csrPath := by
  rintro (hp | hp)
  · exact L.paths_ne_private h hp
  · exact L.csr_ne_operational (L.paths_inj h hp)

/-- The new key and its request go to files that are not in use. -/
theorem spares_installKeyAndCsr {csrPath : String} (h : L.paths L.csrInstance = some csrPath)
    (now : Int) (keyPem csrPem : Octets) :
    Spares (installKeyAndCsr L now csrPath keyPem csrPem) (IsInUse L) := by
  have hkey := not_isInUse_tempPath L.isFile_pending
  have hcsr := not_isInUse_tempPath (Layout.isFile_of_paths h)
  refine Spares.bind (spares_writeTempFile hkey now keyPem true) ?_
  intro written
  cases written with
  | error reason => exact Spares.pure _
  | ok _ =>
    refine Spares.bind (spares_writeTempFile hcsr now csrPem false) ?_
    intro written
    cases written with
    | error reason => exact Spares.bind (Spares.remove hkey) fun _ => Spares.pure _
    | ok _ =>
      refine Spares.bind (spares_replaceWithTemp hkey not_isInUse_pending) ?_
      intro replaced
      cases replaced with
      | error reason =>
        exact Spares.bind (Spares.remove hkey) fun _ =>
          Spares.bind (Spares.remove hcsr) fun _ => Spares.pure _
      | ok _ => exact spares_replaceWithTemp hcsr (not_isInUse_csr h)

/-- Unless the new key comes into place, only temp files change. -/
theorem sparesAt_installKeyAndCsr {csrPath : String} (h : L.paths L.csrInstance = some csrPath)
    (hfail : e.write (tempPath L.pendingPrivateKeyPath) = false ∨
      e.write (tempPath csrPath) = false ∨
      e.rename (tempPath L.pendingPrivateKeyPath) L.pendingPrivateKeyPath = false)
    (now : Int) (keyPem csrPem : Octets) :
    SparesAt (installKeyAndCsr L now csrPath keyPem csrPem) L.IsFile e d := by
  have hkey := Layout.not_isFile_tempPath L.isFile_pending
  have hcsr := Layout.not_isFile_tempPath (Layout.isFile_of_paths h)
  refine SparesAt.bind (spares_writeTempFile hkey now keyPem true e d) ?_
  cases hk : e.write (tempPath L.pendingPrivateKeyPath) with
  | false =>
    obtain ⟨reason, hvalue⟩ := writeTempFile_fail (d := d) hk now keyPem true
    rw [hvalue]
    exact Spares.pure _ e _
  | true =>
    rw [(writeTempFile_ok (d := d) hk now keyPem true).1]
    refine SparesAt.bind (spares_writeTempFile hcsr now csrPem false e _) ?_
    cases hc : e.write (tempPath csrPath) with
    | false =>
      obtain ⟨reason, hvalue⟩ := writeTempFile_fail
        (d := (writeTempFile now L.pendingPrivateKeyPath keyPem true e d).disk) hc now csrPem false
      rw [hvalue]
      exact Spares.bind (Spares.remove hkey) (fun _ => Spares.pure _) e _
    | true =>
      have hrename := (hfail.resolve_left (by simp [hk])).resolve_left (by simp [hc])
      rw [(writeTempFile_ok hc now csrPem false).1]
      set d₂ := (writeTempFile now csrPath csrPem false e
        (writeTempFile now L.pendingPrivateKeyPath keyPem true e d).disk).disk
      obtain ⟨⟨reason, hvalue⟩, hdisk, hmoments⟩ := replaceWithTemp_fail (d := d₂) hrename
      have hstays : SparesAt (replaceWithTemp L.pendingPrivateKeyPath) L.IsFile e d₂ :=
        ⟨fun d' hd' => (hmoments d' hd').symm ▸ Agree.refl _ d₂, hdisk.symm ▸ Agree.refl _ d₂⟩
      refine SparesAt.bind hstays ?_
      rw [hvalue]
      exact Spares.bind (Spares.remove hkey)
        (fun _ => Spares.bind (Spares.remove hcsr) fun _ => Spares.pure _) e _

end

namespace Store

/-- **GENERATE_CSR_FILE leaves alone what is in use.** -/
theorem spares_generateKeyAndCsr (s : Store L) (now : Int) (seed : Nat) :
    Spares (s.generateKeyAndCsr ssl now seed) (IsInUse L) := by
  unfold generateKeyAndCsr
  split_ifs
  · exact Spares.pure _
  · cases hcsr : (L.paths L.csrInstance).filter fun _ => L.pendingPrivateKeyPath ≠ "" with
    | none => exact Spares.pure _
    | some csrPath =>
      refine Spares.bind Spares.look ?_
      intro d
      dsimp only
      split
      · exact Spares.pure _
      · exact Spares.pure _
      · split
        · exact Spares.pure _
        · exact spares_installKeyAndCsr (Option.filter_eq_some_iff.1 hcsr).1 now _ _

/-- With nothing staged, the subject comes from the certificate on disk. -/
theorem firstCertificate_of_not_staged {s : Store L} {d : CertDisk} {certificate : X509}
    (hc : operationalCertificate ssl L d = some certificate) (hs : s.hasStagedChanges = false) :
    firstCertificate ssl (s.effective d L.operationalInstance) = some certificate := by
  obtain ⟨p, file, hp, hfile, hfirst⟩ := exists_operationalFile hc
  have hempty : s.staged.isEmpty = true := by simpa [hasStagedChanges] using hs
  have hnone : s.staged[L.operationalInstance]? = none := by
    rw [Std.ExtTreeMap.isEmpty_iff.1 hempty]
    rfl
  rw [effective_of_disk hp hfile, hnone]
  exact hfirst

/-- **Unless it replaces the pending key, it changes no file.** -/
theorem sparesAt_of_not_replacesPendingKey {s : Store L} {e : Faults String DiskFile} {d : CertDisk}
    {seed : Nat} (h : ¬ s.ReplacesPendingKey ssl d seed e) (now : Int) :
    SparesAt (s.generateKeyAndCsr ssl now seed) L.IsFile e d := by
  unfold generateKeyAndCsr
  cases hs : s.hasStagedChanges with
  | true => exact Spares.pure _ e d
  | false =>
    simp only [Bool.false_eq_true, if_false]
    cases hcsr : (L.paths L.csrInstance).filter fun _ => L.pendingPrivateKeyPath ≠ "" with
    | none => exact Spares.pure _ e d
    | some csrPath =>
      obtain ⟨hpath, hne⟩ := Option.filter_eq_some_iff.1 hcsr
      refine SparesAt.bind (Spares.look e d) ?_
      simp only [look_run]
      split
      · exact Spares.pure _ e d
      · exact Spares.pure _ e d
      · rename_i certificate intermediates hparse
        have hfirst : firstCertificate ssl (s.effective d L.operationalInstance) =
            some certificate := by
          rw [firstCertificate, hparse]
        cases hnew : ssl.newKeyAndRequest seed certificate with
        | none =>
          dsimp only
          exact Spares.pure _ e d
        | some pem =>
          dsimp only
          refine sparesAt_installKeyAndCsr hpath ?_ now pem.1 pem.2
          by_contra hall
          simp only [not_or, Bool.not_eq_false] at hall
          exact h ⟨hs, by simpa using hne, ⟨certificate, hfirst, by rw [hnew]; rfl⟩,
            ⟨csrPath, hpath, hall.2.1⟩, hall.1, hall.2.2⟩

/-- With a certificate on disk, it does so only by installing the new key. -/
theorem sparesAt_generateKeyAndCsr {s : Store L} {e : Faults String DiskFile} {d : CertDisk}
    {seed : Nat} {certificate : X509} (hc : operationalCertificate ssl L d = some certificate)
    (h : ¬ s.InstallsNewKey ssl d seed e) (now : Int) :
    SparesAt (s.generateKeyAndCsr ssl now seed) L.IsFile e d := by
  refine sparesAt_of_not_replacesPendingKey ssl ?_ now
  rintro ⟨hs, -, ⟨subject, hsubject, hnew⟩, hrest⟩
  rw [firstCertificate_of_not_staged ssl hc hs] at hsubject
  obtain rfl := Option.some.inj hsubject
  exact h ⟨hs, ⟨certificate, hc, hnew⟩, hrest⟩

end Store

/-! ## What a call leaves on disk -/

/-- The new key is in place. -/
def withKey (L : Layout) (now : Int) (keyPem : Octets) (d : CertDisk) : CertDisk :=
  Function.update d L.pendingPrivateKeyPath (some ⟨keyPem, now, true⟩)

/-- The new key and its request are in place. -/
def withKeyAndRequest (L : Layout) (now : Int) (keyPem csrPem : Octets) (csrPath : String)
    (d : CertDisk) : CertDisk :=
  Function.update (withKey L now keyPem d) csrPath (some ⟨csrPem, now, false⟩)

/-! ## The moments of a call -/

/-- The rename of the new request succeeds. -/
def ReplacesRequest (L : Layout) (e : Faults String DiskFile) : Prop :=
  ∀ csrPath ∈ L.paths L.csrInstance, e.rename (tempPath csrPath) csrPath = true

/-- The moment from which on the new key is in place: each of the two temp files takes six, the look
and the rename one each. -/
def keyMoment : Nat := 14

/-- The moment from which on the new request is in place. -/
def requestMoment : Nat := 17

/-- The last part of `installKeyAndCsr`: the two renames. -/
def replaceKeyAndCsr (L : Layout) (csrPath : String) : CertAction (Except String Unit) := do
  match ← replaceWithTemp L.pendingPrivateKeyPath with
  | .error reason =>
    remove (tempPath L.pendingPrivateKeyPath)
    remove (tempPath csrPath)
    return .error reason
  | .ok () => replaceWithTemp csrPath

section
variable {e : Faults String DiskFile} {d : CertDisk}

/-- Both temp files are written: what is left are the renames. -/
theorem installKeyAndCsr_run {csrPath : String} (hpath : L.paths L.csrInstance = some csrPath)
    (hkey : e.write (tempPath L.pendingPrivateKeyPath) = true)
    (hcsr : e.write (tempPath csrPath) = true) (now : Int) (keyPem csrPem : Octets) :
    ∃ (d₂ : CertDisk) (before : List CertDisk), before.length = 12 ∧
      (∀ d' ∈ before, Agree L.IsFile d d') ∧ Agree L.IsFile d d₂ ∧
      d₂ (tempPath L.pendingPrivateKeyPath) = some ⟨keyPem, now, true⟩ ∧
      d₂ (tempPath csrPath) = some ⟨csrPem, now, false⟩ ∧
      installKeyAndCsr L now csrPath keyPem csrPem e d =
        ⟨(replaceKeyAndCsr L csrPath e d₂).value, (replaceKeyAndCsr L csrPath e d₂).disk,
          before ++ (replaceKeyAndCsr L csrPath e d₂).moments⟩ := by
  have hne : tempPath L.pendingPrivateKeyPath ≠ tempPath csrPath := fun h =>
    L.paths_ne_pending hpath (tempPath_inj.1 h).symm
  have hspare₁ := spares_writeTempFile (Layout.not_isFile_tempPath L.isFile_pending) now
      keyPem true e d
  obtain ⟨hvalue₁, hdisk₁⟩ := writeTempFile_ok (d := d) hkey now keyPem true
  have hlength₁ := length_moments_writeTempFile (d := d) hkey now keyPem true
  generalize hd₁ : (writeTempFile now L.pendingPrivateKeyPath keyPem true e d).disk = d₁ at *
  have hspare₂ := spares_writeTempFile (Layout.not_isFile_tempPath (Layout.isFile_of_paths hpath))
    now csrPem false e d₁
  obtain ⟨hvalue₂, hdisk₂⟩ := writeTempFile_ok (d := d₁) hcsr now csrPem false
  have hlength₂ := length_moments_writeTempFile (d := d₁) hcsr now csrPem false
  generalize hd₂ : (writeTempFile now csrPath csrPem false e d₁).disk = d₂ at *
  have hagree₁ : Agree L.IsFile d d₁ := hd₁ ▸ hspare₁.2
  have hagree₂ : Agree L.IsFile d₁ d₂ := hd₂ ▸ hspare₂.2
  refine ⟨d₂, (writeTempFile now L.pendingPrivateKeyPath keyPem true e d).moments ++
    (writeTempFile now csrPath csrPem false e d₁).moments, ?_, ?_, hagree₁.trans hagree₂, ?_, ?_,
      ?_⟩
  · rw [List.length_append, hlength₁, hlength₂]
  · intro d' hd'
    rcases List.mem_append.1 hd' with hd' | hd'
    · exact hspare₁.1 d' hd'
    · exact hagree₁.trans (hspare₂.1 d' hd')
  · rw [hdisk₂, Function.update_of_ne hne, hdisk₁, Function.update_self]
  · rw [hdisk₂, Function.update_self]
  · simp only [installKeyAndCsr, bind_run, hvalue₁, hd₁, hvalue₂, hd₂, List.append_assoc]
    rfl

/-- How the two renames can go once the first one succeeds: the value, and the files at the end. -/
def RenamesEnd (L : Layout) (now : Int) (keyPem csrPem : Octets) (csrPath : String) (d : CertDisk)
    (e : Faults String DiskFile) (value : Except String Unit) (d' : CertDisk) : Prop :=
  if e.rename (tempPath csrPath) csrPath = true then
    value = .ok () ∧ Agree L.IsFile (withKeyAndRequest L now keyPem csrPem csrPath d) d'
  else (∃ reason, value = .error reason) ∧ Agree L.IsFile (withKey L now keyPem d) d'

/-- The two renames, when the first one succeeds: the old files, three moments with the new key, and
then what the second rename leaves. -/
theorem replaceKeyAndCsr_run {now : Int} {csrPath : String} {keyPem csrPem : Octets} {d₂ : CertDisk}
    (hpath : L.paths L.csrInstance = some csrPath) (hagree : Agree L.IsFile d d₂)
    (hkey : d₂ (tempPath L.pendingPrivateKeyPath) = some ⟨keyPem, now, true⟩)
    (hcsr : d₂ (tempPath csrPath) = some ⟨csrPem, now, false⟩)
    (hrename : e.rename (tempPath L.pendingPrivateKeyPath) L.pendingPrivateKeyPath = true) :
    ∃ d₃ after, Agree L.IsFile (withKey L now keyPem d) d₃ ∧
      (replaceKeyAndCsr L csrPath e d₂).moments = d₂ :: [d₃, d₃, d₃] ++ after ∧
      ∀ d' ∈ (replaceKeyAndCsr L csrPath e d₂).disk :: after,
        RenamesEnd L now keyPem csrPem csrPath d e (replaceKeyAndCsr L csrPath e d₂).value d' := by
  have hne : tempPath L.pendingPrivateKeyPath ≠ tempPath csrPath := fun h =>
    L.paths_ne_pending hpath (tempPath_inj.1 h).symm
  obtain ⟨hvalue₃, hdisk₃, -⟩ := replaceWithTemp_ok hkey hrename
  have hmoments₃ := moments_replaceWithTemp hkey hrename
  generalize hd₃ : (replaceWithTemp L.pendingPrivateKeyPath e d₂).disk = d₃ at *
  have hagree₃ : Agree L.IsFile (withKey L now keyPem d) d₃ := by
    intro p hp
    have htemp : p ≠ tempPath L.pendingPrivateKeyPath := fun h =>
      Layout.not_isFile_tempPath L.isFile_pending (h ▸ hp)
    rw [hdisk₃, withKey]
    by_cases hpending : p = L.pendingPrivateKeyPath
    · rw [hpending, Function.update_self, Function.update_self]
    · rw [Function.update_of_ne hpending, Function.update_of_ne hpending,
        Function.update_of_ne htemp, hagree p hp]
  have htemp₃ : d₃ (tempPath csrPath) = some ⟨csrPem, now, false⟩ := by
    have hpending : tempPath csrPath ≠ L.pendingPrivateKeyPath := fun h =>
      Layout.not_isFile_tempPath (Layout.isFile_of_paths hpath) (h ▸ L.isFile_pending)
    rw [hdisk₃, Function.update_of_ne hpending, Function.update_of_ne hne.symm, hcsr]
  have hrun : replaceKeyAndCsr L csrPath e d₂ = ⟨(replaceWithTemp csrPath e d₃).value,
      (replaceWithTemp csrPath e d₃).disk,
      [d₂, d₃, d₃] ++ (replaceWithTemp csrPath e d₃).moments⟩ := by
    simp only [replaceKeyAndCsr, bind_run, hvalue₃, hd₃, hmoments₃]
  rw [hrun]
  cases hr : e.rename (tempPath csrPath) csrPath with
  | false =>
    obtain ⟨hvalue, hdisk, -⟩ := replaceWithTemp_fail (d := d₃) hr
    refine ⟨d₃, [d₃], hagree₃, ?_, ?_⟩
    · rw [moments_replaceWithTemp_fail hr]
      rfl
    · intro d' hd'
      have hd' : d' = d₃ := by simpa [hdisk] using hd'
      rw [RenamesEnd, hr, if_neg Bool.false_ne_true, hd']
      exact ⟨hvalue, hagree₃⟩
  | true =>
    obtain ⟨hvalue, hdisk, -⟩ := replaceWithTemp_ok htemp₃ hr
    refine ⟨d₃, [(replaceWithTemp csrPath e d₃).disk, (replaceWithTemp csrPath e d₃).disk], hagree₃,
      ?_, ?_⟩
    · rw [moments_replaceWithTemp htemp₃ hr]
      rfl
    · intro d' hd'
      have hd' : d' = (replaceWithTemp csrPath e d₃).disk := by simpa using hd'
      rw [RenamesEnd, hr, if_pos rfl, hd', hdisk]
      refine ⟨hvalue, fun p hp => ?_⟩
      have htemp : p ≠ tempPath csrPath := fun h =>
        Layout.not_isFile_tempPath (Layout.isFile_of_paths hpath) (h ▸ hp)
      by_cases hcsrPath : p = csrPath
      · rw [hcsrPath, Function.update_self, withKeyAndRequest, Function.update_self]
      · rw [withKeyAndRequest, Function.update_of_ne hcsrPath, Function.update_of_ne hcsrPath,
          Function.update_of_ne htemp, hagree₃ p hp]

/-- **The moments of a call that replaces the pending key**: the old files, three moments with the
new key, and then what the second rename leaves. -/
theorem replaces_run {s : Store L} {seed : Nat} (now : Int)
    (h : s.ReplacesPendingKey ssl d seed e) :
    ∃ csrPath keyPem csrPem certificate before d₃ after, L.paths L.csrInstance = some csrPath ∧
      ssl.newKeyAndRequest seed certificate = some (keyPem, csrPem) ∧
      (s.generateKeyAndCsr ssl now seed e d).moments = before ++ [d₃, d₃, d₃] ++ after ∧
      before.length = keyMoment ∧ (∀ d' ∈ before, Agree L.IsFile d d') ∧
      Agree L.IsFile (withKey L now keyPem d) d₃ ∧
      ∀ d' ∈ (s.generateKeyAndCsr ssl now seed e d).disk :: after,
        RenamesEnd L now keyPem csrPem csrPath d e (s.generateKeyAndCsr ssl now seed e d).value
          d' := by
  obtain ⟨hs, hne, ⟨certificate, hfirst, hnew⟩, ⟨csrPath, hpath, hcsr⟩, hkey, hrename⟩ := h
  obtain ⟨⟨keyPem, csrPem⟩, hnew⟩ := Option.isSome_iff_exists.1 hnew
  have hparse : ∃ intermediates, parseCertificates ssl (s.effective d L.operationalInstance) =
      .ok (certificate :: intermediates) := by
    unfold firstCertificate at hfirst
    split at hfirst
    · rename_i first intermediates hparse
      cases hfirst
      exact ⟨intermediates, hparse⟩
    · cases hfirst
  obtain ⟨intermediates, hparse⟩ := hparse
  obtain ⟨d₂, before, hlength, hbefore, hagree, htempKey, htempCsr, hinstall⟩ :=
    installKeyAndCsr_run (d := d) hpath hkey hcsr now keyPem csrPem
  obtain ⟨d₃, after, hd₃, hmoments, hafter⟩ :=
    replaceKeyAndCsr_run hpath hagree htempKey htempCsr hrename
  have hrun : s.generateKeyAndCsr ssl now seed e d =
      ⟨(replaceKeyAndCsr L csrPath e d₂).value, (replaceKeyAndCsr L csrPath e d₂).disk,
        (d :: before ++ [d₂]) ++ [d₃, d₃, d₃] ++ after⟩ := by
    have hfilter : ((L.paths L.csrInstance).filter fun _ => L.pendingPrivateKeyPath ≠ "") =
        some csrPath := by
      rw [hpath]
      simp [hne]
    unfold Store.generateKeyAndCsr
    rw [hs, if_neg Bool.false_ne_true, hfilter]
    simp only [bind_run, look_run, hparse, hnew, hinstall, hmoments]
    simp
  rw [hrun]
  refine ⟨csrPath, keyPem, csrPem, certificate, d :: before ++ [d₂], d₃, after, hpath,
    hnew, rfl, ?_, ?_, hd₃, hafter⟩
  · rw [List.length_append, List.length_cons, hlength]
    rfl
  · intro d' hd'
    rcases List.mem_append.1 hd' with hd' | hd'
    · rcases List.mem_cons.1 hd' with rfl | hd'
      · exact Agree.refl L.IsFile d'
      · exact hbefore d' hd'
    · rw [List.mem_singleton.1 hd']
      exact hagree

end

/-- Where a moment of such a call lies. -/
theorem getD_append_three {before after : List CertDisk} {d last : CertDisk} (moment : Nat) :
    (moment < before.length → (before ++ [d, d, d] ++ after).getD moment last ∈ before) ∧
      (before.length ≤ moment → moment < before.length + 3 →
        (before ++ [d, d, d] ++ after).getD moment last = d) ∧
      (before.length + 3 ≤ moment → (before ++ [d, d, d] ++ after).getD moment last ∈
        last :: after) := by
  rw [List.getD_eq_getElem?_getD, List.append_assoc]
  refine ⟨fun h => ?_, fun hle hlt => ?_, fun hle => ?_⟩
  · rw [List.getElem?_append_left h, List.getElem?_eq_getElem h]
    exact List.getElem_mem h
  · obtain ⟨k, rfl⟩ := Nat.exists_eq_add_of_le hle
    rw [List.getElem?_append_right hle, Nat.add_sub_cancel_left]
    match k, hlt with
    | 0, _ => rfl
    | 1, _ => rfl
    | 2, _ => rfl
    | k + 3, hlt => omega
  · obtain ⟨k, rfl⟩ := Nat.exists_eq_add_of_le hle
    have hrest : ([d, d, d] ++ after)[3 + k]? = after[k]? := by
      rw [List.getElem?_append_right (Nat.le_add_right 3 k)]
      exact congrArg (after[·]?) (Nat.add_sub_cancel_left 3 k)
    rw [List.getElem?_append_right (by omega), Nat.add_assoc, Nat.add_sub_cancel_left, hrest]
    cases hk : after[k]? with
    | none => exact List.mem_cons_self
    | some d' => exact List.mem_cons_of_mem _ (List.mem_of_getElem? hk)

end BacnetBc
