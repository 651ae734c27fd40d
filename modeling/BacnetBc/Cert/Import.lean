import BacnetBc.Cert.EnsureRequest
import BacnetBc.Cert.Keys
import BacnetBc.Cert.Request
import BacnetBc.Cert.Response

/-!
# Installing a response

`ImportCariResponse` overwrites three files in place, one after the other: the operational
certificate and the two issuer certificates. A response with one issuer fills both. What happens to
a write is left to `Faults`, and the process may stop at any moment, so the three files may be a mix
of old and new ones, and any of them cut short.

**Theorem (`import_again`).** Whatever earlier imports did to the three files, of whatever responses
and wherever they failed or stopped, one more of an accepted response, in which no write fails,
leaves the disk as if there had been none of them.

**Theorem (`matched_after_import`).** If the request on disk is for one of the two keys there, a
call that returns true and in which no write fails, and a start-up whose `ReconcilePendingKey`
returns true after it, leave a private key that is the key of the operational certificate.
-/

namespace BacnetBc.CertTool

open Cari FaultyDisk Memory

/-! ## An import -/

/-- One start of the program with `--import-cari`. -/
structure ImportCall (X509 Key : Type) where
  faults : Faults String DiskFile
  /-- The entries of `cert1/` as they are enumerated, if it is a directory. -/
  cert1 : Option (List DirEntry)
  now : Int
  zipPath : String
  /-- OpenSSL, at the time of the call. -/
  ssl : ResponseSsl X509 Key

variable {X509 Key : Type} (zlib : Zlib) (certDir : String) (deviceInstance : UInt32)

def ImportCall.paths (call : ImportCall X509 Key) (d : CertDisk) : NodeSetPaths :=
  (resolveNodeCertPaths certDir (fun path => (d path).isSome) call.cert1
    deviceInstance).toNodeSetPaths

/-- The last part of `ImportCariResponse`: the three files. -/
def installResponse (now : Int) (paths : NodeSetPaths) (files : ResponseFiles) :
    Action String DiskFile (Access Bool) :=
  match read files.issuers 0 with
  | .error fault => pure (.error fault)
  | .ok issuer => do
    let operationalWritten ←
      writeFile now paths.operationalCertificate files.operationalCertificate false
    if operationalWritten then
      let issuerWritten ← writeFile now paths.issuerCertificate1 issuer false
      if issuerWritten then
        -- one issuer fills both slots
        let written ←
          writeFile now paths.issuerCertificate2 (files.issuers[1]?.getD issuer) false
        return .ok written
      else return .ok false
    else return .ok false

/-- `ImportCariResponse`. -/
def importCariResponse (call : ImportCall X509 Key) : Action String DiskFile (Access Bool) := do
  let d ← look
  let paths := call.paths certDir deviceInstance d
  match readDisk d call.zipPath with
  | none => return .ok false
  | some bytes =>
    match readCariResponse call.ssl zlib paths d bytes with
    | .error fault => return .error fault
    | .ok (.error _) => return .ok false
    | .ok (.ok files) => installResponse call.now paths files

/-- The disk that an import leaves, when the process stops at a moment or not at all. -/
def afterImport (d : CertDisk) (call : ImportCall X509 Key × Option Nat) : CertDisk :=
  let o := importCariResponse zlib certDir deviceInstance call.1 call.1.faults d
  match call.2 with
  | none => o.disk
  | some moment => o.moments.getD moment o.disk

/-- The disk after a run of imports. -/
def afterImports (calls : List (ImportCall X509 Key × Option Nat)) (d : CertDisk) : CertDisk :=
  calls.foldl (afterImport zlib certDir deviceInstance) d

/-! ## What an import touches -/

/-- The files that are written. -/
def IsInstalled (paths : NodeSetPaths) (p : String) : Prop :=
  p = paths.operationalCertificate ∨ p = paths.issuerCertificate1 ∨ p = paths.issuerCertificate2

/-- What imports into the folder of `paths` can have done to a disk. -/
structure Imported (paths : NodeSetPaths) (d d' : CertDisk) : Prop where
  spared : Agree (fun p => ¬ IsInstalled paths p) d d'
  kept : ∀ p, (d p).isSome → (d' p).isSome
  /-- Without a request no response is accepted. -/
  requested : d paths.certificateSigningRequest = none → d' = d

section
variable {certDir deviceInstance} {paths : NodeSetPaths} {d d' d'' : CertDisk}

theorem Imported.refl (paths : NodeSetPaths) (d : CertDisk) : Imported paths d d :=
  ⟨Agree.refl _ d, fun _ h => h, fun _ => rfl⟩

theorem Imported.trans (h : Imported paths d d') (h' : Imported paths d' d'') :
    Imported paths d d'' := by
  refine ⟨h.spared.trans h'.spared, fun p hp => h'.kept p (h.kept p hp), fun hcsr => ?_⟩
  have heq := h.requested hcsr
  subst heq
  exact h'.requested hcsr

theorem Imported.update (h : Imported paths d d') (hcsr : d paths.certificateSigningRequest ≠ none)
    {p : String} (hp : IsInstalled paths p) (file : DiskFile) :
    Imported paths d (Function.update d' p (some file)) where
  spared q hq := by
    have hne : q ≠ p := fun heq => hq (heq ▸ hp)
    rw [Function.update_of_ne hne]
    exact h.spared q hq
  kept q hq := by
    by_cases heq : q = p
    · rw [heq, Function.update_self]
      rfl
    · rw [Function.update_of_ne heq]
      exact h.kept q hq
  requested hnone := absurd hnone hcsr

theorem Imported.throughout_installResponse (e : Faults String DiskFile)
    (h : Imported paths d d') (hcsr : d paths.certificateSigningRequest ≠ none) (now : Int)
    (files : ResponseFiles) :
    Throughout (Imported paths d) (installResponse now paths files e d') := by
  have hwrite {p : String} (hp : IsInstalled paths p) (bytes : Octets) {d'' : CertDisk}
      (h : Imported paths d d'') :
      Throughout (Imported paths d) (writeFile now p bytes false e d'') :=
    throughout_writeFile e bytes now false h fun file _ => h.update hcsr hp file
  unfold installResponse
  cases read files.issuers 0 with
  | error fault => exact .pure h _
  | ok issuer =>
    have hoperational := hwrite (.inl rfl) files.operationalCertificate h
    refine .bind hoperational ?_
    cases (writeFile now paths.operationalCertificate files.operationalCertificate false e d').value
      with
    | false => exact .pure hoperational.2 _
    | true =>
      have hissuer := hwrite (.inr (.inl rfl)) issuer hoperational.2
      refine .bind hissuer ?_
      generalize (writeFile now paths.issuerCertificate1 issuer false e _).value = issuerWritten
      cases issuerWritten with
      | false => exact .pure hissuer.2 _
      | true =>
        have hsecond := hwrite (.inr (.inr rfl)) (files.issuers[1]?.getD issuer) hissuer.2
        exact .bind hsecond (.pure hsecond.2 _)

/-- What an accepted response was read from. -/
theorem readCariResponse_eq_ok {ssl : ResponseSsl X509 Key} {zip : Octets} {out : ResponseFiles}
    (h : readCariResponse ssl zlib paths d zip = .ok (.ok out)) :
    ∃ tree csr csrKey, readZip zlib zip = .ok (tree, .ok ()) ∧
      readDisk d paths.certificateSigningRequest = some csr ∧ ssl.requestKey csr = some csrKey ∧
      acceptResponse ssl paths tree csrKey = .ok out := by
  unfold readCariResponse at h
  cases hzip : readZip zlib zip with
  | error fault =>
    rw [hzip] at h
    cases h
  | ok read =>
    obtain ⟨tree, result⟩ := read
    rw [hzip, ok_bind] at h
    cases result with
    | error error => cases h
    | ok =>
      dsimp only at h
      cases hcsr : readDisk d paths.certificateSigningRequest with
      | none =>
        rw [hcsr] at h
        cases h
      | some csr =>
        rw [hcsr] at h
        dsimp only at h
        cases hkey : ssl.requestKey csr with
        | none =>
          rw [hkey] at h
          cases h
        | some csrKey =>
          rw [hkey] at h
          exact ⟨tree, csr, csrKey, rfl, rfl, hkey, Except.ok.inj h⟩

theorem request_of_accepted {ssl : ResponseSsl X509 Key} {zip : Octets} {out : ResponseFiles}
    (h : readCariResponse ssl zlib paths d zip = .ok (.ok out)) :
    d paths.certificateSigningRequest ≠ none := by
  obtain ⟨tree, csr, csrKey, -, hcsr, -⟩ := readCariResponse_eq_ok zlib h
  intro hnone
  rw [readDisk, hnone] at hcsr
  cases hcsr

variable {zlib}

/-- **An import touches only the three files of its folder, and only with a request there.** -/
theorem Imported.throughout_import (call : ImportCall X509 Key) (e : Faults String DiskFile)
    (hpaths : call.paths certDir deviceInstance d = paths) :
    Throughout (Imported paths d) (importCariResponse zlib certDir deviceInstance call e d) := by
  unfold importCariResponse
  refine .bind (.look (.refl paths d)) ?_
  rw [look_run]
  dsimp only
  rw [hpaths]
  cases readDisk d call.zipPath with
  | none => exact .pure (.refl paths d) _
  | some bytes =>
    dsimp only
    cases hread : readCariResponse call.ssl zlib paths d bytes with
    | error fault => exact .pure (.refl paths d) _
    | ok result =>
      cases result with
      | error why => exact .pure (.refl paths d) _
      | ok files =>
        exact (Imported.refl paths d).throughout_installResponse e
          (request_of_accepted zlib hread) call.now files

theorem Imported.afterImport (call : ImportCall X509 Key × Option Nat)
    (hpaths : call.1.paths certDir deviceInstance d = paths) :
    Imported paths d (afterImport zlib certDir deviceInstance d call) := by
  have hthroughout : Throughout (Imported paths d)
      (importCariResponse zlib certDir deviceInstance call.1 call.1.faults d) :=
    throughout_import call.1 call.1.faults hpaths
  unfold CertTool.afterImport
  cases call.2 with
  | none => exact hthroughout.2
  | some moment => exact hthroughout.stop moment

end

/-! ## The folder that is found -/

section
variable {certDir : String} {deviceInstance : UInt32} {d d' : CertDisk}

variable {portFolder : String} {folderDeviceInstance : UInt32}

/-- Which of a folder's files can be one of the three. -/
theorem isInstalled_path {portFolder' : String} {f : CertFile}
    (h : IsInstalled (fillNodeSet certDir portFolder folderDeviceInstance)
      (f.path (fillCari certDir portFolder'))) :
    f = .operationalCertificate ∧ portFolder' = portFolder ∨
      f = .issuerCertificate1 ∨ f = .issuerCertificate2 := by
  obtain h | h | h := h
  · obtain rfl := file_eq_of_path_eq (g := .operationalCertificate) h
    refine .inl ⟨rfl, ?_⟩
    exact (String.append_left_inj _).1 (join_inj h)
  · have h : f.path (fillCari certDir portFolder') =
        CertFile.issuerCertificate1.path (fillCari certDir portFolder) := h
    exact .inr (.inl (file_eq_of_path_eq h))
  · have h : f.path (fillCari certDir portFolder') =
        CertFile.issuerCertificate2.path (fillCari certDir portFolder) := h
    exact .inr (.inr (file_eq_of_path_eq h))

/-- A folder in which a file of this node is found still has one, and no other gets one. -/
theorem Imported.nodePort_eq
    (h : Imported (fillNodeSet certDir portFolder folderDeviceInstance) d d') (entry : DirEntry) :
    nodePort certDir (fun path => (d' path).isSome) entry =
      nodePort certDir (fun path => (d path).isSome) entry := by
  by_cases hnone : d (fillCari certDir portFolder).certificateSigningRequest = none
  · rw [h.requested hnone]
  set found := fillCari certDir (portFolderOf entry.name) with hfound
  have hspared (f : CertFile) (hf : f = .privateKey ∨ f = .certificateSigningRequest) :
      d' (f.path found) = d (f.path found) := by
    refine h.spared _ fun hinstalled => ?_
    obtain ⟨rfl, -⟩ | rfl | rfl := isInstalled_path hinstalled <;> simp at hf
  have hkey : d' found.privateKey = d found.privateKey := hspared .privateKey (.inl rfl)
  have hcsr : d' found.certificateSigningRequest = d found.certificateSigningRequest :=
    hspared .certificateSigningRequest (.inr rfl)
  have hnode : ((d found.certificateSigningRequest).isSome ||
      (d' found.operationalCertificate).isSome) =
        ((d found.certificateSigningRequest).isSome ||
          (d found.operationalCertificate).isSome) := by
    by_cases hinstalled : IsInstalled (fillNodeSet certDir portFolder folderDeviceInstance)
        (CertFile.operationalCertificate.path found)
    · -- the response has been installed here, so the request is here
      obtain ⟨-, hfolder⟩ | hissuer | hissuer := isInstalled_path hinstalled
      · have hrequest : (d found.certificateSigningRequest).isSome = true := by
          rw [hfound, hfolder]
          exact Option.isSome_iff_ne_none.2 hnone
        rw [hrequest, Bool.true_or, Bool.true_or]
      · cases hissuer
      · cases hissuer
    · have hsame : d' found.operationalCertificate = d found.operationalCertificate :=
        h.spared _ hinstalled
      rw [hsame]
  unfold nodePort
  dsimp only
  rw [← hfound, Bool.or_assoc, Bool.or_assoc, hkey, hcsr, hnode]

theorem Imported.paths_eq
    (h : Imported (fillNodeSet certDir portFolder folderDeviceInstance) d d')
    (call : ImportCall X509 Key) :
    call.paths certDir deviceInstance d' = call.paths certDir deviceInstance d := by
  have hfind (entries : List DirEntry) :
      findNodePorts certDir (fun path => (d' path).isSome) entries =
        findNodePorts certDir (fun path => (d path).isSome) entries :=
    List.filterMap_congr fun entry _ => h.nodePort_eq entry
  unfold ImportCall.paths resolveNodeCertPaths
  simp only [hfind]

theorem exists_paths (call : ImportCall X509 Key) (certDir : String) (deviceInstance : UInt32)
    (d : CertDisk) : ∃ portFolder folderDeviceInstance,
      call.paths certDir deviceInstance d =
        fillNodeSet certDir portFolder folderDeviceInstance := by
  unfold ImportCall.paths resolveNodeCertPaths
  split
  · exact ⟨_, _, rfl⟩
  · dsimp only
    split
    · exact ⟨_, _, rfl⟩
    · exact ⟨_, _, rfl⟩

end

/-! ## Runs of imports -/

section
variable {zlib : Zlib} {certDir : String} {deviceInstance : UInt32} {d d' : CertDisk}

theorem Imported.afterImports {paths : NodeSetPaths}
    {calls : List (ImportCall X509 Key × Option Nat)}
    (hsame : ∀ call ∈ calls, call.1.paths certDir deviceInstance d = paths)
    (hpaths : ∃ portFolder folderDeviceInstance,
      paths = fillNodeSet certDir portFolder folderDeviceInstance)
    (h : Imported paths d d') :
    Imported paths d (afterImports zlib certDir deviceInstance calls d') := by
  obtain ⟨portFolder, folderDeviceInstance, rfl⟩ := hpaths
  induction calls generalizing d' with
  | nil => exact h
  | cons call calls ih =>
    obtain ⟨hcall, hcalls⟩ := List.forall_mem_cons.1 hsame
    refine ih hcalls (h.trans ?_)
    exact Imported.afterImport call ((h.paths_eq call.1).trans hcall)

/-- The three files of a response. -/
def withResponse (now : Int) (paths : NodeSetPaths) (files : ResponseFiles) (issuer : Octets)
    (d : CertDisk) : CertDisk :=
  Function.update
    (Function.update
      (Function.update d paths.operationalCertificate
        (some ⟨files.operationalCertificate, now, false⟩))
      paths.issuerCertificate1 (some ⟨issuer, now, false⟩))
    paths.issuerCertificate2 (some ⟨files.issuers[1]?.getD issuer, now, false⟩)

theorem withResponse_of_agree {now : Int} {paths : NodeSetPaths} {files : ResponseFiles}
    {issuer : Octets} (h : Agree (fun p => ¬ IsInstalled paths p) d d') :
    withResponse now paths files issuer d' = withResponse now paths files issuer d := by
  funext p
  unfold withResponse
  by_cases h2 : p = paths.issuerCertificate2
  · rw [h2, Function.update_self, Function.update_self]
  rw [Function.update_of_ne h2, Function.update_of_ne h2]
  by_cases h1 : p = paths.issuerCertificate1
  · rw [h1, Function.update_self, Function.update_self]
  rw [Function.update_of_ne h1, Function.update_of_ne h1]
  by_cases h0 : p = paths.operationalCertificate
  · rw [h0, Function.update_self, Function.update_self]
  rw [Function.update_of_ne h0, Function.update_of_ne h0]
  exact h p fun hp => by rcases hp with hp | hp | hp <;> contradiction

/-- No write of the three files fails. -/
def NoneFails (paths : NodeSetPaths) (e : Faults String DiskFile) : Prop :=
  ∀ p, IsInstalled paths p → e.write p = true

theorem installResponse_run {paths : NodeSetPaths} {e : Faults String DiskFile}
    (he : NoneFails paths e) {files : ResponseFiles} {issuer : Octets}
    (hissuer : read files.issuers 0 = .ok issuer) (now : Int) (d : CertDisk) :
    (installResponse now paths files e d).value = .ok true ∧
      (installResponse now paths files e d).disk = withResponse now paths files issuer d := by
  have hoperational := writeFile_run_ok (d := d) (he _ (.inl rfl)) now
    files.operationalCertificate false
  unfold installResponse withResponse
  rw [hissuer]
  simp only [bind_value, bind_disk, hoperational.1, hoperational.2, if_true,
    (writeFile_run_ok (he _ (.inr (.inl rfl))) now issuer false).1,
    (writeFile_run_ok (he _ (.inr (.inl rfl))) now issuer false).2,
    (writeFile_run_ok (he _ (.inr (.inr rfl))) now (files.issuers[1]?.getD issuer) false).1,
    (writeFile_run_ok (he _ (.inr (.inr rfl))) now (files.issuers[1]?.getD issuer) false).2]
  exact ⟨rfl, rfl⟩

/-- The call reads a response and accepts it. -/
structure Accepts (zlib : Zlib) (call : ImportCall X509 Key) (paths : NodeSetPaths) (d : CertDisk)
    (files : ResponseFiles) (issuer : Octets) : Prop where
  zip : ∃ bytes, readDisk d call.zipPath = some bytes ∧
    readCariResponse call.ssl zlib paths d bytes = .ok (.ok files)
  issuer : read files.issuers 0 = .ok issuer

variable {call : ImportCall X509 Key} {paths : NodeSetPaths} {files : ResponseFiles}
  {issuer : Octets}

theorem exists_accepts (hpaths : call.paths certDir deviceInstance d = paths)
    (e : Faults String DiskFile)
    (h : (importCariResponse zlib certDir deviceInstance call e d).value = .ok true) :
    ∃ files issuer, Accepts zlib call paths d files issuer := by
  unfold importCariResponse at h
  rw [bind_value, look_run] at h
  dsimp only at h
  rw [hpaths] at h
  cases hzip : readDisk d call.zipPath with
  | none =>
    rw [hzip] at h
    cases h
  | some bytes =>
    rw [hzip] at h
    dsimp only at h
    cases hread : readCariResponse call.ssl zlib paths d bytes with
    | error fault =>
      rw [hread] at h
      cases h
    | ok result =>
      cases result with
      | error why =>
        rw [hread] at h
        cases h
      | ok files =>
        rw [hread] at h
        dsimp only at h
        cases hissuer : read files.issuers 0 with
        | error fault =>
          rw [installResponse, hissuer] at h
          cases h
        | ok issuer => exact ⟨files, issuer, ⟨bytes, hzip, hread⟩, hissuer⟩

theorem Accepts.run (h : Accepts zlib call paths d files issuer)
    (hpaths : call.paths certDir deviceInstance d = paths) {e : Faults String DiskFile}
    (he : NoneFails paths e) :
    (importCariResponse zlib certDir deviceInstance call e d).value = .ok true ∧
      (importCariResponse zlib certDir deviceInstance call e d).disk =
        withResponse call.now paths files issuer d := by
  obtain ⟨bytes, hzip, hread⟩ := h.zip
  unfold importCariResponse
  rw [bind_value, bind_disk, look_run]
  dsimp only
  rw [hpaths, hzip]
  dsimp only
  rw [hread]
  exact installResponse_run he h.issuer call.now d

/-- Earlier imports take nothing away that a response is read from. -/
theorem Accepts.imported (h : Accepts zlib call paths d files issuer)
    (hpaths : ∃ portFolder folderDeviceInstance,
      paths = fillNodeSet certDir portFolder folderDeviceInstance)
    (hzipPath : ¬ IsInstalled paths call.zipPath) (hd : Imported paths d d') :
    Accepts zlib call paths d' files issuer := by
  obtain ⟨portFolder, folderDeviceInstance, rfl⟩ := hpaths
  obtain ⟨bytes, hzip, hread⟩ := h.zip
  refine ⟨⟨bytes, ?_, ?_⟩, h.issuer⟩
  · rw [readDisk, hd.spared _ hzipPath]
    exact hzip
  · have hcsr : readDisk d' (fillNodeSet certDir portFolder
          folderDeviceInstance).certificateSigningRequest =
        readDisk d (fillNodeSet certDir portFolder
          folderDeviceInstance).certificateSigningRequest := by
      rw [readDisk, readDisk, hd.spared _ fun hinstalled => ?_]
      have := isInstalled_path (f := .certificateSigningRequest) hinstalled
      simp at this
    unfold readCariResponse at hread ⊢
    rw [hcsr]
    exact hread

/-- **An import again is as good as the first one.** -/
theorem import_again {calls : List (ImportCall X509 Key × Option Nat)}
    (hsame : ∀ earlier ∈ calls, earlier.1.paths certDir deviceInstance d =
      call.paths certDir deviceInstance d)
    (hzipPath : ¬ IsInstalled (call.paths certDir deviceInstance d) call.zipPath)
    (he : NoneFails (call.paths certDir deviceInstance d) call.faults)
    (haccepted : (importCariResponse zlib certDir deviceInstance call call.faults d).value =
      .ok true) :
    (importCariResponse zlib certDir deviceInstance call call.faults
        (afterImports zlib certDir deviceInstance calls d)).value = .ok true ∧
      afterImports zlib certDir deviceInstance (calls ++ [(call, none)]) d =
        afterImport zlib certDir deviceInstance d (call, none) := by
  obtain ⟨portFolder, folderDeviceInstance, hfolder⟩ := exists_paths call certDir deviceInstance d
  obtain ⟨files, issuer, haccepts⟩ := exists_accepts rfl call.faults haccepted
  have himported : Imported (call.paths certDir deviceInstance d) d
      (afterImports zlib certDir deviceInstance calls d) :=
    Imported.afterImports hsame ⟨portFolder, folderDeviceInstance, hfolder⟩ (.refl _ d)
  have hpaths : call.paths certDir deviceInstance (afterImports zlib certDir deviceInstance calls d)
      = call.paths certDir deviceInstance d := by
    rw [hfolder] at himported
    exact himported.paths_eq call
  obtain ⟨-, hdisk⟩ := haccepts.run rfl he
  obtain ⟨hvalue, hdisk'⟩ := (haccepts.imported ⟨portFolder, folderDeviceInstance, hfolder⟩ hzipPath
    himported).run hpaths he
  refine ⟨hvalue, ?_⟩
  rw [afterImports, List.foldl_append]
  exact hdisk'.trans ((withResponse_of_agree himported.spared).trans hdisk.symm)

end

/-! ## The key of the installed certificate -/

section
variable {PrivateKey : Type} (ssl : OpenSsl X509 PrivateKey)
  (requestFor : Octets → PrivateKey → Bool)

/-- What the two uses of OpenSSL have to do with each other. -/
structure Agrees (response : ResponseSsl X509 Key) : Prop where
  /-- A certificate that is written is read back. -/
  readBack : ∀ certificate, response.certPem certificate ≠ [] →
    firstCertificate ssl (response.certPem certificate) = some certificate
  /-- The key that a request is for is the private key of the request's public key. -/
  isKeyOf : ∀ csr privateKey key certificate, requestFor csr privateKey = true →
    response.requestKey csr = some key → response.hasPublicKey certificate key = true →
      ssl.checkPrivateKey certificate privateKey = true

variable {ssl requestFor} {zlib : Zlib} {certDir portFolder : String}
  {deviceInstance folderDeviceInstance : UInt32} {d d' : CertDisk}

/-- A file of the folder that is not overwritten. -/
theorem withResponse_of_not_installed {now : Int} {paths : NodeSetPaths} {files : ResponseFiles}
    {issuer : Octets} {p : String} (hp : ¬ IsInstalled paths p) :
    withResponse now paths files issuer d p = d p := by
  unfold withResponse
  rw [Function.update_of_ne fun h => hp (.inr (.inr h)),
    Function.update_of_ne fun h => hp (.inr (.inl h)), Function.update_of_ne fun h => hp (.inl h)]

theorem withResponse_operational {now : Int} {files : ResponseFiles} {issuer : Octets} :
    withResponse now (fillNodeSet certDir portFolder folderDeviceInstance) files issuer d
        (fillCari certDir portFolder).operationalCertificate =
      some ⟨files.operationalCertificate, now, false⟩ := by
  have hne (f : CertFile) (hf : CertFile.operationalCertificate ≠ f) :
      (fillCari certDir portFolder).operationalCertificate ≠ f.path (fillCari certDir portFolder) :=
    fun h => hf (CertFile.path_inj certDir portFolder (f := .operationalCertificate) h)
  have h1 : (fillCari certDir portFolder).operationalCertificate ≠
      (fillCari certDir portFolder).issuerCertificate1 := hne .issuerCertificate1 nofun
  have h2 : (fillCari certDir portFolder).operationalCertificate ≠
      (fillCari certDir portFolder).issuerCertificate2 := hne .issuerCertificate2 nofun
  unfold withResponse fillNodeSet
  dsimp only
  rw [Function.update_of_ne h2, Function.update_of_ne h1, Function.update_self]

/-- What is installed was written by OpenSSL. -/
theorem exists_writeResponse {response : ResponseSsl X509 Key} {paths : NodeSetPaths} {tree : Tree}
    {csrKey : Key} {out : ResponseFiles} (h : acceptResponse response paths tree csrKey = .ok out) :
    ∃ source operational issuers, writeResponse response source operational issuers = .ok out := by
  unfold acceptResponse at h
  dsimp only at h
  split at h
  · cases h
  split at h
  · cases h
  split at h
  · cases h
  split at h
  · cases h
  obtain ⟨signer, others, -, -, -, hwrite⟩ := orderIssuers_sound h
  exact ⟨_, _, _, hwrite⟩

theorem operationalCertificate_ne_nil {response : ResponseSsl X509 Key} {paths : NodeSetPaths}
    {tree : Tree} {csrKey : Key} {out : ResponseFiles}
    (h : acceptResponse response paths tree csrKey = .ok out) :
    out.operationalCertificate ≠ [] := by
  obtain ⟨source, operational, issuers, hwrite⟩ := exists_writeResponse h
  unfold writeResponse at hwrite
  split_ifs at hwrite with _ hempty
  obtain rfl := Except.ok.inj hwrite
  exact hempty

/-- One of the two keys is for the certificate that has been installed. -/
theorem keyHeld_withResponse {call : ImportCall X509 Key} (hagree : Agrees ssl requestFor call.ssl)
    (hkey : HasRequestKey ssl requestFor (prepareLayout certDir portFolder).toLayout d)
    {files : ResponseFiles} {issuer : Octets}
    (h : Accepts zlib call (fillNodeSet certDir portFolder folderDeviceInstance) d files issuer) :
    KeyHeld ssl (prepareLayout certDir portFolder).toLayout
      (withResponse call.now (fillNodeSet certDir portFolder folderDeviceInstance) files issuer
        d) := by
  obtain ⟨bytes, -, hread⟩ := h.zip
  obtain ⟨tree, csr, csrKey, -, hcsr, hrequest, haccept⟩ := readCariResponse_eq_ok zlib hread
  obtain ⟨operational, issuers, haccepted⟩ := acceptResponse_sound haccept
  have hpem := haccepted.certificate
  have hne := operationalCertificate_ne_nil haccept
  rw [hpem] at hne
  refine ⟨operational, ?_, ?_⟩
  · have hpath : (prepareLayout certDir portFolder).paths
        (prepareLayout certDir portFolder).operationalInstance =
          some (fillCari certDir portFolder).operationalCertificate := rfl
    rw [operationalCertificate, hpath, Option.bind_some, readDisk, withResponse_operational,
      Option.map_some, hpem]
    exact hagree.readBack operational hne
  · obtain ⟨csrPath, hpath, file, hfile, hfor⟩ := hkey
    obtain rfl : csrPath = (fillCari certDir portFolder).certificateSigningRequest :=
      (Option.some.inj hpath).symm
    have hsame : file.bytes = csr := by
      rw [readDisk, show d (fillNodeSet certDir portFolder
        folderDeviceInstance).certificateSigningRequest = some file from hfile] at hcsr
      exact Option.some.inj hcsr
    have hchecks {f : CertFile} (hf : f = .privateKey ∨ f = .pendingPrivateKey)
        (hfor : IsRequestKey ssl requestFor d (f.path (fillCari certDir portFolder)) file.bytes) :
        isKeyOf ssl (withResponse call.now (fillNodeSet certDir portFolder folderDeviceInstance)
          files issuer d) (f.path (fillCari certDir portFolder)) operational = true := by
      obtain ⟨key, hload, hfor⟩ := hfor
      have hspared : ¬ IsInstalled (fillNodeSet certDir portFolder folderDeviceInstance)
          (f.path (fillCari certDir portFolder)) := by
        intro hinstalled
        obtain ⟨rfl, -⟩ | rfl | rfl := isInstalled_path hinstalled <;> simp at hf
      rw [loadKey, readDisk] at hload
      rw [isKeyOf, loadKey, readDisk, withResponse_of_not_installed hspared, hload]
      rw [hsame] at hfor
      exact hagree.isKeyOf csr key csrKey operational hfor hrequest haccepted.hasKey
    exact hfor.imp (hchecks (.inl rfl)) (hchecks (.inr rfl))

/-- **A start-up after an import has a matched pair.** -/
theorem matched_after_import {call : ImportCall X509 Key} (hagree : Agrees ssl requestFor call.ssl)
    (hpaths : call.paths certDir deviceInstance d =
      fillNodeSet certDir portFolder folderDeviceInstance)
    (hkey : HasRequestKey ssl requestFor (prepareLayout certDir portFolder).toLayout d)
    (he : NoneFails (call.paths certDir deviceInstance d) call.faults)
    (haccepted : (importCariResponse zlib certDir deviceInstance call call.faults d).value =
      .ok true) (e : Faults String DiskFile)
    (hreconcile : (reconcilePendingKey ssl (prepareLayout certDir portFolder).toLayout e
      (afterImport zlib certDir deviceInstance d (call, none))).value.1 = true) :
    Matched ssl (prepareLayout certDir portFolder).toLayout
      (reconcilePendingKey ssl (prepareLayout certDir portFolder).toLayout e
        (afterImport zlib certDir deviceInstance d (call, none))).disk := by
  obtain ⟨files, issuer, haccepts⟩ := exists_accepts hpaths call.faults haccepted
  rw [hpaths] at he
  obtain ⟨-, hdisk⟩ := haccepts.run hpaths he
  rw [show afterImport zlib certDir deviceInstance d (call, none) = _ from hdisk] at hreconcile ⊢
  exact (keyHeld_withResponse hagree hkey haccepts).matched_of_reconcile e hreconcile

end

/-! ### The response to the request of the first key -/

/-- The first key and its request, and a response. -/
def importDisk : CertDisk :=
  install
    [(firstPaths.privateKey, ⟨firstKeyPem, 0, true⟩),
      (firstPaths.certificateSigningRequest, ⟨firstRequestPem, 0, false⟩),
      ("response.zip", ⟨responseZip, 0, false⟩)]
    fun _ => none

def firstImport : ImportCall ExampleCertificate ExampleKey :=
  ⟨Faults.none, none, 0, "response.zip", responseSsl⟩

def requestForFirst (csr : Octets) (key : ExampleKey) : Bool :=
  csr == firstRequestPem && key == .first

theorem agrees_firstImport : Agrees exampleSsl requestForFirst firstImport.ssl where
  readBack certificate _ := by
    have hall : ∀ certificate ∈ [ExampleCertificate.issuer, .first, .second],
        firstCertificate exampleSsl (responseSsl.certPem certificate) = some certificate := by
      decide +kernel
    exact hall certificate (by cases certificate <;> decide)
  isKeyOf csr privateKey key certificate hfor hrequest hkey := by
    simp only [requestForFirst, Bool.and_eq_true, beq_iff_eq] at hfor
    obtain ⟨rfl, rfl⟩ := hfor
    have hfirst : firstImport.ssl.requestKey firstRequestPem = some .first := by
      decide +kernel
    obtain rfl := Option.some.inj (hfirst.symm.trans hrequest)
    exact hkey

theorem exists_accepts_firstImport {d : CertDisk}
    (hdisk : readDisk d "response.zip" = some responseZip)
    (hcsr : readDisk d firstPaths.certificateSigningRequest = some firstRequestPem) :
    ∃ files issuer, Accepts responseZlib firstImport firstPaths d files issuer := by
  have hpem : ∀ bytes cert, responseSsl.certFromBytes bytes = some cert →
      responseSsl.certPem cert ≠ [] := by
    intro bytes cert _
    cases cert <;> decide
  obtain ⟨tree, hzip, hlist⟩ := readZip_responseZip
  have hown : tree.files[oprPath firstPaths]? = some firstCertificatePem := by
    rw [← Std.ExtTreeMap.mem_toList_iff_getElem?_eq_some, hlist]
    exact List.mem_cons_self
  have hfiles : (issuerFiles tree).map (fun file => responseSsl.certFromBytes file.2) =
      [ExampleCertificate.issuer].map some := by
    rw [issuerFiles, hlist]
    decide +kernel
  have hgood : GoodResponse responseSsl firstPaths tree ExampleKey.first .first [.issuer] := by
    refine ⟨?_, rfl, rfl, hfiles, ?_, by decide, .issuer, List.mem_cons_self, rfl⟩
    · rw [hown]
      decide +kernel
    · decide
  obtain ⟨out, hout, -, -⟩ := hgood.accepted hpem (readZip_safeFiles hzip)
  obtain ⟨operational, issuers, haccepted⟩ := acceptResponse_sound hout
  have hnonempty : 0 < out.issuers.length := by
    rw [haccepted.issuers_eq, List.length_map]
    have := haccepted.count
    omega
  have hrequest : responseSsl.requestKey firstRequestPem = some .first := by decide +kernel
  refine ⟨out, out.issuers[0], ⟨responseZip, hdisk, ?_⟩, read_of_lt hnonempty⟩
  unfold readCariResponse
  rw [hzip, ok_bind]
  dsimp only
  rw [hcsr]
  dsimp only
  rw [show firstImport.ssl.requestKey firstRequestPem = _ from hrequest]
  exact congrArg Except.ok hout

theorem accepted_firstImport : (importCariResponse responseZlib "sc" 389005 firstImport
    firstImport.faults importDisk).value = .ok true := by
  have hdisk : readDisk importDisk "response.zip" = some responseZip := by
    rw [readDisk, importDisk, install_cons, install_cons, install_cons, install_nil,
      Function.update_self]
    rfl
  have hcsr : readDisk importDisk firstPaths.certificateSigningRequest = some firstRequestPem := by
    rw [readDisk, importDisk, install_cons, install_cons, install_cons, install_nil,
      Function.update_of_ne (by decide +kernel), Function.update_self]
    rfl
  obtain ⟨files, issuer, haccepts⟩ := exists_accepts_firstImport hdisk hcsr
  exact (haccepts.run rfl fun _ _ => rfl).1

/-- An import that stops while it writes, one of another zip, then the import again. -/
theorem import_again_first :
    (importCariResponse responseZlib "sc" 389005 firstImport firstImport.faults
        (afterImports responseZlib "sc" 389005
          [(firstImport, some 2), ({ firstImport with zipPath := "other.zip" }, none)]
          importDisk)).value = .ok true ∧
      afterImports responseZlib "sc" 389005
          ([(firstImport, some 2), ({ firstImport with zipPath := "other.zip" }, none)] ++
            [(firstImport, none)]) importDisk =
        afterImport responseZlib "sc" 389005 importDisk (firstImport, none) := by
  refine import_again ?_ ?_ (fun _ _ => rfl) accepted_firstImport
  · intro earlier hearlier
    simp only [List.mem_cons, List.not_mem_nil, or_false] at hearlier
    rcases hearlier with rfl | rfl <;> rfl
  · show ¬ IsInstalled firstPaths "response.zip"
    rintro (h | h | h) <;> revert h <;> decide +kernel

/-- There is no pending key to promote. -/
theorem reconcile_firstImport : (reconcilePendingKey exampleSsl
    (prepareLayout "sc" firstPaths.portFolder).toLayout Faults.none
    (afterImport responseZlib "sc" 389005 importDisk (firstImport, none))).value.1 = true := by
  have hpaths : firstImport.paths "sc" 389005 importDisk = firstPaths := rfl
  have himported : Imported firstPaths importDisk
      (afterImport responseZlib "sc" 389005 importDisk (firstImport, none)) :=
    .afterImport (firstImport, none) hpaths
  have hnone : afterImport responseZlib "sc" 389005 importDisk (firstImport, none)
      (prepareLayout "sc" firstPaths.portFolder).pendingPrivateKeyPath = none := by
    rw [himported.spared _ (by rintro (h | h | h) <;> revert h <;> decide +kernel)]
    decide +kernel
  have hneeds : needsPromotion exampleSsl (prepareLayout "sc" firstPaths.portFolder).toLayout
      (afterImport responseZlib "sc" 389005 importDisk (firstImport, none)) = false :=
    if_pos (.inr hnone)
  unfold reconcilePendingKey
  rw [bind_value, look_run]
  dsimp only
  rw [hneeds]
  rfl

/-- The first key is the key of the certificate after the import. -/
theorem matched_after_import_first :
    Matched exampleSsl (prepareLayout "sc" firstPaths.portFolder).toLayout
      (reconcilePendingKey exampleSsl (prepareLayout "sc" firstPaths.portFolder).toLayout
        Faults.none (afterImport responseZlib "sc" 389005 importDisk
          (firstImport, none))).disk := by
  have hpaths : firstImport.paths "sc" 389005 importDisk =
      fillNodeSet "sc" firstPaths.portFolder 389005 := rfl
  have hkey : HasRequestKey exampleSsl requestForFirst
      (prepareLayout "sc" firstPaths.portFolder).toLayout importDisk := by
    decide +kernel
  have hfaults : NoneFails (firstImport.paths "sc" 389005 importDisk) firstImport.faults :=
    fun _ _ => rfl
  exact matched_after_import agrees_firstImport hpaths hkey hfaults accepted_firstImport Faults.none
    reconcile_firstImport

end BacnetBc.CertTool
