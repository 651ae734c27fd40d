import BacnetBc.Cert.Import
import BacnetBc.Cert.Bundle
import BacnetBc.Cert.Contents

/-!
# From an empty folder to a hub

`PrepareCertificates` finishes an activation that was cut off, makes the request if there is none,
and then, with an operational certificate on disk, writes the bundle of trusted issuers and hands
the files to the hub connector. Between the starts, `--import-cari` installs a response.

A certificate folder that began empty holds only this device's files (`OwnFolder`), so every start
and every import finds the same port folder. No start replaces a file there, but for the bundle.

**Theorem (`connects_after_import`).** Whatever starts and imports there were, wherever they failed
or stopped: after an import of an accepted response that was written in full, for the request of the
key on disk, every start leaves the private key as the key of the operational certificate. What a
start hands to the hub connector is the response's certificate, this key, and a bundle of exactly
the response's issuers; and it does so if no write fails.
-/

namespace BacnetBc.CertTool

open Cari FaultyDisk Memory

variable {X509 Key PrivateKey NewKey Req : Type}

/-! ## PrepareCertificates -/

/-- `ScHubConnector::TlsFiles`, less the password of the key. -/
structure TlsFiles where
  trustedIssuers : String
  certificate : String
  privateKey : String
deriving DecidableEq, Repr

/-- `CurrentTlsFiles`. -/
def currentTlsFiles (paths : NodeCertPaths) : TlsFiles :=
  ⟨paths.trustedIssuers, paths.operationalCertificate, paths.privateKey⟩

/-- How `PrepareCertificates` ends. `connects` is the call of `ScHubConnector::Start`. -/
inductive Prepared
  | noCertificate
  | noTrustedIssuer (reason : String)
  | connects (files : TlsFiles)
deriving DecidableEq, Repr

section
variable (ssl : OpenSsl X509 PrivateKey) (tools : RequestTools NewKey Req) (device : RequestDevice)

/-- The end of `PrepareCertificates`. -/
def connect (start : StartUp) (paths : NodeSetPaths) : CertAction Prepared := do
  let d ← look
  if (d paths.operationalCertificate).isNone then return .noCertificate
  else
    let N := prepareLayout device.certDir paths.portFolder
    match ← (Store.initial N.toLayout).writeTrustedIssuerBundle ssl start.now
      paths.trustedIssuers with
    | .error reason => return .noTrustedIssuer reason
    | .ok () => return .connects (currentTlsFiles paths.toNodeCertPaths)

/-- `PrepareCertificates`. -/
def prepareCertificates (start : StartUp) : CertAction (Access Prepared) := do
  let d ← look
  let paths := start.paths device d
  let _ ← reconcilePendingKey ssl (prepareLayout device.certDir paths.portFolder).toLayout
  match ← ensureNodeRequest tools device start with
  | .error fault => return .error fault
  | .ok _ =>
    let prepared ← connect ssl device start paths
    return .ok prepared

/-- The disk that is left, when the process stops at a moment or not at all. -/
def stopped {α : Type} (o : Outcome String DiskFile α) : Option Nat → CertDisk
  | none => o.disk
  | some moment => o.moments.getD moment o.disk

/-- What is done with a certificate folder from outside. -/
inductive CertEvent (X509 Key : Type)
  | start (start : StartUp)
  | install (call : ImportCall X509 Key)

/-- The disk after a start or an import. -/
def afterEvent (d : CertDisk) : CertEvent X509 Key × Option Nat → CertDisk
  | (.start start, stop) => stopped (prepareCertificates ssl tools device start start.faults d) stop
  | (.install call, stop) =>
    afterImport tools.zlib device.certDir device.deviceInstance d (call, stop)

def afterEvents (events : List (CertEvent X509 Key × Option Nat)) (d : CertDisk) : CertDisk :=
  events.foldl (afterEvent ssl tools device) d

end

theorem throughout_stopped {α : Type} {I : CertDisk → Prop} {o : Outcome String DiskFile α}
    (h : Throughout I o) (stop : Option Nat) : I (stopped o stop) := by
  cases stop with
  | none => exact h.2
  | some moment => exact FaultyDisk.Throughout.stop h moment

/-! ## The device's own files -/

section
variable (device : RequestDevice)

/-- The layout of a new set for the device. -/
abbrev newLayout : NodeLayout := prepareLayout device.certDir (newPaths device).portFolder

/-- What starts and imports may write. -/
def IsTouched (p : String) : Prop := IsOwn device p ∧ p ≠ (newPaths device).pendingPrivateKey

end

section
variable {device : RequestDevice} {d d' : CertDisk}

theorem OwnFolder.agree (h : OwnFolder device d)
    (hd : Agree (fun p => ¬ IsTouched device p) d d') : OwnFolder device d' where
  own relative hfile := by
    by_contra hown
    rw [hd _ fun ht => hown ht.1] at hfile
    exact hown (h.own relative hfile)
  noPending := (hd _ fun ht => ht.2 rfl).trans h.noPending

theorem isTouched_file {f : CertFile} (hf : f ≠ .pendingPrivateKey) :
    IsTouched device (f.path (newPaths device).toNodeCertPaths) :=
  ⟨.inr (.inr ⟨f, rfl⟩), fun h => hf (CertFile.path_inj device.certDir
    (newPaths device).portFolder (g := .pendingPrivateKey) h)⟩

theorem isTouched_zip : IsTouched device (requestZipPath device.certDir) :=
  ⟨.inl rfl, requestZipPath_ne device.certDir (newPaths device).portFolder .pendingPrivateKey⟩

theorem isTouched_temp : IsTouched device (tempPath (newPaths device).trustedIssuers) :=
  ⟨.inr (.inl rfl), CertFile.tempPath_ne device.certDir (newPaths device).portFolder _
    .pendingPrivateKey⟩

theorem isTouched_of_installed {p : String} (h : IsInstalled (newPaths device) p) :
    IsTouched device p := by
  rcases h with rfl | rfl | rfl
  · exact isTouched_file (f := .operationalCertificate) nofun
  · exact isTouched_file (f := .issuerCertificate1) nofun
  · exact isTouched_file (f := .issuerCertificate2) nofun

end

/-! ## What a start does to the folder -/

section
variable (ssl : OpenSsl X509 PrivateKey) (tools : RequestTools NewKey Req) {device : RequestDevice}
  {d d' : CertDisk}

/-- Without a pending key nothing is promoted. -/
theorem needsPromotion_of_noPending {L : Layout} (h : d L.pendingPrivateKeyPath = none) :
    needsPromotion ssl L d = false := if_pos (.inr h)

theorem reconcile_of_noPending {L : Layout} (h : d L.pendingPrivateKeyPath = none)
    (e : Faults String DiskFile) :
    (reconcilePendingKey ssl L e d).disk = d ∧
      ∀ d' ∈ (reconcilePendingKey ssl L e d).moments, d' = d := by
  obtain ⟨hend, hmoments⟩ := reconcile_run ssl L e d
  have hneeds := needsPromotion_of_noPending ssl h
  have hdisk : (reconcilePendingKey ssl L e d).disk = d := by
    cases hend with
    | nothing hn hv hd => exact hd
    | notPromoted hn hv hd => exact hd
    | promotes hn hc hv hd => exact Bool.noConfusion (hneeds.symm.trans hn)
  refine ⟨hdisk, fun d' hd' => ?_⟩
  rw [hdisk] at hmoments
  exact (hmoments d' hd').elim id id

theorem spares_connect {S : String → Prop} (start : StartUp)
    (htrusted : ¬ S (newPaths device).trustedIssuers)
    (htemp : ¬ S (tempPath (newPaths device).trustedIssuers)) :
    Spares (connect ssl device start (newPaths device)) S := by
  refine .bind .look fun d => ?_
  split_ifs
  · exact .pure _
  · refine .bind ?_ fun result => ?_
    · refine .bind .look fun d => ?_
      split_ifs
      · exact .pure _
      · exact spares_atomicWriteFileToDisk htemp htrusted _ _ _
    · cases result <;> exact .pure _

/-- What `EnsureNodeRequest` leaves alone: the files there are, and what is not the device's. -/
theorem sparesAt_ensure (h : OwnFolder device d) (hinstance : device.deviceInstance ≤ 4194302)
    (start : StartUp) (e : Faults String DiskFile) :
    SparesAt (ensureNodeRequest tools device start)
      (fun p => d p ≠ none ∨ ¬ IsTouched device p) e d := by
  refine .bind (Spares.look e d) ?_
  show SparesAt (ensureNodeRequestOn tools device start d) _ e d
  have hpaths : start.paths device d = newPaths device := h.resolved hinstance start.cert1
  have hzipSpared (hzip : NoZip device d) :
      ¬ (d (requestZipPath device.certDir) ≠ none ∨
        ¬ IsTouched device (requestZipPath device.certDir)) := fun hs =>
    hs.elim (fun hne => hne hzip) fun hnot => hnot isTouched_zip
  have way := goes tools device start d
  generalize ensureNodeRequestOn tools device start d = action at way ⊢
  cases way with
  | alreadyExists => exact Spares.pure _ e d
  | fromRequest hzip => exact spares_writeRequestZip (hzipSpared hzip) _ _ _ e d
  | keyWithoutRequest => exact Spares.pure _ e d
  | noNewKey => exact Spares.pure _ e d
  | newKey hzip hcsr hkey =>
    rw [hpaths] at hcsr hkey ⊢
    refine spares_writeKeyAndRequest ?_ ?_ (hzipSpared hzip) _ _ _ e d
    · rintro (hne | hnot)
      · exact hkey (.inl (Option.isSome_iff_ne_none.2 hne))
      · exact hnot (isTouched_file (f := .privateKey) nofun)
    · rintro (hne | hnot)
      · exact hne hcsr
      · exact hnot (isTouched_file (f := .certificateSigningRequest) nofun)

/-- What a start leaves alone: what is not the device's, and, but for the bundle, the files there
are. -/
def Kept (device : RequestDevice) (d : CertDisk) (p : String) : Prop :=
  ¬ IsTouched device p ∨ d p ≠ none ∧ p ≠ (newPaths device).trustedIssuers ∧
    p ≠ tempPath (newPaths device).trustedIssuers

theorem sparesAt_prepare (h : OwnFolder device d) (hinstance : device.deviceInstance ≤ 4194302)
    (start : StartUp) (e : Faults String DiskFile) :
    SparesAt (prepareCertificates ssl tools device start) (Kept device d) e d := by
  have hpaths : start.paths device d = newPaths device := h.resolved hinstance start.cert1
  refine .bind (Spares.look e d) ?_
  rw [look_run]
  dsimp only
  rw [hpaths]
  obtain ⟨hdisk, hmoments⟩ := reconcile_of_noPending ssl
    (L := (newLayout device).toLayout) h.noPending e
  -- there is no pending key to promote
  have hreconcile : SparesAt (reconcilePendingKey ssl (newLayout device).toLayout) (Kept device d)
      e d := by
    refine ⟨fun d' hd' => ?_, ?_⟩
    · rw [hmoments d' hd']
      exact .refl _ d
    · rw [hdisk]
      exact .refl _ d
  refine .bind hreconcile ?_
  rw [hdisk]
  have hensure : SparesAt (ensureNodeRequest tools device start) (Kept device d) e d :=
    (sparesAt_ensure tools h hinstance start e).throughout fun d' hd' p hp =>
      hd' p (hp.elim .inr fun hfile => .inl hfile.1)
  refine .bind hensure ?_
  cases (ensureNodeRequest tools device start e d).value with
  | error fault => exact Spares.pure _ _ _
  | ok made =>
    refine Spares.bind (spares_connect ssl start ?_ ?_) (fun _ => .pure _) e _
    · rintro (hnot | ⟨-, hne, -⟩)
      · exact hnot (isTouched_file (f := .trustedIssuers) nofun)
      · exact hne rfl
    · rintro (hnot | ⟨-, -, hne⟩)
      · exact hnot isTouched_temp
      · exact hne rfl

theorem OwnFolder.throughout_prepare (h : OwnFolder device d)
    (hinstance : device.deviceInstance ≤ 4194302) (start : StartUp) (e : Faults String DiskFile) :
    Throughout (OwnFolder device) (prepareCertificates ssl tools device start e d) :=
  (sparesAt_prepare ssl tools h hinstance start e).throughout fun _ hd' =>
    h.agree fun p hp => hd' p (.inl hp)

/-- What a start returns, if the request is no fault. -/
theorem prepare_run (h : OwnFolder device d) (hinstance : device.deviceInstance ≤ 4194302)
    (start : StartUp) (e : Faults String DiskFile) :
    match (ensureNodeRequest tools device start e d).value with
    | .error fault => (prepareCertificates ssl tools device start e d).value = .error fault
    | .ok _ =>
      let connected := connect ssl device start (newPaths device) e
        (ensureNodeRequest tools device start e d).disk
      (prepareCertificates ssl tools device start e d).value = .ok connected.value ∧
        (prepareCertificates ssl tools device start e d).disk = connected.disk := by
  have hpaths : start.paths device d = newPaths device := h.resolved hinstance start.cert1
  obtain ⟨hdisk, -⟩ := reconcile_of_noPending ssl
    (L := (newLayout device).toLayout) h.noPending e
  unfold prepareCertificates
  rw [bind_value, bind_disk, look_run]
  dsimp only
  rw [hpaths, bind_value, bind_disk, hdisk, bind_value, bind_disk]
  cases (ensureNodeRequest tools device start e d).value with
  | error fault => rfl
  | ok made => exact ⟨rfl, rfl⟩

end

/-! ## Runs of starts and imports -/

section
variable {ssl : OpenSsl X509 PrivateKey} {tools : RequestTools NewKey Req} {device : RequestDevice}
  {d d' : CertDisk}

theorem OwnFolder.afterImport (h : OwnFolder device d)
    (hinstance : device.deviceInstance ≤ 4194302) (call : ImportCall X509 Key × Option Nat) :
    OwnFolder device (afterImport tools.zlib device.certDir device.deviceInstance d call) := by
  have himported : Imported (newPaths device) d
      (CertTool.afterImport tools.zlib device.certDir device.deviceInstance d call) :=
    Imported.afterImport call (h.resolved hinstance call.1.cert1)
  exact h.agree fun p hp => himported.spared p fun hinstalled =>
    hp (isTouched_of_installed hinstalled)

/-- The request zip stays. -/
theorem OwnFolder.zip_afterImport (h : OwnFolder device d)
    (hinstance : device.deviceInstance ≤ 4194302) (hzip : ¬ NoZip device d)
    (call : ImportCall X509 Key × Option Nat) :
    ¬ NoZip device
      (CertTool.afterImport tools.zlib device.certDir device.deviceInstance d call) := by
  have himported : Imported (newPaths device) d
      (CertTool.afterImport tools.zlib device.certDir device.deviceInstance d call) :=
    Imported.afterImport call (h.resolved hinstance call.1.cert1)
  exact Option.isSome_iff_ne_none.1 (himported.kept _ (Option.isSome_iff_ne_none.2 hzip))

/-- **The folder stays the device's own**, in every run. -/
theorem OwnFolder.afterEvents (hinstance : device.deviceInstance ≤ 4194302)
    (events : List (CertEvent X509 Key × Option Nat)) (h : OwnFolder device d) :
    OwnFolder device (afterEvents ssl tools device events d) := by
  induction events generalizing d with
  | nil => exact h
  | cons event events ih =>
    apply ih
    obtain ⟨event, stop⟩ := event
    cases event with
    | start start =>
      exact throughout_stopped (h.throughout_prepare ssl tools hinstance start start.faults) stop
    | install call => exact h.afterImport hinstance (call, stop)

/-- Starts only. -/
def startEvents (starts : List (StartUp × Option Nat)) : List (CertEvent X509 Key × Option Nat) :=
  starts.map fun start => (.start start.1, start.2)

theorem Kept.after {p : String} (h : Kept device d p) (hd : Agree (Kept device d) d d') :
    Kept device d' p :=
  h.imp_right fun ⟨hne, hnot⟩ => ⟨by rwa [hd p h], hnot⟩

/-- **No start replaces a file**, but for the bundle. -/
theorem OwnFolder.kept_starts (h : OwnFolder device d)
    (hinstance : device.deviceInstance ≤ 4194302) (starts : List (StartUp × Option Nat)) :
    Agree (Kept device d) d
      (CertTool.afterEvents ssl tools device
        (startEvents starts : List (CertEvent X509 Key × Option Nat)) d) := by
  induction starts generalizing d with
  | nil => exact .refl _ d
  | cons start starts ih =>
    have hspared := sparesAt_prepare ssl tools h hinstance start.1 start.1.faults
    have hfirst : Agree (Kept device d) d
        (stopped (prepareCertificates ssl tools device start.1 start.1.faults d) start.2) :=
      throughout_stopped (hspared.throughout fun _ hd' => hd') start.2
    have hown : OwnFolder device
        (stopped (prepareCertificates ssl tools device start.1 start.1.faults d) start.2) :=
      throughout_stopped (h.throughout_prepare ssl tools hinstance start.1 start.1.faults) start.2
    exact fun p hp => (ih hown p (hp.after hfirst)).trans (hfirst p hp)

end

/-! ## The bundle of a response -/

section
variable (ssl : OpenSsl X509 PrivateKey) (requestFor : Octets → PrivateKey → Bool)

/-- What the two uses of OpenSSL have to do with each other: a certificate that the one writes is
all that the other reads of it, and is written the same. -/
structure ReadsBack (response : ResponseSsl X509 Key) : Prop
    extends Agrees ssl requestFor response where
  parses : ∀ certificate, response.certPem certificate ≠ [] →
    parseCertificates ssl (response.certPem certificate) = .ok [certificate]
  writes : ∀ certificate, response.certPem certificate ≠ [] →
    ssl.writeX509 certificate = some (response.certPem certificate)

/-- What is on disk when a start connects, for a response and a private key. -/
structure Trusts (device : RequestDevice) (files : ResponseFiles) (key : Option Octets)
    (d : CertDisk) : Prop where
  certificate : readDisk d (newPaths device).operationalCertificate =
    some files.operationalCertificate
  privateKey : readDisk d (newPaths device).privateKey = key
  trustedIssuers : readDisk d (newPaths device).trustedIssuers =
    some files.issuers.eraseDups.flatten

variable {ssl requestFor} {response : ResponseSsl X509 Key} {tools : RequestTools NewKey Req}
  {device : RequestDevice} {d d' : CertDisk}

theorem issuersOf_file {L : Layout} {i : Nat} {path : String} {certificate : X509}
    (hread : ReadsBack ssl requestFor response) (hne : response.certPem certificate ≠ [])
    (hpath : L.paths i = some path)
    (hfile : readDisk d path = some (response.certPem certificate)) :
    (Store.initial L).issuersOf ssl d i = [certificate] := by
  have hown : (Store.initial L).own d i = some (response.certPem certificate) := by
    rw [Store.own_of_not_staged Std.ExtTreeMap.getElem?_empty, hpath, Option.bind_some, hfile]
  rw [Store.issuersOf, Store.read_eq_serve, FallbackChain.serve_of_own hown, Option.map_some,
    hread.parses certificate hne]

/-- The three files of a response that was installed. -/
structure HoldsResponse (device : RequestDevice) (files : ResponseFiles) (issuer : Octets)
    (d : CertDisk) : Prop where
  certificate : readDisk d (newPaths device).operationalCertificate =
    some files.operationalCertificate
  issuer1 : readDisk d (newPaths device).issuerCertificate1 = some issuer
  issuer2 : readDisk d (newPaths device).issuerCertificate2 = some (files.issuers[1]?.getD issuer)

/-- **The bundle is the response's issuers.** -/
theorem HoldsResponse.bundle {files : ResponseFiles} {issuer : Octets}
    (h : HoldsResponse device files issuer d) (hread : ReadsBack ssl requestFor response)
    {issuers : List X509} (hissuers : files.issuers = issuers.map response.certPem)
    (hcount : issuers.length = 1 ∨ issuers.length = 2)
    (hne : ∀ issuer ∈ issuers, response.certPem issuer ≠ [])
    (hissuer : read files.issuers 0 = .ok issuer) :
    (Store.initial (newLayout device).toLayout).trustedIssuerBundle ssl d =
        files.issuers.eraseDups.flatten ∧ files.issuers.eraseDups.flatten ≠ [] := by
  have hfirst {certificate : X509} (hmem : certificate ∈ issuers)
      (hfile : issuer = response.certPem certificate) :
      (Store.initial (newLayout device).toLayout).issuersOf ssl d
        fileIssuerCertificate1Instance = [certificate] :=
    issuersOf_file hread (hne _ hmem) rfl (h.issuer1.trans (congrArg some hfile))
  have hsecond {certificate : X509} (hmem : certificate ∈ issuers)
      (hfile : files.issuers[1]?.getD issuer = response.certPem certificate) :
      (Store.initial (newLayout device).toLayout).issuersOf ssl d
        fileIssuerCertificate2Instance = [certificate] :=
    issuersOf_file hread (hne _ hmem) rfl (h.issuer2.trans (congrArg some hfile))
  have hinstances : (newLayout device).toLayout.issuerInstances =
      [fileIssuerCertificate1Instance, fileIssuerCertificate2Instance] := rfl
  rw [Store.trustedIssuerBundle_eq_flatten, hinstances]
  match issuers, hcount with
  | [first], _ =>
    have hfiles : files.issuers = [response.certPem first] := hissuers
    rw [hfiles] at hissuer
    obtain rfl : response.certPem first = issuer := Except.ok.inj hissuer
    have hsingle : files.issuers[1]?.getD (response.certPem first) = response.certPem first := by
      rw [hfiles]
      rfl
    rw [List.flatMap_cons, List.flatMap_cons, hfirst List.mem_cons_self rfl,
      hsecond List.mem_cons_self hsingle, hfiles]
    have hpem := hne first List.mem_cons_self
    simp [hread.writes first hpem, List.eraseDups_cons, hpem]
  | [first, other], _ =>
    have hfiles : files.issuers = [response.certPem first, response.certPem other] := hissuers
    rw [hfiles] at hissuer
    obtain rfl : response.certPem first = issuer := Except.ok.inj hissuer
    have hother : files.issuers[1]?.getD (response.certPem first) = response.certPem other := by
      rw [hfiles]
      rfl
    have hmem : other ∈ [first, other] := List.mem_cons_of_mem _ List.mem_cons_self
    rw [List.flatMap_cons, List.flatMap_cons, hfirst List.mem_cons_self rfl, hsecond hmem hother,
      hfiles]
    have hpem := hne first List.mem_cons_self
    refine ⟨?_, ?_⟩
    · simp [hread.writes first hpem, hread.writes other (hne other hmem)]
    · simp [List.eraseDups_cons, hpem]
  | [], hcount => simp at hcount
  | _ :: _ :: _ :: _, hcount => simp at hcount

end

/-! ## The starts after an import -/

/-- The bundle is written and gets its name. -/
def BundleWritten (device : RequestDevice) (e : Faults String DiskFile) : Prop :=
  e.write (tempPath (newPaths device).trustedIssuers) = true ∧
    e.rename (tempPath (newPaths device).trustedIssuers) (newPaths device).trustedIssuers = true

section
variable {ssl : OpenSsl X509 PrivateKey} {requestFor : Octets → PrivateKey → Bool}
  {tools : RequestTools NewKey Req} {device : RequestDevice} {d d' : CertDisk} {start : StartUp}
  {e : Faults String DiskFile}

/-- What is handed to the hub connector, and the bundle. -/
theorem connect_connects {tls : TlsFiles}
    (h : (connect ssl device start (newPaths device) e d).value = .connects tls) :
    tls = currentTlsFiles (newPaths device).toNodeCertPaths ∧
      (connect ssl device start (newPaths device) e d).disk (newPaths device).trustedIssuers =
        some ⟨(Store.initial (newLayout device).toLayout).trustedIssuerBundle ssl d, start.now,
          false⟩ := by
  unfold connect at h ⊢
  rw [bind_value, look_run] at h
  rw [bind_disk, look_run]
  dsimp only at h ⊢
  split_ifs at h ⊢ with hcert
  · cases h
  rw [bind_value] at h
  rw [bind_disk]
  cases hwrite : ((Store.initial (newLayout device).toLayout).writeTrustedIssuerBundle ssl start.now
      (newPaths device).trustedIssuers e d).value with
  | error reason =>
    rw [hwrite] at h
    cases h
  | ok written =>
    rw [hwrite] at h
    obtain rfl := Prepared.connects.inj h
    exact ⟨rfl, Store.file_of_writeTrustedIssuerBundle ssl hwrite⟩

theorem atomicWriteFileToDisk_ok {path : String} (hwrite : e.write (tempPath path) = true)
    (hrename : e.rename (tempPath path) path = true) (now : Int) (bytes : Octets)
    (privateFile : Bool) :
    (atomicWriteFileToDisk now path bytes privateFile e d).value = .ok () := by
  obtain ⟨hvalue, hdisk⟩ := writeTempFile_ok (d := d) hwrite now bytes privateFile
  have htemp : (writeTempFile now path bytes privateFile e d).disk (tempPath path) =
      some ⟨bytes, now, privateFile⟩ := by
    rw [hdisk, Function.update_self]
  obtain ⟨hreplaced, -, -⟩ := replaceWithTemp_ok htemp hrename
  unfold atomicWriteFileToDisk
  rw [bind_value, hvalue]
  dsimp only
  rw [bind_value, hreplaced]
  rfl

theorem connect_of_written (hcert : d (newPaths device).operationalCertificate ≠ none)
    (hbundle : (Store.initial (newLayout device).toLayout).trustedIssuerBundle ssl d ≠ [])
    (he : BundleWritten device e) :
    (connect ssl device start (newPaths device) e d).value =
      .connects (currentTlsFiles (newPaths device).toNodeCertPaths) := by
  have hwrite : ((Store.initial (newLayout device).toLayout).writeTrustedIssuerBundle ssl start.now
      (newPaths device).trustedIssuers e d).value = .ok () := by
    unfold Store.writeTrustedIssuerBundle
    rw [bind_value, look_run]
    dsimp only
    rw [if_neg hbundle]
    exact atomicWriteFileToDisk_ok he.1 he.2 start.now _ false
  unfold connect
  rw [bind_value, look_run]
  dsimp only
  rw [if_neg (by rwa [Option.isNone_iff_eq_none]), bind_value, hwrite]
  rfl

/-! ### The files of the response -/

theorem exists_private_of_matched {L : Layout} (h : Matched ssl L d) :
    d L.privateKeyPath ≠ none := by
  obtain ⟨certificate, -, hkey⟩ := h
  intro hnone
  simp [isKeyOf, loadKey, readDisk, hnone] at hkey

theorem kept_file {f : CertFile} (hbundle : f ≠ .trustedIssuers)
    (hfile : d (f.path (newPaths device).toNodeCertPaths) ≠ none) :
    Kept device d (f.path (newPaths device).toNodeCertPaths) := by
  refine .inr ⟨hfile, fun heq => hbundle ?_, fun heq => ?_⟩
  · exact CertFile.path_inj device.certDir (newPaths device).portFolder (g := .trustedIssuers) heq
  · exact CertFile.tempPath_ne device.certDir (newPaths device).portFolder _ f heq.symm

theorem kept_zip (hzip : ¬ NoZip device d) : Kept device d (requestZipPath device.certDir) :=
  .inr ⟨hzip, requestZipPath_ne device.certDir (newPaths device).portFolder .trustedIssuers,
    requestZipPath_ne_temp device.certDir _⟩

/-- A matched pair stays one while no file is replaced. -/
theorem matched_of_kept (h : Matched ssl (newLayout device).toLayout d)
    (hd : Agree (Kept device d) d d') : Matched ssl (newLayout device).toLayout d' := by
  refine h.agree fun p hp => hd p ?_
  rcases hp with rfl | hp
  · exact kept_file (f := .privateKey) nofun (exists_private_of_matched h)
  · obtain ⟨certificate, hcertificate, -⟩ := h
    obtain ⟨path, file, hpath, hfile, -⟩ := exists_operationalFile hcertificate
    obtain rfl : path = p := Option.some.inj (hpath.symm.trans hp)
    obtain rfl : (newPaths device).operationalCertificate = path := Option.some.inj hpath
    exact kept_file (f := .operationalCertificate) nofun fun hnone => by cases hnone ▸ hfile

theorem HoldsResponse.agree {files : ResponseFiles} {issuer : Octets}
    (h : HoldsResponse device files issuer d)
    (hd : ∀ p, IsInstalled (newPaths device) p → d p ≠ none → d' p = d p) :
    HoldsResponse device files issuer d' := by
  have hsame {p : String} {bytes : Octets} (hp : IsInstalled (newPaths device) p)
      (hfile : readDisk d p = some bytes) : readDisk d' p = some bytes := by
    rw [readDisk, hd p hp fun hnone => by simp [readDisk, hnone] at hfile]
    exact hfile
  exact ⟨hsame (.inl rfl) h.certificate, hsame (.inr (.inl rfl)) h.issuer1,
    hsame (.inr (.inr rfl)) h.issuer2⟩

theorem HoldsResponse.kept {files : ResponseFiles} {issuer : Octets}
    (h : HoldsResponse device files issuer d) (hd : Agree (Kept device d) d d') :
    HoldsResponse device files issuer d' := by
  refine h.agree fun p hp hfile => hd p ?_
  rcases hp with rfl | rfl | rfl
  · exact kept_file (f := .operationalCertificate) nofun hfile
  · exact kept_file (f := .issuerCertificate1) nofun hfile
  · exact kept_file (f := .issuerCertificate2) nofun hfile

theorem holdsResponse_withResponse (now : Int) (files : ResponseFiles) (issuer : Octets) :
    HoldsResponse device files issuer (withResponse now (newPaths device) files issuer d) := by
  have hne : (newPaths device).issuerCertificate1 ≠ (newPaths device).issuerCertificate2 := by
    intro h
    cases CertFile.path_inj device.certDir (newPaths device).portFolder
      (f := .issuerCertificate1) (g := .issuerCertificate2) h
  have hoperational : withResponse now (newPaths device) files issuer d
      (newPaths device).operationalCertificate = some ⟨files.operationalCertificate, now, false⟩ :=
    withResponse_operational
  refine ⟨by rw [readDisk, hoperational]; rfl, ?_, ?_⟩
  · rw [readDisk, withResponse, Function.update_of_ne hne, Function.update_self]
    rfl
  · rw [readDisk, withResponse, Function.update_self]
    rfl

end

/-! ## The first connection -/

section
variable {ssl : OpenSsl X509 PrivateKey} {requestFor : Octets → PrivateKey → Bool}
  {tools : RequestTools NewKey Req} {device : RequestDevice}

theorem ensure_of_zip (tools : RequestTools NewKey Req) (start : StartUp)
    (e : Faults String DiskFile) {d : CertDisk} (h : ¬ NoZip device d) :
    ∃ message, (ensureNodeRequest tools device start e d).value =
      .ok (.alreadyExists, message) := by
  show ∃ message, (ensureNodeRequestOn tools device start d e d).value = _
  have way := goes tools device start d
  generalize ensureNodeRequestOn tools device start d = action at way ⊢
  cases way with
  | alreadyExists hzip message => exact ⟨message, rfl⟩
  | fromRequest hzip => exact absurd hzip h
  | keyWithoutRequest hzip => exact absurd hzip h
  | noNewKey hzip => exact absurd hzip h
  | newKey hzip => exact absurd hzip h

theorem issuers_ne_nil {response : ResponseSsl X509 Key} {paths : NodeSetPaths} {tree : Tree}
    {csrKey : Key} {out : ResponseFiles}
    (h : acceptResponse response paths tree csrKey = .ok out) :
    ∀ pem ∈ out.issuers, pem ≠ [] := by
  obtain ⟨source, operational, issuers, hwrite⟩ := exists_writeResponse h
  unfold writeResponse at hwrite
  split_ifs at hwrite with hissuers
  obtain rfl := Except.ok.inj hwrite
  intro pem hmem
  obtain ⟨issuer, hissuer, rfl⟩ := List.mem_map.1 hmem
  exact fun hnil => hissuers (List.any_eq_true.2 ⟨issuer, hissuer, decide_eq_true hnil⟩)

/-- What is on disk from an import of a response to the next import. -/
structure Installed (ssl : OpenSsl X509 PrivateKey) (device : RequestDevice) (files : ResponseFiles)
    (issuer : Octets) (key : Option Octets) (d : CertDisk) : Prop where
  own : OwnFolder device d
  matched : Matched ssl (newLayout device).toLayout d
  holds : HoldsResponse device files issuer d
  privateKey : readDisk d (newPaths device).privateKey = key

variable {call : ImportCall X509 Key} {files : ResponseFiles} {issuer : Octets} {d d' : CertDisk}

theorem installed_after_import (h : OwnFolder device d)
    (hinstance : device.deviceInstance ≤ 4194302) (hread : ReadsBack ssl requestFor call.ssl)
    (hkey : HasRequestKey ssl requestFor (newLayout device).toLayout d)
    (he : NoneFails (newPaths device) call.faults)
    (haccepts : Accepts tools.zlib call (newPaths device) d files issuer) :
    Installed ssl device files issuer (readDisk d (newPaths device).privateKey)
      (afterImport tools.zlib device.certDir device.deviceInstance d (call, none)) := by
  obtain ⟨-, hdisk⟩ := haccepts.run (h.resolved hinstance call.cert1) he
  have hown : OwnFolder device
      (afterImport tools.zlib device.certDir device.deviceInstance d (call, none)) :=
    h.afterImport hinstance (call, none)
  rw [show afterImport tools.zlib device.certDir device.deviceInstance d (call, none) = _
    from hdisk] at hown ⊢
  have hheld : KeyHeld ssl (newLayout device).toLayout
      (withResponse call.now (newPaths device) files issuer d) :=
    keyHeld_withResponse hread.toAgrees hkey haccepts
  have hspared : ¬ IsInstalled (newPaths device) (newPaths device).privateKey := by
    intro hinstalled
    have hinstalled : IsInstalled
        (fillNodeSet device.certDir (newPaths device).portFolder device.deviceInstance)
        (CertFile.privateKey.path (fillCari device.certDir (newPaths device).portFolder)) :=
      hinstalled
    obtain ⟨hfile, -⟩ | hfile | hfile := isInstalled_path hinstalled <;> cases hfile
  refine ⟨hown, hheld.matched (needsPromotion_of_noPending ssl hown.noPending),
    holdsResponse_withResponse _ _ _, ?_⟩
  rw [readDisk, withResponse_of_not_installed hspared, readDisk]

variable {key : Option Octets}

theorem Installed.kept (h : Installed ssl device files issuer key d) (hown : OwnFolder device d')
    (hd : Agree (Kept device d) d d') : Installed ssl device files issuer key d' := by
  refine ⟨hown, matched_of_kept h.matched hd, h.holds.kept hd, ?_⟩
  have hsame : d' (newPaths device).privateKey = d (newPaths device).privateKey :=
    hd _ (kept_file (f := .privateKey) nofun (exists_private_of_matched h.matched))
  rw [readDisk, hsame]
  exact h.privateKey

/-- The bundle that is made of the files. -/
theorem Accepts.bundle {zlib : Zlib} {paths : NodeSetPaths}
    (h : Accepts zlib call paths d files issuer) (hread : ReadsBack ssl requestFor call.ssl)
    (hfiles : HoldsResponse device files issuer d') :
    (Store.initial (newLayout device).toLayout).trustedIssuerBundle ssl d' =
        files.issuers.eraseDups.flatten ∧ files.issuers.eraseDups.flatten ≠ [] := by
  obtain ⟨bytes, -, hresponse⟩ := h.zip
  obtain ⟨tree, csr, csrKey, -, -, -, haccept⟩ := readCariResponse_eq_ok zlib hresponse
  obtain ⟨operational, issuers, haccepted⟩ := acceptResponse_sound haccept
  have hne : ∀ pem ∈ files.issuers, pem ≠ [] := issuers_ne_nil haccept
  rw [haccepted.issuers_eq] at hne
  exact hfiles.bundle hread haccepted.issuers_eq haccepted.count
    (fun issuer hmem => hne _ (List.mem_map_of_mem hmem)) h.issuer

/-- What the next start hands to the hub connector. -/
theorem Installed.connects (h : Installed ssl device files issuer key d)
    (hinstance : device.deviceInstance ≤ 4194302)
    (hbundle : ∀ d', HoldsResponse device files issuer d' →
      (Store.initial (newLayout device).toLayout).trustedIssuerBundle ssl d' =
        files.issuers.eraseDups.flatten)
    {start : StartUp} {tls : TlsFiles}
    (hconnects : (prepareCertificates ssl tools device start start.faults d).value =
      .ok (.connects tls)) :
    tls = currentTlsFiles (newPaths device).toNodeCertPaths ∧
      Trusts device files key (prepareCertificates ssl tools device start start.faults d).disk := by
  have hrun := prepare_run ssl tools h.own hinstance start start.faults
  have hmade := (sparesAt_ensure tools h.own hinstance start start.faults).2
  have hspared := (sparesAt_prepare ssl tools h.own hinstance start
    start.faults).2
  have hown := (h.own.throughout_prepare ssl tools hinstance start
    start.faults).2
  have hafter := h.kept hown hspared
  cases hvalue : (ensureNodeRequest tools device start start.faults d).value with
  | error fault =>
    rw [hvalue] at hrun
    rw [hrun] at hconnects
    cases hconnects
  | ok made =>
    rw [hvalue] at hrun
    obtain ⟨hconnected, hdisk⟩ := hrun
    rw [hconnected] at hconnects
    obtain ⟨htls, hfile⟩ := connect_connects (Except.ok.inj hconnects)
    refine ⟨htls, hafter.holds.certificate, hafter.privateKey, ?_⟩
    rw [readDisk, hdisk, hfile, hbundle _ (h.holds.agree fun p _ hne => hmade p (.inl hne))]
    rfl

/-- With the request there and the bundle written, the next start connects. -/
theorem Installed.connects_of_written (h : Installed ssl device files issuer key d)
    (hinstance : device.deviceInstance ≤ 4194302)
    (hbundle : ∀ d', HoldsResponse device files issuer d' →
      (Store.initial (newLayout device).toLayout).trustedIssuerBundle ssl d' ≠ [])
    {start : StartUp} (hzip : ¬ NoZip device d) (hwritten : BundleWritten device start.faults) :
    (prepareCertificates ssl tools device start start.faults d).value =
      .ok (.connects (currentTlsFiles (newPaths device).toNodeCertPaths)) := by
  have hrun := prepare_run ssl tools h.own hinstance start start.faults
  have hmade := (sparesAt_ensure tools h.own hinstance start start.faults).2
  have hholds := h.holds.agree fun p _ hne => hmade p (.inl hne)
  obtain ⟨message, hexists⟩ := ensure_of_zip tools start start.faults hzip
  rw [hexists] at hrun
  rw [hrun.1, connect_of_written ?_ (hbundle _ hholds) hwritten]
  intro hnone
  have hcertificate := hholds.certificate
  rw [readDisk, hnone] at hcertificate
  cases hcertificate

/-- **After an import, every start connects with the response's certificate**, this device's key and
the response's issuers. -/
theorem connects_after_import (hinstance : device.deviceInstance ≤ 4194302)
    (hread : ReadsBack ssl requestFor call.ssl) {empty : CertDisk} (hempty : IsEmpty device empty)
    (events : List (CertEvent X509 Key × Option Nat))
    (hkey : HasRequestKey ssl requestFor (newLayout device).toLayout
      (afterEvents ssl tools device events empty))
    (he : NoneFails (newPaths device) call.faults)
    (haccepted : (importCariResponse tools.zlib device.certDir device.deviceInstance call
      call.faults (afterEvents ssl tools device events empty)).value = .ok true)
    (starts : List (StartUp × Option Nat)) :
    let d := afterEvents ssl tools device events empty
    let later := afterEvents ssl tools device ((.install call, none) :: startEvents starts) d
    ∃ bytes files, readDisk d call.zipPath = some bytes ∧
      readCariResponse call.ssl tools.zlib (newPaths device) d bytes = .ok (.ok files) ∧
      Matched ssl (newLayout device).toLayout later ∧
      (¬ NoZip device d → ¬ NoZip device later) ∧
      ∀ start : StartUp,
        let o := prepareCertificates ssl tools device start start.faults later
        (∀ tls, o.value = .ok (.connects tls) →
          tls = currentTlsFiles (newPaths device).toNodeCertPaths ∧
            Trusts device files (readDisk d (newPaths device).privateKey) o.disk) ∧
        (¬ NoZip device later → BundleWritten device start.faults →
          o.value = .ok (.connects (currentTlsFiles (newPaths device).toNodeCertPaths))) := by
  intro d later
  have hown : OwnFolder device d := hempty.fromEmpty.ownFolder.afterEvents hinstance events
  obtain ⟨files, issuer, haccepts⟩ := exists_accepts (hown.resolved hinstance call.cert1)
    call.faults haccepted
  obtain ⟨bytes, hzip, hresponse⟩ := haccepts.zip
  have himported := installed_after_import hown hinstance hread hkey he haccepts
  have hkept : Agree (Kept device (afterImport tools.zlib device.certDir device.deviceInstance d
      (call, none))) _ later := himported.own.kept_starts hinstance starts
  have hlater : Installed ssl device files issuer (readDisk d (newPaths device).privateKey) later :=
    himported.kept (himported.own.afterEvents hinstance _) hkept
  refine ⟨bytes, files, hzip, hresponse, hlater.matched, fun hrequest hnone => ?_,
    fun start => ⟨fun tls hconnects => ?_, fun hrequest hwritten => ?_⟩⟩
  · have hstays : ¬ NoZip device (afterImport tools.zlib device.certDir device.deviceInstance d
        (call, none)) := hown.zip_afterImport hinstance hrequest (call, none)
    exact hstays ((hkept _ (kept_zip hstays)).symm.trans hnone)
  · exact hlater.connects hinstance (fun _ hholds => (haccepts.bundle hread hholds).1) hconnects
  · refine hlater.connects_of_written hinstance (fun d' hholds => ?_) hrequest hwritten
    obtain ⟨hbundle, hne⟩ := haccepts.bundle hread hholds
    rwa [hbundle]

end

/-! ### The device with the first key -/

/-- OpenSSL and zlib on the first key, its request and the response. -/
def firstTools : RequestTools Unit Unit := { thirdTools with
  zlib := responseZlib
  reqFromBytes := (· == firstRequestPem)
  keyPem := fun _ => firstKeyPem
  reqPem := fun _ => firstRequestPem }

/-- No certificate folder yet; the response is elsewhere. -/
def noFolder : CertDisk :=
  Function.update (fun _ => none) "response.zip" (some ⟨responseZip, 0, false⟩)

/-- The disk after the first start. -/
def requestedDisk : CertDisk :=
  afterEvents exampleSsl firstTools thirdDevice
    ([(.start cleanStart, none)] : List (CertEvent ExampleCertificate ExampleKey × Option Nat))
    noFolder

/-- The disk after the import and a start that stops at once. -/
def restartedDisk : CertDisk :=
  afterEvents exampleSsl firstTools thirdDevice
    ((.install firstImport, none) :: startEvents [(cleanStart, some 0)]) requestedDisk

theorem noFolder_isEmpty : IsEmpty thirdDevice noFolder := by
  intro relative
  refine Function.update_of_ne (fun heq => ?_) _ _
  have hhead := congrArg (fun s => s.toList.head?) heq
  simp [join, thirdDevice] at hhead

theorem readsBack_firstImport : ReadsBack exampleSsl requestForFirst firstImport.ssl where
  toAgrees := agrees_firstImport
  parses certificate _ := by
    have hall : ∀ certificate ∈ [ExampleCertificate.issuer, .first, .second],
        (parseCertificates exampleSsl (responseSsl.certPem certificate)).toOption =
          some [certificate] := by
      decide +kernel
    have hparse := hall certificate (by cases certificate <;> decide)
    show parseCertificates exampleSsl (responseSsl.certPem certificate) = .ok [certificate]
    cases h : parseCertificates exampleSsl (responseSsl.certPem certificate) with
    | error why =>
      rw [h] at hparse
      cases hparse
    | ok certificates =>
      rw [h] at hparse
      exact congrArg _ (Option.some.inj hparse)
  writes certificate _ := by
    cases certificate <;> rfl

/-- The next start connects. -/
theorem connects_after_import_first :
    (prepareCertificates exampleSsl firstTools thirdDevice cleanStart cleanStart.faults
        restartedDisk).value =
      .ok (.connects (currentTlsFiles (newPaths thirdDevice).toNodeCertPaths)) ∧
    ∃ files, Trusts thirdDevice files (some firstKeyPem)
      (prepareCertificates exampleSsl firstTools thirdDevice cleanStart cleanStart.faults
        restartedDisk).disk := by
  have hzip : readDisk requestedDisk "response.zip" = some responseZip := by decide +kernel
  have hcsr : readDisk requestedDisk firstPaths.certificateSigningRequest =
      some firstRequestPem := by
    decide +kernel
  obtain ⟨files, issuer, haccepts⟩ := exists_accepts_firstImport hzip hcsr
  have haccepted : (importCariResponse responseZlib "sc" 389005 firstImport firstImport.faults
      requestedDisk).value = .ok true := (haccepts.run rfl fun _ _ => rfl).1
  have hrequestKey : HasRequestKey exampleSsl requestForFirst (newLayout thirdDevice).toLayout
      requestedDisk := by
    decide +kernel
  have hkey : readDisk requestedDisk (newPaths thirdDevice).privateKey = some firstKeyPem := by
    decide +kernel
  have hrequest : ¬ NoZip thirdDevice requestedDisk := by
    have hsome : (requestedDisk (requestZipPath "sc")).isSome = true := by decide +kernel
    exact Option.isSome_iff_ne_none.1 hsome
  obtain ⟨bytes, files, -, -, -, hkept, hnext⟩ := connects_after_import (by decide)
    readsBack_firstImport noFolder_isEmpty [(.start cleanStart, none)] hrequestKey
    (fun _ _ => rfl) haccepted [(cleanStart, some 0)]
  obtain ⟨htrusts, hconnects⟩ := hnext cleanStart
  have hvalue := hconnects (hkept hrequest) ⟨rfl, rfl⟩
  refine ⟨hvalue, files, ?_⟩
  rw [← hkey]
  exact (htrusts _ hvalue).2

end BacnetBc.CertTool
