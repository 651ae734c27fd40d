import BacnetBc.Cert.Resolve

/-!
# The request that a start-up makes

`ensureNodeRequest` makes the request zip of a device that has none. It writes up to three files,
one after the other: a new private key, its certificate signing request and the zip. `WriteFile`
does not look at its stream after the write, so a file may be cut short and the start-up goes on;
the process may also stop at any moment. Each start-up of a run has its own faults, its own
enumeration of the folder, and its own stop.

**Theorem (`requests_restart`).** In every run no file that exists is ever changed, so no key is
replaced. `Created` means that the zip for the request on disk is there, unless the zip itself was
cut short. After every run that began with an empty folder, a start-up in which nothing fails leaves
a zip as it is, makes the zip where there is none and the request is readable or there is no key and
no request, and in all other states fails and changes nothing.
-/

namespace BacnetBc.CertTool

open Cari FaultyDisk Memory

/-! ## Writing a file -/

/-- `WriteFile` of the certificate tool. -/
def writeFile (now : Int) (path : String) (bytes : Octets) (isPrivate : Bool) :
    Action String DiskFile Bool := fun e d =>
  let put (file : DiskFile) : CertDisk := Function.update d path (some file)
  -- A file that is cut off holds a first part of the octets.
  let kept := bytes.take ((e.torn path).elim 0 fun file => file.bytes.length)
  if e.write path then
    ⟨true, put ⟨bytes, now, isPrivate⟩,
      [d, put ⟨kept, now, false⟩, put ⟨bytes, now, false⟩, put ⟨bytes, now, isPrivate⟩]⟩
  else
    match e.torn path with
    -- The file could not be created.
    | none => ⟨false, d, [d]⟩
    -- The stream went bad, and nothing looks at it.
    | some _ => ⟨true, put ⟨kept, now, isPrivate⟩,
        [d, put ⟨kept, now, false⟩, put ⟨kept, now, isPrivate⟩]⟩

/-! ## A start-up -/

inductive RequestResult
  | created
  | alreadyExists
  | failed
deriving DecidableEq, Repr

/-- What the certificate tool uses of OpenSSL, of zlib and of the file system. -/
structure RequestTools (Key Req : Type) where
  zlib : Zlib
  /-- `ReqFromBytes` does not return null. -/
  reqFromBytes : Octets → Bool
  newP256Key : (seed : Nat) → Option Key
  makeNodeCsr : (seed : Nat) → Key → (subjectCn subjectAltName : String) → Option Req
  /-- `KeyPem` and `ReqPem`: empty if OpenSSL fails. -/
  keyPem : Key → Octets
  reqPem : Req → Octets
  /-- `fs::absolute`. -/
  absolute : String → String
  /-- `CertLayout::RelativeTo`. -/
  relativeTo : (base path : String) → String

/-- What one start-up finds around it. -/
structure StartUp where
  faults : Faults String DiskFile
  /-- The entries of `cert1/` as they are enumerated, if it is a directory. -/
  cert1 : Option (List DirEntry)
  now : Int
  stamp : DosStamp
  seed : Nat
  hostname : String

/-- The device that starts. -/
structure RequestDevice where
  certDir : String
  deviceInstance : UInt32
  subjectCn : String

variable {Key Req : Type} (tools : RequestTools Key Req) (device : RequestDevice)

/-- `NODE_REQUEST_ZIP` in the certificate folder. -/
def requestZipPath (certDir : String) : String := join certDir "node-cari-request.zip"

/-- The PEM of a new key and of the request for it, or why there is none. -/
def newKeyAndRequest (start : StartUp) : Except String (Octets × Octets) :=
  match tools.newP256Key start.seed with
  | none => .error "not made: could not generate a private key"
  | some key =>
    match tools.makeNodeCsr start.seed key device.subjectCn ("DNS:" ++ start.hostname) with
    | none => .error "not made: could not make the certificate signing request"
    | some csr =>
      if tools.keyPem key = [] ∨ tools.reqPem csr = [] then
        .error "not made: OpenSSL could not write the new key or request as PEM"
      else .ok (tools.keyPem key, tools.reqPem csr)

/-- The last part of `EnsureNodeRequest`: the zip for the request on disk. -/
def writeRequestZip (start : StartUp) (paths : NodeSetPaths) (keyNote : String) :
    Action String DiskFile (Access (RequestResult × String)) := do
  let d ← look
  let zipPath := requestZipPath device.certDir
  match nodeRequestZip tools.zlib start.stamp tools.reqFromBytes paths d with
  | .error fault => return .error fault
  | .ok (.error why) => return .ok (.failed, "not made: " ++ why)
  | .ok (.ok zip) =>
    let written ← writeFile start.now zipPath zip false
    if written then
      return .ok (.created, "created \"" ++ tools.absolute zipPath ++ "\"" ++ keyNote ++
        " - send it to your Certificate Authority, then install its response with --import-cari")
    else return .ok (.failed, "not made: could not write \"" ++ tools.absolute zipPath ++ "\"")

/-- What the log says about a new key. -/
def newKeyNote (paths : NodeSetPaths) : String :=
  " with a new private key (" ++ tools.relativeTo device.certDir paths.privateKey ++
    ", keep it private)"

/-- The part of `EnsureNodeRequest` that makes a key and its request. -/
def writeKeyAndRequest (start : StartUp) (paths : NodeSetPaths) (keyPem csrPem : Octets) :
    Action String DiskFile (Access (RequestResult × String)) := do
  let failure := (RequestResult.failed,
    "not made: could not write the new key and request in \"" ++ device.certDir ++ "\"")
  let keyWritten ← writeFile start.now paths.privateKey keyPem true
  if keyWritten then
    let csrWritten ← writeFile start.now paths.certificateSigningRequest csrPem false
    if csrWritten then
      writeRequestZip tools device start paths (newKeyNote tools device paths)
    else return .ok failure
  else return .ok failure

/-- The paths a start-up resolves. -/
def StartUp.paths (start : StartUp) (d : CertDisk) : NodeSetPaths :=
  (resolveNodeCertPaths device.certDir (fun path => (d path).isSome) start.cert1
    device.deviceInstance).toNodeSetPaths

/-- `EnsureNodeRequest` on a disk: what it returns, and its line for the log. -/
def ensureNodeRequestOn (start : StartUp) (d : CertDisk) :
    Action String DiskFile (Access (RequestResult × String)) :=
  let paths := start.paths device d
  let zipPath := requestZipPath device.certDir
  if (d zipPath).isSome then
    pure (.ok (.alreadyExists, "\"" ++ tools.absolute zipPath ++
      "\" already exists (delete it to make a new one)"))
  else
    let haveKey := (d paths.privateKey).isSome
    let havePendingKey := paths.pendingPrivateKey != "" && (d paths.pendingPrivateKey).isSome
    if (d paths.certificateSigningRequest).isSome then
      writeRequestZip tools device start paths ""
    else if haveKey || havePendingKey then
      pure (.ok (.failed, "not made: \"" ++
        (if haveKey then paths.privateKey else paths.pendingPrivateKey) ++
        "\" has no certificate signing request (csr-node.pem) next to it, and the key is never " ++
        "replaced. Move the key away (or put its CSR back) and restart to make one."))
    else
      match newKeyAndRequest tools device start with
      | .error why => pure (.ok (.failed, why))
      | .ok (keyPem, csrPem) => writeKeyAndRequest tools device start paths keyPem csrPem

/-- `EnsureNodeRequest`. -/
def ensureNodeRequest (start : StartUp) :
    Action String DiskFile (Access (RequestResult × String)) :=
  look >>= ensureNodeRequestOn tools device start

/-- The disk that a start-up leaves, when the process stops at a moment or not at all. -/
def afterStart (d : CertDisk) (start : StartUp × Option Nat) : CertDisk :=
  let o := ensureNodeRequest tools device start.1 start.1.faults d
  match start.2 with
  | none => o.disk
  | some moment => o.moments.getD moment o.disk

/-- The disk after a run of start-ups. -/
def afterStarts (starts : List (StartUp × Option Nat)) (d : CertDisk) : CertDisk :=
  starts.foldl (afterStart tools device) d

/-! ## The ways a start-up can go -/

def NoZip (d : CertDisk) : Prop := d (requestZipPath device.certDir) = none

def HasKey (paths : NodeSetPaths) (d : CertDisk) : Prop :=
  (d paths.privateKey).isSome ∨ paths.pendingPrivateKey ≠ "" ∧ (d paths.pendingPrivateKey).isSome

/-- What a start-up does on a disk. -/
inductive Goes (start : StartUp) (d : CertDisk) :
    Action String DiskFile (Access (RequestResult × String)) → Prop
  | alreadyExists (hzip : ¬ NoZip device d) (message : String) :
      Goes start d (pure (.ok (.alreadyExists, message)))
  | fromRequest (hzip : NoZip device d)
      (hcsr : d (start.paths device d).certificateSigningRequest ≠ none) :
      Goes start d (writeRequestZip tools device start (start.paths device d) "")
  | keyWithoutRequest (hzip : NoZip device d)
      (hcsr : d (start.paths device d).certificateSigningRequest = none)
      (hkey : HasKey (start.paths device d) d) (message : String) :
      Goes start d (pure (.ok (.failed, message)))
  | noNewKey (hzip : NoZip device d)
      (hcsr : d (start.paths device d).certificateSigningRequest = none)
      (hkey : ¬ HasKey (start.paths device d) d) {why : String}
      (hnew : newKeyAndRequest tools device start = .error why) :
      Goes start d (pure (.ok (.failed, why)))
  | newKey (hzip : NoZip device d)
      (hcsr : d (start.paths device d).certificateSigningRequest = none)
      (hkey : ¬ HasKey (start.paths device d) d) {keyPem csrPem : Octets}
      (hnew : newKeyAndRequest tools device start = .ok (keyPem, csrPem)) :
      Goes start d (writeKeyAndRequest tools device start (start.paths device d) keyPem csrPem)

theorem goes (start : StartUp) (d : CertDisk) :
    Goes tools device start d (ensureNodeRequestOn tools device start d) := by
  have hkeyIff : ((d (start.paths device d).privateKey).isSome ||
      (start.paths device d).pendingPrivateKey != "" &&
        (d (start.paths device d).pendingPrivateKey).isSome) = true ↔
      HasKey (start.paths device d) d := by
    rw [Bool.or_eq_true, Bool.and_eq_true, bne_iff_ne]
    rfl
  unfold ensureNodeRequestOn
  dsimp only
  by_cases hzip : (d (requestZipPath device.certDir)).isSome = true
  · rw [if_pos hzip]
    exact .alreadyExists (Option.isSome_iff_ne_none.1 hzip) _
  have hnone : NoZip device d := Option.not_isSome_iff_eq_none.1 hzip
  rw [if_neg hzip]
  by_cases hcsr : (d (start.paths device d).certificateSigningRequest).isSome = true
  · rw [if_pos hcsr]
    exact .fromRequest hnone (Option.isSome_iff_ne_none.1 hcsr)
  have hcsrNone := Option.not_isSome_iff_eq_none.1 hcsr
  rw [if_neg hcsr]
  by_cases hkey : HasKey (start.paths device d) d
  · rw [if_pos (hkeyIff.2 hkey)]
    exact .keyWithoutRequest hnone hcsrNone hkey _
  · rw [if_neg (mt hkeyIff.1 hkey)]
    cases hnew : newKeyAndRequest tools device start with
    | error why => exact .noNewKey hnone hcsrNone hkey hnew
    | ok pems => exact .newKey hnone hcsrNone hkey hnew

/-! ## No file is replaced -/

theorem spares_writeFile {S : String → Prop} {path : String} (h : ¬ S path) (now : Int)
    (bytes : Octets) (isPrivate : Bool) : Spares (writeFile now path bytes isPrivate) S := by
  intro e d
  have hput (file : DiskFile) : Agree S d (Function.update d path (some file)) :=
    agree_update h d (some file)
  unfold SparesAt Throughout writeFile
  dsimp only
  cases e.write path with
  | true =>
    simp only [if_true, List.mem_cons, List.not_mem_nil, or_false, forall_eq_or_imp, forall_eq]
    exact ⟨⟨Agree.refl S d, hput _, hput _, hput _⟩, hput _⟩
  | false =>
    simp only [Bool.false_eq_true, if_false]
    cases e.torn path with
    | none =>
      simp only [List.mem_singleton, forall_eq]
      exact ⟨Agree.refl S d, Agree.refl S d⟩
    | some torn =>
      simp only [List.mem_cons, List.not_mem_nil, or_false, forall_eq_or_imp, forall_eq]
      exact ⟨⟨Agree.refl S d, hput _, hput _⟩, hput _⟩

/-- What holds before a write and with any first part of the octets in the file. -/
theorem throughout_writeFile {I : CertDisk → Prop} (e : Faults String DiskFile) {d : CertDisk}
    {path : String} (bytes : Octets) (now : Int) (isPrivate : Bool) (hd : I d)
    (hput : ∀ file : DiskFile, file.bytes.length ≤ bytes.length →
      I (Function.update d path (some file))) :
    Throughout I (writeFile now path bytes isPrivate e d) := by
  have hkept (count : Nat) : (bytes.take count).length ≤ bytes.length :=
    List.length_take_le' count bytes
  unfold Throughout writeFile
  dsimp only
  cases e.write path with
  | true =>
    simp only [if_true, List.mem_cons, List.not_mem_nil, or_false, forall_eq_or_imp, forall_eq]
    exact ⟨⟨hd, hput _ (hkept _), hput _ le_rfl, hput _ le_rfl⟩, hput _ le_rfl⟩
  | false =>
    simp only [Bool.false_eq_true, if_false]
    cases e.torn path with
    | none =>
      simp only [List.mem_singleton, forall_eq]
      exact ⟨hd, hd⟩
    | some torn =>
      simp only [List.mem_cons, List.not_mem_nil, or_false, forall_eq_or_imp, forall_eq]
      exact ⟨⟨hd, hput _ (hkept _), hput _ (hkept _)⟩, hput _ (hkept _)⟩

section
variable {tools device}

/-- The paths are those of some port folder. -/
theorem StartUp.exists_paths (start : StartUp) (device : RequestDevice) (d : CertDisk) :
    ∃ portFolder folderDeviceInstance, start.paths device d =
      fillNodeSet device.certDir portFolder folderDeviceInstance := by
  unfold StartUp.paths resolveNodeCertPaths
  split
  · exact ⟨_, _, rfl⟩
  · dsimp only
    split
    · exact ⟨_, _, rfl⟩
    · exact ⟨_, _, rfl⟩

theorem ending_requestZipPath (certDir : String) :
    ending 4 (requestZipPath certDir) = ending 4 "node-cari-request.zip" := by
  rw [requestZipPath, join, ← String.append_assoc]
  exact ending_append _ (by decide)

theorem requestZipPath_ne (certDir portFolder : String) (f : CertFile) :
    requestZipPath certDir ≠ f.path (fillCari certDir portFolder) := by
  intro h
  obtain ⟨s, hs⟩ := CertFile.exists_path_eq certDir portFolder f
  have hend := ending_requestZipPath certDir
  rw [h, hs, ending_append s (by cases f <;> decide)] at hend
  revert hend
  cases f <;> decide

theorem requestZipPath_ne_temp (certDir p : String) : requestZipPath certDir ≠ tempPath p := by
  intro h
  have hend := ending_requestZipPath certDir
  rw [h, ending_tempPath] at hend
  revert hend
  decide

theorem spares_writeRequestZip {S : String → Prop} (h : ¬ S (requestZipPath device.certDir))
    (start : StartUp) (paths : NodeSetPaths) (keyNote : String) :
    Spares (writeRequestZip tools device start paths keyNote) S := by
  refine Spares.bind Spares.look ?_
  intro d
  cases nodeRequestZip tools.zlib start.stamp tools.reqFromBytes paths d with
  | error fault => exact Spares.pure _
  | ok made =>
    cases made with
    | error why => exact Spares.pure _
    | ok zip =>
      refine Spares.bind (spares_writeFile h _ _ _) ?_
      intro written
      cases written with
      | false => exact Spares.pure _
      | true => exact Spares.pure _

theorem spares_writeKeyAndRequest {S : String → Prop} {paths : NodeSetPaths}
    (hkey : ¬ S paths.privateKey) (hcsr : ¬ S paths.certificateSigningRequest)
    (hzip : ¬ S (requestZipPath device.certDir)) (start : StartUp) (keyPem csrPem : Octets) :
    Spares (writeKeyAndRequest tools device start paths keyPem csrPem) S := by
  refine Spares.bind (spares_writeFile hkey _ _ _) ?_
  intro keyWritten
  cases keyWritten with
  | false => exact Spares.pure _
  | true =>
    refine Spares.bind (spares_writeFile hcsr _ _ _) ?_
    intro csrWritten
    cases csrWritten with
    | false => exact Spares.pure _
    | true => exact spares_writeRequestZip hzip _ _ _

/-- **A start-up writes only where no file is.** -/
theorem sparesAt_ensureNodeRequest (start : StartUp) (e : Faults String DiskFile) (d : CertDisk) :
    SparesAt (ensureNodeRequest tools device start) (fun p => d p ≠ none) e d := by
  refine SparesAt.bind (Spares.look e d) ?_
  show SparesAt (ensureNodeRequestOn tools device start d) _ e d
  have way := goes tools device start d
  generalize ensureNodeRequestOn tools device start d = action at way ⊢
  cases way with
  | alreadyExists => exact Spares.pure _ e d
  | fromRequest hzip => exact spares_writeRequestZip (fun h => h hzip) _ _ _ e d
  | keyWithoutRequest => exact Spares.pure _ e d
  | noNewKey => exact Spares.pure _ e d
  | newKey hzip hcsr hkey =>
    refine spares_writeKeyAndRequest ?_ (fun h => h hcsr) (fun h => h hzip) _ _ _ e d
    intro h
    exact hkey (.inl (Option.isSome_iff_ne_none.2 h))

theorem afterStart_of_some (start : StartUp × Option Nat) {d : CertDisk} {p : String}
    {file : DiskFile} (h : d p = some file) : afterStart tools device d start p = some file := by
  have hspares : SparesAt (ensureNodeRequest tools device start.1) (fun p => d p ≠ none)
      start.1.faults d := sparesAt_ensureNodeRequest start.1 start.1.faults d
  have hp : d p ≠ none := by
    rw [h]
    exact Option.some_ne_none file
  rw [afterStart]
  cases start.2 with
  | none => exact (hspares.2 p hp).trans h
  | some moment => exact (Throughout.stop hspares moment p hp).trans h

/-- **In a run.** -/
theorem afterStarts_of_some (starts : List (StartUp × Option Nat)) {d : CertDisk} {p : String}
    {file : DiskFile} (h : d p = some file) : afterStarts tools device starts d p = some file := by
  induction starts generalizing d with
  | nil => exact h
  | cons start starts ih => exact ih (afterStart_of_some start h)

end

/-! ## What `Created` means -/

/-- The result without the line for the log. -/
def result (o : Outcome String DiskFile (Access (RequestResult × String))) : Access RequestResult :=
  o.value.map Prod.fst

/-- The request is on disk, and the zip for it. -/
def HoldsRequestZip (stamp : DosStamp) (paths : NodeSetPaths) (d : CertDisk) : Prop :=
  ∃ csr zip, readDisk d paths.certificateSigningRequest = some csr ∧
    tools.reqFromBytes csr = true ∧
    writeZip tools.zlib stamp (requestTree paths csr) = .ok zip ∧
    readDisk d (requestZipPath device.certDir) = some zip

/-- The zip is written in full or cannot be created. -/
def ZipNotCutShort (e : Faults String DiskFile) : Prop :=
  e.write (requestZipPath device.certDir) = true ∨ e.torn (requestZipPath device.certDir) = none

section
variable {tools device} {e : Faults String DiskFile} {d : CertDisk}

theorem writeFile_run_ok {path : String} (h : e.write path = true) (now : Int) (bytes : Octets)
    (isPrivate : Bool) : (writeFile now path bytes isPrivate e d).value = true ∧
      (writeFile now path bytes isPrivate e d).disk =
        Function.update d path (some ⟨bytes, now, isPrivate⟩) := by
  unfold writeFile
  dsimp only
  rw [h, if_pos rfl]
  exact ⟨rfl, rfl⟩

theorem writeFile_run_none {path : String} (h : e.write path = false) (htorn : e.torn path = none)
    (now : Int) (bytes : Octets) (isPrivate : Bool) :
    (writeFile now path bytes isPrivate e d).value = false := by
  unfold writeFile
  dsimp only
  rw [h, htorn]
  rfl

theorem nodeRequestZip_eq_ok {zlib : Zlib} {stamp : DosStamp} {reqFromBytes : Octets → Bool}
    {paths : NodeSetPaths} {zip : Octets} :
    nodeRequestZip zlib stamp reqFromBytes paths d = .ok (.ok zip) ↔
      ∃ csr, readDisk d paths.certificateSigningRequest = some csr ∧ reqFromBytes csr = true ∧
        writeZip zlib stamp (requestTree paths csr) = .ok zip := by
  unfold nodeRequestZip
  cases readDisk d paths.certificateSigningRequest with
  | none => simp
  | some csr =>
    cases hparses : reqFromBytes csr with
    | false => simp [hparses]
    | true =>
      cases hzip : writeZip zlib stamp (requestTree paths csr) with
      | error fault => simp [hparses, hzip, Except.map]
      | ok zip' => simp [hparses, hzip, Except.map]

variable {start : StartUp} {paths : NodeSetPaths}

theorem writeRequestZip_run (e : Faults String DiskFile) (device : RequestDevice) {zip : Octets}
    (h : nodeRequestZip tools.zlib start.stamp
    tools.reqFromBytes paths d = .ok (.ok zip)) (note : String) :
    (writeRequestZip tools device start paths note e d).disk =
      (writeFile start.now (requestZipPath device.certDir) zip false e d).disk ∧
    result (writeRequestZip tools device start paths note e d) =
      .ok (if (writeFile start.now (requestZipPath device.certDir) zip false e d).value then
        .created else .failed) := by
  unfold writeRequestZip result
  simp only [bind_disk, bind_value, look_run, h]
  cases (writeFile start.now (requestZipPath device.certDir) zip false e d).value with
  | true => exact ⟨rfl, rfl⟩
  | false => exact ⟨rfl, rfl⟩

theorem writeRequestZip_fail (e : Faults String DiskFile) (device : RequestDevice) {why : String}
    (h : nodeRequestZip tools.zlib start.stamp
    tools.reqFromBytes paths d = .ok (.error why)) (note : String) :
    (writeRequestZip tools device start paths note e d).disk = d ∧
      result (writeRequestZip tools device start paths note e d) = .ok .failed := by
  unfold writeRequestZip result
  simp only [bind_disk, bind_value, look_run, h]
  exact ⟨rfl, rfl⟩

theorem writeRequestZip_fault {fault : Fault} (h : nodeRequestZip tools.zlib start.stamp
    tools.reqFromBytes paths d = .error fault) (note : String) :
    result (writeRequestZip tools device start paths note e d) = .error fault := by
  unfold writeRequestZip result
  simp only [bind_value, look_run, h]
  rfl

theorem holds_of_writeRequestZip (hne : paths.certificateSigningRequest ≠
      requestZipPath device.certDir) (hzip : ZipNotCutShort device e) (note : String)
    (h : result (writeRequestZip tools device start paths note e d) = .ok .created) :
    HoldsRequestZip tools device start.stamp paths
      (writeRequestZip tools device start paths note e d).disk := by
  cases hmade : nodeRequestZip tools.zlib start.stamp tools.reqFromBytes paths d with
  | error fault =>
    rw [writeRequestZip_fault hmade] at h
    cases h
  | ok made =>
    cases made with
    | error why =>
      rw [(writeRequestZip_fail e device hmade note).2] at h
      cases h
    | ok zip =>
      obtain ⟨hdisk, hresult⟩ := writeRequestZip_run e device hmade note
      have hwrite : e.write (requestZipPath device.certDir) = true := by
        by_contra hnot
        rw [Bool.not_eq_true] at hnot
        have htorn := hzip.resolve_left (by rw [hnot]; exact Bool.false_ne_true)
        rw [hresult, writeFile_run_none hnot htorn] at h
        cases h
      obtain ⟨csr, hcsr, hparses, hwriteZip⟩ := nodeRequestZip_eq_ok.1 hmade
      refine ⟨csr, zip, ?_, hparses, hwriteZip, ?_⟩
      · rw [hdisk, (writeFile_run_ok hwrite _ _ _).2, readDisk, Function.update_of_ne hne]
        exact hcsr
      · rw [hdisk, (writeFile_run_ok hwrite _ _ _).2, readDisk, Function.update_self]
        rfl

/-- The key and its request are written, then the zip; or one of the two cannot be created. -/
theorem writeKeyAndRequest_run (tools : RequestTools Key Req) (device : RequestDevice)
    (e : Faults String DiskFile) (d : CertDisk) (start : StartUp) (paths : NodeSetPaths)
    (keyPem csrPem : Octets) :
    ∃ note key csr, key = writeFile start.now paths.privateKey keyPem true e d ∧
      csr = writeFile start.now paths.certificateSigningRequest csrPem false e key.disk ∧
      (key.value = true ∧ csr.value = true ∧
        (writeKeyAndRequest tools device start paths keyPem csrPem e d).disk =
          (writeRequestZip tools device start paths note e csr.disk).disk ∧
        result (writeKeyAndRequest tools device start paths keyPem csrPem e d) =
          result (writeRequestZip tools device start paths note e csr.disk) ∨
      (key.value = false ∨ csr.value = false) ∧
        result (writeKeyAndRequest tools device start paths keyPem csrPem e d) = .ok .failed) := by
  refine ⟨newKeyNote tools device paths, _, _, rfl, rfl, ?_⟩
  unfold writeKeyAndRequest result
  simp only [bind_value, bind_disk]
  cases (writeFile start.now paths.privateKey keyPem true e d).value with
  | false => exact .inr ⟨.inl rfl, rfl⟩
  | true =>
    simp only [if_true, bind_value, bind_disk]
    cases (writeFile start.now paths.certificateSigningRequest csrPem false e
        (writeFile start.now paths.privateKey keyPem true e d).disk).value with
    | false => exact .inr ⟨.inr rfl, rfl⟩
    | true => exact .inl ⟨trivial, rfl, rfl, rfl⟩

/-- **After `Created` the zip for the request on disk is there.** -/
theorem holds_of_created (hzip : ZipNotCutShort device e)
    (h : result (ensureNodeRequest tools device start e d) = .ok .created) :
    HoldsRequestZip tools device start.stamp (start.paths device d)
      (ensureNodeRequest tools device start e d).disk := by
  have hne : (start.paths device d).certificateSigningRequest ≠ requestZipPath device.certDir := by
    obtain ⟨portFolder, folderDeviceInstance, hpaths⟩ := start.exists_paths device d
    rw [hpaths]
    exact (requestZipPath_ne device.certDir portFolder .certificateSigningRequest).symm
  change result (ensureNodeRequestOn tools device start d e d) = .ok .created at h
  show HoldsRequestZip tools device start.stamp (start.paths device d)
    (ensureNodeRequestOn tools device start d e d).disk
  have way := goes tools device start d
  generalize ensureNodeRequestOn tools device start d = action at way h ⊢
  cases way with
  | alreadyExists => cases h
  | fromRequest => exact holds_of_writeRequestZip hne hzip _ h
  | keyWithoutRequest => cases h
  | noNewKey => cases h
  | @newKey hnone hcsr hkey keyPem csrPem hnew =>
    obtain ⟨note, key, csr, -, -, hrun⟩ := writeKeyAndRequest_run tools device e d start
      (start.paths device d) keyPem csrPem
    rcases hrun with ⟨-, -, hdisk, hresult⟩ | ⟨-, hfailed⟩
    · rw [hdisk]
      rw [hresult] at h
      exact holds_of_writeRequestZip hne hzip note h
    · rw [hfailed] at h
      cases h

end

/-! ## From an empty folder -/

/-- The paths of a new set for the device. -/
def newPaths : NodeSetPaths := newNodeCertPaths device.certDir device.deviceInstance

def IsEmpty (d : CertDisk) : Prop := ∀ relative, d (join device.certDir relative) = none

/-- The files that start-ups on an empty folder make. -/
def IsMade (p : String) : Prop :=
  p = (newPaths device).privateKey ∨ p = (newPaths device).certificateSigningRequest ∨
    p = requestZipPath device.certDir

/-- What runs that began with an empty folder leave: no other files, and no large request. -/
structure FromEmpty (d : CertDisk) : Prop where
  made : ∀ relative, d (join device.certDir relative) ≠ none → IsMade device
    (join device.certDir relative)
  small : ∀ file, d (newPaths device).certificateSigningRequest = some file →
    file.bytes.length ≤ maxPem

/-- This device's files, and the temp file of its bundle. -/
def IsOwn (p : String) : Prop :=
  p = requestZipPath device.certDir ∨ p = tempPath (newPaths device).trustedIssuers ∨
    ∃ f : CertFile, p = f.path (newPaths device).toNodeCertPaths

/-- The folder holds nothing but this device's files, and no pending key. -/
structure OwnFolder (d : CertDisk) : Prop where
  own : ∀ relative, d (join device.certDir relative) ≠ none →
    IsOwn device (join device.certDir relative)
  noPending : d (newPaths device).pendingPrivateKey = none

section
variable {tools device} {d : CertDisk}

theorem IsEmpty.fromEmpty (h : IsEmpty device d) : FromEmpty device d where
  made relative hd := absurd (h relative) hd
  small file hfile := by
    have hnone : d (newPaths device).certificateSigningRequest = none := h _
    rw [hnone] at hfile
    cases hfile

theorem FromEmpty.update (h : FromEmpty device d) {p : String} {file : DiskFile}
    (hp : IsMade device p)
    (hsmall : p = (newPaths device).certificateSigningRequest → file.bytes.length ≤ maxPem) :
    FromEmpty device (Function.update d p (some file)) where
  made relative hd := by
    by_cases heq : join device.certDir relative = p
    · rw [heq]
      exact hp
    · rw [Function.update_of_ne heq] at hd
      exact h.made relative hd
  small file' hfile := by
    by_cases heq : (newPaths device).certificateSigningRequest = p
    · rw [heq, Function.update_self] at hfile
      rw [← Option.some.inj hfile]
      exact hsmall heq.symm
    · rw [Function.update_of_ne heq] at hfile
      exact h.small file' hfile

/-! ### The folder that is found -/

theorem join_inj {directory a b : String} (h : join directory a = join directory b) : a = b := by
  rw [join, join] at h
  exact (String.append_right_inj _).1 ((String.append_right_inj _).1 h)

/-- A file's name tells which of the files of a folder it is. -/
theorem file_eq_of_path_eq {certDir portFolder portFolder' : String} {f g : CertFile}
    (h : f.path (fillCari certDir portFolder) = g.path (fillCari certDir portFolder')) : f = g := by
  obtain ⟨s, hs⟩ := CertFile.exists_path_eq certDir portFolder f
  obtain ⟨t, ht⟩ := CertFile.exists_path_eq certDir portFolder' g
  have hlength : ∀ f : CertFile, f.name.toList.length = 12 := fun f => by cases f <;> decide
  have hname : ending 12 f.name = ending 12 g.name := by
    rw [← ending_append s (Nat.le_of_eq (hlength f).symm),
      ← ending_append t (Nat.le_of_eq (hlength g).symm), ← hs, ← ht, h]
  revert hname
  cases f <;> cases g <;> decide

/-- The files of a port folder that `FindNodePorts` looks for. -/
def nodeFiles (portFolder : String) : List String :=
  [portFolder ++ "/key-node.pem", portFolder ++ "/csr-node.pem", portFolder ++ "/opr-node.pem"]

theorem portFolderOf_device (device : RequestDevice) :
    portFolderOf ("device-" ++ toString device.deviceInstance.toNat) =
      (newPaths device).portFolder := by
  have hcert1 : "cert1/" ++ "device-" = "cert1/device-" := rfl
  rw [portFolderOf, ← String.append_assoc, hcert1]
  rfl

theorem FromEmpty.ownFolder (h : FromEmpty device d) : OwnFolder device d where
  own relative hd := by
    rcases h.made relative hd with heq | heq | heq
    · exact .inr (.inr ⟨.privateKey, heq⟩)
    · exact .inr (.inr ⟨.certificateSigningRequest, heq⟩)
    · exact .inl heq
  noPending := by
    by_contra hd
    have hinj (f g : CertFile) := CertFile.path_inj device.certDir (newPaths device).portFolder
      (f := f) (g := g)
    rcases h.made "key-node-pending.pem" hd with heq | heq | heq
    · cases hinj .pendingPrivateKey .privateKey heq
    · cases hinj .pendingPrivateKey .certificateSigningRequest heq
    · exact requestZipPath_ne device.certDir (newPaths device).portFolder .pendingPrivateKey
        heq.symm

theorem portFolder_eq_of_isOwn {portFolder relative : String}
    (hrelative : relative ∈ nodeFiles portFolder)
    (h : IsOwn device (join device.certDir relative)) :
    portFolder = (newPaths device).portFolder := by
  obtain ⟨g, hpath, hg⟩ : ∃ g : CertFile, join device.certDir relative =
      g.path (fillCari device.certDir portFolder) ∧
        g ∈ [CertFile.privateKey, .certificateSigningRequest, .operationalCertificate] := by
    simp only [nodeFiles, List.mem_cons, List.not_mem_nil, or_false] at hrelative
    rcases hrelative with rfl | rfl | rfl
    · exact ⟨.privateKey, rfl, by decide⟩
    · exact ⟨.certificateSigningRequest, rfl, by decide⟩
    · exact ⟨.operationalCertificate, rfl, by decide⟩
  rw [hpath] at h
  rcases h with h | h | ⟨f, h⟩
  · exact absurd h.symm (requestZipPath_ne device.certDir portFolder g)
  · exact absurd h.symm (CertFile.tempPath_ne device.certDir portFolder _ g)
  · have h : g.path (fillCari device.certDir portFolder) =
        f.path (fillCari device.certDir (newPaths device).portFolder) := h
    obtain rfl := file_eq_of_path_eq h
    simp only [List.mem_cons, List.not_mem_nil, or_false] at hg
    rcases hg with rfl | rfl | rfl <;> exact (String.append_left_inj _).1 (join_inj h)

/-- Only the device's own folder is found. -/
theorem OwnFolder.nodePort_eq (h : OwnFolder device d)
    (hinstance : device.deviceInstance ≤ 4194302) {entry : DirEntry} {port : String × UInt32}
    (hport : nodePort device.certDir (fun path => (d path).isSome) entry = some port) :
    port = ((newPaths device).portFolder, device.deviceInstance) := by
  unfold nodePort at hport
  split at hport
  next folderDeviceInstance hdirectory hparse =>
    dsimp only at hport
    split_ifs at hport with hexists
    obtain rfl := Option.some.inj hport
    obtain ⟨relative, hrelative, hfile⟩ : ∃ relative ∈ nodeFiles (portFolderOf entry.name),
        (d (join device.certDir relative)).isSome := by
      rw [Bool.or_eq_true, Bool.or_eq_true] at hexists
      rcases hexists with (hexists | hexists) | hexists
      · exact ⟨_, by simp [nodeFiles], hexists⟩
      · exact ⟨_, by simp [nodeFiles], hexists⟩
      · exact ⟨_, by simp [nodeFiles], hexists⟩
    have hfolder : portFolderOf entry.name = (newPaths device).portFolder :=
      portFolder_eq_of_isOwn hrelative (h.own relative (Option.isSome_iff_ne_none.1 hfile))
    have hname := portFolderOf_inj (hfolder.trans (portFolderOf_device device).symm)
    have htext : octetsOf entry.name = deviceFolderName device.deviceInstance := by
      rw [hname, octetsOf_append, octetsOf_toString, deviceFolderName]
    rw [parseDeviceFolder_eq, htext, deviceInstance_deviceFolderName hinstance] at hparse
    rw [hfolder, ← Option.some.inj hparse]
  next => cases hport

/-- **Every start and every import uses the same paths.** -/
theorem OwnFolder.resolved (h : OwnFolder device d) (hinstance : device.deviceInstance ≤ 4194302)
    (cert1 : Option (List DirEntry)) :
    (resolveNodeCertPaths device.certDir (fun path => (d path).isSome) cert1
      device.deviceInstance).toNodeSetPaths = newPaths device := by
  unfold resolveNodeCertPaths
  cases cert1 with
  | none => rfl
  | some entries =>
    dsimp only
    split
    · rfl
    next port hport =>
      obtain ⟨entry, -, hentry⟩ := List.mem_filterMap.1 (Choice.mem_of_choose _ hport)
      have hport' := h.nodePort_eq hinstance hentry
      show fillNodeSet device.certDir port.1 port.2 = newPaths device
      rw [hport']
      rfl

theorem FromEmpty.paths_eq (h : FromEmpty device d) (hinstance : device.deviceInstance ≤ 4194302)
    (start : StartUp) : start.paths device d = newPaths device :=
  h.ownFolder.resolved hinstance start.cert1

end

/-! ### Every moment of a run -/

/-- What is relied on of OpenSSL and zlib: requests are small, and zlib undoes what it does. -/
structure RequestTools.Works (deviceInstance : UInt32) : Prop where
  small : ∀ {seed key subjectCn subjectAltName csr},
    tools.makeNodeCsr seed key subjectCn subjectAltName = some csr →
      (tools.reqPem csr).length ≤ maxPem
  zlib : ∀ {data}, data.length ≤ maxPem →
    tools.reqFromBytes data = true ∨ data = requestNotes deviceInstance →
      tools.zlib.Undoes data ∧ tools.zlib.Bounded data

section
variable {tools device} {e : Faults String DiskFile} {d : CertDisk} {start : StartUp}

theorem small_newKeyAndRequest (hworks : tools.Works device.deviceInstance)
    {keyPem csrPem : Octets} (h : newKeyAndRequest tools device start = .ok (keyPem, csrPem)) :
    csrPem.length ≤ maxPem := by
  unfold newKeyAndRequest at h
  split at h
  · cases h
  · split at h
    · cases h
    next csr hcsr =>
      split_ifs at h
      have hpem : tools.reqPem csr = csrPem := congrArg Prod.snd (Except.ok.inj h)
      rw [← hpem]
      exact hworks.small hcsr

theorem FromEmpty.writeRequestZip (h : FromEmpty device d) (paths : NodeSetPaths)
    (keyNote : String) :
    Throughout (FromEmpty device) (writeRequestZip tools device start paths keyNote e d) := by
  have hne : requestZipPath device.certDir ≠ (newPaths device).certificateSigningRequest :=
    requestZipPath_ne device.certDir (newPaths device).portFolder .certificateSigningRequest
  refine Throughout.bind (Throughout.look h) ?_
  simp only [look_run]
  cases nodeRequestZip tools.zlib start.stamp tools.reqFromBytes paths d with
  | error fault => exact Throughout.pure h _
  | ok made =>
    cases made with
    | error why => exact Throughout.pure h _
    | ok zip =>
      have hwrite := throughout_writeFile e zip start.now false h
        fun _ _ => h.update (.inr (.inr rfl)) fun heq => absurd heq hne
      refine Throughout.bind hwrite ?_
      split
      · exact Throughout.pure hwrite.2 _
      · exact Throughout.pure hwrite.2 _

theorem FromEmpty.writeKey (h : FromEmpty device d) (now : Int) (keyPem : Octets) :
    Throughout (FromEmpty device) (writeFile now (newPaths device).privateKey keyPem true e d) := by
  have hne : (newPaths device).privateKey ≠ (newPaths device).certificateSigningRequest := by
    intro heq
    cases CertFile.path_inj device.certDir (newPaths device).portFolder (f := .privateKey)
      (g := .certificateSigningRequest) heq
  exact throughout_writeFile e _ now true h
    fun _ _ => h.update (.inl rfl) fun heq => absurd heq hne

theorem FromEmpty.writeRequest (h : FromEmpty device d) (now : Int) {csrPem : Octets}
    (hsmall : csrPem.length ≤ maxPem) : Throughout (FromEmpty device)
      (writeFile now (newPaths device).certificateSigningRequest csrPem false e d) :=
  throughout_writeFile e _ now false h
    fun _ hfile => h.update (.inr (.inl rfl)) fun _ => hfile.trans hsmall

theorem FromEmpty.writeKeyAndRequest (h : FromEmpty device d) (keyPem : Octets) {csrPem : Octets}
    (hsmall : csrPem.length ≤ maxPem) :
    Throughout (FromEmpty device)
      (writeKeyAndRequest tools device start (newPaths device) keyPem csrPem e d) := by
  have hkey := h.writeKey (e := e) start.now keyPem
  refine Throughout.bind hkey ?_
  split
  · have hcsr := hkey.2.writeRequest (e := e) start.now hsmall
    refine Throughout.bind hcsr ?_
    split
    · exact hcsr.2.writeRequestZip _ _
    · exact Throughout.pure hcsr.2 _
  · exact Throughout.pure hkey.2 _

theorem FromEmpty.throughout_ensure (start : StartUp) (e : Faults String DiskFile)
    (hinstance : device.deviceInstance ≤ 4194302)
    (hworks : tools.Works device.deviceInstance) (h : FromEmpty device d) :
    Throughout (FromEmpty device) (ensureNodeRequest tools device start e d) := by
  refine Throughout.bind (Throughout.look h) ?_
  show Throughout _ (ensureNodeRequestOn tools device start d e d)
  have way := goes tools device start d
  generalize ensureNodeRequestOn tools device start d = action at way ⊢
  cases way with
  | alreadyExists => exact Throughout.pure h _
  | fromRequest => exact h.writeRequestZip _ _
  | keyWithoutRequest => exact Throughout.pure h _
  | noNewKey => exact Throughout.pure h _
  | newKey hzip hcsr hkey hnew =>
    rw [h.paths_eq hinstance]
    exact h.writeKeyAndRequest _ (small_newKeyAndRequest hworks hnew)

theorem FromEmpty.afterStarts (hinstance : device.deviceInstance ≤ 4194302)
    (hworks : tools.Works device.deviceInstance) (starts : List (StartUp × Option Nat))
    (h : FromEmpty device d) : FromEmpty device (afterStarts tools device starts d) := by
  induction starts generalizing d with
  | nil => exact h
  | cons start starts ih =>
    apply ih
    have hall := h.throughout_ensure start.1 start.1.faults hinstance hworks
    rw [afterStart]
    cases start.2 with
    | none => exact hall.2
    | some moment => exact Throughout.stop hall moment

end

/-! ### The next start-up -/

/-- All writes succeed, and so does OpenSSL. -/
def NothingFails (start : StartUp) : Prop :=
  (∀ p, start.faults.write p = true) ∧
    ∃ keyPem csrPem, newKeyAndRequest tools device start = .ok (keyPem, csrPem) ∧
      tools.reqFromBytes csrPem = true

/-- The request on disk is readable, or there is neither a request nor a key. -/
def CanRequest (d : CertDisk) : Prop :=
  match readDisk d (newPaths device).certificateSigningRequest with
  | some csr => tools.reqFromBytes csr = true
  | none => d (newPaths device).privateKey = none

/-- The request is on disk, and a zip that is read back as the tree for it. -/
def HoldsReadableZip (d : CertDisk) : Prop :=
  ∃ csr zip, readDisk d (newPaths device).certificateSigningRequest = some csr ∧
    tools.reqFromBytes csr = true ∧ readDisk d (requestZipPath device.certDir) = some zip ∧
    readZip tools.zlib zip = .ok (requestTree (newPaths device) csr, .ok ())

/-- What a start-up in which nothing fails makes of a disk. -/
structure NextStart (d : CertDisk) (returned : Access RequestResult) (d' : CertDisk) : Prop where
  alreadyExists : ¬ NoZip device d → returned = .ok .alreadyExists ∧ d' = d
  created : NoZip device d → CanRequest tools device d →
    returned = .ok .created ∧ HoldsReadableZip tools device d'
  failed : NoZip device d → ¬ CanRequest tools device d → returned = .ok .failed ∧ d' = d

section
variable {tools device} {e : Faults String DiskFile} {d : CertDisk} {start : StartUp}

theorem readable_of_writeRequestZip (hinstance : device.deviceInstance ≤ 4194302)
    (hworks : tools.Works device.deviceInstance) (h : FromEmpty device d)
    (hwrite : ∀ p, e.write p = true) {csr : Octets}
    (hcsr : readDisk d (newPaths device).certificateSigningRequest = some csr)
    (hparses : tools.reqFromBytes csr = true) (keyNote : String) :
    result (writeRequestZip tools device start (newPaths device) keyNote e d) = .ok .created ∧
      HoldsReadableZip tools device
        (writeRequestZip tools device start (newPaths device) keyNote e d).disk := by
  obtain ⟨file, hfile, hbytes⟩ := Option.map_eq_some_iff.1 hcsr
  have hsmall : csr.length ≤ maxPem := hbytes ▸ h.small file hfile
  have hnotes : (requestNotes device.deviceInstance).length ≤ maxPem :=
    (length_requestNotes hinstance).trans (by decide)
  have hzlib : ∀ data ∈ [csr, requestNotes device.deviceInstance],
      tools.zlib.Undoes data ∧ tools.zlib.Bounded data := by
    intro data hdata
    rcases List.mem_cons.1 hdata with rfl | hdata
    · exact hworks.zlib hsmall (.inl hparses)
    · rw [List.mem_singleton.1 hdata]
      exact hworks.zlib hnotes (.inr rfl)
  have htree : requestTree (newPaths device) csr = requestTreeOf device.deviceInstance csr :=
    requestTree_eq device.certDir device.deviceInstance csr
  obtain ⟨zip, hmade, hread⟩ := exists_readable_zip start.stamp hinstance hsmall hzlib
  rw [← htree] at hmade hread
  have hne : (newPaths device).certificateSigningRequest ≠ requestZipPath device.certDir :=
    (requestZipPath_ne device.certDir (newPaths device).portFolder .certificateSigningRequest).symm
  obtain ⟨hdisk, hresult⟩ := writeRequestZip_run e device
    (nodeRequestZip_eq_ok.2 ⟨csr, hcsr, hparses, hmade⟩) keyNote
  obtain ⟨hvalue, hput⟩ := writeFile_run_ok (d := d) (hwrite (requestZipPath device.certDir))
    start.now zip false
  rw [hresult, hvalue, hdisk, hput]
  refine ⟨rfl, csr, zip, ?_, hparses, ?_, hread⟩
  · rw [readDisk, Function.update_of_ne hne]
    exact hcsr
  · rw [readDisk, Function.update_self]
    rfl

theorem FromEmpty.hasKey_iff (h : FromEmpty device d) :
    HasKey (newPaths device) d ↔ d (newPaths device).privateKey ≠ none := by
  have hpending := h.ownFolder.noPending
  rw [HasKey, hpending, Option.isSome_iff_ne_none]
  simp

theorem not_canRequest_of_key (h : FromEmpty device d)
    (hcsr : d (newPaths device).certificateSigningRequest = none)
    (hkey : HasKey (newPaths device) d) : ¬ CanRequest tools device d := by
  rw [CanRequest, readDisk, hcsr]
  exact h.hasKey_iff.1 hkey

theorem canRequest_of_no_key (h : FromEmpty device d)
    (hcsr : d (newPaths device).certificateSigningRequest = none)
    (hkey : ¬ HasKey (newPaths device) d) : CanRequest tools device d := by
  rw [CanRequest, readDisk, hcsr]
  exact not_not.1 (mt h.hasKey_iff.2 hkey)

/-- **The next start-up, in which nothing fails.** -/
theorem FromEmpty.nextStart (hinstance : device.deviceInstance ≤ 4194302)
    (hworks : tools.Works device.deviceInstance) (h : FromEmpty device d)
    (hclean : NothingFails tools device start) :
    NextStart tools device d
      (result (ensureNodeRequest tools device start start.faults d))
      (ensureNodeRequest tools device start start.faults d).disk := by
  show NextStart tools device d (result (ensureNodeRequestOn tools device start d start.faults d))
    (ensureNodeRequestOn tools device start d start.faults d).disk
  have hpaths := h.paths_eq hinstance start
  have way := goes tools device start d
  obtain ⟨hwrite, newKeyPem, newCsrPem, hnewPems, hnewParses⟩ := hclean
  generalize ensureNodeRequestOn tools device start d = action at way ⊢
  cases way with
  | alreadyExists hzip => exact ⟨fun _ => ⟨rfl, rfl⟩, fun hno => absurd hno hzip,
      fun hno => absurd hno hzip⟩
  | fromRequest hzip hcsr =>
    rw [hpaths] at hcsr ⊢
    obtain ⟨file, hfile⟩ := Option.ne_none_iff_exists'.1 hcsr
    have hread : readDisk d (newPaths device).certificateSigningRequest = some file.bytes := by
      rw [readDisk, hfile]
      rfl
    refine ⟨fun hno => absurd hzip hno, fun _ hcan => ?_, fun _ hcannot => ?_⟩
    · rw [CanRequest, hread] at hcan
      exact readable_of_writeRequestZip hinstance hworks h hwrite hread hcan ""
    · rw [CanRequest, hread] at hcannot
      have hmade : nodeRequestZip tools.zlib start.stamp tools.reqFromBytes (newPaths device) d =
          .ok (.error ("\"" ++ (newPaths device).certificateSigningRequest ++
            "\" is not a certificate signing request")) := by
        rw [nodeRequestZip, hread]
        simp [hcannot]
      obtain ⟨hdisk, hresult⟩ := writeRequestZip_fail start.faults device hmade ""
      exact ⟨hresult, hdisk⟩
  | keyWithoutRequest hzip hcsr hkey =>
    rw [hpaths] at hcsr hkey
    exact ⟨fun hno => absurd hzip hno,
      fun _ hcan => absurd hcan (not_canRequest_of_key h hcsr hkey), fun _ _ => ⟨rfl, rfl⟩⟩
  | noNewKey hzip hcsr hkey hnew =>
    rw [hnew] at hnewPems
    cases hnewPems
  | @newKey hzip hcsr hkey keyPem csrPem hnew =>
    obtain ⟨rfl, rfl⟩ : keyPem = newKeyPem ∧ csrPem = newCsrPem := by
      rw [hnew] at hnewPems
      exact Prod.mk.inj (Except.ok.inj hnewPems)
    rw [hpaths] at hcsr hkey ⊢
    refine ⟨fun hno => absurd hzip hno, fun _ _ => ?_,
      fun _ hcannot => absurd (canRequest_of_no_key h hcsr hkey) hcannot⟩
    obtain ⟨note, key, csr, hkeyRun, hcsrRun, hrun⟩ := writeKeyAndRequest_run tools device
      start.faults d start (newPaths device) keyPem csrPem
    obtain ⟨hkeyValue, hkeyDisk⟩ := writeFile_run_ok (d := d) (hwrite (newPaths device).privateKey)
      start.now keyPem true
    obtain ⟨hcsrValue, hcsrDisk⟩ := writeFile_run_ok (d := key.disk)
      (hwrite (newPaths device).certificateSigningRequest) start.now csrPem false
    rw [← hkeyRun] at hkeyValue
    rw [← hcsrRun] at hcsrValue hcsrDisk
    rcases hrun with ⟨-, -, hdisk, hresult⟩ | ⟨hvalue, -⟩
    · have hsmall := small_newKeyAndRequest hworks hnew
      have hkeyEmpty := (h.writeKey (e := start.faults) start.now keyPem).2
      rw [← hkeyRun] at hkeyEmpty
      have hall := (hkeyEmpty.writeRequest (e := start.faults) start.now hsmall).2
      rw [← hcsrRun] at hall
      rw [hdisk, hresult]
      refine readable_of_writeRequestZip hinstance hworks hall hwrite ?_ hnewParses note
      rw [hcsrDisk, readDisk, Function.update_self]
      rfl
    · rw [hkeyValue, hcsrValue] at hvalue
      rcases hvalue with hvalue | hvalue <;> cases hvalue

end

/-! ## Runs of start-ups -/

/-- **Nothing is replaced, `Created` means created, and what the next start-up does.** -/
theorem requests_restart (hinstance : device.deviceInstance ≤ 4194302)
    (hworks : tools.Works device.deviceInstance) :
    (∀ starts d p file, d p = some file → afterStarts tools device starts d p = some file) ∧
    (∀ start d, ZipNotCutShort device start.faults →
      result (ensureNodeRequest tools device start start.faults d) = .ok .created →
      HoldsRequestZip tools device start.stamp (start.paths device d)
        (ensureNodeRequest tools device start start.faults d).disk) ∧
    ∀ empty starts start, IsEmpty device empty → NothingFails tools device start →
      NextStart tools device (afterStarts tools device starts empty)
        (result (ensureNodeRequest tools device start start.faults
          (afterStarts tools device starts empty)))
        (ensureNodeRequest tools device start start.faults
          (afterStarts tools device starts empty)).disk := by
  refine ⟨?_, ?_, ?_⟩
  · intro starts d p file h
    exact afterStarts_of_some starts h
  · intro start d hzip h
    exact holds_of_created hzip h
  · intro empty starts start hempty hclean
    have hleft : FromEmpty device (afterStarts tools device starts empty) :=
      hempty.fromEmpty.afterStarts hinstance hworks starts
    exact hleft.nextStart hinstance hworks hclean

/-! ### The third key -/

/-- OpenSSL and zlib on the third key and its request. -/
def thirdTools : RequestTools Unit Unit where
  zlib := requestZlib
  reqFromBytes := (· == thirdRequestPem)
  newP256Key _ := some ()
  makeNodeCsr _ _ _ _ := some ()
  keyPem _ := thirdKeyPem
  reqPem _ := thirdRequestPem
  absolute path := path
  relativeTo _ path := path

def thirdDevice : RequestDevice := ⟨"sc", 389005, "Chipkin Example B-BC"⟩

/-- A start-up in which nothing fails. -/
def cleanStart : StartUp := ⟨Faults.none, none, 0, ⟨0, 0x21⟩, 0, "localhost"⟩

/-- A start-up that cannot create the request. -/
def keyOnlyStart : StartUp := { cleanStart with
  faults := { Faults.none with
    write := fun p => p != "sc/cert1/device-389005/port-4/csr-node.pem" } }

theorem nothingFails_clean : NothingFails thirdTools thirdDevice cleanStart := by
  refine ⟨fun _ => rfl, thirdKeyPem, thirdRequestPem, ?_, beq_self_eq_true _⟩
  rw [newKeyAndRequest]
  exact if_neg (by decide)

theorem thirdTools_works : thirdTools.Works 389005 where
  small _ := by
    show thirdRequestPem.length ≤ maxPem
    decide +kernel
  zlib {data} _ hdata := by
    have hne : requestNotes 389005 ≠ thirdRequestPem := by decide +kernel
    have hne' : notesDeflated ≠ requestDeflated := by decide
    show requestZlib.Undoes data ∧ requestZlib.Bounded data
    rcases hdata with hdata | hdata
    · rw [beq_iff_eq.1 hdata]
      refine ⟨zlibOn_undoes_left _ _, ?_⟩
      rw [Zlib.Bounded, requestZlib, zlibOn_left]
      decide +kernel
    · rw [hdata]
      refine ⟨zlibOn_undoes_right _ _ hne hne', ?_⟩
      rw [Zlib.Bounded, requestZlib, zlibOn_right _ _ hne]
      decide +kernel

theorem requests_restart_third :
    result (ensureNodeRequest thirdTools thirdDevice cleanStart cleanStart.faults fun _ => none) =
      .ok .created ∧
    HoldsReadableZip thirdTools thirdDevice
      (ensureNodeRequest thirdTools thirdDevice cleanStart cleanStart.faults fun _ => none).disk :=
  ((requests_restart thirdTools thirdDevice (by decide) thirdTools_works).2.2 (fun _ => none) []
    cleanStart (fun _ => rfl) nothingFails_clean).created rfl rfl

/-- A key without its request: the start-ups after it fail, though nothing fails in them. -/
theorem key_without_request : IsEmpty thirdDevice (fun _ => none) ∧
    NothingFails thirdTools thirdDevice cleanStart ∧
    result (ensureNodeRequest thirdTools thirdDevice cleanStart cleanStart.faults
      (afterStarts thirdTools thirdDevice [(keyOnlyStart, none)] fun _ => none)) = .ok .failed :=
  ⟨fun _ => rfl, nothingFails_clean, by rfl⟩

end BacnetBc.CertTool
