import BacnetBc.Cert.Validate

/-!
# Programs on the certificate files

`CommitStaged` writes every staged copy to a temp file, renames all of them into place, clears the
stage, and moves the pending key over the private key if the new certificate is for it. The other
functions that change files are here too: `ReconcilePendingKey`, `GenerateKeyAndCsr` and
`WriteTrustedIssuerBundle`.

Each is a program of `FaultyDisk`. The rules for what a program spares say which files it leaves
alone at every moment; a temp file is no file of the layout.
-/

namespace BacnetBc

open FaultyDisk Memory

/-- A program on the certificate files. -/
abbrev CertAction := Action String DiskFile

variable {X509 Key : Type} (ssl : OpenSsl X509 Key) {L : Layout}

/-! ## One file -/

/-- `WriteTempFile`. -/
def writeTempFile (now : Int) (path : String) (bytes : Octets) (privateFile : Bool) :
    CertAction (Except String Unit) := do
  -- a leftover from an interrupted write
  remove (tempPath path)
  if ← FaultyDisk.write (tempPath path) ⟨bytes, now, privateFile⟩ then return .ok ()
  else
    remove (tempPath path)
    return .error ("could not write \"" ++ tempPath path ++ "\"")

/-- `ReplaceWithTemp`. -/
def replaceWithTemp (path : String) : CertAction (Except String Unit) := do
  if ← rename (tempPath path) path then return .ok ()
  else return .error ("could not replace \"" ++ path ++ "\"")

/-- `AtomicWriteFileToDisk`. -/
def atomicWriteFileToDisk (now : Int) (path : String) (bytes : Octets) (privateFile : Bool) :
    CertAction (Except String Unit) := do
  match ← writeTempFile now path bytes privateFile with
  | .error reason => return .error reason
  | .ok () =>
    match ← replaceWithTemp path with
    | .error reason =>
      remove (tempPath path)
      return .error reason
    | .ok () => return .ok ()

/-- `PromotePendingKey`. -/
def promotePendingKey (L : Layout) : CertAction (Except String Unit) := do
  if ← rename L.pendingPrivateKeyPath L.privateKeyPath then return .ok ()
  else
    return .error ("could not replace \"" ++ L.privateKeyPath ++ "\" with the pending key \"" ++
      L.pendingPrivateKeyPath ++ "\"")

/-! ## CommitStaged -/

/-- The temp files of `paths` are removed. -/
def removeTemps : List String → CertAction Unit
  | [] => return ()
  | path :: paths => do
    remove (tempPath path)
    removeTemps paths

/-- The first loop of `CommitStaged`: every staged copy goes to its temp file. `paths` are those
written so far. -/
def writeTemps (L : Layout) (now : Int) :
    List (Nat × Staged) → List String → CertAction (Except String (List String))
  | [], paths => return .ok paths
  | (i, copy) :: copies, paths =>
    match L.paths i with
    | none => do
      removeTemps paths
      return .error ""
    | some path => do
      match ← writeTempFile now path copy.bytes false with
      | .error reason =>
        removeTemps paths
        return .error reason
      | .ok () => writeTemps L now copies (paths ++ [path])

/-- The second loop of `CommitStaged`: each temp file replaces its file. -/
def replaceAll : List String → CertAction (Except String Unit)
  | [] => return .ok ()
  | path :: paths => do
    match ← replaceWithTemp path with
    | .error reason => return .error reason
    | .ok () => replaceAll paths

namespace Store

/-- `g_staged.clear()`. -/
def clearStage (s : Store L) : Store L := { initial L with
  commitPromotesPendingKey := s.commitPromotesPendingKey }

/-- `CommitStaged`. -/
def commitStaged (s : Store L) (now : Int) : CertAction (Except String Unit × Store L) := do
  match ← writeTemps L now s.staged.toList [] with
  | .error reason => return (.error reason, s)
  | .ok paths =>
    match ← replaceAll paths with
    | .error reason => return (.error reason, s)
    | .ok () =>
      if s.commitPromotesPendingKey then
        match ← promotePendingKey L with
        | .error reason => return (.error reason, s.clearStage)
        | .ok () => return (.ok (), { s.clearStage with commitPromotesPendingKey := false })
      else return (.ok (), s.clearStage)

end Store

/-! ## The other functions that change files -/

/-- The first certificate in the operational certificate's file on disk. -/
def operationalCertificate (L : Layout) (d : CertDisk) : Option X509 :=
  ((L.paths L.operationalInstance).bind (readDisk d)).bind (firstCertificate ssl)

/-- What `ReconcilePendingKey` looks for: the operational certificate on disk is for the pending
key, and not for the private key. -/
def needsPromotion (L : Layout) (d : CertDisk) : Bool :=
  if L.pendingPrivateKeyPath = "" ∨ d L.pendingPrivateKeyPath = none then false
  else
    match operationalCertificate ssl L d with
    -- nothing to compare with
    | none => false
    | some certificate =>
      let certForCurrent := isKeyOf ssl d L.privateKeyPath certificate
      let certForPending := isKeyOf ssl d L.pendingPrivateKeyPath certificate
      !(certForCurrent || !certForPending)

/-- `ReconcilePendingKey`: the result and `*message`. -/
def reconcilePendingKey (L : Layout) : CertAction (Bool × String) := do
  let d ← look
  if needsPromotion ssl L d then
    match ← promotePendingKey L with
    | .error message => return (false, message)
    | .ok () =>
      return (true, "the operational certificate is for the pending key from " ++
        "GENERATE_CSR_FILE (an earlier activation didn't finish): \"" ++
        L.pendingPrivateKeyPath ++ "\" now replaces \"" ++ L.privateKeyPath ++ "\"")
  else return (true, "")

/-- The end of `GenerateKeyAndCsr`: the new key and its request replace the old ones. -/
def installKeyAndCsr (L : Layout) (now : Int) (csrPath : String) (keyPem csrPem : Octets) :
    CertAction (Except String Unit) := do
  match ← writeTempFile now L.pendingPrivateKeyPath keyPem true with
  | .error reason => return .error reason
  | .ok () =>
    match ← writeTempFile now csrPath csrPem false with
    | .error reason =>
      remove (tempPath L.pendingPrivateKeyPath)
      return .error reason
    | .ok () =>
      match ← replaceWithTemp L.pendingPrivateKeyPath with
      | .error reason =>
        remove (tempPath L.pendingPrivateKeyPath)
        remove (tempPath csrPath)
        return .error reason
      | .ok () => replaceWithTemp csrPath

namespace Store

/-- `GenerateKeyAndCsr`. `seed` tells the new key pair from others. -/
def generateKeyAndCsr (s : Store L) (now : Int) (seed : Nat) : CertAction (Except String Unit) := do
  if s.hasStagedChanges then
    return .error "certificate writes are staged - activate or discard them first"
  else
    match (L.paths L.csrInstance).filter fun _ => L.pendingPrivateKeyPath ≠ "" with
    | none => return .error "no Certificate Signing Request file configured"
    | some csrPath => do
      let d ← look
      let unreadable := "could not read the current operational certificate for its subject"
      match parseCertificates ssl (s.effective d L.operationalInstance) with
      | .error why => return .error (unreadable ++ ": " ++ why)
      | .ok [] => return .error unreadable
      | .ok (certificate :: _) =>
        match ssl.newKeyAndRequest seed certificate with
        | none => return .error "OpenSSL could not generate the key pair or the request"
        | some (keyPem, csrPem) => installKeyAndCsr L now csrPath keyPem csrPem

end Store

/-- One certificate of an issuer file, for the bundle and the set of what was seen. -/
def addIssuer (state : Octets × List Octets) (certificate : X509) : Octets × List Octets :=
  match ssl.writeX509 certificate with
  | none => state
  | some pem => if pem ∈ state.2 then state else (state.1 ++ pem, pem :: state.2)

namespace Store

/-- One issuer file. -/
def addIssuerFile (s : Store L) (d : CertDisk) (state : Octets × List Octets) (i : Nat) :
    Octets × List Octets :=
  match (s.read d i).map (parseCertificates ssl) with
  | some (.ok certificates) => certificates.foldl (addIssuer ssl) state
  | _ => state

/-- The bundle of `WriteTrustedIssuerBundle`. -/
def trustedIssuerBundle (s : Store L) (d : CertDisk) : Octets :=
  (L.issuerInstances.foldl (s.addIssuerFile ssl d) ([], [])).1

/-- `WriteTrustedIssuerBundle`. -/
def writeTrustedIssuerBundle (s : Store L) (now : Int) (bundlePath : String) :
    CertAction (Except String Unit) := do
  let d ← look
  if s.trustedIssuerBundle ssl d = [] then return .error "no issuer certificate to trust"
  else atomicWriteFileToDisk now bundlePath (s.trustedIssuerBundle ssl d) false

end Store

/-! ## What they leave alone -/

section
variable {S : String → Prop}

theorem spares_writeTempFile {path : String} (h : ¬ S (tempPath path)) (now : Int) (bytes : Octets)
    (privateFile : Bool) : Spares (writeTempFile now path bytes privateFile) S := by
  refine Spares.bind (Spares.remove h) fun _ => Spares.bind (Spares.write h _) fun written => ?_
  cases written with
  | true => exact Spares.pure _
  | false => exact Spares.bind (Spares.remove h) fun _ => Spares.pure _

theorem spares_replaceWithTemp {path : String} (ht : ¬ S (tempPath path)) (h : ¬ S path) :
    Spares (replaceWithTemp path) S := by
  refine Spares.bind (Spares.rename ht h) ?_
  intro moved
  cases moved <;> exact Spares.pure _

theorem spares_atomicWriteFileToDisk {path : String} (ht : ¬ S (tempPath path)) (h : ¬ S path)
    (now : Int) (bytes : Octets) (privateFile : Bool) :
    Spares (atomicWriteFileToDisk now path bytes privateFile) S := by
  refine Spares.bind (spares_writeTempFile ht now bytes privateFile) ?_
  intro written
  cases written with
  | error reason => exact Spares.pure _
  | ok _ =>
    refine Spares.bind (spares_replaceWithTemp ht h) ?_
    intro replaced
    cases replaced with
    | error reason => exact Spares.bind (Spares.remove ht) fun _ => Spares.pure _
    | ok _ => exact Spares.pure _

/-- The bundle of trusted issuers is no file of the layout. -/
theorem spares_writeTrustedIssuerBundle {N : NodeLayout} (s : Store N.toLayout) (now : Int) :
    Spares (s.writeTrustedIssuerBundle ssl now N.trustedIssuers) N.IsFile := by
  refine Spares.bind Spares.look ?_
  intro d
  split_ifs
  · exact Spares.pure _
  · exact spares_atomicWriteFileToDisk N.not_isFile_temp_trusted N.not_isFile_trusted _ _ _

theorem spares_removeTemps {paths : List String} (h : ∀ p ∈ paths, ¬ S (tempPath p)) :
    Spares (removeTemps paths) S := by
  induction paths with
  | nil => exact Spares.pure _
  | cons path paths ih =>
    exact Spares.bind (Spares.remove (h path List.mem_cons_self)) fun _ =>
      ih fun p hp => h p (List.mem_cons_of_mem _ hp)

/-- Temp files are no files of the layout. -/
theorem spares_writeTemps (now : Int) (copies : List (Nat × Staged)) {paths : List String}
    (h : ∀ p ∈ paths, L.IsFile p) : Spares (writeTemps L now copies paths) L.IsFile := by
  have hremove {paths : List String} (h : ∀ p ∈ paths, L.IsFile p) :
      Spares (removeTemps paths) L.IsFile :=
    spares_removeTemps fun p hp => Layout.not_isFile_tempPath (h p hp)
  induction copies generalizing paths with
  | nil => exact Spares.pure _
  | cons copy copies ih =>
    obtain ⟨i, copy⟩ := copy
    unfold writeTemps
    cases hi : L.paths i with
    | none => exact Spares.bind (hremove h) fun _ => Spares.pure _
    | some path =>
      have hfile : L.IsFile path := Layout.isFile_of_paths hi
      refine Spares.bind (spares_writeTempFile (Layout.not_isFile_tempPath hfile) _ _ _) ?_
      intro w
      cases w with
      | error reason => exact Spares.bind (hremove h) fun _ => Spares.pure _
      | ok _ =>
        refine ih ?_
        intro p hp
        rcases List.mem_append.1 hp with hp | hp
        · exact h p hp
        · exact List.mem_singleton.1 hp ▸ hfile

end

end BacnetBc
