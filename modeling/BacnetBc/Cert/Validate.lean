import BacnetBc.Cert.Pem
import BacnetBc.Cert.Store

/-!
# The check before a commit

`ValidateStaged` looks at the files as they will be after a commit: the issuers, the operational
certificate, and whether one of the two keys on disk is its private key. It notes in the store which
of them it is.

**Theorem (`validateStaged_spec`).** When it returns true, the store stages what it staged before,
the operational certificate to be is for the private key or for the pending key, and
`commitPromotesPendingKey` says which.
-/

namespace BacnetBc

open FaultyDisk Memory

variable {X509 Key : Type} (ssl : OpenSsl X509 Key) {L : Layout}

/-! ## Keys -/

/-- `LoadKey`. -/
def loadKey (d : CertDisk) (path : String) : Option Key :=
  if path = "" then none else (readDisk d path).bind ssl.readPrivateKey

/-- The file at `path` is the private key of the certificate. -/
def isKeyOf (d : CertDisk) (path : String) (certificate : X509) : Bool :=
  match loadKey ssl d path with
  | some key => ssl.checkPrivateKey certificate key
  | none => false

theorem isKeyOf_congr {d d' : CertDisk} {path : String} (h : d' path = d path)
    (certificate : X509) : isKeyOf ssl d' path certificate = isKeyOf ssl d path certificate := by
  simp only [isKeyOf, loadKey, readDisk, h]

theorem exists_file_of_isKeyOf {d : CertDisk} {path : String} {certificate : X509}
    (h : isKeyOf ssl d path certificate = true) : ∃ file, d path = some file := by
  cases hf : d path with
  | some file => exact ⟨file, rfl⟩
  | none => simp [isKeyOf, loadKey, readDisk, hf] at h

/-- The same key, at another path. -/
theorem isKeyOf_of_moved {d d' : CertDisk} {path path' : String} {certificate : X509}
    (hne : path' ≠ "") (h : d' path' = d path) (hk : isKeyOf ssl d path certificate = true) :
    isKeyOf ssl d' path' certificate = true := by
  unfold isKeyOf loadKey readDisk at hk ⊢
  rw [h, if_neg hne]
  split_ifs at hk with he
  exact hk

/-! ## ValidateStaged -/

/-- Every issuer certificate there will be. -/
def parseIssuers (s : Store L) (d : CertDisk) : List Nat → Except String (List X509)
  | [] => .ok []
  | i :: instances =>
    match parseCertificates ssl (s.effective d i) with
    | .error why => .error ("File " ++ toString i ++ " (issuer certificate): " ++ why)
    | .ok certificates => (parseIssuers s d instances).map (certificates ++ ·)

/-- The operational certificate verifies for each of the TLS roles. -/
def checkRoles (leaf : X509) (intermediates issuers : List X509) :
    List (String × Purpose) → Except String Unit
  | [] => .ok ()
  | (role, purpose) :: roles =>
    match chainsToIssuers ssl leaf intermediates issuers purpose with
    | .error chainError =>
      .error ("the operational certificate does not verify as a " ++ role ++
        " certificate against the issuer certificates (" ++ chainError ++ ")")
    | .ok () => checkRoles leaf intermediates issuers roles

/-- The checks of the operational certificate once it is known to be for one of the two keys. -/
def checkOperational (certificate : X509) (intermediates issuers : List X509) :
    Except String Unit :=
  if ssl.checkCa certificate ≠ 0 then
    .error ("the operational certificate is a CA certificate (basicConstraints CA:TRUE or " ++
      "keyCertSign), not the device's own")
  else
    checkRoles ssl certificate intermediates issuers
      [("TLS server", .sslServer), ("TLS client", .sslClient)]

namespace Store

/-- `ValidateStaged`. -/
def validateStaged (s : Store L) (d : CertDisk) : Except String Unit × Store L :=
  match parseIssuers ssl s d L.issuerInstances with
  | .error reason => (.error reason, s)
  | .ok [] => (.error "no issuer certificate - both Issuer_Certificate_Files would be empty", s)
  | .ok issuers =>
    let file := "File " ++ toString L.operationalInstance ++ " (operational certificate): "
    match parseCertificates ssl (s.effective d L.operationalInstance) with
    | .error why => (.error (file ++ why), s)
    | .ok [] => (.error (file ++ "empty"), s)
    | .ok (certificate :: intermediates) =>
      let current := isKeyOf ssl d L.privateKeyPath certificate
      let pending := isKeyOf ssl d L.pendingPrivateKeyPath certificate
      let s := { s with commitPromotesPendingKey := !current && pending }
      if !current && !pending then
        if (loadKey ssl d L.privateKeyPath).isNone then
          (.error ("could not read this device's private key \"" ++ L.privateKeyPath ++ "\""), s)
        else
          (.error ("the operational certificate does not match this device's private key (sign " ++
            "the Certificate Signing Request File instead)"), s)
      else (checkOperational ssl certificate intermediates issuers, s)

/-- What `ValidateStaged` has seen when it returns true. -/
structure Validated (s : Store L) (d : CertDisk) (s' : Store L) (certificate : X509) : Prop where
  staged : s'.staged = s.staged
  operational : firstCertificate ssl (s.effective d L.operationalInstance) = some certificate
  current : s'.commitPromotesPendingKey = false →
    isKeyOf ssl d L.privateKeyPath certificate = true
  pending : s'.commitPromotesPendingKey = true →
    isKeyOf ssl d L.privateKeyPath certificate = false ∧
      isKeyOf ssl d L.pendingPrivateKeyPath certificate = true

theorem validateStaged_staged (s : Store L) (d : CertDisk) :
    (s.validateStaged ssl d).2.staged = s.staged := by
  unfold validateStaged
  split
  · rfl
  · rfl
  · dsimp only
    split
    · rfl
    · rfl
    · split_ifs <;> rfl

/-- **`ValidateStaged` returns true for the certificate of one of the two keys.** -/
theorem validateStaged_spec {s s' : Store L} {d : CertDisk}
    (h : s.validateStaged ssl d = (.ok (), s')) :
      ∃ certificate, Validated ssl s d s' certificate := by
  have hstaged : s'.staged = s.staged := by rw [← validateStaged_staged ssl s d, h]
  unfold validateStaged at h
  split at h
  · cases h
  · cases h
  · dsimp only at h
    split at h
    · cases h
    · cases h
    · rename_i certificate intermediates hparse
      have hfirst : firstCertificate ssl (s.effective d L.operationalInstance) =
          some certificate := by
        rw [firstCertificate, hparse]
      suffices hkeys : _ ∧ _ from ⟨certificate, hstaged, hfirst, hkeys.1, hkeys.2⟩
      cases hc : isKeyOf ssl d L.privateKeyPath certificate <;>
        cases hp : isKeyOf ssl d L.pendingPrivateKeyPath certificate <;>
        simp only [hc, hp, Bool.not_true, Bool.not_false, Bool.and_true, Bool.and_false,
          Bool.false_eq_true, if_true, if_false] at h
      · split_ifs at h <;> cases h
      all_goals
        obtain ⟨-, rfl⟩ := Prod.mk.inj h
        simp

end Store

end BacnetBc
