import BacnetBc.Cari.ReadZip
import BacnetBc.Cert.NodeRequest

/-!
# Reading a CARI response

`ReadCariResponse` looks for this device's certificate in a zip, then for the issuer certificates,
and puts the one that signed the device's certificate first.

* `findOperational` is the search for the certificate with the key of this device's request.
* `readIssuers` reads every issuer file of the zip, and stops at one that is no CA certificate.
* `rotate` moves the signer to the front.

**Theorem (`response_accepted`).** An accepted response has a certificate for this device's key that
has not expired, and the certificates of all issuer files, each once, one or two in number, all of
them CA certificates, with a signer of the device's certificate first. A zip that has such a
certificate at the device's own path is accepted with it, whatever other certificates it has.

OpenSSL is a parameter (`ResponseSsl`); so is the time, in whether a certificate has expired.
-/

namespace BacnetBc

open Cari FaultyDisk Memory
open Path hiding split

/-! ## Moving an element to the front -/

section

variable {α : Type}

/-- `std::rotate` from the beginning of a list: what lies between `middle` and `last` goes first. -/
def rotate (l : List α) (middle last : Nat) : List α :=
  (l.take last).drop middle ++ l.take middle ++ l.drop last

/-- One element goes to the front, and the others keep their order. -/
theorem rotate_one {l : List α} {i : Nat} (h : i < l.length) :
    rotate l i (i + 1) = l[i] :: (l.take i ++ l.drop (i + 1)) := by
  have hone : (l.take (i + 1)).drop i = [l[i]] := by
    rw [List.take_add_one, List.getElem?_eq_getElem h,
      List.drop_left' (List.length_take_of_le h.le)]
    rfl
  rw [rotate, hone]
  rfl

theorem perm_rotate_one {l : List α} {i : Nat} (h : i < l.length) :
    l.Perm (l[i] :: (l.take i ++ l.drop (i + 1))) := by
  have hsplit : l.take i ++ l[i] :: l.drop (i + 1) = l := by
    rw [← List.drop_eq_getElem_cons h, List.take_append_drop]
  exact (List.Perm.of_eq hsplit.symm).trans List.perm_middle

end

/-! ## What is read of OpenSSL -/

/-- What `ReadCariResponse` uses of OpenSSL. -/
structure ResponseSsl (X509 Key : Type) where
  /-- `CertFromBytes`: a certificate, PEM or DER. -/
  certFromBytes : Octets → Option X509
  /-- The public key of the request that `ReqFromBytes` reads. -/
  requestKey : Octets → Option Key
  /-- `EVP_PKEY_eq` of the certificate's public key and this one. -/
  hasPublicKey : X509 → Key → Bool
  /-- `X509_cmp_current_time` of the `notAfter` of the certificate is negative. -/
  hasExpired : X509 → Bool
  /-- `X509_check_ca`. -/
  checkCa : X509 → Nat
  /-- `X509_check_issued` of an issuer and a certificate is `X509_V_OK`. -/
  checkIssued : X509 → X509 → Bool
  /-- `X509_verify` of a certificate with the public key of an issuer. -/
  verify : X509 → X509 → Bool
  /-- `CertPem`: empty if OpenSSL fails. -/
  certPem : X509 → Octets
  subjectName : X509 → Octets
  issuerName : X509 → Octets
  /-- `NotAfter`. -/
  notAfter : X509 → Octets
  /-- `Sha256Fingerprint`. -/
  sha256Fingerprint : X509 → Octets

/-- The issuer signed the certificate. -/
def ResponseSsl.signed {X509 Key : Type} (ssl : ResponseSsl X509 Key) (operational issuer : X509) :
    Bool :=
  ssl.checkIssued issuer operational && ssl.verify operational issuer

structure ResponseFiles where
  operationalCertificate : Octets
  issuers : List Octets
  issuerFingerprints : List Octets
  source : Octets
  subject : Octets
  issuerSubject : Octets
  notAfter : Octets
  fingerprint : Octets
deriving DecidableEq, Repr

variable {X509 Key : Type} (ssl : ResponseSsl X509 Key)

/-! ## ReadCariResponse -/

/-- The first candidate that is a certificate for the key, and its path. -/
def findOperational (tree : Tree) (csrKey : Key) : List Octets → Option (Octets × X509)
  | [] => none
  | path :: candidates =>
    match tree.files[path]?.bind ssl.certFromBytes with
    | some cert =>
      if ssl.hasPublicKey cert csrKey then some (path, cert)
      else findOperational tree csrKey candidates
    | none => findOperational tree csrKey candidates

/-- A file under cert1/issuer/ whose name begins with "iss-". -/
def isIssuerFile (path : Octets) : Bool :=
  startsWith path (octetsOf "cert1/issuer/") && startsWith (baseName path) (octetsOf "iss-")

/-- The loop over the files that reads the issuers. -/
def readIssuers : List (Octets × Octets) → Except Octets (List X509)
  | [] => .ok []
  | (path, bytes) :: files =>
    if isIssuerFile path then
      match ssl.certFromBytes bytes with
      | none => .error (quoted path ++ octetsOf " in the zip is not a certificate")
      | some cert =>
        if ssl.checkCa cert = 0 then
          .error (quoted path ++ octetsOf " in the zip is not a CA certificate")
        else (readIssuers files).map (cert :: ·)
    else readIssuers files

/-- What is written to `*out`, if OpenSSL writes every certificate. -/
def writeResponse (source : Octets) (operational : X509) (issuers : List X509) :
    Except Octets ResponseFiles :=
  if issuers.any fun issuer => ssl.certPem issuer = [] then
    .error (octetsOf "OpenSSL could not write an issuer certificate as PEM")
  else if ssl.certPem operational = [] then
    .error (octetsOf "OpenSSL could not write this device's certificate as PEM")
  else .ok {
    operationalCertificate := ssl.certPem operational
    issuers := issuers.map ssl.certPem
    issuerFingerprints := issuers.map ssl.sha256Fingerprint
    source := source
    subject := ssl.subjectName operational
    issuerSubject := ssl.issuerName operational
    notAfter := ssl.notAfter operational
    fingerprint := ssl.sha256Fingerprint operational }

/-- `ReadCariResponse` from the issuers on. -/
def orderIssuers (source : Octets) (operational : X509) :
    List X509 → Except Octets ResponseFiles
  | [] => .error (octetsOf "the zip has no issuer certificate (cert1/issuer/iss-*.pem)")
  | issuers =>
    match issuers.findIdx? (ssl.signed operational) with
    | none =>
      .error (octetsOf ("no issuer certificate in the zip signed this device's certificate " ++
        "(issued by \"") ++ ssl.issuerName operational ++ octetsOf "\")")
    | some signer =>
      let issuers := rotate issuers signer (signer + 1)
      if 2 < issuers.length then
        .error (octetsOf ("the zip has " ++ toString issuers.length ++ " issuer certificates; a " ++
          "device holds at most 2 (Issuer_Certificate_Files)"))
      else writeResponse ssl source operational issuers

/-- `ReadCariResponse` of a zip that was read, for the key of this device's request. -/
def acceptResponse (paths : NodeSetPaths) (tree : Tree) (csrKey : Key) :
    Except Octets ResponseFiles :=
  let candidates := certificateCandidates paths tree
  if candidates = [] then
    .error (octetsOf
      ("the zip has no certificate (no opr-*.pem) - is it a CARI response, not the " ++ "request?"))
  else
    match findOperational ssl tree csrKey candidates with
    | none =>
      .error (octetsOf ("none of the " ++ toString candidates.length ++
        " certificate(s) in the zip is for this device's key - the response is for another request"))
    | some (source, operational) =>
      if ssl.hasExpired operational then
        .error (octetsOf "this device's certificate in the zip expired on " ++
          ssl.notAfter operational)
      else
        match readIssuers ssl tree.files.toList with
        | .error error => .error error
        | .ok issuers => orderIssuers ssl source operational issuers

/-- `ReadCariResponse`. -/
def readCariResponse (zlib : Zlib) (paths : NodeSetPaths) (d : CertDisk) (zip : Octets) :
    Access (Except Octets ResponseFiles) := do
  match ← readZip zlib zip with
  | (_, .error error) => return .error error
  | (tree, .ok ()) =>
    match readDisk d paths.certificateSigningRequest with
    | none =>
      return .error (octetsOf ("this device has no certificate signing request to match the " ++
        "response against - start it once first with --datalink sc (it makes its key and request)"))
    | some csr =>
      match ssl.requestKey csr with
      | none =>
        return .error (octetsOf ("could not read this device's certificate signing request \"" ++
          paths.certificateSigningRequest ++ "\""))
      | some csrKey => return acceptResponse ssl paths tree csrKey

/-! ## The steps -/

variable {ssl}

theorem findOperational_sound {tree : Tree} {csrKey : Key} {candidates : List Octets}
    {path : Octets} {cert : X509}
    (h : findOperational ssl tree csrKey candidates = some (path, cert)) :
    tree.files[path]?.bind ssl.certFromBytes = some cert ∧ ssl.hasPublicKey cert csrKey = true := by
  induction candidates with
  | nil => cases h
  | cons candidate candidates ih =>
    rw [findOperational] at h
    cases hcert : tree.files[candidate]?.bind ssl.certFromBytes with
    | none =>
      rw [hcert] at h
      exact ih h
    | some found =>
      rw [hcert] at h
      by_cases hkey : ssl.hasPublicKey found csrKey = true
      · simp only [hkey, if_true] at h
        cases h
        exact ⟨hcert, hkey⟩
      · simp only [hkey, if_false, Bool.false_eq_true] at h
        exact ih h

/-- The first candidate that fits is taken, whatever the others are. -/
theorem findOperational_first {tree : Tree} {csrKey : Key} {path : Octets} {cert : X509}
    (hcert : tree.files[path]?.bind ssl.certFromBytes = some cert)
    (hkey : ssl.hasPublicKey cert csrKey = true) (candidates : List Octets) :
    findOperational ssl tree csrKey (path :: candidates) = some (path, cert) := by
  rw [findOperational, hcert]
  simp only [hkey, if_true]

/-- The files that issuers are read from. -/
def issuerFiles (tree : Tree) : List (Octets × Octets) :=
  tree.files.toList.filter fun file => isIssuerFile file.1

/-- **Every issuer file is read, and is a CA certificate.** -/
theorem readIssuers_eq_ok_iff (files : List (Octets × Octets)) (issuers : List X509) :
    readIssuers ssl files = .ok issuers ↔
      (files.filter fun file => isIssuerFile file.1).map (fun file => ssl.certFromBytes file.2) =
        issuers.map some ∧ ∀ issuer ∈ issuers, ssl.checkCa issuer ≠ 0 := by
  induction files generalizing issuers with
  | nil =>
    rw [readIssuers, List.filter_nil, List.map_nil, eq_comm (a := []), List.map_eq_nil_iff]
    constructor
    · intro h
      cases h
      exact ⟨rfl, by simp⟩
    · intro h
      rw [h.1]
  | cons file files ih =>
    obtain ⟨path, bytes⟩ := file
    rw [readIssuers]
    by_cases hfile : isIssuerFile path = true
    · have hfilter : ((path, bytes) :: files).filter (fun file => isIssuerFile file.1) =
          (path, bytes) :: files.filter fun file => isIssuerFile file.1 :=
        List.filter_cons_of_pos hfile
      rw [if_pos hfile, hfilter, List.map_cons]
      cases hcert : ssl.certFromBytes bytes with
      | none =>
        constructor
        · intro h
          cases h
        · intro h
          cases issuers with
          | nil => cases h.1
          | cons issuer issuers => cases (List.cons.inj h.1).1
      | some cert =>
        dsimp only
        by_cases hca : ssl.checkCa cert = 0
        · rw [if_pos hca]
          constructor
          · intro h
            cases h
          · intro h
            cases issuers with
            | nil => cases h.1
            | cons issuer issuers =>
              obtain rfl := Option.some.inj (List.cons.inj h.1).1
              exact absurd hca (h.2 cert List.mem_cons_self)
        · rw [if_neg hca]
          constructor
          · intro h
            cases hrest : readIssuers ssl files with
            | error error =>
              rw [hrest] at h
              cases h
            | ok rest =>
              rw [hrest] at h
              cases h
              obtain ⟨hmap, hall⟩ := (ih rest).1 hrest
              exact ⟨by rw [hmap, List.map_cons], List.forall_mem_cons.2 ⟨hca, hall⟩⟩
          · intro h
            obtain ⟨hmap, hall⟩ := h
            cases issuers with
            | nil => cases hmap
            | cons issuer issuers =>
              obtain ⟨hhead, htail⟩ := List.cons.inj hmap
              obtain rfl := Option.some.inj hhead
              rw [(ih issuers).2 ⟨htail, fun c hc => hall c (List.mem_cons_of_mem _ hc)⟩]
              rfl
    · have hfilter : ((path, bytes) :: files).filter (fun file => isIssuerFile file.1) =
          files.filter fun file => isIssuerFile file.1 := List.filter_cons_of_neg hfile
      rw [if_neg hfile, hfilter]
      exact ih issuers

/-- The certificates that are written are those that were read. -/
theorem writeResponse_sound {source : Octets} {operational : X509} {issuers : List X509}
    {out : ResponseFiles} (h : writeResponse ssl source operational issuers = .ok out) :
    out.operationalCertificate = ssl.certPem operational ∧ out.issuers = issuers.map ssl.certPem ∧
      out.issuerFingerprints = issuers.map ssl.sha256Fingerprint ∧ out.source = source ∧
      out.fingerprint = ssl.sha256Fingerprint operational := by
  unfold writeResponse at h
  split_ifs at h
  cases h
  exact ⟨rfl, rfl, rfl, rfl, rfl⟩

theorem writeResponse_ok {operational : X509} (hop : ssl.certPem operational ≠ [])
    {issuers : List X509} (hissuers : ∀ issuer ∈ issuers, ssl.certPem issuer ≠ [])
    (source : Octets) : ∃ out, writeResponse ssl source operational issuers = .ok out := by
  unfold writeResponse
  rw [if_neg (by simpa using hissuers), if_neg hop]
  exact ⟨_, rfl⟩

/-- **The signer goes first, and the other issuers stay.** -/
theorem orderIssuers_sound {source : Octets} {operational : X509} {issuers : List X509}
    {out : ResponseFiles} (h : orderIssuers ssl source operational issuers = .ok out) :
    ∃ signer others, issuers.Perm (signer :: others) ∧ ssl.signed operational signer = true ∧
      others.length ≤ 1 ∧ writeResponse ssl source operational (signer :: others) = .ok out := by
  cases issuers with
  | nil => cases h
  | cons first rest =>
    rw [orderIssuers.eq_2 _ _ _ _ (by simp)] at h
    cases hfound : (first :: rest).findIdx? (ssl.signed operational) with
    | none =>
      rw [hfound] at h
      cases h
    | some i =>
      obtain ⟨hlt, hsigned, -⟩ := List.findIdx?_eq_some_iff_getElem.1 hfound
      rw [hfound] at h
      dsimp only at h
      rw [rotate_one hlt] at h
      by_cases hlong : 2 < ((first :: rest)[i] ::
          ((first :: rest).take i ++ (first :: rest).drop (i + 1))).length
      · rw [if_pos hlong] at h
        cases h
      · rw [if_neg hlong] at h
        rw [List.length_cons] at hlong
        exact ⟨_, _, perm_rotate_one hlt, hsigned, by omega, h⟩

theorem orderIssuers_ok {operational : X509} (hop : ssl.certPem operational ≠ [])
    {issuers : List X509} (hissuers : ∀ issuer ∈ issuers, ssl.certPem issuer ≠ [])
    (hlength : issuers.length ≤ 2) {signer : X509} (hmem : signer ∈ issuers)
    (hsigned : ssl.signed operational signer = true) (source : Octets) :
    ∃ out, orderIssuers ssl source operational issuers = .ok out ∧
      out.operationalCertificate = ssl.certPem operational ∧ out.source = source := by
  have hsome : (issuers.findIdx? (ssl.signed operational)).isSome = true := by
    rw [List.findIdx?_isSome, List.any_eq_true]
    exact ⟨signer, hmem, hsigned⟩
  obtain ⟨i, hfound⟩ := Option.isSome_iff_exists.1 hsome
  obtain ⟨hlt, -, -⟩ := List.findIdx?_eq_some_iff_getElem.1 hfound
  have hne : issuers = [] → False := by
    intro h
    rw [h] at hmem
    cases hmem
  have hperm := perm_rotate_one hlt
  obtain ⟨out, hout⟩ := writeResponse_ok hop
    (fun issuer h => hissuers issuer (hperm.mem_iff.2 h)) source
  obtain ⟨hpem, -, -, hsource, -⟩ := writeResponse_sound hout
  refine ⟨out, ?_, hpem, hsource⟩
  rw [orderIssuers.eq_2 _ _ _ _ hne, hfound]
  dsimp only
  rw [rotate_one hlt, ← hperm.length_eq, if_neg (by omega), hout]

/-! ## The trees that are read from a zip -/

/-- Every file of the tree has a safe path. -/
def SafeFiles (tree : Tree) : Prop := ∀ path ∈ tree.files, isSafeZipPath path = true

theorem unpack_safeFiles {zlib : Zlib} {zip : Octets} {entry : CentralEntry} {tree : Tree}
    {total : Nat} {out : Tree × Nat} (hsafe : SafeFiles tree)
    (h : unpack zlib zip entry tree total = .ok (.ok out)) : SafeFiles out.1 := by
  obtain ⟨hpath, ⟨-, htree⟩ | ⟨-, data, htree⟩⟩ := unpack_eq_ok h
  · intro path hfile
    rw [htree, Tree.addFolder_files] at hfile
    exact hsafe path hfile
  · intro path hfile
    rw [htree, Tree.addFile_files, Tree.mem_insert_files] at hfile
    rcases hfile with rfl | hold
    · exact hpath
    · exact hsafe path hold

theorem Cari.Unpacks.safeFiles {zlib : Zlib} {zip : Octets} {entries : List CentralEntry}
    {state state' : Tree × Nat} (h : Unpacks zlib zip entries state state')
    (hsafe : SafeFiles state.1) : SafeFiles state'.1 := by
  induction h with
  | nil _ => exact hsafe
  | cons hunpack _ ih => exact ih (unpack_safeFiles hsafe hunpack)

/-- A zip with an unsafe path is not read, whatever zlib answers. -/
theorem readZip_safeFiles {zlib : Zlib} {zip : Octets} {tree : Tree}
    (h : readZip zlib zip = .ok (tree, .ok ())) : SafeFiles tree := by
  obtain ⟨record, entries, total, -, -, -, hunpacks⟩ := readZip_eq_ok h
  refine hunpacks.safeFiles ?_
  intro path hpath
  exact absurd hpath Std.ExtTreeMap.not_mem_empty

/-! ## What is accepted -/

/-- What an accepted response says, for a tree and the key of the request. -/
structure AcceptedResponse (ssl : ResponseSsl X509 Key) (tree : Tree) (csrKey : Key)
    (operational : X509) (issuers : List X509) (out : ResponseFiles) : Prop where
  certificate : out.operationalCertificate = ssl.certPem operational
  source : tree.files[out.source]?.bind ssl.certFromBytes = some operational
  hasKey : ssl.hasPublicKey operational csrKey = true
  current : ssl.hasExpired operational = false
  issuers_eq : out.issuers = issuers.map ssl.certPem
  fingerprints_eq : out.issuerFingerprints = issuers.map ssl.sha256Fingerprint
  /-- No issuer file is left out, and none is used twice. -/
  perm : ((issuerFiles tree).map fun file => ssl.certFromBytes file.2).Perm (issuers.map some)
  ca : ∀ issuer ∈ issuers, ssl.checkCa issuer ≠ 0
  count : issuers.length = 1 ∨ issuers.length = 2
  signer : ∃ signer ∈ issuers.head?, ssl.signed operational signer = true

theorem acceptResponse_sound {paths : NodeSetPaths} {tree : Tree} {csrKey : Key}
    {out : ResponseFiles} (h : acceptResponse ssl paths tree csrKey = .ok out) :
    ∃ operational issuers, AcceptedResponse ssl tree csrKey operational issuers out := by
  unfold acceptResponse at h
  dsimp only at h
  by_cases hnone : certificateCandidates paths tree = []
  · rw [if_pos hnone] at h
    cases h
  · rw [if_neg hnone] at h
    cases hfound : findOperational ssl tree csrKey (certificateCandidates paths tree) with
    | none =>
      rw [hfound] at h
      cases h
    | some found =>
      obtain ⟨source, operational⟩ := found
      obtain ⟨hsource, hkey⟩ := findOperational_sound hfound
      rw [hfound] at h
      dsimp only at h
      by_cases hexpired : ssl.hasExpired operational = true
      · rw [if_pos hexpired] at h
        cases h
      · rw [if_neg hexpired] at h
        cases hread : readIssuers ssl tree.files.toList with
        | error error =>
          rw [hread] at h
          cases h
        | ok read =>
          rw [hread] at h
          obtain ⟨hfiles, hca⟩ := (readIssuers_eq_ok_iff _ _).1 hread
          obtain ⟨signer, others, hperm, hsigned, hlength, hwrite⟩ := orderIssuers_sound h
          obtain ⟨hpem, hissuers, hprints, hout, -⟩ := writeResponse_sound hwrite
          refine ⟨operational, signer :: others, hpem, hout ▸ hsource, hkey,
            Bool.not_eq_true _ ▸ hexpired, hissuers, hprints, ?_, ?_, ?_, signer, rfl, hsigned⟩
          · rw [issuerFiles, hfiles]
            exact hperm.map some
          · intro issuer hissuer
            exact hca issuer (hperm.mem_iff.2 hissuer)
          · rw [List.length_cons]
            omega

/-- The file of this device's own certificate in a response. -/
def oprPath (paths : NodeSetPaths) : Octets := octetsOf (paths.portFolder ++ "/opr-node.pem")

/-- What a response needs to be accepted: the certificate at the device's own path is for its key
and has not expired, and the issuer files are at most two CA certificates, a signer among them. -/
structure GoodResponse (ssl : ResponseSsl X509 Key) (paths : NodeSetPaths) (tree : Tree)
    (csrKey : Key) (operational : X509) (issuers : List X509) : Prop where
  own : tree.files[oprPath paths]?.bind ssl.certFromBytes = some operational
  hasKey : ssl.hasPublicKey operational csrKey = true
  current : ssl.hasExpired operational = false
  files : (issuerFiles tree).map (fun file => ssl.certFromBytes file.2) = issuers.map some
  ca : ∀ issuer ∈ issuers, ssl.checkCa issuer ≠ 0
  count : issuers.length ≤ 2
  signer : ∃ signer ∈ issuers, ssl.signed operational signer = true

/-- A file of a safe tree at the device's own path is the first candidate. -/
theorem certificateCandidates_own {paths : NodeSetPaths} {tree : Tree} (hsafe : SafeFiles tree)
    (h : oprPath paths ∈ tree.files) :
    ∃ others, certificateCandidates paths tree = oprPath paths :: others := by
  have hfolder : paths.portFolder ≠ "" := by
    intro hempty
    have hpath := hsafe _ h
    rw [oprPath, hempty] at hpath
    revert hpath
    decide
  have hown : ownCertificatePath paths = oprPath paths := if_neg hfolder
  have hne : oprPath paths ≠ [] := by
    rw [oprPath, octetsOf_append]
    exact List.append_ne_nil_of_right_ne_nil _ (by decide)
  rw [certificateCandidates, hown]
  rw [if_pos ⟨hne, by simpa [Tree.has] using h⟩]
  exact ⟨_, rfl⟩

theorem GoodResponse.accepted
    (hpem : ∀ bytes cert, ssl.certFromBytes bytes = some cert → ssl.certPem cert ≠ [])
    {paths : NodeSetPaths} {tree : Tree} (hsafe : SafeFiles tree) {csrKey : Key}
    {operational : X509} {issuers : List X509}
    (h : GoodResponse ssl paths tree csrKey operational issuers) :
    ∃ out, acceptResponse ssl paths tree csrKey = .ok out ∧
      out.operationalCertificate = ssl.certPem operational ∧ out.source = oprPath paths := by
  obtain ⟨bytes, hfile, hcert⟩ := Option.bind_eq_some_iff.1 h.own
  obtain ⟨others, hcandidates⟩ := certificateCandidates_own hsafe (Tree.mem_of_getElem? hfile)
  have hread : readIssuers ssl tree.files.toList = .ok issuers :=
    (readIssuers_eq_ok_iff _ _).2 ⟨h.files, h.ca⟩
  have hissuers : ∀ issuer ∈ issuers, ssl.certPem issuer ≠ [] := by
    intro issuer hissuer
    have hmem : some issuer ∈ (issuerFiles tree).map fun file => ssl.certFromBytes file.2 := by
      rw [h.files]
      exact List.mem_map_of_mem hissuer
    obtain ⟨file, -, hparsed⟩ := List.mem_map.1 hmem
    exact hpem _ _ hparsed
  obtain ⟨signer, hmem, hsigned⟩ := h.signer
  obtain ⟨out, hout, hpemOf, hsource⟩ :=
    orderIssuers_ok (hpem _ _ hcert) hissuers h.count hmem hsigned (oprPath paths)
  refine ⟨out, ?_, hpemOf, hsource⟩
  unfold acceptResponse
  dsimp only
  rw [hcandidates, if_neg (List.cons_ne_nil _ _), findOperational_first h.own h.hasKey]
  dsimp only
  rw [if_neg (by rw [h.current]; exact Bool.false_ne_true), hread]
  exact hout

/-- **An accepted response is for this device, and the device's own certificate is accepted.** -/
theorem response_accepted (zlib : Zlib) {ssl : ResponseSsl X509 Key}
    (hpem : ∀ bytes cert, ssl.certFromBytes bytes = some cert → ssl.certPem cert ≠ [])
    (paths : NodeSetPaths) (d : CertDisk) (zip : Octets) :
    (∀ out, readCariResponse ssl zlib paths d zip = .ok (.ok out) →
      ∃ tree csr csrKey operational issuers, readZip zlib zip = .ok (tree, .ok ()) ∧
        readDisk d paths.certificateSigningRequest = some csr ∧ ssl.requestKey csr = some csrKey ∧
        AcceptedResponse ssl tree csrKey operational issuers out) ∧
    (∀ tree csr csrKey operational issuers, readZip zlib zip = .ok (tree, .ok ()) →
      readDisk d paths.certificateSigningRequest = some csr → ssl.requestKey csr = some csrKey →
      GoodResponse ssl paths tree csrKey operational issuers →
      ∃ out, readCariResponse ssl zlib paths d zip = .ok (.ok out) ∧
        out.operationalCertificate = ssl.certPem operational ∧ out.source = oprPath paths) := by
  constructor
  · intro out h
    unfold readCariResponse at h
    cases hzip : readZip zlib zip with
    | error fault =>
      rw [hzip] at h
      cases h
    | ok read =>
      obtain ⟨tree, result⟩ := read
      rw [hzip, ok_bind] at h
      cases result with
      | error error => cases h
      | ok =>
        dsimp only at h
        cases hcsr : readDisk d paths.certificateSigningRequest with
        | none =>
          rw [hcsr] at h
          cases h
        | some csr =>
          rw [hcsr] at h
          dsimp only at h
          cases hkey : ssl.requestKey csr with
          | none =>
            rw [hkey] at h
            cases h
          | some csrKey =>
            rw [hkey] at h
            obtain ⟨operational, issuers, haccepted⟩ := acceptResponse_sound (Except.ok.inj h)
            exact ⟨tree, csr, csrKey, operational, issuers, rfl, rfl, hkey, haccepted⟩
  · intro tree csr csrKey operational issuers hzip hcsr hkey hgood
    obtain ⟨out, hout, hcertificate, hsource⟩ := hgood.accepted hpem (readZip_safeFiles hzip)
    refine ⟨out, ?_, hcertificate, hsource⟩
    unfold readCariResponse
    rw [hzip, ok_bind]
    dsimp only
    rw [hcsr]
    dsimp only
    rw [hkey]
    exact congrArg Except.ok hout

/-! ### The response to the request of the first key -/

/-- The request of the first key. -/
def firstRequestPem : Octets := pemText "CERTIFICATE REQUEST"
  ["MIGLMD8CAQAwDDEKMAgGA1UEAwwBTjAqMAUGAytlcAMhAOCZ9O8YEMT1ulZK+K+m",
    "ceTaSSjDatAE+xPDVu+uMY7XoAAwBQYDK2VwA0EAW3SvI+ZecgklCQg+61EsVXK2",
    "uqQ94ztEpG5y1H8UTfgXSJYtd90Pizj24K/RuBxSMOlCtx5jGwX2dqfjfEI/Bg=="]

def firstPaths : NodeSetPaths := newNodeCertPaths "sc" 389005

def firstRequestDisk : CertDisk :=
  Function.update (fun _ => none) firstPaths.certificateSigningRequest
    (some ⟨firstRequestPem, 0, false⟩)

/-- OpenSSL on the example's certificates and the request of the first key. -/
def responseSsl : ResponseSsl ExampleCertificate ExampleKey where
  certFromBytes bytes :=
    if bytes = issuerPem then some .issuer
    else if bytes = firstCertificatePem then some .first
    else if bytes = secondCertificatePem then some .second
    else none
  requestKey bytes := if bytes = firstRequestPem then some .first else none
  hasPublicKey := exampleSsl.checkPrivateKey
  hasExpired _ := false
  checkCa := exampleSsl.checkCa
  checkIssued ca _ := ca = .issuer
  verify _ ca := ca = .issuer
  certPem
    | .issuer => issuerPem
    | .first => firstCertificatePem
    | .second => secondCertificatePem
  subjectName cert := if cert = .issuer then octetsOf "CN=A" else octetsOf "CN=N"
  issuerName _ := octetsOf "CN=A"
  notAfter _ := octetsOf "2126-10-25"
  sha256Fingerprint cert :=
    if cert = .issuer then
      octetsOf ("86:0A:B0:B5:E9:ED:2D:5D:E5:92:A6:73:27:FC:D8:2D:" ++
        "56:44:D8:36:C6:9C:95:9A:85:70:49:20:7C:27:AF:B7")
    else
      octetsOf ("34:6F:CC:3B:E8:74:15:6C:46:6C:C7:B7:E1:F5:D0:24:" ++
        "47:23:04:44:17:09:C1:CD:08:D5:91:39:13:E7:DD:2C")

/-- zlib on the two stored certificates. -/
def responseZlib : Zlib where
  inflate _ _ := .ok ⟨[], Nat.zero_le _, .other⟩
  deflate data := data
  crc32 data := if data = firstCertificatePem then 0xA37A93DD
    else if data = issuerPem then 0xD9C54EBD else 0

/-- The certificate of the first key and its issuer, stored. -/
def responseZip : Octets :=
  [0x50, 0x4B, 0x03, 0x04, 0x14, 0x00, 0x00, 0x00, 0x00, 0x00, 0x00, 0x00, 0x21, 0x00, 0xDD, 0x93,
    0x7A, 0xA3, 0x3F, 0x01, 0x00, 0x00, 0x3F, 0x01, 0x00, 0x00, 0x27, 0x00, 0x00, 0x00] ++
    octetsOf "cert1/device-389005/port-4/opr-node.pem" ++ firstCertificatePem ++
    [0x50, 0x4B, 0x03, 0x04, 0x14, 0x00, 0x00, 0x00, 0x00, 0x00, 0x00, 0x00, 0x21, 0x00, 0xBD,
      0x4E, 0xC5, 0xD9, 0x8C, 0x01, 0x00, 0x00, 0x8C, 0x01, 0x00, 0x00, 0x16, 0x00, 0x00, 0x00] ++
    octetsOf "cert1/issuer/iss-1.pem" ++ issuerPem ++
    [0x50, 0x4B, 0x01, 0x02, 0x14, 0x03, 0x14, 0x00, 0x00, 0x00, 0x00, 0x00, 0x00, 0x00, 0x21,
      0x00, 0xDD, 0x93, 0x7A, 0xA3, 0x3F, 0x01, 0x00, 0x00, 0x3F, 0x01, 0x00, 0x00, 0x27, 0x00,
      0x00, 0x00, 0x00, 0x00, 0x00, 0x00, 0x00, 0x00, 0x00, 0x00, 0x80, 0x01, 0x00, 0x00, 0x00,
      0x00] ++
    octetsOf "cert1/device-389005/port-4/opr-node.pem" ++
    [0x50, 0x4B, 0x01, 0x02, 0x14, 0x03, 0x14, 0x00, 0x00, 0x00, 0x00, 0x00, 0x00, 0x00, 0x21,
      0x00, 0xBD, 0x4E, 0xC5, 0xD9, 0x8C, 0x01, 0x00, 0x00, 0x8C, 0x01, 0x00, 0x00, 0x16, 0x00,
      0x00, 0x00, 0x00, 0x00, 0x00, 0x00, 0x00, 0x00, 0x00, 0x00, 0x80, 0x01, 0x84, 0x01, 0x00,
      0x00] ++
    octetsOf "cert1/issuer/iss-1.pem" ++
    [0x50, 0x4B, 0x05, 0x06, 0x00, 0x00, 0x00, 0x00, 0x02, 0x00, 0x02, 0x00, 0x99, 0x00, 0x00,
      0x00, 0x44, 0x03, 0x00, 0x00, 0x00, 0x00]

theorem readZip_responseZip : ∃ tree, readZip responseZlib responseZip = .ok (tree, .ok ()) ∧
    tree.files.toList = [(oprPath firstPaths, firstCertificatePem),
      (octetsOf "cert1/issuer/iss-1.pem", issuerPem)] := by
  have hread : (readZip responseZlib responseZip).map (fun read => (read.1.files.toList, read.2)) =
      .ok ([(oprPath firstPaths, firstCertificatePem),
        (octetsOf "cert1/issuer/iss-1.pem", issuerPem)], .ok ()) := by
    decide +kernel
  cases h : readZip responseZlib responseZip with
  | error fault =>
    rw [h] at hread
    cases hread
  | ok read =>
    rw [h] at hread
    obtain ⟨hfiles, hresult⟩ := Prod.mk.inj (Except.ok.inj hread)
    exact ⟨read.1, by rw [← hresult], hfiles⟩

/-- It is accepted. -/
theorem response_accepted_first :
    ∃ out, readCariResponse responseSsl responseZlib firstPaths firstRequestDisk responseZip =
        .ok (.ok out) ∧
      out.operationalCertificate = firstCertificatePem ∧ out.source = oprPath firstPaths := by
  have hpem : ∀ bytes cert, responseSsl.certFromBytes bytes = some cert →
      responseSsl.certPem cert ≠ [] := by
    intro bytes cert _
    cases cert <;> decide
  obtain ⟨tree, hzip, hlist⟩ := readZip_responseZip
  have hown : tree.files[oprPath firstPaths]? = some firstCertificatePem := by
    rw [← Std.ExtTreeMap.mem_toList_iff_getElem?_eq_some, hlist]
    exact List.mem_cons_self
  have hcsr : readDisk firstRequestDisk firstPaths.certificateSigningRequest =
      some firstRequestPem := by
    rw [readDisk, firstRequestDisk, Function.update_self]
    rfl
  have hfiles : (issuerFiles tree).map (fun file => responseSsl.certFromBytes file.2) =
      [ExampleCertificate.issuer].map some := by
    rw [issuerFiles, hlist]
    decide +kernel
  refine (response_accepted responseZlib hpem firstPaths firstRequestDisk responseZip).2 tree
    firstRequestPem .first .first [.issuer] hzip hcsr (by decide +kernel) ⟨?_, rfl, rfl, hfiles, ?_,
      by decide, .issuer, List.mem_cons_self, rfl⟩
  · rw [hown]
    decide +kernel
  · decide

end BacnetBc
