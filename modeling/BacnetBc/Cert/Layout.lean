import Mathlib.Data.List.Basic
import Mathlib.Tactic.SplitIfs

/-!
# Where the certificate files are

A `Layout` says which file holds the contents of which File object, and where the two keys are. It
carries what the store relies on: every file has a path of its own, no file has the name of a temp
file, and a chain of fallbacks comes to an end. A `NodeLayout` adds the bundle of trusted issuers.

`fillCari` gives the file names of a certificate folder, and `prepareLayout` the layout that
`PrepareCertificates` makes of them, whatever the folder is called: the names are told apart by
their last twelve characters.
-/

namespace BacnetBc

/-! ## Layouts -/

/-- `path + ".tmp"`. -/
def tempPath (path : String) : String := path ++ ".tmp"

theorem tempPath_inj {p q : String} : tempPath p = tempPath q ↔ p = q := String.append_left_inj _

/-- The two keys, and the files of the File objects. -/
def IsFileOf (paths : Nat → Option String) (privateKeyPath pendingPrivateKeyPath p : String) :
    Prop :=
  p = privateKeyPath ∨ p = pendingPrivateKeyPath ∨ ∃ i, paths i = some p

/-- `CertStore::Layout`. -/
structure Layout where
  /-- File object instance to file on disk. -/
  paths : Nat → Option String
  /-- The File object whose contents one serves until it has a file of its own. -/
  readFallbackInstances : Nat → Option Nat
  operationalInstance : Nat
  issuerInstances : List Nat
  privateKeyPath : String
  pendingPrivateKeyPath : String
  csrInstance : Nat
  paths_ne_empty : ∀ {i p}, paths i = some p → p ≠ ""
  paths_inj : ∀ {i j p}, paths i = some p → paths j = some p → i = j
  paths_ne_private : ∀ {i p}, paths i = some p → p ≠ privateKeyPath
  paths_ne_pending : ∀ {i p}, paths i = some p → p ≠ pendingPrivateKeyPath
  private_ne_empty : privateKeyPath ≠ ""
  private_ne_pending : privateKeyPath ≠ pendingPrivateKeyPath
  tempPath_ne : ∀ {p q}, IsFileOf paths privateKeyPath pendingPrivateKeyPath p →
    IsFileOf paths privateKeyPath pendingPrivateKeyPath q → tempPath p ≠ q
  csr_ne_operational : csrInstance ≠ operationalInstance
  /-- A bound on the chain of fallbacks that starts at an instance. -/
  rank : Nat → Nat
  rank_lt : ∀ {i j}, readFallbackInstances i = some j → rank j < rank i

namespace Layout

variable (L : Layout)

/-- A file that is no temp file. -/
def IsFile (p : String) : Prop := IsFileOf L.paths L.privateKeyPath L.pendingPrivateKeyPath p

theorem isFile_private : L.IsFile L.privateKeyPath := Or.inl rfl

theorem isFile_pending : L.IsFile L.pendingPrivateKeyPath := Or.inr (Or.inl rfl)

variable {L}

theorem isFile_of_paths {i : Nat} {p : String} (h : L.paths i = some p) : L.IsFile p :=
  Or.inr (Or.inr ⟨i, h⟩)

theorem not_isFile_tempPath {p : String} (h : L.IsFile p) : ¬ L.IsFile (tempPath p) := fun ht =>
  L.tempPath_ne h ht rfl

end Layout

/-- The layout and the bundle of trusted issuers. -/
structure NodeLayout extends Layout where
  trustedIssuers : String
  not_isFile_trusted : ¬ toLayout.IsFile trustedIssuers
  not_isFile_temp_trusted : ¬ toLayout.IsFile (tempPath trustedIssuers)

/-! ## The certificate folder -/

/-- The files of `CertLayout::NodeCertPaths`. -/
structure NodeCertPaths where
  operationalCertificate : String
  certificateSigningRequest : String
  issuerCertificate1 : String
  issuerCertificate2 : String
  privateKey : String
  pendingPrivateKey : String
  trustedIssuers : String
deriving DecidableEq, Repr

/-- `Join`, of a directory and a relative path. -/
def join (directory relative : String) : String :=
  directory ++ ((if directory = "" ∨ directory.toList.getLast? = some '/' then "" else "/") ++
    relative)

/-- `FillCari`. -/
def fillCari (directory portFolder : String) : NodeCertPaths where
  trustedIssuers := join directory "trusted-issuers.pem"
  operationalCertificate := join directory (portFolder ++ "/opr-node.pem")
  certificateSigningRequest := join directory (portFolder ++ "/csr-node.pem")
  privateKey := join directory (portFolder ++ "/key-node.pem")
  issuerCertificate1 := join directory "cert1/issuer/iss-1.pem"
  issuerCertificate2 := join directory "cert1/issuer/iss-2.pem"
  pendingPrivateKey := join directory "key-node-pending.pem"

def fileOperationalCertificateInstance : Nat := 2
def fileIssuerCertificate1Instance : Nat := 3
def fileIssuerCertificate2Instance : Nat := 4
def fileCertificateSigningRequestInstance : Nat := 5

/-- `CertificateFilePath`. -/
def certificateFilePath (paths : NodeCertPaths) (fileInstance : Nat) : Option String :=
  if fileInstance = fileOperationalCertificateInstance then some paths.operationalCertificate
  else if fileInstance = fileIssuerCertificate1Instance then some paths.issuerCertificate1
  else if fileInstance = fileIssuerCertificate2Instance then some paths.issuerCertificate2
  else if fileInstance = fileCertificateSigningRequestInstance then
    some paths.certificateSigningRequest
  else none

/-! ## Telling the names apart -/

/-- The last `n` characters, the last one first. -/
def ending (n : Nat) (s : String) : List Char := s.toList.reverse.take n

theorem ending_append {n : Nat} (s : String) {t : String} (h : n ≤ t.toList.length) :
    ending n (s ++ t) = ending n t := by
  rw [ending, String.toList_append, List.reverse_append,
    List.take_append_of_le_length (by simpa using h)]
  rfl

theorem ending_tempPath (p : String) : ending 4 (tempPath p) = ['p', 'm', 't', '.'] := by
  rw [tempPath, ending_append p (by decide)]
  decide

/-- The seven files of a certificate folder. -/
inductive CertFile
  | operationalCertificate
  | certificateSigningRequest
  | issuerCertificate1
  | issuerCertificate2
  | privateKey
  | pendingPrivateKey
  | trustedIssuers
deriving DecidableEq

namespace CertFile

def path (paths : NodeCertPaths) : CertFile → String
  | operationalCertificate => paths.operationalCertificate
  | certificateSigningRequest => paths.certificateSigningRequest
  | issuerCertificate1 => paths.issuerCertificate1
  | issuerCertificate2 => paths.issuerCertificate2
  | privateKey => paths.privateKey
  | pendingPrivateKey => paths.pendingPrivateKey
  | trustedIssuers => paths.trustedIssuers

/-- The end of the file's name. -/
def name : CertFile → String
  | operationalCertificate => "opr-node.pem"
  | certificateSigningRequest => "csr-node.pem"
  | issuerCertificate1 => "er/iss-1.pem"
  | issuerCertificate2 => "er/iss-2.pem"
  | privateKey => "key-node.pem"
  | pendingPrivateKey => "-pending.pem"
  | trustedIssuers => "-issuers.pem"

/-- The File object that the file belongs to. -/
def fileInstance : CertFile → Option Nat
  | operationalCertificate => some fileOperationalCertificateInstance
  | issuerCertificate1 => some fileIssuerCertificate1Instance
  | issuerCertificate2 => some fileIssuerCertificate2Instance
  | certificateSigningRequest => some fileCertificateSigningRequestInstance
  | _ => none

theorem exists_of_certificateFilePath {paths : NodeCertPaths} {i : Nat} {p : String}
    (h : certificateFilePath paths i = some p) :
    ∃ f : CertFile, f.fileInstance = some i ∧ f.path paths = p := by
  unfold certificateFilePath at h
  split_ifs at h with h2 h3 h4 h5
  · exact ⟨operationalCertificate, congrArg some h2.symm, Option.some.inj h⟩
  · exact ⟨issuerCertificate1, congrArg some h3.symm, Option.some.inj h⟩
  · exact ⟨issuerCertificate2, congrArg some h4.symm, Option.some.inj h⟩
  · exact ⟨certificateSigningRequest, congrArg some h5.symm, Option.some.inj h⟩

variable (directory portFolder : String)

theorem exists_path_eq (f : CertFile) :
    ∃ s, f.path (fillCari directory portFolder) = s ++ f.name := by
  have hin (a b : String) : ∃ s, join directory (portFolder ++ (a ++ b)) = s ++ b :=
    ⟨directory ++ ((if directory = "" ∨ directory.toList.getLast? = some '/' then "" else "/") ++
      (portFolder ++ a)), by simp [join, String.append_assoc]⟩
  have hout (a b : String) : ∃ s, join directory (a ++ b) = s ++ b :=
    ⟨directory ++ ((if directory = "" ∨ directory.toList.getLast? = some '/' then "" else "/") ++
      a), by simp [join, String.append_assoc]⟩
  cases f with
  | operationalCertificate => exact hin "/" "opr-node.pem"
  | certificateSigningRequest => exact hin "/" "csr-node.pem"
  | privateKey => exact hin "/" "key-node.pem"
  | issuerCertificate1 => exact hout "cert1/issu" "er/iss-1.pem"
  | issuerCertificate2 => exact hout "cert1/issu" "er/iss-2.pem"
  | pendingPrivateKey => exact hout "key-node" "-pending.pem"
  | trustedIssuers => exact hout "trusted" "-issuers.pem"

theorem path_inj {f g : CertFile}
    (h : f.path (fillCari directory portFolder) = g.path (fillCari directory portFolder)) :
      f = g := by
  obtain ⟨s, hs⟩ := exists_path_eq directory portFolder f
  obtain ⟨t, ht⟩ := exists_path_eq directory portFolder g
  have hlen : ∀ f : CertFile, f.name.toList.length = 12 := fun f => by cases f <;> decide
  have hname : ending 12 f.name = ending 12 g.name := by
    rw [← ending_append s (Nat.le_of_eq (hlen f).symm),
      ← ending_append t (Nat.le_of_eq (hlen g).symm), ← hs, ← ht, h]
  revert hname
  cases f <;> cases g <;> decide

theorem path_ne_empty (f : CertFile) : f.path (fillCari directory portFolder) ≠ "" := by
  obtain ⟨s, hs⟩ := exists_path_eq directory portFolder f
  intro h
  have hlast : ending 4 ("" : String) = ending 4 f.name := by
    rw [← h, hs, ending_append s (by cases f <;> decide)]
  revert hlast
  cases f <;> decide

theorem tempPath_ne (p : String) (f : CertFile) :
    tempPath p ≠ f.path (fillCari directory portFolder) := by
  intro h
  obtain ⟨s, hs⟩ := exists_path_eq directory portFolder f
  have hend := ending_tempPath p
  rw [h, hs, ending_append s (by cases f <;> decide)] at hend
  revert hend
  cases f <;> decide

theorem exists_of_isFile {p : String}
    (h : IsFileOf (certificateFilePath (fillCari directory portFolder))
      (fillCari directory portFolder).privateKey (fillCari directory portFolder).pendingPrivateKey
        p) :
    ∃ f : CertFile, f ≠ trustedIssuers ∧ f.path (fillCari directory portFolder) = p := by
  rcases h with rfl | rfl | ⟨i, hi⟩
  · exact ⟨privateKey, nofun, rfl⟩
  · exact ⟨pendingPrivateKey, nofun, rfl⟩
  · obtain ⟨f, hf, hp⟩ := exists_of_certificateFilePath hi
    exact ⟨f, fun hf' => (by cases hf' ▸ hf), hp⟩

end CertFile

/-! ## The layout of a node -/

open CertFile in
/-- The layout that `PrepareCertificates` hands to `SetLayout`, and the bundle it writes. -/
def prepareLayout (directory portFolder : String) : NodeLayout where
  paths := certificateFilePath (fillCari directory portFolder)
  readFallbackInstances i :=
    if i = fileIssuerCertificate2Instance then some fileIssuerCertificate1Instance else none
  operationalInstance := fileOperationalCertificateInstance
  issuerInstances := [fileIssuerCertificate1Instance, fileIssuerCertificate2Instance]
  privateKeyPath := (fillCari directory portFolder).privateKey
  pendingPrivateKeyPath := (fillCari directory portFolder).pendingPrivateKey
  csrInstance := fileCertificateSigningRequestInstance
  paths_ne_empty := fun {i p} hi h => by
    obtain ⟨f, -, rfl⟩ := exists_of_certificateFilePath hi
    exact path_ne_empty directory portFolder f h
  paths_inj := fun {i j p} hi hj => by
    obtain ⟨f, hf, rfl⟩ := exists_of_certificateFilePath hi
    obtain ⟨g, hg, heq⟩ := exists_of_certificateFilePath hj
    obtain rfl := path_inj directory portFolder heq
    exact Option.some.inj (hf.symm.trans hg)
  paths_ne_private := fun {i p} hi h => by
    obtain ⟨f, hf, rfl⟩ := exists_of_certificateFilePath hi
    obtain rfl : f = privateKey := path_inj directory portFolder h
    cases hf
  paths_ne_pending := fun {i p} hi h => by
    obtain ⟨f, hf, rfl⟩ := exists_of_certificateFilePath hi
    obtain rfl : f = pendingPrivateKey := path_inj directory portFolder h
    cases hf
  private_ne_empty := path_ne_empty directory portFolder privateKey
  private_ne_pending := fun h => by
    cases path_inj directory portFolder (f := privateKey) (g := pendingPrivateKey) h
  tempPath_ne := fun {p q} _ hq => by
    obtain ⟨f, -, rfl⟩ := exists_of_isFile directory portFolder hq
    exact tempPath_ne directory portFolder p f
  csr_ne_operational := by decide
  rank i := i
  rank_lt := fun {i j} h => by
    split_ifs at h with h4
    obtain rfl := Option.some.inj h
    rw [h4]
    decide
  trustedIssuers := (fillCari directory portFolder).trustedIssuers
  not_isFile_trusted := fun h => by
    obtain ⟨f, hf, hp⟩ := exists_of_isFile directory portFolder h
    exact hf (path_inj directory portFolder (g := trustedIssuers) hp)
  not_isFile_temp_trusted := fun h => by
    obtain ⟨f, -, hp⟩ := exists_of_isFile directory portFolder h
    exact tempPath_ne directory portFolder _ f hp.symm

end BacnetBc
