import BacnetBc.Cari.RoundTrip
import BacnetBc.Cari.Validate
import BacnetBc.Cert.Keys

/-!
# The certificate request of the node

A new set of certificate files is for one device instance: `newNodeCertPaths` names its port folder
and the files in it. `nodeRequestZip` puts the certificate signing request and the notes for the
certificate authority into a zip, under the same port folder.

The tree of the zip (`requestTree`) has two files and the three folders above the request. What the
reader, the rules, the list of requests and the importer make of these paths is shown part by part:
a path is its parts (`split_below_portPath`), and each of the four takes a path apart at the same
places.

**Theorem (`request_agrees`).** For every device instance and every request that parses and is not
too large, the zip is accepted by `ReadZip`, holds exactly the request and the notes, keeps the
rules of a request, and lists one request: for this instance, answered at the path that
`ReadCariResponse` looks at first.
-/

namespace BacnetBc

open Cari FaultyDisk Memory
open Path hiding split

/-! ## The paths of a new set -/

/-- `CertLayout::NodeCertPaths`: the files, and the port folder they are in. -/
structure NodeSetPaths extends NodeCertPaths where
  portFolder : String
  folderDeviceInstance : UInt32
deriving DecidableEq, Repr

/-- `FillCari`. -/
def fillNodeSet (directory portFolder : String) (folderDeviceInstance : UInt32) :
    NodeSetPaths where
  toNodeCertPaths := fillCari directory portFolder
  portFolder := portFolder
  folderDeviceInstance := folderDeviceInstance

/-- `NewNodeCertPaths`: the paths a new set uses. -/
def newNodeCertPaths (certDir : String) (deviceInstance : UInt32) : NodeSetPaths :=
  fillNodeSet certDir ("cert1/device-" ++ toString deviceInstance.toNat ++ "/port-4") deviceInstance

/-- The file name of a path: `fs::path::filename`, and `BaseName`. -/
def baseName (path : Octets) : Octets := path.rtakeWhile (· ≠ slash)

/-! ## The request -/

/-- `REQUEST_NOTES`. -/
def requestNotesText : Octets := linesOf
  ["Certificate request for a BACnet/SC node (CAS BACnet Stack B-BC example).",
    "",
    "Sign cert1/device-%INSTANCE%/port-4/csr-node.pem. This port is a BACnet/SC node",
    "that connects to a hub: its certificate needs extendedKeyUsage clientAuth (and",
    "serverAuth, for direct connections).",
    "",
    "Return a CARI response: this tree plus opr-node.pem next to the CSR and your",
    "issuer certificate(s) in cert1/issuer/. Then install it on the device with",
    "--import-cari."]

/-- The notes for a device instance, in place of the token. -/
def requestNotes (folderDeviceInstance : UInt32) : Octets :=
  let token := octetsOf "%INSTANCE%"
  match breakOn token requestNotesText with
  | some (before, rest) =>
    before ++ Decimal.text folderDeviceInstance.toNat ++ rest.drop token.length
  | none => requestNotesText

def requestTree (paths : NodeSetPaths) (csr : Octets) : Tree :=
  (Tree.empty.addFile (octetsOf (paths.portFolder ++ "/") ++
    baseName (octetsOf paths.certificateSigningRequest)) csr).addFile
      (octetsOf "cert1/request-notes.txt") (requestNotes paths.folderDeviceInstance)

/-- `NodeRequestZip`. `reqFromBytes` says whether OpenSSL reads a request from the octets. -/
def nodeRequestZip (zlib : Zlib) (stamp : DosStamp) (reqFromBytes : Octets → Bool)
    (paths : NodeSetPaths) (d : CertDisk) : Access (Except String Octets) :=
  match readDisk d paths.certificateSigningRequest with
  | none =>
    .ok (.error ("this device has no certificate signing request yet - start it once with " ++
      "--datalink sc to make one"))
  | some csr =>
    if !reqFromBytes csr then
      .ok (.error ("\"" ++ paths.certificateSigningRequest ++
        "\" is not a certificate signing request"))
    else (writeZip zlib stamp (requestTree paths csr)).map .ok

/-- The path of this device's certificate in a response. -/
def ownCertificatePath (paths : NodeSetPaths) : Octets :=
  if paths.portFolder = "" then [] else octetsOf (paths.portFolder ++ "/opr-node.pem")

/-- The files that `ReadCariResponse` tries, in their order: its own port folder first, then
anywhere. -/
def certificateCandidates (paths : NodeSetPaths) (response : Tree) : List Octets :=
  let own := ownCertificatePath paths
  (if own ≠ [] ∧ response.has own then [own] else []) ++
    response.files.keys.filter fun path =>
      startsWith (baseName path) (octetsOf "opr-") && path ≠ own

/-! ## Their parts -/

theorem octetsOf_toString (n : Nat) : octetsOf (toString n) = Decimal.text n := by
  have hencode : ∀ cs : List Char, (∀ c ∈ cs, c.isDigit = true) →
      cs.flatMap String.utf8EncodeChar = cs.map Decimal.octetOf := by
    intro cs h
    induction cs with
    | nil => rfl
    | cons c cs ih =>
      obtain ⟨hc, hcs⟩ := List.forall_mem_cons.1 h
      have hle : c.val ≤ 127 := by
        simp only [Char.isDigit, Bool.and_eq_true, decide_eq_true_eq] at hc
        exact UInt32.le_trans hc.2 (by decide)
      rw [List.flatMap_cons, ih hcs, String.utf8EncodeChar_eq_singleton
        (Char.utf8Size_eq_one_iff.2 hle)]
      rfl
  rw [Nat.toString_eq_ofList_toDigits, octetsOf, String.toUTF8, String.toByteArray_ofList,
    List.utf8Encode, List.toList_data_toByteArray, Decimal.text]
  refine hencode _ ?_
  intro c hc
  exact Nat.isDigit_of_mem_toDigits (by decide) (by decide) hc

theorem baseName_append {name : Octets} (h : slash ∉ name) (path : Octets) :
    baseName (path ++ slash :: name) = name := by
  rw [baseName, List.rtakeWhile, List.reverse_append, List.reverse_cons, List.append_assoc,
    List.takeWhile_append_of_pos]
  · simp
  · intro c hc
    rw [List.mem_reverse] at hc
    have hne : c ≠ slash := by
      rintro rfl
      exact h hc
    simpa using hne

/-- "device-389005". -/
def deviceFolderName (deviceInstance : UInt32) : Octets :=
  octetsOf "device-" ++ Decimal.text deviceInstance.toNat

theorem slash_not_mem_cert1 : slash ∉ octetsOf "cert1" := by decide

theorem slash_not_mem_port : slash ∉ octetsOf "port-4" := by decide

theorem slash_not_mem_csr : slash ∉ octetsOf "csr-node.pem" := by decide

theorem slash_not_mem_notes : slash ∉ octetsOf "request-notes.txt" := by decide

/-- "cert1/device-389005". -/
def devicePath (deviceInstance : UInt32) : Octets :=
  octetsOf "cert1" ++ slash :: deviceFolderName deviceInstance

/-- "cert1/device-389005/port-4". -/
def portPath (deviceInstance : UInt32) : Octets :=
  devicePath deviceInstance ++ slash :: octetsOf "port-4"

/-- "cert1/device-389005/port-4/csr-node.pem". -/
def requestPath (deviceInstance : UInt32) : Octets :=
  portPath deviceInstance ++ slash :: octetsOf "csr-node.pem"

def notesPath : Octets := octetsOf "cert1/request-notes.txt"

section
variable (certDir : String) (deviceInstance : UInt32)

theorem octetsOf_portFolder :
    octetsOf (newNodeCertPaths certDir deviceInstance).portFolder = portPath deviceInstance := by
  have hroot : octetsOf "cert1/device-" = octetsOf "cert1" ++ slash :: octetsOf "device-" := rfl
  have hport : octetsOf "/port-4" = slash :: octetsOf "port-4" := rfl
  show octetsOf ("cert1/device-" ++ toString deviceInstance.toNat ++ "/port-4") = _
  rw [octetsOf_append, octetsOf_append, octetsOf_toString, hroot, hport, portPath, devicePath,
    deviceFolderName]
  simp only [List.append_assoc, List.cons_append]

theorem baseName_request : baseName (octetsOf
    (newNodeCertPaths certDir deviceInstance).certificateSigningRequest) =
      octetsOf "csr-node.pem" := by
  have hname : octetsOf "/csr-node.pem" = slash :: octetsOf "csr-node.pem" := rfl
  show baseName (octetsOf (join certDir (_ ++ "/csr-node.pem"))) = _
  rw [join, octetsOf_append, octetsOf_append, octetsOf_append, hname, ← List.append_assoc,
    ← List.append_assoc]
  exact baseName_append slash_not_mem_csr _

theorem requestTree_eq (csr : Octets) :
    requestTree (newNodeCertPaths certDir deviceInstance) csr =
      (Tree.empty.addFile (requestPath deviceInstance) csr).addFile notesPath
        (requestNotes deviceInstance) := by
  have hslash : octetsOf "/" = [slash] := rfl
  rw [requestTree, octetsOf_append, octetsOf_portFolder, baseName_request, hslash,
    List.append_assoc, List.singleton_append]
  rfl

theorem ownCertificatePath_eq : ownCertificatePath (newNodeCertPaths certDir deviceInstance) =
    portPath deviceInstance ++ octetsOf "/opr-node.pem" := by
  have hne : (newNodeCertPaths certDir deviceInstance).portFolder ≠ "" := by
    intro h
    have hnil : portPath deviceInstance = [] := by
      rw [← octetsOf_portFolder certDir, h]
      rfl
    exact absurd (List.append_eq_nil_iff.1 hnil).2 (List.cons_ne_nil _ _)
  rw [ownCertificatePath, if_neg hne, octetsOf_append, octetsOf_portFolder]

end

/-! ### Parts -/

section
variable (deviceInstance : UInt32)

theorem mem_deviceFolderName {c : UInt8} (h : c ∈ deviceFolderName deviceInstance) :
    c ∈ octetsOf "device-" ∨ Decimal.isDigit c = true := by
  rcases List.mem_append.1 h with h | h
  · exact .inl h
  · exact .inr (Decimal.isDigit_of_mem_text h)

theorem slash_not_mem_deviceFolderName : slash ∉ deviceFolderName deviceInstance := by
  intro h
  rcases mem_deviceFolderName deviceInstance h with h | h
  · exact absurd h (by decide)
  · exact absurd h (by decide)

theorem split_devicePath : split (devicePath deviceInstance) =
    [octetsOf "cert1", deviceFolderName deviceInstance] := by
  have hne : deviceFolderName deviceInstance ≠ [] :=
    List.append_ne_nil_of_right_ne_nil _ (Decimal.text_ne_nil _)
  rw [devicePath, Cari.split, split_append_cons slash_not_mem_cert1,
    split_eq_singleton hne (slash_not_mem_deviceFolderName deviceInstance)]

/-- The parts of a path in the port folder. -/
theorem split_below_portPath (rest : Octets) :
    split (portPath deviceInstance ++ slash :: rest) =
      octetsOf "cert1" :: deviceFolderName deviceInstance :: octetsOf "port-4" :: split rest := by
  rw [portPath, devicePath, Cari.split]
  simp only [List.append_assoc, List.cons_append]
  rw [split_append_cons slash_not_mem_cert1,
    split_append_cons (slash_not_mem_deviceFolderName deviceInstance),
    split_append_cons slash_not_mem_port]
  rfl

theorem split_portPath : split (portPath deviceInstance) =
    [octetsOf "cert1", deviceFolderName deviceInstance, octetsOf "port-4"] := by
  rw [portPath, devicePath, Cari.split]
  simp only [List.append_assoc, List.cons_append]
  rw [split_append_cons slash_not_mem_cert1,
    split_append_cons (slash_not_mem_deviceFolderName deviceInstance)]
  rfl

variable {deviceInstance}

/-- **The folder's name is for the instance.** -/
theorem deviceInstance_deviceFolderName (h : deviceInstance ≤ 4194302) :
    Cari.deviceInstance (deviceFolderName deviceInstance) = some deviceInstance := by
  have hnat : deviceInstance.toNat ≤ 4194302 := UInt32.le_iff_toNat_le.1 h
  have hlength : (Decimal.text deviceInstance.toNat).length ≤ 7 :=
    (Decimal.length_text_le (by decide)).2 (by omega)
  have hpos : 0 < (Decimal.text deviceInstance.toNat).length :=
    List.length_pos_iff.2 (Decimal.text_ne_nil _)
  have hseven : (octetsOf "device-").length = 7 := rfl
  have hstart : startsWith (deviceFolderName deviceInstance) (octetsOf "device-") = true := by
    rw [startsWith, List.isPrefixOf_iff_prefix]
    exact List.prefix_append _ _
  have hdigits : (deviceFolderName deviceInstance).drop 7 = Decimal.text deviceInstance.toNat := by
    rw [deviceFolderName, ← hseven, List.drop_left]
  have hall : (Decimal.text deviceInstance.toNat).all Decimal.isDigit = true :=
    List.all_eq_true.2 fun c hc => Decimal.isDigit_of_mem_text hc
  have htotal : (deviceFolderName deviceInstance).length =
      7 + (Decimal.text deviceInstance.toNat).length := by
    rw [deviceFolderName, List.length_append, hseven]
  have hseven' : ((deviceFolderName deviceInstance).length == 7) = false := by
    rw [htotal, beq_eq_false_iff_ne]
    omega
  have hfourteen : ¬ 14 < (deviceFolderName deviceInstance).length := by omega
  rw [Cari.deviceInstance, hstart, hseven', if_neg (by simpa using hfourteen), hdigits]
  dsimp only
  rw [hall, Decimal.value_text, if_neg (by decide), if_neg (by omega), UInt32.ofNat_toNat]

theorem length_requestPath (h : deviceInstance ≤ 4194302) :
    (requestPath deviceInstance).length ≤ 40 := by
  have hnat : deviceInstance.toNat ≤ 4194302 := UInt32.le_iff_toNat_le.1 h
  have hlength : (Decimal.text deviceInstance.toNat).length ≤ 7 :=
    (Decimal.length_text_le (by decide)).2 (by omega)
  have hcert1 : (octetsOf "cert1").length = 5 := rfl
  have hdevice : (octetsOf "device-").length = 7 := rfl
  have hport : (octetsOf "port-4").length = 6 := rfl
  have hcsr : (octetsOf "csr-node.pem").length = 12 := rfl
  simp only [requestPath, portPath, devicePath, deviceFolderName, List.length_append,
    List.length_cons, hcert1, hdevice, hport, hcsr]
  omega

/-! ### Safe names -/

theorem safePart_of_split {part : Octets} (h : isSafeZipPath part = true)
    (hsplit : split part = [part]) : SafePart part :=
  (isSafeZipPath_iff.1 h).2 part (hsplit ▸ List.mem_singleton_self part)

theorem safeChar_of_isDigit {c : UInt8} (h : Decimal.isDigit c = true) : SafeChar c := by
  simp only [Decimal.isDigit, Bool.and_eq_true, decide_eq_true_eq, UInt8.le_iff_toNat_le] at h
  have hlow : 48 ≤ c.toNat := h.1
  have hhigh : c.toNat ≤ 57 := h.2
  clear h
  have hne {k : UInt8} (hk : k.toNat < 48 ∨ 57 < k.toNat) : c ≠ k := by
    rintro rfl
    omega
  have hspace : (0x20 : UInt8).toNat = 32 := rfl
  refine ⟨?_, hne (by decide), hne (by decide), hne (by decide)⟩
  rw [UInt8.lt_iff_toNat_lt, hspace]
  omega

theorem safePart_deviceFolderName : SafePart (deviceFolderName deviceInstance) := by
  have hdevice : SafePart (octetsOf "device-") := safePart_of_split rfl rfl
  have hlength : 8 ≤ (deviceFolderName deviceInstance).length := by
    have hpos := List.length_pos_iff.2 (Decimal.text_ne_nil deviceInstance.toNat)
    have hseven : (octetsOf "device-").length = 7 := rfl
    rw [deviceFolderName, List.length_append, hseven]
    omega
  have hne {part : Octets} (hpart : part.length < 8) : deviceFolderName deviceInstance ≠ part := by
    rintro rfl
    omega
  refine ⟨hne (by decide), hne (by decide), hne (by decide), ?_⟩
  intro c hc
  rcases mem_deviceFolderName deviceInstance hc with hc | hc
  · exact hdevice.chars c hc
  · exact safeChar_of_isDigit hc

theorem safePath_requestPath : SafePath (requestPath deviceInstance) := by
  have hlast : (requestPath deviceInstance).getLast? ≠ some slash := by
    have hcsr : (slash :: octetsOf "csr-node.pem").getLast? = some 0x6D := rfl
    rw [requestPath, List.getLast?_append, hcsr, Option.some_or]
    decide
  refine (isSafeZipPath_iff_of_last hlast).1 (isSafeZipPath_iff.2 ⟨?_, ?_⟩)
  · exact List.append_ne_nil_of_right_ne_nil _ (List.cons_ne_nil _ _)
  · have hcsr : split (octetsOf "csr-node.pem") = [octetsOf "csr-node.pem"] := rfl
    rw [requestPath, split_below_portPath, hcsr]
    intro part hpart
    simp only [List.mem_cons, List.not_mem_nil, or_false] at hpart
    rcases hpart with rfl | rfl | rfl | rfl
    · exact safePart_of_split rfl rfl
    · exact safePart_deviceFolderName
    · exact safePart_of_split rfl rfl
    · exact safePart_of_split rfl rfl

theorem safePath_notesPath : SafePath notesPath := by
  have hlast : notesPath.getLast? = some 0x74 := rfl
  exact (isSafeZipPath_iff_of_last (by rw [hlast]; decide)).1 rfl

/-! ## The tree of the zip -/

/-- The tree, by its two paths. -/
def requestTreeOf (deviceInstance : UInt32) (csr : Octets) : Tree :=
  (Tree.empty.addFile (requestPath deviceInstance) csr).addFile notesPath
    (requestNotes deviceInstance)

variable {csr : Octets}

theorem mem_requestTree_folders {folder : Octets} :
    folder ∈ (requestTreeOf deviceInstance csr).folders ↔ folder = octetsOf "cert1" ∨
      folder = devicePath deviceInstance ∨ folder = portPath deviceInstance := by
  have hnotes : notesPath = octetsOf "cert1" ++ slash :: octetsOf "request-notes.txt" := rfl
  have hcert1 : ¬ IsAncestor slash folder (octetsOf "cert1") := by
    rintro ⟨rest, hrest⟩
    have hmem : slash ∈ octetsOf "cert1" := hrest ▸ List.mem_append_right _ List.mem_cons_self
    exact slash_not_mem_cert1 hmem
  have hempty : folder ∉ Tree.empty.folders := Std.ExtTreeSet.not_mem_empty
  rw [requestTreeOf, Tree.mem_addFile_folders _ safePath_notesPath,
    Tree.mem_addFile_folders _ safePath_requestPath, hnotes,
    isAncestor_append slash_not_mem_notes, requestPath, isAncestor_append slash_not_mem_csr,
    portPath, isAncestor_append slash_not_mem_port, devicePath,
    isAncestor_append (slash_not_mem_deviceFolderName deviceInstance)]
  simp only [hempty, hcert1, false_or, or_false]
  tauto

theorem requestPath_ne_notesPath : requestPath deviceInstance ≠ notesPath := by
  intro h
  have hlast : (requestPath deviceInstance).getLast? = some 0x6D := by
    have hcsr : (slash :: octetsOf "csr-node.pem").getLast? = some 0x6D := rfl
    rw [requestPath, List.getLast?_append, hcsr, Option.some_or]
  rw [h] at hlast
  exact absurd hlast (by decide)

/-- **The files are the request and the notes.** -/
theorem requestTree_files : (requestTreeOf deviceInstance csr).files.toList.Perm
    [(notesPath, requestNotes deviceInstance), (requestPath deviceInstance, csr)] := by
  have hnew : requestPath deviceInstance ∉ Tree.empty.files := Std.ExtTreeMap.not_mem_empty
  have hnotes : notesPath ∉ (Tree.empty.addFile (requestPath deviceInstance) csr).files := by
    rw [Tree.addFile_files, Tree.mem_insert_files]
    rintro (h | h)
    · exact requestPath_ne_notesPath h.symm
    · exact Std.ExtTreeMap.not_mem_empty h
  rw [requestTreeOf, Tree.addFile_files]
  refine (Tree.toList_insert hnotes _).trans (List.Perm.cons _ ?_)
  rw [Tree.addFile_files]
  exact Tree.toList_insert hnew csr

theorem getElem?_requestTree {path bytes : Octets} :
    (requestTreeOf deviceInstance csr).files[path]? = some bytes ↔
      path = notesPath ∧ bytes = requestNotes deviceInstance ∨
        path = requestPath deviceInstance ∧ bytes = csr := by
  rw [← Std.ExtTreeMap.mem_toList_iff_getElem?_eq_some, requestTree_files.mem_iff]
  simp only [List.mem_cons, Prod.mk.injEq, List.not_mem_nil, or_false]

theorem mem_requestTree_files {path : Octets} : path ∈ (requestTreeOf deviceInstance csr).files ↔
    path = notesPath ∨ path = requestPath deviceInstance := by
  rw [Std.ExtTreeMap.mem_iff_isSome_getElem?, Option.isSome_iff_exists]
  simp only [getElem?_requestTree, exists_or, exists_and_left, exists_eq, and_true]

theorem length_requestNotesText : requestNotesText.length = 439 := by decide +kernel

theorem length_requestNotes (h : deviceInstance ≤ 4194302) :
    (requestNotes deviceInstance).length ≤ 1000 := by
  have hnat : deviceInstance.toNat ≤ 4194302 := UInt32.le_iff_toNat_le.1 h
  have hlength : (Decimal.text deviceInstance.toNat).length ≤ 7 :=
    (Decimal.length_text_le (by decide)).2 (by omega)
  have htext := length_requestNotesText
  unfold requestNotes
  dsimp only
  generalize requestNotesText = text at htext ⊢
  generalize octetsOf "%INSTANCE%" = token
  cases hbreak : breakOn token text with
  | none =>
    dsimp only
    omega
  | some found =>
    obtain ⟨before, rest⟩ := found
    have hsplit := congrArg List.length (breakOn_eq_some hbreak).1
    rw [List.length_append] at hsplit
    dsimp only
    rw [List.length_append, List.length_append, List.length_drop]
    omega

/-- The token is there. -/
example : requestNotes 389005 = requestNotesText.take 93 ++ octetsOf "389005" ++
    requestNotesText.drop 103 := by decide +kernel

/-! ### A zip can carry it -/

theorem safePath_requestTree {path : Octets} (h : path ∈ (requestTreeOf deviceInstance csr).files ∨
    path ∈ (requestTreeOf deviceInstance csr).folders) : SafePath path := by
  rw [mem_requestTree_files, mem_requestTree_folders] at h
  have hport : SafePath (portPath deviceInstance) := safePath_requestPath.of_isAncestor ⟨_, rfl⟩
  have hdevice : SafePath (devicePath deviceInstance) := hport.of_isAncestor ⟨_, rfl⟩
  rcases h with (rfl | rfl) | rfl | rfl | rfl
  · exact safePath_notesPath
  · exact safePath_requestPath
  · exact hdevice.of_isAncestor ⟨_, rfl⟩
  · exact hdevice
  · exact hport

theorem length_le_of_mem (h : deviceInstance ≤ 4194302) {path : Octets}
    (hpath : path ∈ (requestTreeOf deviceInstance csr).files ∨
      path ∈ (requestTreeOf deviceInstance csr).folders) : path.length ≤ 40 := by
  have hrequest := length_requestPath h
  have hport : (requestPath deviceInstance).length = (portPath deviceInstance).length + 13 :=
    List.length_append
  have hdevice : (portPath deviceInstance).length = (devicePath deviceInstance).length + 7 :=
    List.length_append
  have hnotes : notesPath.length = 23 := rfl
  have hcert1 : (octetsOf "cert1").length = 5 := rfl
  rw [mem_requestTree_files, mem_requestTree_folders] at hpath
  rcases hpath with (rfl | rfl) | rfl | rfl | rfl <;> omega

theorem size_requestTree_folders : (requestTreeOf deviceInstance csr).folders.size ≤ 3 := by
  have hsubset : (requestTreeOf deviceInstance csr).folders.toList ⊆
      [octetsOf "cert1", devicePath deviceInstance, portPath deviceInstance] := by
    intro folder hfolder
    rw [Std.ExtTreeSet.mem_toList, mem_requestTree_folders] at hfolder
    simpa using hfolder
  have hnodup : (requestTreeOf deviceInstance csr).folders.toList.Nodup := by
    refine Std.ExtTreeSet.distinct_toList.imp ?_
    rintro folder folder' hne rfl
    exact hne Std.ReflCmp.compare_self
  rw [← Std.ExtTreeSet.length_toList]
  exact (List.subperm_of_subset hnodup hsubset).length_le

theorem size_requestTree_files : (requestTreeOf deviceInstance csr).files.size = 2 := by
  rw [← Std.ExtTreeMap.length_toList, requestTree_files.length_eq]
  rfl

theorem writable_requestTree (h : deviceInstance ≤ 4194302) (hsize : csr.length ≤ maxPem) :
    (requestTreeOf deviceInstance csr).Writable where
  nonempty := .inr fun hempty => by
    have hcert1 : octetsOf "cert1" ∈ (requestTreeOf deviceInstance csr).folders :=
      mem_requestTree_folders.2 (.inl rfl)
    rw [hempty] at hcert1
    exact Std.ExtTreeSet.not_mem_empty hcert1
  safe path hpath := by
    have hsafe := safePath_requestTree hpath
    refine ⟨(isSafeZipPath_iff_of_last hsafe.getLast?_ne).2 hsafe, hsafe.getLast?_ne, ?_⟩
    exact (length_le_of_mem h hpath).trans_lt (by decide)
  closed := (Tree.closed_empty.addFile safePath_requestPath csr).addFile safePath_notesPath _
  entries_le := by
    have hmax : maxEntries = 4096 := rfl
    have hfolders : (requestTreeOf deviceInstance csr).folders.size ≤ 3 := size_requestTree_folders
    rw [size_requestTree_files]
    omega
  content_le := by
    have hmax : maxTotalUncompressed = 16777216 := rfl
    have hpem : maxPem = 65536 := rfl
    have hnotes := length_requestNotes h
    rw [(requestTree_files.map fun file => file.2.length).sum_eq]
    simp only [List.map_cons, List.map_nil, List.sum_cons, List.sum_nil]
    omega

/-- The zip is far smaller than `ReadZip` allows. -/
theorem length_zip_le {zlib : Zlib} {stamp : DosStamp} {zip : Octets} (h : deviceInstance ≤ 4194302)
    (hsize : csr.length ≤ maxPem) (hcsr : zlib.Bounded csr)
    (hnotes : zlib.Bounded (requestNotes deviceInstance))
    (hzip : writeZip zlib stamp (requestTreeOf deviceInstance csr) = .ok zip) :
    zip.length ≤ maxZipBytes := by
  have hwritable := writable_requestTree h hsize
  have hpem : maxPem = 65536 := rfl
  have hmax : maxZipBytes = 4194304 := rfl
  have hnotesLength := length_requestNotes h
  have hbody {entry : Entry} (hentry : entry ∈ (requestTreeOf deviceInstance csr).entries) :
      entry.name.length ≤ 41 ∧ (entry.body zlib).length ≤ 80000 := by
    rcases Tree.mem_entries.1 hentry with ⟨folder, hfolder, rfl⟩ | ⟨name, data, hfile, rfl⟩
    · have hlength := length_le_of_mem h (.inr hfolder)
      have hname : (folder ++ [slash]).length = folder.length + 1 := List.length_append
      have hnone : Entry.body zlib ⟨folder ++ [slash], []⟩ = [] := by
        rw [Entry.body, Tree.isFolder_append_slash, if_pos rfl]
      simp only [hname, hnone, List.length_nil]
      omega
    · have hlength := length_le_of_mem h (.inl (Tree.mem_of_getElem? hfile))
      have hdata : data.length ≤ maxPem ∧ zlib.Bounded data := by
        rcases getElem?_requestTree.1 hfile with ⟨-, hdata⟩ | ⟨-, hdata⟩
        · rw [hdata]
          exact ⟨by omega, hnotes⟩
        · rw [hdata]
          exact ⟨hsize, hcsr⟩
      obtain ⟨hdataLength, hbounded⟩ := hdata
      have hdeflated : Entry.body zlib ⟨name, data⟩ = zlib.deflate data := by
        have hsmall : data.length < 2 ^ 32 := by omega
        rw [Entry.body, hwritable.isFolder_file hfile, if_neg Bool.false_ne_true, deflate,
          asUInt_of_lt hsmall]
      unfold Zlib.Bounded at hbounded
      simp only [hdeflated]
      omega
  have hcount : (requestTreeOf deviceInstance csr).entries.length ≤ 5 := by
    have hfolders : (requestTreeOf deviceInstance csr).folders.size ≤ 3 := size_requestTree_folders
    rw [Tree.length_entries, size_requestTree_files]
    omega
  have hbound : ∀ entry ∈ (requestTreeOf deviceInstance csr).entries,
      76 + 2 * entry.name.length + (entry.body zlib).length ≤ 80158 := by
    intro entry hentry
    obtain ⟨hname, hdata⟩ := hbody hentry
    omega
  have hle := length_writeZip_le hwritable.name_ne hbound hzip
  have hmul : (requestTreeOf deviceInstance csr).entries.length * 80158 ≤ 5 * 80158 :=
    Nat.mul_le_mul_right _ hcount
  omega

/-! ### It keeps the rules -/

theorem verdictOf_cert1 : verdictOf false (octetsOf "cert1") = .allowed := rfl

theorem verdictOf_devicePath (h : deviceInstance ≤ 4194302) :
    verdictOf false (devicePath deviceInstance) = .device := by
  have hinstance := deviceInstance_deviceFolderName h
  have hissuer : deviceFolderName deviceInstance ≠ octetsOf "issuer" := by
    intro heq
    rw [heq] at hinstance
    exact absurd hinstance (Option.some_ne_none _).symm
  rw [verdictOf, split_devicePath]
  simp only [folderVerdict, ne_eq, not_true_eq_false, if_false, hissuer, hinstance,
    Option.isNone_some, Bool.false_eq_true]

theorem verdictOf_portPath (h : deviceInstance ≤ 4194302) :
    verdictOf false (portPath deviceInstance) = .port (deviceFolderName deviceInstance) := by
  have hport : ¬ octetsOf "port-4" = octetsOf "router" := by decide
  have hname : (!startsWith (octetsOf "port-4") (octetsOf "port-") ||
      !isValidName ((octetsOf "port-4").drop 5)) = false := rfl
  rw [verdictOf, split_portPath]
  simp only [folderVerdict, ne_eq, not_true_eq_false, if_false, deviceInstance_deviceFolderName h,
    Option.isNone_some, Bool.false_eq_true, hport, and_false, hname, if_true]

theorem problemOf_request (h : deviceInstance ≤ 4194302) (hsize : csr.length ≤ maxPem) :
    problemOf false (requestPath deviceInstance) csr = none := by
  have hcsr : split (octetsOf "csr-node.pem") = [octetsOf "csr-node.pem"] := rfl
  have hport : startsWith (octetsOf "port-4") (octetsOf "port-") = true := rfl
  have hname : fileName (octetsOf "csr-node.pem") (octetsOf "csr-") = some (octetsOf "node") := rfl
  rw [problemOf, requestPath, split_below_portPath, hcsr]
  simp only [fileProblem, ne_eq, not_true_eq_false, if_false, deviceInstance_deviceFolderName h,
    Option.isSome_some, hport, and_self, if_true, hname, Option.isNone_some, Bool.false_eq_true,
    false_and, Nat.not_lt.2 hsize]

theorem problemOf_notes (h : deviceInstance ≤ 4194302) :
    problemOf false notesPath (requestNotes deviceInstance) = none := by
  have hnotes : split notesPath = [octetsOf "cert1", octetsOf "request-notes.txt"] := rfl
  have hvendor : ¬ octetsOf "request-notes.txt" = octetsOf "vendor-data" := by decide
  have hsize : ¬ maxNotes < (requestNotes deviceInstance).length := by
    have hlength := length_requestNotes h
    have hmax : maxNotes = 10240 := rfl
    omega
  rw [problemOf, hnotes]
  simp only [fileProblem, ne_eq, not_true_eq_false, if_false, hvendor, if_true, hsize]

theorem accepted_requestTree (h : deviceInstance ≤ 4194302) (hsize : csr.length ≤ maxPem) :
    Accepted (requestTreeOf deviceInstance csr) false where
  folders folder hfolder := by
    rcases mem_requestTree_folders.1 hfolder with rfl | rfl | rfl
    · rw [verdictOf_cert1]
      rfl
    · rw [verdictOf_devicePath h]
      rfl
    · rw [verdictOf_portPath h]
      rfl
  files path bytes hfile := by
    rcases getElem?_requestTree.1 hfile with ⟨hpath, hbytes⟩ | ⟨hpath, hbytes⟩
    · rw [hpath, hbytes]
      exact problemOf_notes h
    · rw [hpath, hbytes]
      exact problemOf_request h hsize
  device := ⟨devicePath deviceInstance, mem_requestTree_folders.2 (.inr (.inl rfl)),
    verdictOf_devicePath h⟩
  ports folder hfolder device hdevice := by
    have hport : portPath deviceInstance ∈ (requestTreeOf deviceInstance csr).folders :=
      mem_requestTree_folders.2 (.inr (.inr rfl))
    have hroot : deviceFolder (octetsOf "cert1") = none := rfl
    rcases mem_requestTree_folders.1 hfolder with rfl | rfl | rfl
    · rw [hroot] at hdevice
      cases hdevice
    · rw [deviceFolder, split_devicePath] at hdevice
      dsimp only at hdevice
      rw [deviceInstance_deviceFolderName h] at hdevice
      obtain rfl := Option.some.inj hdevice
      exact ⟨_, hport, verdictOf_portPath h⟩
    · rw [deviceFolder, split_portPath] at hdevice
      cases hdevice

theorem validate_requestTree (h : deviceInstance ≤ 4194302) (hsize : csr.length ≤ maxPem) :
    validate (requestTreeOf deviceInstance csr) false = .ok [] := by
  refine (validate_eq_nil_iff false ?_).2 (accepted_requestTree h hsize)
  intro path hpath
  exact (safePath_requestTree hpath).ne_nil

/-! ### The request is listed -/

theorem csrEntry_notesPath (tree : Tree) : csrEntry tree notesPath = none := rfl

theorem csrEntry_requestPath (h : deviceInstance ≤ 4194302) (tree : Tree) :
    ∃ entry, csrEntry tree (requestPath deviceInstance) = some entry ∧
      entry.deviceInstance = deviceInstance ∧
      entry.oprPath = portPath deviceInstance ++ octetsOf "/opr-node.pem" := by
  have hcsr : split (octetsOf "csr-node.pem") = [octetsOf "csr-node.pem"] := rfl
  have hport : startsWith (octetsOf "port-4") (octetsOf "port-") = true := rfl
  have hname : fileName (octetsOf "csr-node.pem") (octetsOf "csr-") = some (octetsOf "node") := rfl
  have hroot : octetsOf "cert1/" = octetsOf "cert1" ++ [slash] := rfl
  have hslash : octetsOf "/" = [slash] := rfl
  have hopr : octetsOf "/opr-node.pem" =
      octetsOf "/opr-" ++ (octetsOf "node" ++ octetsOf ".pem") := rfl
  unfold csrEntry
  rw [requestPath, split_below_portPath, hcsr]
  simp only [ne_eq, not_true_eq_false, if_false, deviceInstance_deviceFolderName h, hname, hport,
    if_true]
  refine ⟨_, rfl, rfl, ?_⟩
  simp only [portPath, devicePath, hroot, hslash, hopr, List.append_assoc, List.cons_append,
    List.nil_append]

theorem listCsrs_requestTree (h : deviceInstance ≤ 4194302) (csr : Octets) :
    ∃ entry, listCsrs (requestTreeOf deviceInstance csr) = [entry] ∧
      entry.deviceInstance = deviceInstance ∧
      entry.oprPath = portPath deviceInstance ++ octetsOf "/opr-node.pem" := by
  obtain ⟨entry, hentry, hinstance, hpath⟩ :=
    csrEntry_requestPath h (requestTreeOf deviceInstance csr)
  refine ⟨entry, ?_, hinstance, hpath⟩
  have hkeys : (requestTreeOf deviceInstance csr).files.keys.Perm
      [notesPath, requestPath deviceInstance] := by
    rw [← Std.ExtTreeMap.map_fst_toList_eq_keys]
    exact requestTree_files.map Prod.fst
  have hlist := hkeys.filterMap (csrEntry (requestTreeOf deviceInstance csr))
  rw [List.filterMap_cons_none (csrEntry_notesPath _), List.filterMap_cons_some hentry,
    List.filterMap_nil] at hlist
  exact List.perm_singleton.1 hlist

end

/-! ## Request and response agree -/

/-- The importer looks at its own path first. -/
theorem head?_certificateCandidates {paths : NodeSetPaths} {response : Tree}
    (hne : ownCertificatePath paths ≠ []) (h : response.has (ownCertificatePath paths) = true) :
    (certificateCandidates paths response).head? = some (ownCertificatePath paths) := by
  rw [certificateCandidates, if_pos ⟨hne, h⟩]
  rfl

/-- There is a zip of the tree, and it is read back. -/
theorem exists_readable_zip {zlib : Zlib} (stamp : DosStamp) {deviceInstance : UInt32}
    (hinstance : deviceInstance ≤ 4194302) {csr : Octets} (hsize : csr.length ≤ maxPem)
    (hzlib : ∀ data ∈ [csr, requestNotes deviceInstance],
      zlib.Undoes data ∧ zlib.Bounded data) :
    ∃ zip, writeZip zlib stamp (requestTreeOf deviceInstance csr) = .ok zip ∧
      readZip zlib zip = .ok (requestTreeOf deviceInstance csr, .ok ()) := by
  obtain ⟨hundoesCsr, hboundedCsr⟩ := hzlib csr List.mem_cons_self
  obtain ⟨hundoesNotes, hboundedNotes⟩ :=
    hzlib (requestNotes deviceInstance) (List.mem_cons_of_mem _ List.mem_cons_self)
  have hundoes : ∀ name data : Octets,
      (requestTreeOf deviceInstance csr).files[name]? = some data → zlib.Undoes data := by
    intro name data hfile
    rcases getElem?_requestTree.1 hfile with ⟨-, hdata⟩ | ⟨-, hdata⟩
    · rw [hdata]
      exact hundoesNotes
    · rw [hdata]
      exact hundoesCsr
  have hwritable := writable_requestTree hinstance hsize
  obtain ⟨zip, hwrite⟩ := hwritable.exists_zip zlib stamp
  exact ⟨zip, hwrite, hwritable.readZip_eq hwrite hundoes
    (length_zip_le hinstance hsize hboundedCsr hboundedNotes hwrite)⟩

/-- **Request and response agree.** -/
theorem request_agrees (zlib : Zlib) (stamp : DosStamp) (reqFromBytes : Octets → Bool)
    (certDir : String) {deviceInstance : UInt32} (hinstance : deviceInstance ≤ 4194302)
    {d : CertDisk} {csr : Octets}
    (hcsr : readDisk d (newNodeCertPaths certDir deviceInstance).certificateSigningRequest =
      some csr)
    (hparses : reqFromBytes csr = true) (hsize : csr.length ≤ maxPem)
    (hzlib : ∀ data ∈ [csr, requestNotes deviceInstance],
      zlib.Undoes data ∧ zlib.Bounded data) :
    ∃ zip tree entry,
      nodeRequestZip zlib stamp reqFromBytes (newNodeCertPaths certDir deviceInstance) d =
        .ok (.ok zip) ∧
      readZip zlib zip = .ok (tree, .ok ()) ∧
      tree.files.toList.Perm
        [(notesPath, requestNotes deviceInstance), (requestPath deviceInstance, csr)] ∧
      validate tree false = .ok [] ∧
      listCsrs tree = [entry] ∧ entry.deviceInstance = deviceInstance ∧
      ∀ response : Tree, response.has entry.oprPath = true →
        (certificateCandidates (newNodeCertPaths certDir deviceInstance) response).head? =
          some entry.oprPath := by
  obtain ⟨entry, hlist, hentry, hopr⟩ := listCsrs_requestTree hinstance csr
  obtain ⟨zip, hwrite, hread⟩ := exists_readable_zip stamp hinstance hsize hzlib
  refine ⟨zip, requestTreeOf deviceInstance csr, entry, ?_, hread, requestTree_files,
    validate_requestTree hinstance hsize, hlist, hentry, ?_⟩
  · have htree : requestTree (newNodeCertPaths certDir deviceInstance) csr =
        requestTreeOf deviceInstance csr := requestTree_eq certDir deviceInstance csr
    rw [nodeRequestZip, hcsr]
    dsimp only
    rw [hparses, htree, hwrite]
    rfl
  · intro response hresponse
    have hown := ownCertificatePath_eq certDir deviceInstance
    rw [hopr, ← hown] at hresponse ⊢
    refine head?_certificateCandidates ?_ hresponse
    rw [hown]
    exact List.append_ne_nil_of_right_ne_nil _ (List.cons_ne_nil _ _)

/-! ### The request of the third key -/

/-- `Deflate` of the request. -/
def requestDeflated : Octets :=
  [0x75, 0x90, 0xCD, 0x72, 0x82, 0x30, 0x18, 0x00, 0xEF, 0x3C, 0x85, 0x77, 0xC7, 0x69, 0x18, 0xA0,
    0xCA, 0xF1, 0x4B, 0xF2, 0x11, 0x22, 0x02, 0x46, 0x42, 0x51, 0x6F, 0xD6, 0x4A, 0x40, 0x6B, 0xAB,
    0x65, 0x80, 0xC2, 0xD3, 0xF7, 0x67, 0x7A, 0xED, 0x9E, 0x76, 0x66, 0x6F, 0x3B, 0x9B, 0x7D, 0x43,
    0x51, 0xC8, 0x64, 0xC2, 0x70, 0xA3, 0x65, 0x20, 0x19, 0x68, 0x9C, 0x6C, 0x50, 0xE5, 0x98, 0xE9,
    0x9F, 0x38, 0xB3, 0x62, 0x19, 0x8A, 0x58, 0xB8, 0x0C, 0x14, 0xF4, 0x9C, 0x63, 0x14, 0x83, 0x11,
    0x60, 0xE7, 0x08, 0x7D, 0x4F, 0xF5, 0x99, 0xEE, 0x63, 0x1A, 0x0B, 0x3A, 0xDC, 0x45, 0x16, 0xBB,
    0x3E, 0x18, 0x14, 0x8C, 0xFD, 0x79, 0x8F, 0x21, 0x10, 0x09, 0x16, 0x4D, 0xFA, 0xCF, 0x4D, 0xDB,
    0x77, 0x61, 0xB9, 0x1A, 0x0B, 0x2A, 0xA7, 0x63, 0xF4, 0x4A, 0x9B, 0x56, 0x90, 0xAA, 0x56, 0x37,
    0x20, 0x8B, 0x43, 0x54, 0x07, 0xC7, 0xB9, 0xEB, 0xEE, 0xBD, 0x42, 0xAA, 0x13, 0xC1, 0xE7, 0xCE,
    0x41, 0x33, 0x96, 0xAA, 0xC9, 0x97, 0x32, 0x58, 0xEF, 0x56, 0xBE, 0x55, 0x68, 0xE2, 0x89, 0x13,
    0xC9, 0x53, 0xF7, 0xFA, 0x32, 0xDA, 0x0F, 0x6C, 0xD9, 0xD4, 0x6B, 0x5B, 0xA6, 0x06, 0x38, 0x44,
    0xD4, 0x98, 0x7B, 0x75, 0x39, 0xA7, 0x6B, 0xA5, 0x38, 0x98, 0x44, 0x02, 0xA7, 0x01, 0xD4, 0x08,
    0xF6, 0x6E, 0x7E, 0xF0, 0xD3, 0xA2, 0x70, 0x9D, 0x5B, 0x6B, 0xA9, 0x95, 0x71, 0xB2, 0x65, 0xF5,
    0xB1, 0xCB, 0xEE, 0x0E, 0x49, 0x7D, 0x58, 0x74, 0xC7, 0xD6, 0x84, 0xA4, 0x7D, 0x7B, 0x4A, 0xB3,
    0x72, 0x0A, 0x4C, 0xE2, 0xFB, 0xE3, 0x96, 0xB0, 0xB2, 0x08, 0x70, 0x7F, 0xF1, 0xBC, 0xAE, 0xC8,
    0x80, 0x37, 0xF9, 0x30, 0x8C, 0x63, 0xA0, 0xB5, 0xBC, 0x52, 0xAB, 0x3B, 0x41, 0xB9, 0x75, 0xF9,
    0xD0, 0xE8, 0x2A, 0xB0, 0x7E, 0xB7, 0x60, 0xC2, 0xFF, 0x5F, 0xF6, 0x05]

/-- `Deflate` of the notes for device 389005. -/
def notesDeflated : Octets :=
  [0x5D, 0x90, 0xC1, 0x4E, 0xC3, 0x30, 0x10, 0x44, 0xEF, 0xF9, 0x8A, 0x3D, 0xB6, 0x12, 0x49, 0x8A,
    0x00, 0x09, 0x7A, 0x4B, 0x7D, 0x42, 0xDC, 0x1A, 0xF8, 0x00, 0x63, 0x4F, 0x1B, 0xAB, 0xA9, 0x1D,
    0xBC, 0xEB, 0xD2, 0xFE, 0x3D, 0x76, 0x4B, 0x45, 0xC5, 0xC9, 0xDA, 0x5D, 0x6B, 0xE6, 0xCD, 0x28,
    0x44, 0x71, 0x1B, 0x67, 0xB4, 0x80, 0x22, 0xBE, 0x12, 0x58, 0x68, 0x13, 0x22, 0x69, 0x5A, 0x75,
    0xCA, 0x43, 0xDA, 0x5E, 0x91, 0x0F, 0x16, 0x34, 0x53, 0x5D, 0xFF, 0xBB, 0xA3, 0x5E, 0xB4, 0xD9,
    0xD1, 0xAA, 0x5E, 0x29, 0xC2, 0x51, 0xEF, 0xA7, 0x11, 0xF3, 0xA6, 0xAA, 0x7A, 0xB7, 0xF5, 0x64,
    0xB2, 0xDE, 0x7D, 0x6B, 0x71, 0x70, 0x06, 0xF5, 0xC3, 0xF3, 0xCB, 0x62, 0xF1, 0xD4, 0x4E, 0x21,
    0x4A, 0xFD, 0xD8, 0x1A, 0x8E, 0x75, 0x91, 0x6A, 0x26, 0xEC, 0x1B, 0x7A, 0x1F, 0x1C, 0x53, 0xB9,
    0x50, 0x7E, 0xFF, 0xBB, 0x55, 0x32, 0x68, 0x21, 0x13, 0xBC, 0x87, 0x11, 0x26, 0x09, 0xF9, 0xC7,
    0x90, 0x3E, 0x97, 0xE4, 0xF2, 0x64, 0x6E, 0x90, 0x3D, 0x60, 0x39, 0x43, 0x08, 0xBC, 0x85, 0x7D,
    0xC3, 0xE9, 0x83, 0xF5, 0x16, 0x64, 0x46, 0x07, 0x2F, 0x5D, 0x92, 0x81, 0x66, 0xDA, 0xDB, 0x8A,
    0x11, 0x0F, 0x88, 0x65, 0xBE, 0x3B, 0xA7, 0xB3, 0x2E, 0x66, 0xE1, 0xAB, 0x81, 0x0B, 0x9E, 0x4B,
    0x80, 0x35, 0x24, 0x45, 0x9F, 0xAD, 0x54, 0xB7, 0x7E, 0xCD, 0x6D, 0xF0, 0x94, 0x0F, 0x58, 0x92,
    0x14, 0x54, 0x89, 0x00, 0x4D, 0x63, 0x62, 0x0A, 0xD3, 0x5F, 0x8E, 0x0C, 0x70, 0x94, 0xC2, 0x27,
    0x03, 0x48, 0xF5, 0x6B, 0xCA, 0x6E, 0x74, 0x0A, 0x29, 0x56, 0x8E, 0x39, 0x21, 0xDE, 0xC2, 0xCE,
    0x78, 0x4E, 0xEE, 0xDA, 0xD0, 0xE5, 0xDC, 0x96, 0x1E, 0xE0, 0xF3, 0x9A, 0x45, 0x8F, 0x63, 0x8E,
    0x47, 0xC1, 0x9F, 0xB5, 0x2E, 0x0D, 0xD2, 0xB7, 0x93, 0xA1, 0xAA, 0x6B, 0xB7, 0x3F, 0x77, 0x68,
    0x74, 0x74, 0x4D, 0xF5, 0x03]

/-- zlib on two texts and on nothing. -/
def zlibOn (data data' deflated deflated' : Octets) (crc crc' : UInt32) : Zlib where
  inflate input room :=
    if input = deflated then
      .ok ⟨data.take room, List.length_take_le _ _,
        if data.length ≤ room then .streamEnd else .bufError⟩
    else if input = deflated' then
      .ok ⟨data'.take room, List.length_take_le _ _,
        if data'.length ≤ room then .streamEnd else .bufError⟩
    else if input = [0x03, 0x00] then .ok ⟨[], Nat.zero_le _, .streamEnd⟩
    else .ok ⟨[], Nat.zero_le _, .other⟩
  deflate input :=
    if input = data then deflated else if input = data' then deflated' else [0x03, 0x00]
  crc32 input := if input = data then crc else if input = data' then crc' else 0

section
variable {data data' deflated deflated' : Octets} (crc crc' : UInt32)

theorem zlibOn_left : (zlibOn data data' deflated deflated' crc crc').deflate data = deflated :=
  if_pos rfl

theorem zlibOn_right (h : data' ≠ data) :
    (zlibOn data data' deflated deflated' crc crc').deflate data' = deflated' :=
  (if_neg h).trans (if_pos rfl)

theorem zlibOn_undoes_left : (zlibOn data data' deflated deflated' crc crc').Undoes data := by
  rw [Zlib.Undoes, zlibOn_left]
  exact ⟨_, if_pos rfl, List.take_length, .inl (if_pos le_rfl)⟩

theorem zlibOn_undoes_right (h : data' ≠ data) (h' : deflated' ≠ deflated) :
    (zlibOn data data' deflated deflated' crc crc').Undoes data' := by
  rw [Zlib.Undoes, zlibOn_right crc crc' h]
  exact ⟨_, (if_neg h').trans (if_pos rfl), List.take_length, .inl (if_pos le_rfl)⟩

end

def requestZlib : Zlib := zlibOn thirdRequestPem (requestNotes 389005) requestDeflated notesDeflated
  0x09A84FD9 0x00313A32

/-- The request is in the folder. -/
def thirdRequestDisk : CertDisk :=
  install [("sc/cert1/device-389005/port-4/csr-node.pem", ⟨thirdRequestPem, 0, false⟩)]
    fun _ => none

theorem request_agrees_third :
    ∃ zip tree entry,
      nodeRequestZip requestZlib ⟨0, 0x21⟩ (· == thirdRequestPem) (newNodeCertPaths "sc" 389005)
        thirdRequestDisk = .ok (.ok zip) ∧
      readZip requestZlib zip = .ok (tree, .ok ()) ∧
      tree.files.toList.Perm
        [(notesPath, requestNotes 389005), (requestPath 389005, thirdRequestPem)] ∧
      validate tree false = .ok [] ∧
      listCsrs tree = [entry] ∧ entry.deviceInstance = 389005 ∧
      ∀ response : Tree, response.has entry.oprPath = true →
        (certificateCandidates (newNodeCertPaths "sc" 389005) response).head? =
          some entry.oprPath := by
  refine request_agrees requestZlib ⟨0, 0x21⟩ (· == thirdRequestPem) "sc" (by decide)
    (by decide +kernel) (beq_self_eq_true _) (by decide +kernel) ?_
  have hne : requestNotes 389005 ≠ thirdRequestPem := by decide +kernel
  have hne' : notesDeflated ≠ requestDeflated := by decide
  intro data hdata
  rcases List.mem_cons.1 hdata with hdata | hdata
  · rw [hdata]
    refine ⟨zlibOn_undoes_left _ _, ?_⟩
    rw [Zlib.Bounded, requestZlib, zlibOn_left]
    decide +kernel
  · rw [List.mem_singleton.1 hdata]
    refine ⟨zlibOn_undoes_right _ _ hne hne', ?_⟩
    rw [Zlib.Bounded, requestZlib, zlibOn_right _ _ hne]
    decide +kernel

end BacnetBc
