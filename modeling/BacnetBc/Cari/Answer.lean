import BacnetBc.Cari.Validate
import BacnetBc.Cert.NodeRequest

/-!
# Answering a request

The certificate authority answers a request in the same tree: a certificate next to each certificate
signing request that `ListCsrs` finds, and an issuer (`answer`).

`csrEntry` takes the path of a request apart into a device folder, a port folder and a name
(`IsCsr`), and these give the path of its answer. In an accepted tree every file that is called like
a request is one (`isCsr_of_problemOf`).

**Theorem (`request_answered`).** The answer to a tree that keeps the rules of a request keeps those
of a response and lists the same requests. Each request of the tree is listed once, and no two are
answered at one path.
-/

namespace BacnetBc.Cari

open Memory
open Path hiding split

/-! ## Names -/

theorem startsWith_iff {text start : Octets} :
    startsWith text start = true ↔ ∃ rest, text = start ++ rest := by
  rw [startsWith, List.isPrefixOf_iff_prefix]
  constructor
  · rintro ⟨rest, rfl⟩
    exact ⟨rest, rfl⟩
  · rintro ⟨rest, rfl⟩
    exact ⟨rest, rfl⟩

theorem endsWith_iff {text ending : Octets} :
    endsWith text ending = true ↔ ∃ front, text = front ++ ending := by
  rw [endsWith, List.isSuffixOf_iff_suffix]
  constructor
  · rintro ⟨front, rfl⟩
    exact ⟨front, rfl⟩
  · rintro ⟨front, rfl⟩
    exact ⟨front, rfl⟩

/-- A beginning without a dot and ".pem" do not overlap. -/
theorem exists_name {file start : Octets} (hdot : 0x2E ∉ start)
    (hstart : startsWith file start = true) (hending : endsWith file (octetsOf ".pem") = true) :
    ∃ name, file = start ++ name ++ octetsOf ".pem" := by
  obtain ⟨rest, hrest⟩ := startsWith_iff.1 hstart
  obtain ⟨front, hfront⟩ := endsWith_iff.1 hending
  rcases List.append_eq_append_iff.1 (hrest.symm.trans hfront) with
    ⟨name, rfl, -⟩ | ⟨overlap, rfl, hoverlap⟩
  · exact ⟨name, hfront⟩
  · -- the dot would be in both
    cases overlap with
    | nil => exact ⟨[], by rw [hfront, List.append_nil, List.append_nil]⟩
    | cons c overlap =>
      have hc : c = 0x2E := (List.cons.inj hoverlap.symm).1
      exact absurd (List.mem_append_right front (hc ▸ List.mem_cons_self)) hdot

theorem fileName_eq_some_iff {file start name : Octets} (hdot : 0x2E ∉ start) :
    fileName file start = some name ↔
      file = start ++ name ++ octetsOf ".pem" ∧ isValidName name = true := by
  have hpem : (octetsOf ".pem").length = 4 := rfl
  have hmiddle (name : Octets) : ((start ++ name ++ octetsOf ".pem").drop start.length).take
      ((start ++ name ++ octetsOf ".pem").length - start.length - 4) = name := by
    have hlength : (start ++ name ++ octetsOf ".pem").length - start.length - 4 =
        name.length := by
      rw [List.length_append, List.length_append, hpem]
      omega
    rw [hlength, List.append_assoc, List.drop_left, List.take_left]
  rw [fileName]
  constructor
  · intro h
    dsimp only at h
    split_ifs at h with hnot hvalid
    simp only [Bool.or_eq_true, Bool.not_eq_true', not_or, Bool.not_eq_false] at hnot
    obtain ⟨name', rfl⟩ := exists_name hdot hnot.1 hnot.2
    rw [hmiddle] at h hvalid
    rw [← Option.some.inj h]
    exact ⟨rfl, hvalid⟩
  · rintro ⟨rfl, hvalid⟩
    have hstart : startsWith (start ++ name ++ octetsOf ".pem") start = true :=
      startsWith_iff.2 ⟨name ++ octetsOf ".pem", List.append_assoc _ _ _⟩
    have hending : endsWith (start ++ name ++ octetsOf ".pem") (octetsOf ".pem") = true :=
      endsWith_iff.2 ⟨start ++ name, rfl⟩
    simp only [hstart, hending, hmiddle, hvalid, Bool.not_true, Bool.or_self, Bool.false_eq_true,
      if_false, if_true]

/-- Files with different beginnings are different. -/
theorem ne_of_start {start start' name name' ending ending' : Octets}
    (hlength : start.length = start'.length) (hne : start ≠ start') :
    start ++ name ++ ending ≠ start' ++ name' ++ ending' := by
  intro heq
  rw [List.append_assoc, List.append_assoc] at heq
  exact hne (List.append_inj heq hlength).1

theorem slash_not_mem_name {name : Octets} (h : isValidName name = true) : slash ∉ name := by
  intro hmem
  simp only [isValidName, Bool.and_eq_true, List.all_eq_true] at h
  have hslash := h.2 slash hmem
  revert hslash
  decide

theorem slash_not_mem_pem {start name : Octets} (hstart : slash ∉ start)
    (hname : isValidName name = true) : slash ∉ start ++ name ++ octetsOf ".pem" := by
  have hpem : slash ∉ octetsOf ".pem" := by decide
  simp only [List.mem_append, hstart, hpem, slash_not_mem_name hname, or_self, not_false_eq_true]

/-! ## The paths of a port folder -/

/-- `port` in `ListCsrs`. -/
def portFolderPath (device port : Octets) : Octets :=
  octetsOf "cert1/" ++ device ++ octetsOf "/" ++ port

theorem split_portFolderPath {device port : Octets} (hdevice : slash ∉ device)
    (hport : slash ∉ port) (hne : port ≠ []) :
    split (portFolderPath device port) = [octetsOf "cert1", device, port] := by
  have hroot : slash ∉ octetsOf "cert1" := by decide
  have heq : portFolderPath device port =
      octetsOf "cert1" ++ slash :: (device ++ slash :: port) := by
    have hcert1 : octetsOf "cert1/" = octetsOf "cert1" ++ [slash] := rfl
    have hslash : octetsOf "/" = [slash] := rfl
    simp only [portFolderPath, hcert1, hslash, List.append_assoc, List.cons_append, List.nil_append]
  rw [heq, split, split_append_cons hroot, split_append_cons hdevice,
    split_eq_singleton hne hport]

/-- A path below a port folder. -/
theorem split_below_portFolder {device port file : Octets} (hdevice : slash ∉ device)
    (hport : slash ∉ port) (hfile : slash ∉ file) (hne : file ≠ []) :
    split (portFolderPath device port ++ slash :: file) =
      [octetsOf "cert1", device, port, file] := by
  have hroot : slash ∉ octetsOf "cert1" := by decide
  have heq : portFolderPath device port ++ slash :: file =
      octetsOf "cert1" ++ slash :: (device ++ slash :: (port ++ slash :: file)) := by
    have hcert1 : octetsOf "cert1/" = octetsOf "cert1" ++ [slash] := rfl
    have hslash : octetsOf "/" = [slash] := rfl
    simp only [portFolderPath, hcert1, hslash, List.append_assoc, List.cons_append, List.nil_append]
  rw [heq, split, split_append_cons hroot, split_append_cons hdevice, split_append_cons hport,
    split_eq_singleton hne hfile]

/-! ## Requests -/

/-- The path of a certificate signing request, by its parts. -/
structure IsCsr (path device port name : Octets) : Prop where
  split_eq : split path =
    [octetsOf "cert1", device, port, octetsOf "csr-" ++ name ++ octetsOf ".pem"]
  device : (deviceInstance device).isSome = true
  port : startsWith port (octetsOf "port-") = true
  name : isValidName name = true

/-- The path of the answer. -/
def oprPathOf (device port name : Octets) : Octets :=
  portFolderPath device port ++ octetsOf "/opr-" ++ name ++ octetsOf ".pem"

theorem oprPathOf_eq (device port name : Octets) :
    oprPathOf device port name = portFolderPath device port ++
      slash :: (octetsOf "opr-" ++ name ++ octetsOf ".pem") := by
  have hopr : octetsOf "/opr-" = slash :: octetsOf "opr-" := rfl
  rw [oprPathOf, hopr]
  simp only [List.append_assoc, List.cons_append]

theorem csrEntry_of_isCsr {path device port name : Octets} (h : IsCsr path device port name)
    (tree : Tree) :
    ∃ entry, csrEntry tree path = some entry ∧ entry.csrPath = path ∧
      entry.oprPath = oprPathOf device port name ∧ entry.deviceFolder = device ∧
      deviceInstance device = some entry.deviceInstance := by
  obtain ⟨instance', hinstance⟩ := Option.isSome_iff_exists.1 h.device
  have hname : fileName (octetsOf "csr-" ++ name ++ octetsOf ".pem") (octetsOf "csr-") =
      some name := (fileName_eq_some_iff (by decide)).2 ⟨rfl, h.name⟩
  unfold csrEntry
  rw [h.split_eq]
  dsimp only
  rw [if_neg (not_not_intro rfl), hinstance, hname]
  dsimp only
  rw [if_pos h.port]
  exact ⟨_, rfl, rfl, rfl, rfl, rfl⟩

theorem isCsr_of_csrEntry {tree : Tree} {path : Octets} {entry : CsrEntry}
    (h : csrEntry tree path = some entry) :
    ∃ device port name, IsCsr path device port name := by
  unfold csrEntry at h
  split at h
  · rename_i root device port file hsplit
    by_cases hroot : root = octetsOf "cert1"
    · rw [if_neg (not_not_intro hroot)] at h
      cases hinstance : deviceInstance device with
      | none =>
        rw [hinstance] at h
        cases h
      | some instance' =>
        cases hname : fileName file (octetsOf "csr-") with
        | none =>
          rw [hinstance, hname] at h
          cases h
        | some name =>
          rw [hinstance, hname] at h
          dsimp only at h
          by_cases hport : startsWith port (octetsOf "port-") = true
          · obtain ⟨rfl, hvalid⟩ := (fileName_eq_some_iff (by decide)).1 hname
            refine ⟨device, port, name, ?_, ?_, hport, hvalid⟩
            · rw [hsplit, hroot]
            · rw [hinstance]
              rfl
          · rw [if_neg hport] at h
            cases h
    · rw [if_pos hroot] at h
      cases h
  · cases h

theorem csrEntry_isSome_iff {tree : Tree} {path : Octets} :
    (csrEntry tree path).isSome = true ↔ ∃ device port name, IsCsr path device port name := by
  rw [Option.isSome_iff_exists]
  constructor
  · rintro ⟨entry, hentry⟩
    exact isCsr_of_csrEntry hentry
  · rintro ⟨device, port, name, h⟩
    obtain ⟨entry, hentry, -⟩ := csrEntry_of_isCsr h tree
    exact ⟨entry, hentry⟩

section
variable {path device port name : Octets} (h : IsCsr path device port name)
include h

theorem IsCsr.mem_parts {part : Octets} (hpart : part = device ∨ part = port) :
    part ∈ split path := by
  rw [h.split_eq]
  rcases hpart with rfl | rfl
  · simp
  · simp

theorem IsCsr.slash_device : slash ∉ device := separator_not_mem_split (h.mem_parts (.inl rfl))

theorem IsCsr.slash_port : slash ∉ port := separator_not_mem_split (h.mem_parts (.inr rfl))

/-- The path is the port folder's and the file's. -/
theorem IsCsr.path_eq (hsafe : SafePath path) :
    path = portFolderPath device port ++
      slash :: (octetsOf "csr-" ++ name ++ octetsOf ".pem") := by
  have hcert1 : octetsOf "cert1/" = octetsOf "cert1" ++ [slash] := rfl
  have hslash : octetsOf "/" = [slash] := rfl
  calc path = [slash].intercalate (path.splitOn slash) := (List.intercalate_splitOn slash).symm
    _ = [slash].intercalate
        [octetsOf "cert1", device, port, octetsOf "csr-" ++ name ++ octetsOf ".pem"] := by
      rw [← h.split_eq, hsafe.split_eq]
    _ = _ := by
      rw [List.intercalate_cons_cons, List.intercalate_cons_cons, List.intercalate_cons_cons,
        List.intercalate_singleton, portFolderPath, hcert1, hslash]
      simp only [List.append_assoc, List.cons_append, List.nil_append]

theorem IsCsr.split_oprPath :
    split (oprPathOf device port name) =
      [octetsOf "cert1", device, port, octetsOf "opr-" ++ name ++ octetsOf ".pem"] := by
  rw [oprPathOf_eq]
  exact split_below_portFolder h.slash_device h.slash_port
    (slash_not_mem_pem (by decide) h.name) (List.append_ne_nil_of_right_ne_nil _ (by decide))

theorem IsCsr.safe_oprPath (hsafe : SafePath path) : SafePath (oprPathOf device port name) := by
  have hlast : (oprPathOf device port name).getLast? ≠ some slash := by
    rw [oprPathOf, List.getLast?_append_of_ne_nil _ (by decide)]
    decide
  have hne : oprPathOf device port name ≠ [] := List.append_ne_nil_of_right_ne_nil _ (by decide)
  have hparts : ∀ part ∈ split path, SafePart part := by
    rw [hsafe.split_eq]
    exact hsafe
  rw [h.split_eq] at hparts
  have hopr : SafePart (octetsOf "opr-" ++ name ++ octetsOf ".pem") := by
    have hcsr := hparts (octetsOf "csr-" ++ name ++ octetsOf ".pem") (by simp)
    have hlong : 8 ≤ (octetsOf "opr-" ++ name ++ octetsOf ".pem").length := by
      have hlengths : (octetsOf "opr-").length = 4 ∧ (octetsOf ".pem").length = 4 := by decide
      rw [List.length_append, List.length_append, hlengths.1, hlengths.2]
      omega
    refine ⟨List.ne_nil_of_length_pos (by omega), ?_, ?_, ?_⟩
    · intro hdot
      rw [hdot] at hlong
      exact absurd hlong (by decide)
    · intro hdotdot
      rw [hdotdot] at hlong
      exact absurd hlong (by decide)
    · have hstart : SafePart (octetsOf "opr-") := by
        have hsafe : isSafeZipPath (octetsOf "opr-") = true := by rfl
        exact (isSafeZipPath_iff.1 hsafe).2 _ (by decide)
      intro c hc
      rcases List.mem_append.1 hc with hc | hc
      · rcases List.mem_append.1 hc with hc | hc
        · exact hstart.chars c hc
        · exact hcsr.chars c (List.mem_append_left _ (List.mem_append_right _ hc))
      · exact hcsr.chars c (List.mem_append_right _ hc)
  rw [← isSafeZipPath_iff_of_last hlast, isSafeZipPath_iff, h.split_oprPath]
  refine ⟨hne, ?_⟩
  intro part hpart
  simp only [List.mem_cons, List.not_mem_nil, or_false] at hpart
  rcases hpart with rfl | rfl | rfl | rfl
  · exact hparts _ (by simp)
  · exact hparts _ (by simp)
  · exact hparts _ (by simp)
  · exact hopr

/-- A request and its answer are in the same folders. -/
theorem IsCsr.isAncestor_oprPath (hsafe : SafePath path) {folder : Octets} :
    IsAncestor slash folder (oprPathOf device port name) ↔ IsAncestor slash folder path := by
  have hopr : slash ∉ octetsOf "opr-" ++ name ++ octetsOf ".pem" :=
    slash_not_mem_pem (by decide) h.name
  have hcsr : slash ∉ octetsOf "csr-" ++ name ++ octetsOf ".pem" :=
    slash_not_mem_pem (by decide) h.name
  rw [oprPathOf_eq, isAncestor_append hopr, h.path_eq hsafe, isAncestor_append hcsr]

end

/-! ## The rules of a request and of a response -/

theorem folderVerdict_response {root : Octets} {p : List Octets}
    (h : (folderVerdict false root p).problem? = none) :
    folderVerdict true root p = folderVerdict false root p := by
  unfold folderVerdict at h ⊢
  by_cases hroot : root = octetsOf "cert1"
  · rw [if_neg (not_not_intro hroot)] at h
    rw [if_neg (not_not_intro hroot), if_neg (not_not_intro hroot)]
    rcases p with _ | ⟨device, _ | ⟨port, p⟩⟩
    · rfl
    · dsimp only at h ⊢
      by_cases hissuer : device = octetsOf "issuer"
      · rw [if_pos hissuer] at h
        cases h
      · rw [if_neg hissuer, if_neg hissuer]
    · rfl
  · rw [if_pos hroot, if_pos hroot]

theorem fileProblem_response {root : Octets} {p : List Octets} {size : Nat}
    (h : fileProblem false root p size = none) : fileProblem true root p size = none := by
  unfold fileProblem at h ⊢
  rcases p with _ | ⟨device, p⟩
  · exact h
  dsimp only at h ⊢
  by_cases hroot : root = octetsOf "cert1"
  · rw [if_neg (not_not_intro hroot)] at h ⊢
    rcases p with _ | ⟨port, _ | ⟨file, _ | ⟨part, p⟩⟩⟩
    · dsimp only at h ⊢
      by_cases hvendor : device = octetsOf "vendor-data"
      · rwa [if_pos hvendor] at h ⊢
      rw [if_neg hvendor] at h ⊢
      by_cases hnotes : device = octetsOf "request-notes.txt"
      · rwa [if_pos hnotes] at h ⊢
      · rw [if_neg hnotes, if_neg (fun h => Bool.false_ne_true h.1)] at h
        cases h
    · dsimp only at h ⊢
      by_cases hissuer : device = octetsOf "issuer"
      · rw [if_pos hissuer] at h
        cases h
      · rwa [if_neg hissuer] at h ⊢
    · dsimp only at h ⊢
      split_ifs at h with hport hunknown hsize
      rw [if_pos hport, if_neg ?_, if_neg hsize]
      intro hnone
      exact hunknown ⟨hnone.1, hnone.2.1, rfl⟩
    · exact h
  · rw [if_pos hroot] at h
    cases h

/-- A file of a request that is called like a certificate signing request is one. -/
theorem isCsr_of_problemOf {path bytes file : Octets} (h : problemOf false path bytes = none)
    (hlast : (split path).getLast? = some file) (hstart : startsWith file (octetsOf "csr-") = true)
    (hending : endsWith file (octetsOf ".pem") = true) :
    ∃ device port name, IsCsr path device port name := by
  obtain ⟨name, rfl⟩ := exists_name (by decide) hstart hending
  unfold problemOf at h
  cases hsplit : split path with
  | nil =>
    rw [hsplit] at hlast
    cases hlast
  | cons root p =>
    rw [hsplit] at h hlast
    unfold fileProblem at h
    rcases p with _ | ⟨device, p⟩
    · cases h
    dsimp only at h
    by_cases hroot : root = octetsOf "cert1"
    · rw [if_neg (not_not_intro hroot)] at h
      rcases p with _ | ⟨port, _ | ⟨file, _ | ⟨part, p⟩⟩⟩
      · obtain rfl := Option.some.inj hlast
        have hne {text : Octets} (htext : startsWith text (octetsOf "csr-") = false) :
            octetsOf "csr-" ++ name ++ octetsOf ".pem" ≠ text := by
          intro heq
          rw [heq, htext] at hstart
          cases hstart
        dsimp only at h
        rw [if_neg (hne rfl), if_neg (hne rfl), if_neg (fun h => Bool.false_ne_true h.1)] at h
        cases h
      · dsimp only at h
        split_ifs at h with hissuer hresponse
        exact absurd rfl hresponse
      · obtain rfl := Option.some.inj hlast
        dsimp only at h
        split_ifs at h with hport hunknown hsize
        cases hname : fileName (octetsOf "csr-" ++ name ++ octetsOf ".pem") (octetsOf "csr-") with
        | some name' =>
          obtain ⟨heq, hvalid⟩ := (fileName_eq_some_iff (by decide)).1 hname
          refine ⟨device, port, name', ?_, hport.1, hport.2, hvalid⟩
          rw [hsplit, hroot, heq]
        | none =>
          -- a key has another beginning
          have hkey : fileName (octetsOf "csr-" ++ name ++ octetsOf ".pem") (octetsOf "key-") =
              none := by
            rw [Option.eq_none_iff_forall_ne_some]
            intro name' hkey
            obtain ⟨heq, -⟩ := (fileName_eq_some_iff (by decide)).1 hkey
            exact ne_of_start (by decide) (by decide) heq
          rw [hname, hkey] at hunknown
          exact absurd ⟨rfl, rfl, rfl⟩ hunknown
      · cases h
    · rw [if_pos hroot] at h
      cases h

/-! ## The answer -/

/-- Paths are as `ReadZip` and `AddFile` give them: safe, without a '/' at the end, and with the
folders above them. -/
structure Tree.Complete (tree : Tree) : Prop where
  safe : ∀ path, path ∈ tree.files ∨ path ∈ tree.folders → isSafeZipPath path = true
  last : ∀ path, path ∈ tree.files ∨ path ∈ tree.folders → path.getLast? ≠ some slash
  closed : tree.Closed

theorem Tree.Complete.safePath {tree : Tree} (h : tree.Complete) {path : Octets}
    (hpath : path ∈ tree.files ∨ path ∈ tree.folders) : SafePath path :=
  (isSafeZipPath_iff_of_last (h.last path hpath)).1 (h.safe path hpath)

def issuerPath : Octets := octetsOf "cert1/issuer/iss-1.pem"

/-- The certificates next to the requests of the list. -/
def Tree.addCertificates (certificate : CsrEntry → Octets) (tree : Tree)
    (entries : List CsrEntry) : Tree :=
  entries.foldl (fun tree entry => tree.addFile entry.oprPath (certificate entry)) tree

/-- The answer to the requests of a tree. -/
def Tree.answer (tree : Tree) (certificate : CsrEntry → Octets) (issuer : Octets) : Tree :=
  (tree.addCertificates certificate (listCsrs tree)).addFile issuerPath issuer

section
variable {tree : Tree} {certificate : CsrEntry → Octets} {entries : List CsrEntry}

theorem Tree.mem_addCertificates_files {path : Octets} :
    path ∈ (tree.addCertificates certificate entries).files ↔
      path ∈ tree.files ∨ ∃ entry ∈ entries, path = entry.oprPath := by
  induction entries generalizing tree with
  | nil => simp [addCertificates]
  | cons entry entries ih =>
    rw [addCertificates, List.foldl_cons]
    refine ih.trans ?_
    rw [addFile_files, mem_insert_files, List.exists_mem_cons_iff, or_comm (a := path = _),
      or_assoc]

theorem Tree.getElem?_addCertificates {path bytes : Octets}
    (h : (tree.addCertificates certificate entries).files[path]? = some bytes) :
    tree.files[path]? = some bytes ∨
      ∃ entry ∈ entries, path = entry.oprPath ∧ bytes = certificate entry := by
  induction entries generalizing tree with
  | nil => exact .inl h
  | cons entry entries ih =>
    rw [addCertificates, List.foldl_cons] at h
    rcases ih h with hfile | ⟨entry', hmem, hentry⟩
    · rw [addFile_files, Std.ExtTreeMap.getElem?_insert] at hfile
      split_ifs at hfile with hpath
      · exact .inr ⟨entry, List.mem_cons_self, (Std.LawfulEqCmp.compare_eq_iff_eq.1 hpath).symm,
          (Option.some.inj hfile).symm⟩
      · exact .inl hfile
    · exact .inr ⟨entry', List.mem_cons_of_mem _ hmem, hentry⟩

/-- The folders of the certificates are there. -/
theorem Tree.mem_addCertificates_folders
    (h : ∀ entry ∈ entries, SafePath entry.oprPath ∧
      ∀ folder, IsAncestor slash folder entry.oprPath → folder ∈ tree.folders) {folder : Octets} :
    folder ∈ (tree.addCertificates certificate entries).folders ↔ folder ∈ tree.folders := by
  induction entries generalizing tree with
  | nil => exact Iff.rfl
  | cons entry entries ih =>
    obtain ⟨⟨hsafe, hfolders⟩, hentries⟩ := List.forall_mem_cons.1 h
    have hadded {folder : Octets} :
        folder ∈ (tree.addFile entry.oprPath (certificate entry)).folders ↔
          folder ∈ tree.folders := by
      rw [mem_addFile_folders tree hsafe]
      exact or_iff_left_of_imp (hfolders folder)
    rw [addCertificates, List.foldl_cons]
    refine (ih ?_).trans hadded
    intro entry' hmem
    refine ⟨(hentries entry' hmem).1, ?_⟩
    intro folder hfolder
    exact hadded.2 ((hentries entry' hmem).2 folder hfolder)

end

theorem mem_listCsrs {tree : Tree} {entry : CsrEntry} :
    entry ∈ listCsrs tree ↔ ∃ path ∈ tree.files, csrEntry tree path = some entry := by
  rw [listCsrs, List.mem_filterMap]
  simp only [Std.ExtTreeMap.mem_keys]

/-- An entry comes from the path of a request. -/
theorem isCsr_of_mem {tree : Tree} {entry : CsrEntry} (h : entry ∈ listCsrs tree) :
    entry.csrPath ∈ tree.files ∧ csrEntry tree entry.csrPath = some entry ∧
      ∃ device port name, IsCsr entry.csrPath device port name ∧
        entry.oprPath = oprPathOf device port name := by
  obtain ⟨path, hpath, hentry⟩ := mem_listCsrs.1 h
  obtain ⟨device, port, name, hcsr⟩ := isCsr_of_csrEntry hentry
  obtain ⟨entry', hentry', hcsrPath, hoprPath, -⟩ := csrEntry_of_isCsr hcsr tree
  obtain rfl := Option.some.inj (hentry.symm.trans hentry')
  rw [hcsrPath]
  exact ⟨hpath, hentry, device, port, name, hcsr, hoprPath⟩

/-- The paths of the requests, in the order of the tree. -/
theorem map_csrPath (tree : Tree) : (listCsrs tree).map CsrEntry.csrPath =
    tree.files.keys.filter fun path => (csrEntry tree path).isSome := by
  rw [listCsrs, List.map_filterMap, ← List.filterMap_eq_filter]
  congr
  funext path
  cases hentry : csrEntry tree path with
  | none => simp [Option.guard, hentry]
  | some entry =>
    have hmem : entry.csrPath = path := by
      obtain ⟨device, port, name, hcsr⟩ := isCsr_of_csrEntry hentry
      obtain ⟨entry', hentry', hpath, -⟩ := csrEntry_of_isCsr hcsr tree
      obtain rfl := Option.some.inj (hentry.symm.trans hentry')
      exact hpath
    simp [Option.guard, hentry, hmem]

theorem nodup_keys (files : Std.ExtTreeMap Octets Octets) : files.keys.Nodup :=
  Std.ExtTreeMap.nodup_keys

theorem nodup_csrPath (tree : Tree) : ((listCsrs tree).map CsrEntry.csrPath).Nodup := by
  rw [map_csrPath]
  exact (nodup_keys tree.files).filter _

/-- Files that are no request make no difference to the list. -/
theorem filterMap_keys_eq {files files' : Std.ExtTreeMap Octets Octets}
    {f : Octets → Option CsrEntry}
    (h : ∀ path, (f path).isSome = true → (path ∈ files ↔ path ∈ files')) :
    files.keys.filterMap f = files'.keys.filterMap f := by
  have hfilter (files : Std.ExtTreeMap Octets Octets) :
      files.keys.filterMap f = (files.keys.filter fun path => (f path).isSome).filterMap f := by
    rw [List.filterMap_filter]
    congr
    funext path
    cases f path <;> rfl
  have hordered (files : Std.ExtTreeMap Octets Octets) :
      (files.keys.filter fun path => (f path).isSome).Pairwise fun a b => compare a b = .lt :=
    Std.ExtTreeMap.ordered_keys.filter _
  have hlists : files.keys.filter (fun path => (f path).isSome) =
      files'.keys.filter fun path => (f path).isSome := by
    refine List.Perm.eq_of_pairwise ?_ (hordered files) (hordered files') ?_
    · intro a b _ _ hab hba
      exact absurd hba (Std.OrientedCmp.not_lt_of_lt hab)
    · refine (List.perm_ext_iff_of_nodup ((nodup_keys files).filter _)
        ((nodup_keys files').filter _)).2 ?_
      intro path
      rw [List.mem_filter, List.mem_filter, Std.ExtTreeMap.mem_keys, Std.ExtTreeMap.mem_keys]
      exact and_congr_left (h path)
  rw [hfilter files, hfilter files', hlists]

section
variable {tree : Tree} (hcomplete : tree.Complete)
include hcomplete

/-- Requests that are answered at one path are one. -/
theorem oprPath_inj {entry entry' : CsrEntry} (h : entry ∈ listCsrs tree)
    (h' : entry' ∈ listCsrs tree) (heq : entry.oprPath = entry'.oprPath) : entry = entry' := by
  obtain ⟨hmem, hentry, device, port, name, hcsr, hopr⟩ := isCsr_of_mem h
  obtain ⟨hmem', hentry', device', port', name', hcsr', hopr'⟩ := isCsr_of_mem h'
  have hparts := congrArg split (hopr.symm.trans (heq.trans hopr'))
  rw [hcsr.split_oprPath, hcsr'.split_oprPath] at hparts
  simp only [List.cons.injEq, List.append_cancel_right_eq, List.append_cancel_left_eq, and_true,
    true_and] at hparts
  obtain ⟨rfl, rfl, rfl⟩ := hparts
  have hpath : entry.csrPath = entry'.csrPath := by
    rw [hcsr.path_eq (hcomplete.safePath (.inl hmem)),
      hcsr'.path_eq (hcomplete.safePath (.inl hmem'))]
  rw [hpath, hentry'] at hentry
  exact (Option.some.inj hentry).symm

theorem nodup_oprPath : ((listCsrs tree).map CsrEntry.oprPath).Nodup := by
  have hnodup : (listCsrs tree).Nodup := List.Nodup.of_map _ (nodup_csrPath tree)
  exact List.Nodup.map_on (fun entry h entry' h' => oprPath_inj hcomplete h h') hnodup

theorem opr_folders {entry : CsrEntry} (h : entry ∈ listCsrs tree) :
    SafePath entry.oprPath ∧
      ∀ folder, IsAncestor slash folder entry.oprPath → folder ∈ tree.folders := by
  obtain ⟨hmem, -, device, port, name, hcsr, hopr⟩ := isCsr_of_mem h
  have hsafe := hcomplete.safePath (.inl hmem)
  rw [hopr]
  refine ⟨hcsr.safe_oprPath hsafe, ?_⟩
  intro folder hfolder
  exact hcomplete.closed _ (.inl hmem) folder ((hcsr.isAncestor_oprPath hsafe).1 hfolder)

end

/-! ### What the answer holds -/

theorem safePath_issuerPath : SafePath issuerPath :=
  (isSafeZipPath_iff_of_last (by decide)).1 (by rfl)

theorem isAncestor_issuerPath {folder : Octets} :
    IsAncestor slash folder issuerPath ↔
      folder = octetsOf "cert1/issuer" ∨ folder = octetsOf "cert1" := by
  have hfile : issuerPath = octetsOf "cert1/issuer" ++ slash :: octetsOf "iss-1.pem" := rfl
  have hissuer : octetsOf "cert1/issuer" = octetsOf "cert1" ++ slash :: octetsOf "issuer" := rfl
  have hroot : ¬ IsAncestor slash folder (octetsOf "cert1") := by
    rintro ⟨rest, hrest⟩
    have hmem : slash ∈ octetsOf "cert1" := hrest ▸ List.mem_append_right _ List.mem_cons_self
    exact absurd hmem (by decide)
  rw [hfile, isAncestor_append (by decide), hissuer, isAncestor_append (by decide)]
  simp only [hroot, or_false]

section
variable {tree : Tree} {certificate : CsrEntry → Octets} {issuer : Octets}

theorem mem_answer_files {path : Octets} :
    path ∈ (tree.answer certificate issuer).files ↔
      path = issuerPath ∨ path ∈ tree.files ∨ ∃ entry ∈ listCsrs tree, path = entry.oprPath := by
  rw [Tree.answer, Tree.addFile_files, Tree.mem_insert_files, Tree.mem_addCertificates_files]

theorem mem_answer_folders (hcomplete : tree.Complete) {folder : Octets} :
    folder ∈ (tree.answer certificate issuer).folders ↔
      folder ∈ tree.folders ∨ folder = octetsOf "cert1/issuer" ∨ folder = octetsOf "cert1" := by
  rw [Tree.answer, Tree.mem_addFile_folders _ safePath_issuerPath,
    Tree.mem_addCertificates_folders fun entry h => opr_folders hcomplete h, isAncestor_issuerPath]

/-- The answer adds no file with these parts. -/
theorem mem_answer_files_iff {path root device port file : Octets}
    (hsplit : split path = [root, device, port, file])
    (hfile : ∀ name, file ≠ octetsOf "opr-" ++ name ++ octetsOf ".pem") :
    path ∈ (tree.answer certificate issuer).files ↔ path ∈ tree.files := by
  rw [mem_answer_files]
  constructor
  · rintro (rfl | hmem | ⟨entry, hentry, rfl⟩)
    · have hissuer : (split issuerPath).length = 3 := rfl
      rw [hsplit] at hissuer
      cases hissuer
    · exact hmem
    · obtain ⟨-, -, device', port', name, hcsr, hopr⟩ := isCsr_of_mem hentry
      rw [hopr, hcsr.split_oprPath] at hsplit
      simp only [List.cons.injEq, and_true] at hsplit
      exact absurd hsplit.2.2.2.symm (hfile name)
  · exact fun hmem => .inr (.inl hmem)

/-- The answer adds no folder inside a device's. -/
theorem mem_answer_folders_iff (hcomplete : tree.Complete) {folder : Octets}
    (hlength : 2 < (split folder).length) :
    folder ∈ (tree.answer certificate issuer).folders ↔ folder ∈ tree.folders := by
  rw [mem_answer_folders hcomplete]
  refine or_iff_left ?_
  rintro (rfl | rfl)
  · exact absurd hlength (by decide)
  · exact absurd hlength (by decide)

end

/-- What an entry tells of the tree beside its path. -/
theorem csrEntry_congr {tree tree' : Tree} {path : Octets}
    (h : ∀ device port name, IsCsr path device port name →
      tree'.has (portFolderPath device port ++ octetsOf "/key-" ++ name ++ octetsOf ".pem") =
          tree.has (portFolderPath device port ++ octetsOf "/key-" ++ name ++ octetsOf ".pem") ∧
        tree'.folders.contains (portFolderPath device port ++ octetsOf "/hub") =
          tree.folders.contains (portFolderPath device port ++ octetsOf "/hub") ∧
        tree'.folders.contains (octetsOf "cert1/" ++ device ++ octetsOf "/router") =
          tree.folders.contains (octetsOf "cert1/" ++ device ++ octetsOf "/router")) :
    csrEntry tree' path = csrEntry tree path := by
  by_cases hcsr : ∃ device port name, IsCsr path device port name
  · obtain ⟨device, port, name, hcsr⟩ := hcsr
    obtain ⟨hkey, hhub, hrouter⟩ := h device port name hcsr
    obtain ⟨instance', hinstance⟩ := Option.isSome_iff_exists.1 hcsr.device
    have hname : fileName (octetsOf "csr-" ++ name ++ octetsOf ".pem") (octetsOf "csr-") =
        some name := (fileName_eq_some_iff (by decide)).2 ⟨rfl, hcsr.name⟩
    unfold csrEntry
    rw [hcsr.split_eq]
    dsimp only
    rw [if_neg (not_not_intro rfl), if_neg (not_not_intro rfl), hinstance, hname]
    dsimp only
    rw [if_pos hcsr.port, if_pos hcsr.port]
    rw [portFolderPath] at hkey hhub
    rw [hkey, hhub, hrouter]
  · have hnone (tree : Tree) : csrEntry tree path = none := by
      rw [← Option.not_isSome_iff_eq_none, csrEntry_isSome_iff]
      exact hcsr
    rw [hnone tree, hnone tree']

theorem listCsrs_answer {tree : Tree} (hcomplete : tree.Complete) (certificate : CsrEntry → Octets)
    (issuer : Octets) : listCsrs (tree.answer certificate issuer) = listCsrs tree := by
  have hentry : csrEntry (tree.answer certificate issuer) = csrEntry tree := by
    funext path
    apply csrEntry_congr
    intro device port name hcsr
    have hfile {file : Octets} (hslash : slash ∉ file) (hne : file ≠ []) :=
      split_below_portFolder hcsr.slash_device hcsr.slash_port hslash hne
    refine ⟨?_, ?_, ?_⟩
    · have hkey : octetsOf "/key-" = slash :: octetsOf "key-" := rfl
      have hsplit := hfile (slash_not_mem_pem (by decide : slash ∉ octetsOf "key-") hcsr.name)
        (List.append_ne_nil_of_right_ne_nil _ (by decide))
      rw [Tree.has, Tree.has, Bool.eq_iff_iff, Std.ExtTreeMap.contains_iff_mem,
        Std.ExtTreeMap.contains_iff_mem, hkey]
      simp only [List.append_assoc, List.cons_append] at hsplit ⊢
      apply mem_answer_files_iff hsplit
      intro name'
      rw [← List.append_assoc]
      exact ne_of_start (by decide) (by decide)
    · have hhub : octetsOf "/hub" = slash :: octetsOf "hub" := rfl
      have hsplit := hfile (by decide : slash ∉ octetsOf "hub") (by decide)
      rw [Bool.eq_iff_iff, Std.ExtTreeSet.contains_iff_mem, Std.ExtTreeSet.contains_iff_mem, hhub]
      apply mem_answer_folders_iff hcomplete
      rw [hsplit]
      exact (by decide : 2 < 4)
    · have hrouter : octetsOf "cert1/" ++ device ++ octetsOf "/router" =
          portFolderPath device (octetsOf "router") := by
        have hslash : octetsOf "/router" = octetsOf "/" ++ octetsOf "router" := rfl
        rw [portFolderPath, hslash, List.append_assoc _ (octetsOf "/")]
      have hsplit := split_portFolderPath hcsr.slash_device (by decide : slash ∉ octetsOf "router")
        (by decide)
      rw [Bool.eq_iff_iff, Std.ExtTreeSet.contains_iff_mem, Std.ExtTreeSet.contains_iff_mem,
        hrouter]
      apply mem_answer_folders_iff hcomplete
      rw [hsplit]
      exact (by decide : 2 < 3)
  rw [listCsrs, hentry]
  apply filterMap_keys_eq
  intro path hsome
  obtain ⟨device, port, name, hcsr⟩ := csrEntry_isSome_iff.1 hsome
  apply mem_answer_files_iff hcsr.split_eq
  intro name'
  exact ne_of_start (by decide) (by decide)

/-! ### What the answer keeps -/

theorem verdictOf_response {folder : Octets} (h : (verdictOf false folder).problem? = none) :
    verdictOf true folder = verdictOf false folder := by
  unfold verdictOf at h ⊢
  cases hsplit : split folder with
  | nil => rfl
  | cons root p =>
    rw [hsplit] at h
    exact folderVerdict_response h

theorem problemOf_response {path bytes : Octets} (h : problemOf false path bytes = none) :
    problemOf true path bytes = none := by
  unfold problemOf at h ⊢
  cases hsplit : split path with
  | nil => rfl
  | cons root p =>
    rw [hsplit] at h
    exact fileProblem_response h

theorem IsCsr.problemOf_oprPath {path device port name bytes : Octets}
    (h : IsCsr path device port name) (hsize : bytes.length ≤ maxPem) :
    problemOf true (oprPathOf device port name) bytes = none := by
  have hopr : fileName (octetsOf "opr-" ++ name ++ octetsOf ".pem") (octetsOf "opr-") = some name :=
    (fileName_eq_some_iff (by decide)).2 ⟨rfl, h.name⟩
  unfold problemOf
  rw [h.split_oprPath]
  unfold fileProblem
  dsimp only
  rw [if_neg (not_not_intro rfl), if_pos ⟨h.device, h.port⟩, if_neg ?_,
    if_neg (Nat.not_lt.2 hsize)]
  rintro ⟨-, -, hunknown⟩
  rw [hopr] at hunknown
  cases hunknown

theorem accepted_answer {tree : Tree} (hcomplete : tree.Complete) (h : Accepted tree false)
    {certificate : CsrEntry → Octets}
    (hsize : ∀ entry ∈ listCsrs tree, (certificate entry).length ≤ maxPem) (issuer : Octets) :
    Accepted (tree.answer certificate issuer) true where
  folders folder hfolder := by
    rcases (mem_answer_folders hcomplete).1 hfolder with hfolder | rfl | rfl
    · rw [verdictOf_response (h.folders folder hfolder)]
      exact h.folders folder hfolder
    · rfl
    · rfl
  files path bytes hfile := by
    rw [Tree.answer, Tree.addFile_files, Std.ExtTreeMap.getElem?_insert] at hfile
    split_ifs at hfile with hissuer
    · obtain rfl := Std.LawfulEqCmp.compare_eq_iff_eq.1 hissuer
      rfl
    · rcases Tree.getElem?_addCertificates hfile with hfile | ⟨entry, hentry, rfl, rfl⟩
      · exact problemOf_response (h.files path bytes hfile)
      · obtain ⟨-, -, device, port, name, hcsr, hopr⟩ := isCsr_of_mem hentry
        rw [hopr]
        exact hcsr.problemOf_oprPath (hsize entry hentry)
  device := by
    obtain ⟨folder, hfolder, hdevice⟩ := h.device
    refine ⟨folder, (mem_answer_folders hcomplete).2 (.inl hfolder), ?_⟩
    rw [verdictOf_response (h.folders folder hfolder), hdevice]
  ports folder hfolder device hdevice := by
    rcases (mem_answer_folders hcomplete).1 hfolder with hfolder | rfl | rfl
    · obtain ⟨port, hport, hverdict⟩ := h.ports folder hfolder device hdevice
      refine ⟨port, (mem_answer_folders hcomplete).2 (.inl hport), ?_⟩
      rw [verdictOf_response (h.folders port hport), hverdict]
    · have hissuer : deviceFolder (octetsOf "cert1/issuer") = none := rfl
      rw [hissuer] at hdevice
      cases hdevice
    · have hroot : deviceFolder (octetsOf "cert1") = none := rfl
      rw [hroot] at hdevice
      cases hdevice

/-- The path of a file `csr-*.pem`. -/
def isCsrFile (path : Octets) : Bool :=
  (split path).getLast?.any fun file =>
    startsWith file (octetsOf "csr-") && endsWith file (octetsOf ".pem")

theorem IsCsr.isCsrFile {path device port name : Octets} (h : IsCsr path device port name) :
    isCsrFile path = true := by
  have hstart : startsWith (octetsOf "csr-" ++ name ++ octetsOf ".pem") (octetsOf "csr-") = true :=
    startsWith_iff.2 ⟨name ++ octetsOf ".pem", List.append_assoc _ _ _⟩
  have hending : endsWith (octetsOf "csr-" ++ name ++ octetsOf ".pem") (octetsOf ".pem") = true :=
    endsWith_iff.2 ⟨octetsOf "csr-" ++ name, rfl⟩
  unfold Cari.isCsrFile
  rw [h.split_eq]
  simp only [List.getLast?_cons_cons, List.getLast?_singleton, Option.any_some, hstart, hending,
    Bool.and_self]

theorem mem_map_csrPath {tree : Tree} (h : Accepted tree false) {path : Octets} :
    path ∈ (listCsrs tree).map CsrEntry.csrPath ↔ path ∈ tree.files ∧ isCsrFile path = true := by
  rw [map_csrPath, List.mem_filter, Std.ExtTreeMap.mem_keys]
  refine and_congr_right ?_
  intro hmem
  rw [csrEntry_isSome_iff]
  constructor
  · rintro ⟨device, port, name, hcsr⟩
    exact hcsr.isCsrFile
  · intro hfile
    obtain ⟨bytes, hbytes⟩ :=
      Option.isSome_iff_exists.1 (Std.ExtTreeMap.mem_iff_isSome_getElem?.1 hmem)
    unfold isCsrFile at hfile
    rw [Option.any_eq_true] at hfile
    obtain ⟨file, hlast, hname⟩ := hfile
    rw [Bool.and_eq_true] at hname
    exact isCsr_of_problemOf (h.files path bytes hbytes) hlast hname.1 hname.2

/-- **Every request that is accepted can be answered.** -/
theorem request_answered {tree : Tree} (hcomplete : tree.Complete)
    (h : validate tree false = .ok []) {certificate : CsrEntry → Octets}
    (hsize : ∀ entry ∈ listCsrs tree, (certificate entry).length ≤ maxPem) (issuer : Octets) :
    validate (tree.answer certificate issuer) true = .ok [] ∧
      ((listCsrs tree).map CsrEntry.oprPath).Nodup ∧
      ((listCsrs tree).map CsrEntry.csrPath).Nodup ∧
      (∀ path, path ∈ (listCsrs tree).map CsrEntry.csrPath ↔
        path ∈ tree.files ∧ isCsrFile path = true) ∧
      listCsrs (tree.answer certificate issuer) = listCsrs tree := by
  have haccepted : Accepted tree false :=
    (validate_eq_nil_iff false fun path hpath => (hcomplete.safePath hpath).ne_nil).1 h
  refine ⟨?_, nodup_oprPath hcomplete, nodup_csrPath tree,
    fun path => mem_map_csrPath haccepted, listCsrs_answer hcomplete certificate issuer⟩
  refine (validate_eq_nil_iff true ?_).2 (accepted_answer hcomplete haccepted hsize issuer)
  rintro path (hpath | hpath)
  · rcases mem_answer_files.1 hpath with rfl | hpath | ⟨entry, hentry, rfl⟩
    · exact safePath_issuerPath.ne_nil
    · exact (hcomplete.safePath (.inl hpath)).ne_nil
    · exact (opr_folders hcomplete hentry).1.ne_nil
  · rcases (mem_answer_folders hcomplete).1 hpath with hpath | rfl | rfl
    · exact (hcomplete.safePath (.inr hpath)).ne_nil
    · decide
    · decide

theorem complete_empty : Tree.empty.Complete where
  safe := by
    rintro path (h | h)
    · exact absurd h Std.ExtTreeMap.not_mem_empty
    · exact absurd h Std.ExtTreeSet.not_mem_empty
  last := by
    rintro path (h | h)
    · exact absurd h Std.ExtTreeMap.not_mem_empty
    · exact absurd h Std.ExtTreeSet.not_mem_empty
  closed := Tree.closed_empty

theorem Tree.Complete.addFile {tree : Tree} (h : tree.Complete) {path : Octets}
    (hpath : SafePath path) (bytes : Octets) : (tree.addFile path bytes).Complete := by
  have hsafe : ∀ added, added ∈ (tree.addFile path bytes).files ∨
      added ∈ (tree.addFile path bytes).folders → SafePath added := by
    intro added hadded
    rw [addFile_files, mem_insert_files, mem_addFile_folders tree hpath] at hadded
    rcases hadded with (rfl | hadded) | hadded | hadded
    · exact hpath
    · exact h.safePath (.inl hadded)
    · exact h.safePath (.inr hadded)
    · exact hpath.of_isAncestor hadded
  refine ⟨fun added hadded => ?_, fun added hadded => (hsafe added hadded).getLast?_ne,
    h.closed.addFile hpath bytes⟩
  exact (isSafeZipPath_iff_of_last (hsafe added hadded).getLast?_ne).2 (hsafe added hadded)

/-- The device's own request, and the one of another device. -/
def twoRequests : Tree :=
  (requestTreeOf 389005 (octetsOf "request")).addFile (requestPath 389006)
    (octetsOf "second request")

theorem complete_twoRequests : twoRequests.Complete :=
  ((complete_empty.addFile safePath_requestPath _).addFile safePath_notesPath _).addFile
    safePath_requestPath _

/-- Each of the two requests has an answer of its own. -/
theorem request_answered_two :
    validate (twoRequests.answer (fun entry => entry.deviceFolder) (octetsOf "issuer")) true =
        .ok [] ∧
      ((listCsrs twoRequests).map CsrEntry.oprPath).Nodup ∧
      ((listCsrs twoRequests).map CsrEntry.csrPath).Nodup ∧
      (∀ path, path ∈ (listCsrs twoRequests).map CsrEntry.csrPath ↔
        path ∈ twoRequests.files ∧ isCsrFile path = true) ∧
      listCsrs (twoRequests.answer (fun entry => entry.deviceFolder) (octetsOf "issuer")) =
        listCsrs twoRequests ∧
      (listCsrs twoRequests).length = 2 := by
  have hsize : ∀ entry ∈ listCsrs twoRequests, entry.deviceFolder.length ≤ maxPem := by
    decide +kernel
  obtain ⟨hvalid, hopr, hcsr, hall, hsame⟩ := request_answered complete_twoRequests
    (by decide +kernel) hsize (octetsOf "issuer")
  exact ⟨hvalid, hopr, hcsr, hall, hsame, by decide +kernel⟩

end BacnetBc.Cari
