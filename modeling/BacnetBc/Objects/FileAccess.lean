import BacnetBc.Cert.Staging
import BacnetBc.Lib.Chunks
import BacnetBc.Objects.Restart

/-!
# Reading the File objects

A File object is served from memory (File 1) or by the certificate store (`ReadCertificateFile`),
and the two compute counts, the end of the file and `File_Size` on their own, in 32 bits.

**Theorem (`files_read_whole`).** Both read like a string (`stringRead`), as long as its length fits
into 32 bits: chunks of any positive sizes give the whole contents, `*endOfFile` says exactly when
they are complete, and `File_Size` is their length. No read copies an octet that is not of the
contents, however long these are.

**The limit.** A certificate file of 2^32 octets is served as one without octets
(`oversized_file_size`), and no read of it is ever told that it is complete.
-/

namespace BacnetBc

open FaultyDisk Memory

namespace Store

variable {L : Layout}

/-- The size that `Stat` gives is that of the contents that `Read` gives. -/
theorem stat_eq_read (s : Store L) (d : CertDisk) (i : Nat) :
    (s.stat d i).map Prod.fst = (s.read d i).map List.length := by
  induction i using (measure L.rank).wf.induction with
  | _ i ih =>
    cases hi : s.staged[i]? with
    | some copy =>
      rw [stat, read, hi]
      rfl
    | none =>
      rw [stat_of_not_staged hi, read_of_not_staged hi]
      cases hf : s.fallbackInstance d i with
      | some j => exact ih j (rank_lt_of_fallbackInstance hf)
      | none =>
        dsimp only
        split
        · rfl
        · rw [readDisk, Option.map_map, Option.map_map]
          rfl

end Store

namespace Application

variable {L : Layout}

/-! ## ReadFile -/

/-- Property `File_Size` of a File object. -/
def fileSizeReference (app : Application L) (fileInstance : UInt32) : PropertyReference where
  deviceInstance := app.options.deviceInstance
  objectType := objectTypeFile
  objectInstance := fileInstance
  propertyIdentifier := propertyIdentifierFileSize
  useArrayIndex := false
  propertyArrayIndex := 0

/-- `ReadCertificateFile`. -/
def readCertificateFile (app : Application L) (d : CertDisk)
    (fileInstance fileStart requestedCount maxFileDataLength : UInt32) :
    Access (Option FileRead) :=
  if !isCertificateFile fileInstance then .ok none
  else
    match app.store.read d fileInstance.toNat with
    | none => .ok none
    | some bytes =>
      if bytes.length < fileStart.toNat then .ok none
      else do
        let count := UInt32.ofNat bytes.length - fileStart
        let count := if count > requestedCount then requestedCount else count
        let count := if count > maxFileDataLength then maxFileDataLength else count
        let fileData ← slice bytes fileStart.toNat count.toNat
        return some ⟨fileData, bytes.length ≤ (fileStart + count).toNat⟩

/-- `ReadFile`. -/
def readFile (app : Application L) (d : CertDisk) (deviceInstance fileInstance fileStart
    requestedCount maxFileDataLength : UInt32) : Access (Option FileRead) :=
  if deviceInstance = app.options.deviceInstance ∧
      app.isScCertificateFile (app.fileSizeReference fileInstance) = true then
    app.readCertificateFile d fileInstance fileStart requestedCount maxFileDataLength
  else if deviceInstance ≠ app.options.deviceInstance ∨ fileInstance ≠ objectInstance1 then .ok none
  else do
    return some (← BacnetBc.readFile app.file fileStart requestedCount maxFileDataLength)

/-- The contents of a File object, if it has any: of a certificate file what the store serves. -/
def fileContent (app : Application L) (d : CertDisk) (fileInstance : UInt32) : Option Octets :=
  if app.isScCertificateFile (app.fileSizeReference fileInstance) = true then
    app.store.read d fileInstance.toNat
  else if fileInstance = objectInstance1 then some app.file.content
  else none

/-- What a certificate file holds behind a position inside it, in the 32 bits of the count. -/
theorem toNat_available {length : Nat} {fileStart : UInt32} (h : fileStart.toNat ≤ length) :
    (UInt32.ofNat length - fileStart).toNat ≤ length - fileStart.toNat ∧
      (length < 2 ^ 32 → (UInt32.ofNat length - fileStart).toNat = length - fileStart.toNat) := by
  have hstart := fileStart.toNat_lt
  rw [UInt32.toNat_sub, UInt32.toNat_ofNat']
  constructor <;> omega

section

variable {app : Application L} {d : CertDisk} {fileInstance : UInt32} {bytes : Octets}
  {fileStart : UInt32}

theorem readCertificateFile_behind (hfile : isCertificateFile fileInstance = true)
    (hread : app.store.read d fileInstance.toNat = some bytes)
    (hstart : bytes.length < fileStart.toNat) (requestedCount maxFileDataLength : UInt32) :
    app.readCertificateFile d fileInstance fileStart requestedCount maxFileDataLength =
      .ok none := by
  unfold readCertificateFile
  rw [hfile, hread]
  simp only [Bool.not_true, Bool.false_eq_true, if_false, if_pos hstart]

/-- A read of a certificate file copies octets of its contents. -/
theorem readCertificateFile_inside (hfile : isCertificateFile fileInstance = true)
    (hread : app.store.read d fileInstance.toNat = some bytes)
    (hstart : fileStart.toNat ≤ bytes.length) (requestedCount maxFileDataLength : UInt32) :
    ∃ count : UInt32, count.toNat = min (UInt32.ofNat bytes.length - fileStart).toNat
        (min requestedCount.toNat maxFileDataLength.toNat) ∧
      app.readCertificateFile d fileInstance fileStart requestedCount maxFileDataLength =
        .ok (some ⟨(bytes.drop fileStart.toNat).take count.toNat,
          bytes.length ≤ (fileStart + count).toNat⟩) := by
  obtain ⟨hle, -⟩ := toNat_available hstart
  have hcount := toNat_ite_lt
    (if UInt32.ofNat bytes.length - fileStart > requestedCount then requestedCount
      else UInt32.ofNat bytes.length - fileStart) maxFileDataLength
  rw [toNat_ite_lt (UInt32.ofNat bytes.length - fileStart) requestedCount, min_assoc] at hcount
  refine ⟨_, hcount, ?_⟩
  unfold readCertificateFile
  rw [hfile, hread]
  simp only [Bool.not_true, Bool.false_eq_true, if_false, if_neg (Nat.not_lt.2 hstart)]
  rw [slice_of_le (by rw [hcount]; omega)]
  rfl

/-- **A certificate file reads like a string**, if its length fits into 32 bits. -/
theorem readCertificateFile_eq (hfile : isCertificateFile fileInstance = true)
    (hread : app.store.read d fileInstance.toNat = some bytes) (hlt : bytes.length < 2 ^ 32)
    (hstart : fileStart.toNat ≤ bytes.length) (requestedCount maxFileDataLength : UInt32) :
    app.readCertificateFile d fileInstance fileStart requestedCount maxFileDataLength =
      .ok (some (stringRead bytes fileStart.toNat
        (min requestedCount.toNat maxFileDataLength.toNat))) := by
  obtain ⟨count, hcount, heq⟩ :=
    readCertificateFile_inside hfile hread hstart requestedCount maxFileDataLength
  rw [(toNat_available hstart).2 hlt] at hcount
  have hsum : (fileStart + count).toNat = fileStart.toNat + count.toNat := by
    rw [UInt32.toNat_add, Nat.mod_eq_of_lt (by omega)]
  have hend : bytes.length ≤ (fileStart + count).toNat ↔ bytes.length ≤
      fileStart.toNat + min requestedCount.toNat maxFileDataLength.toNat := by
    rw [hsum, hcount]
    omega
  have hdata : (bytes.drop fileStart.toNat).take count.toNat =
      (bytes.drop fileStart.toNat).take (min requestedCount.toNat maxFileDataLength.toNat) := by
    rw [hcount, ← List.length_drop, List.take_eq_take_iff]
    omega
  rw [heq, stringRead, hdata]
  simp only [hend]

end

/-! ## Every File object -/

section

variable {app : Application L} {d : CertDisk} {fileInstance : UInt32} {content : Octets}

theorem isCertificateFile_of_isScCertificateFile
    (h : app.isScCertificateFile (app.fileSizeReference fileInstance) = true) :
    isCertificateFile fileInstance = true := by
  simp only [isScCertificateFile, decide_eq_true_eq] at h
  exact h.2.2

/-- **A File object reads like a string.** -/
theorem readFile_eq_stringRead (h : app.fileContent d fileInstance = some content)
    (hlt : content.length < 2 ^ 32) (fileStart : UInt32) (hstart : fileStart.toNat ≤ content.length)
    (requestedCount maxFileDataLength : UInt32) :
    app.readFile d app.options.deviceInstance fileInstance fileStart requestedCount
        maxFileDataLength =
      .ok (some (stringRead content fileStart.toNat
        (min requestedCount.toNat maxFileDataLength.toNat))) := by
  unfold fileContent at h
  unfold readFile
  by_cases hsc : app.isScCertificateFile (app.fileSizeReference fileInstance) = true
  · rw [if_pos hsc] at h
    rw [if_pos ⟨rfl, hsc⟩]
    exact readCertificateFile_eq (isCertificateFile_of_isScCertificateFile hsc) h hlt hstart _ _
  · rw [if_neg hsc] at h
    rw [if_neg fun hc => hsc hc.2]
    by_cases hone : fileInstance = objectInstance1
    · rw [if_pos hone] at h
      obtain rfl := Option.some.inj h
      rw [if_neg (by simp [hone]), readFile_eq]
      rfl
    · rw [if_neg hone] at h
      cases h

/-- A read at any position copies octets of the contents, from that position on. -/
theorem readFile_inside (app : Application L) (d : CertDisk) (deviceInstance fileInstance fileStart
    requestedCount maxFileDataLength : UInt32) :
    ∃ answer, app.readFile d deviceInstance fileInstance fileStart requestedCount
        maxFileDataLength = .ok answer ∧
      ∀ chunk ∈ answer, ∃ content count, app.fileContent d fileInstance = some content ∧
        count ≤ min requestedCount.toNat maxFileDataLength.toNat ∧
          chunk.fileData = (content.drop fileStart.toNat).take count := by
  unfold readFile fileContent
  by_cases hsc : app.isScCertificateFile (app.fileSizeReference fileInstance) = true
  · rw [if_pos hsc]
    by_cases hdevice : deviceInstance = app.options.deviceInstance
    · rw [if_pos ⟨hdevice, hsc⟩]
      have hfile := isCertificateFile_of_isScCertificateFile hsc
      cases hread : app.store.read d fileInstance.toNat with
      | none =>
        refine ⟨none, ?_, by simp⟩
        rw [readCertificateFile, hfile, hread]
        rfl
      | some bytes =>
        by_cases hstart : fileStart.toNat ≤ bytes.length
        · obtain ⟨count, hcount, heq⟩ :=
            readCertificateFile_inside hfile hread hstart requestedCount maxFileDataLength
          refine ⟨_, heq, ?_⟩
          intro chunk hchunk
          obtain rfl := Option.some.inj hchunk
          exact ⟨bytes, count.toNat, rfl, by rw [hcount]; exact min_le_right _ _, rfl⟩
        · refine ⟨none, ?_, by simp⟩
          exact readCertificateFile_behind hfile hread (Nat.not_le.1 hstart) _ _
    · rw [if_neg fun hc => hdevice hc.1, if_pos (Or.inl hdevice)]
      exact ⟨none, rfl, by simp⟩
  · rw [if_neg hsc, if_neg fun hc => hsc hc.2]
    by_cases hother : deviceInstance ≠ app.options.deviceInstance ∨ fileInstance ≠ objectInstance1
    · rw [if_pos hother]
      exact ⟨none, rfl, by simp⟩
    · have hone : fileInstance = objectInstance1 := by
        by_contra hne
        exact hother (Or.inr hne)
      rw [if_neg hother, if_pos hone, readFile_eq]
      refine ⟨_, rfl, ?_⟩
      intro chunk hchunk
      obtain rfl := Option.some.inj hchunk
      exact ⟨app.file.content, _, rfl, le_refl _, rfl⟩

/-- `File_Size` is the length of the contents, in 32 bits. -/
theorem getPropertyUnsignedInteger_of_fileContent
    (h : app.fileContent d fileInstance = some content) :
    app.getPropertyUnsignedInteger d (app.fileSizeReference fileInstance) =
      .value (UInt32.ofNat content.length) := by
  unfold fileContent at h
  by_cases hsc : app.isScCertificateFile (app.fileSizeReference fileInstance) = true
  · rw [if_pos hsc] at h
    have hport : objectTypeFile ≠ objectTypeNetworkPort := by decide
    have hdevice : objectTypeFile ≠ objectTypeDevice := by decide
    have hlink := app.getDataLinkPortUnsigned_of_ne (p := app.fileSizeReference fileInstance) hport
    rw [if_neg fun hc => hdevice hc.2.1] at hlink
    have hstat := app.store.stat_eq_read d fileInstance.toNat
    rw [h, Option.map_some, Option.map_eq_some_iff] at hstat
    obtain ⟨found, hfound, hlength⟩ := hstat
    have hsize : app.getCertificateFileSize d (app.fileSizeReference fileInstance).objectInstance =
        some (UInt32.ofNat content.length) := by
      show app.getCertificateFileSize d fileInstance = _
      rw [getCertificateFileSize, if_pos (isCertificateFile_of_isScCertificateFile hsc), hfound,
        Option.map_some, hlength]
    unfold getPropertyUnsignedInteger
    rw [if_neg (by simp [fileSizeReference]), hlink]
    simp only
    rw [if_pos ⟨hsc, rfl⟩, hsize]
  · rw [if_neg hsc] at h
    by_cases hone : fileInstance = objectInstance1
    · rw [if_pos hone] at h
      obtain rfl := Option.some.inj h
      rw [hone]
      have hsize := app.getPropertyUnsignedInteger_fileSize d
      rw [IvoryFile.length_content, UInt32.ofNat_toNat]
      exact hsize
    · rw [if_neg hone] at h
      cases h

/-! ## Reading a file in chunks -/

/-- The first `n` chunks of a read of the file from its beginning, each one from where the one
before it ended, and where the next one begins. -/
def readChunks (app : Application L) (d : CertDisk) (fileInstance : UInt32)
    (sizes : Nat → ChunkSize) : Nat → Access (Option (List FileRead × UInt32))
  | 0 => .ok (some ([], 0))
  | n + 1 => do
    match ← readChunks app d fileInstance sizes n with
    | none => return none
    | some (chunks, position) =>
      match ← app.readFile d app.options.deviceInstance fileInstance position
        (sizes n).requestedCount (sizes n).maxFileDataLength with
      | none => return none
      | some chunk =>
        return some (chunks ++ [chunk], position + UInt32.ofNat chunk.fileData.length)

/-- The reads of `chunks` give the contents: `*endOfFile` is set on a chunk exactly if the contents
are complete with it, and they are complete after as many chunks as there are octets. -/
structure ReadsWhole (content : Octets) (chunks : List FileRead) : Prop where
  endOfFile : ∀ k chunk, chunks[k]? = some chunk →
    (chunk.endOfFile = true ↔ (chunks.take (k + 1)).flatMap FileRead.fileData = content)
  complete : content.length ≤ chunks.length → chunks.flatMap FileRead.fileData = content

/-- Chunk `k` of a string, read with these sizes. -/
def stringChunk (content : Octets) (sizes : Nat → ChunkSize) (k : Nat) : FileRead :=
  stringRead content (Chunks.position content.length (fun k => (sizes k).count) k) (sizes k).count

theorem readChunks_eq (h : app.fileContent d fileInstance = some content)
    (hlt : content.length < 2 ^ 32) (sizes : Nat → ChunkSize) (n : Nat) :
    app.readChunks d fileInstance sizes n =
      .ok (some ((List.range n).map (stringChunk content sizes),
      UInt32.ofNat (Chunks.position content.length (fun k => (sizes k).count) n))) := by
  induction n with
  | zero => rfl
  | succ n ih =>
    have hle := Chunks.position_le content.length (fun k => (sizes k).count) n
    have hstart : (UInt32.ofNat
        (Chunks.position content.length (fun k => (sizes k).count) n)).toNat =
        Chunks.position content.length (fun k => (sizes k).count) n :=
      UInt32.toNat_ofNat_of_lt' (lt_of_le_of_lt hle hlt)
    have hread := readFile_eq_stringRead h hlt (UInt32.ofNat
      (Chunks.position content.length (fun k => (sizes k).count) n)) (by omega)
      (sizes n).requestedCount (sizes n).maxFileDataLength
    rw [hstart] at hread
    rw [readChunks, ih, ok_bind]
    dsimp only
    rw [hread, ok_bind]
    dsimp only
    rw [List.range_succ, List.map_append, Chunks.position_succ, UInt32.ofNat_add]
    rfl

theorem flatMap_stringChunk (content : Octets) (sizes : Nat → ChunkSize) (n : Nat) :
    ((List.range n).map (stringChunk content sizes)).flatMap FileRead.fileData =
      content.take (Chunks.position content.length (fun k => (sizes k).count) n) := by
  induction n with
  | zero => rfl
  | succ n ih =>
    rw [List.range_succ, List.map_append, List.flatMap_append, ih, ← Chunks.take_position_succ]
    simp only [List.map_cons, List.map_nil, List.flatMap_cons, List.flatMap_nil, List.append_nil]
    rfl

theorem readsWhole_stringChunk (content : Octets) {sizes : Nat → ChunkSize}
    (hpos : ∀ k, 0 < (sizes k).count) (n : Nat) :
    ReadsWhole content ((List.range n).map (stringChunk content sizes)) := by
  constructor
  · intro k chunk hk
    rw [List.getElem?_map, Option.map_eq_some_iff] at hk
    obtain ⟨k', hk', rfl⟩ := hk
    obtain ⟨hlt, rfl⟩ := List.getElem?_eq_some_iff.1 hk'
    rw [List.length_range] at hlt
    rw [← List.map_take, List.take_range, min_eq_left (by omega), flatMap_stringChunk,
      List.getElem_range]
    have hle := Chunks.position_le content.length (fun k => (sizes k).count) k
    have hnext : Chunks.position content.length (fun k => (sizes k).count) (k + 1) =
        min content.length
          (Chunks.position content.length (fun k => (sizes k).count) k + (sizes k).count) := rfl
    rw [hnext, stringChunk, stringRead, decide_eq_true_eq]
    constructor
    · intro hend
      rw [min_eq_left hend, List.take_length]
    · intro hall
      have hlength := congrArg List.length hall
      rw [List.length_take] at hlength
      omega
  · intro hn
    rw [List.length_map, List.length_range] at hn
    rw [flatMap_stringChunk, Chunks.position_of_length_le hpos hn, List.take_length]

end

/-- **Every File object is read whole**, and no read leaves its contents. -/
theorem files_read_whole {app : Application L} {d : CertDisk} {fileInstance : UInt32}
    {content : Octets} (h : app.fileContent d fileInstance = some content) :
    (content.length < 2 ^ 32 →
      (∀ sizes : Nat → ChunkSize,
        (∀ k, 0 < (sizes k).requestedCount ∧ 0 < (sizes k).maxFileDataLength) →
        ∀ n, ∃ chunks next, app.readChunks d fileInstance sizes n = .ok (some (chunks, next)) ∧
          chunks.length = n ∧ ReadsWhole content chunks) ∧
      ∃ size, app.getPropertyUnsignedInteger d (app.fileSizeReference fileInstance) =
        .value size ∧ size.toNat = content.length) ∧
    (∀ fileStart requestedCount maxFileDataLength, ∃ answer,
      app.readFile d app.options.deviceInstance fileInstance fileStart requestedCount
        maxFileDataLength = .ok answer ∧
      ∀ chunk ∈ answer, ∃ count, chunk.fileData = (content.drop fileStart.toNat).take count) := by
  constructor
  · intro hlt
    constructor
    · intro sizes hpos n
      have hcount (k : Nat) : 0 < (sizes k).count := by
        obtain ⟨hrequested, hmax⟩ := hpos k
        rw [UInt32.lt_iff_toNat_lt] at hrequested hmax
        exact lt_min hrequested hmax
      refine ⟨_, _, readChunks_eq h hlt sizes n, ?_, readsWhole_stringChunk content hcount n⟩
      rw [List.length_map, List.length_range]
    · exact ⟨_, getPropertyUnsignedInteger_of_fileContent h, UInt32.toNat_ofNat_of_lt' hlt⟩
  · intro fileStart requestedCount maxFileDataLength
    obtain ⟨answer, hanswer, hinside⟩ := readFile_inside app d app.options.deviceInstance
      fileInstance fileStart requestedCount maxFileDataLength
    refine ⟨answer, hanswer, ?_⟩
    intro chunk hchunk
    obtain ⟨content', count, hcontent, -, hdata⟩ := hinside chunk hchunk
    obtain rfl := Option.some.inj (h.symm.trans hcontent)
    exact ⟨count, hdata⟩

/-- A device that has just started on BACnet/SC. -/
def scExample : Application exampleLayout.toLayout :=
  start exampleLayout.toLayout { dataLink := .sc } ⟨⟨0⟩, 0, false⟩

theorem fileContent_scExample {d : CertDisk} {bytes : Octets}
    (h : readDisk d (ownPath exampleLayout.toLayout 2) = some bytes) :
    scExample.fileContent d 2 = some bytes := by
  have hown : (Store.initial exampleLayout.toLayout).own d 2 = some bytes := by
    have hpath : exampleLayout.paths 2 = some (ownPath exampleLayout.toLayout 2) := rfl
    rw [Store.own_of_not_staged Std.ExtTreeMap.getElem?_empty, hpath, Option.bind_some, h]
  have hsc : scExample.isScCertificateFile (scExample.fileSizeReference 2) = true := by decide
  rw [fileContent, if_pos hsc]
  show (Store.initial exampleLayout.toLayout).read d 2 = some bytes
  rw [Store.read_eq_serve, FallbackChain.serve_of_own hown]

/-- The operational certificate on disk, in chunks of 64 octets. -/
theorem files_read_whole_certificate :
    ∃ chunks next, scExample.readChunks exampleDisk 2 (fun _ => ⟨100, 64⟩) 40 =
        .ok (some (chunks, next)) ∧ chunks.length = 40 ∧ ReadsWhole firstCertificatePem chunks := by
  have hcontent : scExample.fileContent exampleDisk 2 = some firstCertificatePem :=
    fileContent_scExample (by decide +kernel)
  have hlt : firstCertificatePem.length < 2 ^ 32 := by decide +kernel
  exact ((files_read_whole hcontent).1 hlt).1 (fun _ => ⟨100, 64⟩) (fun _ => by decide) 40

/-- The operational certificate is a file of 2^32 octets. -/
def oversizedFile : CertDisk :=
  Function.update exampleDisk (ownPath exampleLayout.toLayout 2)
    (some ⟨List.replicate (2 ^ 32) 0, 0, false⟩)

/-- Its `File_Size` is 0, and a read from its beginning gives no octets and no end. -/
theorem oversized_file_size :
    ∃ content, scExample.fileContent oversizedFile 2 = some content ∧
      content.length = 2 ^ 32 ∧
      scExample.getPropertyUnsignedInteger oversizedFile (scExample.fileSizeReference 2) =
        .value 0 ∧
      scExample.readFile oversizedFile 389005 2 0 100 64 = .ok (some ⟨[], false⟩) := by
  obtain ⟨content, hzeros⟩ : ∃ content : Octets, content = List.replicate (2 ^ 32) 0 := ⟨_, rfl⟩
  have hlength : content.length = 2 ^ 32 := by rw [hzeros, List.length_replicate]
  have hdisk : readDisk oversizedFile (ownPath exampleLayout.toLayout 2) = some content := by
    rw [readDisk, oversizedFile, Function.update_self, ← hzeros]
    rfl
  have hcontent := fileContent_scExample hdisk
  have hsc : scExample.isScCertificateFile (scExample.fileSizeReference 2) = true := by decide
  have hread : scExample.store.read oversizedFile (2 : UInt32).toNat = some content := by
    rw [fileContent, if_pos hsc] at hcontent
    exact hcontent
  have hzero : UInt32.ofNat content.length = 0 := by
    rw [hlength]
    decide
  refine ⟨content, hcontent, hlength, ?_, ?_⟩
  · rw [getPropertyUnsignedInteger_of_fileContent hcontent, hzero]
  · have hstart : (0 : UInt32).toNat ≤ content.length := Nat.zero_le _
    obtain ⟨count, hcount, heq⟩ := readCertificateFile_inside
      (isCertificateFile_of_isScCertificateFile hsc) hread hstart 100 64
    have hnone : count = 0 := by
      rw [hzero] at hcount
      exact UInt32.toNat_inj.1 hcount
    rw [readFile, if_pos ⟨rfl, hsc⟩, heq, hnone, hlength]
    rfl

end Application

end BacnetBc
