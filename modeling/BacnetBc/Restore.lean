import BacnetBc.Ivory

/-!
# Backup and restore of File 1

A backup reads the file in chunks until `*endOfFile`; a restore writes the octets back in chunks,
from position 0 on. The callbacks that begin and end the two only say whether the request is for
this device.

**Reading** (`readFile_eq`). A `ReadFile` call reads from the octets of the file as from a string,
so a complete sequential read gives the file's octets whatever the sizes of its chunks
(`readSequence_eq`), and positive sizes come to the end (`readSequence_complete`).

**Writing** (`restore_content`). The chunks of a restore overwrite the beginning of the file. What
lies behind them stays, since no write makes the file shorter.

**Theorem (`restore_undoes_iff`).** A restore brings back what a backup has read exactly when the
writes in between kept within the region and the file is not longer than the backup when the
restore begins.
-/

namespace BacnetBc

open Memory Trajectory

/-! ## ReadFile -/

/-- What a read gives: its octets, and `*endOfFile`. -/
structure FileRead where
  fileData : Octets
  endOfFile : Bool
deriving DecidableEq, Repr

/-- How much a read copies: what there is, what was asked for, and what there is room for. -/
def toCopy (f : IvoryFile) (fileStart requestedCount maxFileDataLength : UInt32) : UInt32 :=
  let available := f.fileDataLength - fileStart
  let toCopy := if available > requestedCount then requestedCount else available
  if toCopy > maxFileDataLength then maxFileDataLength else toCopy

/-- `ReadFile` of File 1. -/
def readFile (f : IvoryFile) (fileStart requestedCount maxFileDataLength : UInt32) :
    Access FileRead :=
  if f.fileDataLength ≤ fileStart then .ok ⟨[], true⟩
  else do
    let count := toCopy f fileStart requestedCount maxFileDataLength
    let fileData ← slice f.fileData fileStart.toNat count.toNat
    return ⟨fileData, f.fileDataLength ≤ fileStart + count⟩

/-- Property `File_Size` of File 1. -/
def fileSize (f : IvoryFile) : UInt32 := f.fileDataLength

/-- Reading at most `count` octets of a string from `start` on. -/
def stringRead (content : Octets) (start count : Nat) : FileRead :=
  ⟨(content.drop start).take count, content.length ≤ start + count⟩

theorem toNat_ite_lt (a b : UInt32) : (if a > b then b else a).toNat = min a.toNat b.toNat := by
  split_ifs with h
  · have := UInt32.lt_iff_toNat_lt.1 h
    omega
  · have := mt UInt32.lt_iff_toNat_lt.2 h
    omega

theorem toNat_toCopy {f : IvoryFile} {fileStart : UInt32} (h : fileStart ≤ f.fileDataLength)
    (requestedCount maxFileDataLength : UInt32) :
    (toCopy f fileStart requestedCount maxFileDataLength).toNat =
      min (f.fileDataLength.toNat - fileStart.toNat)
        (min requestedCount.toNat maxFileDataLength.toNat) := by
  rw [toCopy, toNat_ite_lt, toNat_ite_lt, UInt32.toNat_sub_of_le _ _ h, min_assoc]

/-- **A read of the file is a read of its octets**, and it stays inside the region. -/
theorem readFile_eq (f : IvoryFile) (fileStart requestedCount maxFileDataLength : UInt32) :
    readFile f fileStart requestedCount maxFileDataLength =
      .ok (stringRead f.content fileStart.toNat
        (min requestedCount.toNat maxFileDataLength.toNat)) := by
  have hmax : fileMaxSize.toNat = 4096 := rfl
  have hle := f.length_le
  unfold readFile stringRead
  by_cases hstart : f.fileDataLength ≤ fileStart
  · have hstart' := UInt32.le_iff_toNat_le.1 hstart
    rw [if_pos hstart, List.drop_eq_nil_of_le (by rw [f.length_content]; omega), f.length_content]
    have hend : f.fileDataLength.toNat ≤
        fileStart.toNat + min requestedCount.toNat maxFileDataLength.toNat := by omega
    simp [hend]
  · have hlt := UInt32.not_le.1 hstart
    have hstart' := UInt32.lt_iff_toNat_lt.1 hlt
    have hcount := toNat_toCopy (UInt32.le_of_lt hlt) requestedCount maxFileDataLength
    rw [if_neg hstart]
    generalize toCopy f fileStart requestedCount maxFileDataLength = count at hcount ⊢
    have hsum : (fileStart + count).toNat = fileStart.toNat + count.toNat := by
      rw [UInt32.toNat_add, Nat.mod_eq_of_lt (by omega)]
    have hend : f.fileDataLength ≤ fileStart + count ↔ f.content.length ≤
        fileStart.toNat + min requestedCount.toNat maxFileDataLength.toNat := by
      rw [UInt32.le_iff_toNat_le, hsum, hcount, f.length_content]
      omega
    have hdata : slice f.fileData fileStart.toNat count.toNat = .ok ((f.content.drop
        fileStart.toNat).take (min requestedCount.toNat maxFileDataLength.toNat)) := by
      rw [slice_of_le (by rw [f.length_fileData]; omega), IvoryFile.content, List.drop_take,
        List.take_take, hcount, min_comm]
    simp only [hdata, hend]
    rfl

/-! ## Reading a whole file -/

/-- How much one call of a sequential read asks for, and how much its answer has room for. -/
structure ChunkSize where
  requestedCount : UInt32
  maxFileDataLength : UInt32

namespace ChunkSize

def count (size : ChunkSize) : Nat := min size.requestedCount.toNat size.maxFileDataLength.toNat

end ChunkSize

/-- Read from `position` on until `*endOfFile`. -/
def readSequence (f : IvoryFile) : UInt32 → List ChunkSize → Access (Option Octets)
  | _, [] => .ok none
  | position, size :: sizes => do
    let chunk ← readFile f position size.requestedCount size.maxFileDataLength
    if chunk.endOfFile then return some chunk.fileData
    else
      let rest ← readSequence f (position + UInt32.ofNat chunk.fileData.length) sizes
      return rest.map (chunk.fileData ++ ·)

/-- The first chunk, and where the next one starts. -/
theorem readSequence_cons (f : IvoryFile) (position : UInt32) (size : ChunkSize)
    (sizes : List ChunkSize) :
    readSequence f position (size :: sizes) =
      if f.content.length ≤ position.toNat + size.count then
        .ok (some (f.content.drop position.toNat))
      else (readSequence f (position + UInt32.ofNat size.count) sizes).map
        (Option.map (((f.content.drop position.toNat).take size.count) ++ ·)) := by
  have hread := readFile_eq f position size.requestedCount size.maxFileDataLength
  rw [readSequence, hread]
  by_cases h : f.content.length ≤ position.toNat + size.count
  · have hall : (f.content.drop position.toNat).take size.count = f.content.drop position.toNat :=
      List.take_of_length_le (by rw [List.length_drop]; omega)
    have hchunk : stringRead f.content position.toNat size.count =
        ⟨f.content.drop position.toNat, true⟩ := by
      rw [stringRead, hall, decide_eq_true h]
    rw [if_pos h]
    show (do let chunk ← Except.ok (stringRead f.content position.toNat size.count); _) = _
    rw [hchunk]
    rfl
  · have hchunk : stringRead f.content position.toNat size.count =
        ⟨(f.content.drop position.toNat).take size.count, false⟩ := by
      rw [stringRead, decide_eq_false h]
    have hlength : ((f.content.drop position.toNat).take size.count).length = size.count := by
      rw [List.length_take, List.length_drop]
      omega
    rw [if_neg h]
    show (do let chunk ← Except.ok (stringRead f.content position.toNat size.count); _) = _
    rw [hchunk]
    simp only [bind, Except.bind, Bool.false_eq_true, if_false, hlength]
    cases readSequence f (position + UInt32.ofNat size.count) sizes <;> rfl

/-- The position after a chunk that is not the last. -/
theorem toNat_next {f : IvoryFile} {position : UInt32} {size : ChunkSize}
    (h : ¬ f.content.length ≤ position.toNat + size.count) :
    (position + UInt32.ofNat size.count).toNat = position.toNat + size.count := by
  have hmax : fileMaxSize.toNat = 4096 := rfl
  have hle := f.length_le
  rw [f.length_content] at h
  rw [UInt32.toNat_add, UInt32.toNat_ofNat_of_lt' (by omega : size.count < 2 ^ 32),
    Nat.mod_eq_of_lt (by omega)]

/-- **A complete read gives the octets from its position on.** -/
theorem readSequence_eq {f : IvoryFile} {position : UInt32} {sizes : List ChunkSize}
    {octets : Octets} (h : readSequence f position sizes = .ok (some octets)) :
    octets = f.content.drop position.toNat := by
  induction sizes generalizing position octets with
  | nil => cases h
  | cons size sizes ih =>
    rw [readSequence_cons] at h
    by_cases hend : f.content.length ≤ position.toNat + size.count
    · rw [if_pos hend] at h
      cases h
      rfl
    · rw [if_neg hend] at h
      cases hrest : readSequence f (position + UInt32.ofNat size.count) sizes with
      | error fault =>
        rw [hrest] at h
        cases h
      | ok rest =>
        rw [hrest] at h
        cases rest with
        | none => cases h
        | some rest =>
          cases h
          rw [ih hrest, toNat_next hend, ← List.drop_drop]
          exact List.take_append_drop _ _

/-- A read with positive chunk sizes is complete after as many chunks as there are octets. -/
theorem readSequence_complete {f : IvoryFile} {position : UInt32} {size : ChunkSize}
    {sizes : List ChunkSize} (hpositive : ∀ s ∈ size :: sizes, 0 < s.count)
    (hlength : f.content.length ≤ position.toNat + (size :: sizes).length) :
    readSequence f position (size :: sizes) = .ok (some (f.content.drop position.toNat)) := by
  induction sizes generalizing position size with
  | nil =>
    have hsize := hpositive size List.mem_cons_self
    rw [List.length_singleton] at hlength
    rw [readSequence_cons, if_pos (by omega)]
  | cons next sizes ih =>
    have hsize := hpositive size List.mem_cons_self
    rw [List.length_cons, List.length_cons] at hlength
    rw [readSequence_cons]
    by_cases hend : f.content.length ≤ position.toNat + size.count
    · rw [if_pos hend]
    · have hposition := toNat_next hend
      have hlength' : f.content.length ≤
          (position + UInt32.ofNat size.count).toNat + (next :: sizes).length := by
        rw [List.length_cons]
        omega
      have hrest := ih (fun s hs => hpositive s (List.mem_cons_of_mem _ hs)) hlength'
      rw [if_neg hend, hrest, hposition, ← List.drop_drop]
      show Except.ok (some (_ ++ _)) = _
      rw [List.take_append_drop]

/-! ## The sessions -/

/-- The callbacks around a session say whether the request is for this device. -/
def sessionCallback (ownInstance deviceInstance : UInt32) (f : IvoryFile) : Bool × IvoryFile :=
  (deviceInstance == ownInstance, f)

def prepareBackup := sessionCallback

def completeBackup := sessionCallback

def prepareRestore := sessionCallback

def completeRestore (ownInstance deviceInstance : UInt32) (_wasAborted : Bool) (f : IvoryFile) :
    Bool × IvoryFile :=
  sessionCallback ownInstance deviceInstance f

/-- A backup: what was read, if the end of the file was reached. -/
def backup (ownInstance : UInt32) (sizes : List ChunkSize) (f : IvoryFile) :
    Access (IvoryFile × Option Octets) := do
  let (_, f) := prepareBackup ownInstance ownInstance f
  let octets ← readSequence f 0 sizes
  let (_, f) := completeBackup ownInstance ownInstance f
  return (f, octets)

/-- **A backup that reaches the end of the file has all of it**, and changes nothing. -/
theorem backup_eq {ownInstance : UInt32} {sizes : List ChunkSize} {f f' : IvoryFile}
    {octets : Octets} (h : backup ownInstance sizes f = .ok (f', some octets)) :
    f' = f ∧ octets = f.content := by
  simp only [backup, prepareBackup, completeBackup, sessionCallback] at h
  cases hread : readSequence f 0 sizes with
  | error fault =>
    rw [hread] at h
    cases h
  | ok octets' =>
    rw [hread] at h
    cases h
    exact ⟨rfl, readSequence_eq hread⟩

theorem backup_complete (ownInstance : UInt32) {f : IvoryFile} {size : ChunkSize}
    {sizes : List ChunkSize} (hpositive : ∀ s ∈ size :: sizes, 0 < s.count)
    (hlength : f.content.length ≤ (size :: sizes).length) :
    backup ownInstance (size :: sizes) f = .ok (f, some f.content) := by
  have hlength' : f.content.length ≤ (0 : UInt32).toNat + (size :: sizes).length := by
    rw [UInt32.toNat_zero, Nat.zero_add]
    exact hlength
  have hread := readSequence_complete hpositive hlength'
  simp only [backup, prepareBackup, completeBackup, sessionCallback, hread]
  rfl

/-- The writes of a restore: each chunk where the one before it ended. -/
def chunkCalls : Nat → List FileData → List WriteFileCall
  | _, [] => []
  | position, chunk :: chunks =>
    ⟨Int32.ofNat position, chunk⟩ :: chunkCalls (position + chunk.octets.length) chunks

/-- A restore that is not aborted. -/
def restore (ownInstance : UInt32) (chunks : List FileData) (f : IvoryFile) : Access IvoryFile := do
  let (_, f) := prepareRestore ownInstance ownInstance f
  let f ← final writeFileStep f (chunkCalls 0 chunks)
  let (_, f) := completeRestore ownInstance ownInstance false f
  return f

/-- What is in the chunks. -/
def chunkOctets (chunks : List FileData) : Octets := chunks.flatMap FileData.octets

theorem writeFileStep_chunk {f : IvoryFile} {position : Nat} {chunk : FileData}
    (h : position + chunk.octets.length ≤ fileMaxSize.toNat) :
    ∃ f', writeFileStep f ⟨Int32.ofNat position, chunk⟩ = .ok f' ∧
      f'.content = overwrite 0 f.content position chunk.octets := by
  have hmax : fileMaxSize.toNat = 4096 := rfl
  have hint : (Int32.ofNat position).toInt = position := Int32.toInt_ofNat_of_lt (by omega)
  have hstart : (writeStart f (Int32.ofNat position)).toNat = position := by
    rw [writeStart_of_fits (by omega), hint, if_neg (by omega), Int.toNat_natCast]
  have hfits : (writeStart f (Int32.ofNat position)).toNat + chunk.octets.length ≤
      fileMaxSize.toNat := by omega
  obtain ⟨f', hwrite, hcontent, -⟩ := writeFile_of_fits hfits
  refine ⟨f', ?_, ?_⟩
  · rw [writeFileStep, hwrite]
    rfl
  · rw [hcontent, hstart]

/-- The chunks overwrite the file one after another. -/
theorem final_chunkCalls {f : IvoryFile} {position : Nat} {chunks : List FileData}
    (hposition : position ≤ f.content.length)
    (h : position + (chunkOctets chunks).length ≤ fileMaxSize.toNat) :
    ∃ f', final writeFileStep f (chunkCalls position chunks) = .ok f' ∧
      f'.content = overwrite 0 f.content position (chunkOctets chunks) := by
  induction chunks generalizing f position with
  | nil =>
    refine ⟨f, rfl, ?_⟩
    rw [overwrite_of_le hposition, splice, chunkOctets, List.flatMap_nil, List.append_nil,
      List.length_nil, Nat.add_zero, List.take_append_drop]
  | cons chunk chunks ih =>
    have hsplit : chunkOctets (chunk :: chunks) = chunk.octets ++ chunkOctets chunks :=
      List.flatMap_cons
    rw [hsplit, List.length_append] at h
    have hfits : position + chunk.octets.length ≤ fileMaxSize.toNat := by omega
    obtain ⟨f₁, hstep, hcontent⟩ := writeFileStep_chunk (f := f) hfits
    have hnext : position + chunk.octets.length ≤ f₁.content.length := by
      rw [hcontent, length_overwrite]
      exact le_max_right _ _
    obtain ⟨f', hfinal, hf'⟩ := ih hnext (by omega)
    refine ⟨f', (final_cons_ok hstep _).trans hfinal, ?_⟩
    rw [hf', hcontent, hsplit, overwrite_append hposition]

/-- A restore leaves what lies behind the backup. -/
theorem restore_content (ownInstance : UInt32) (f : IvoryFile) {chunks : List FileData}
    (h : (chunkOctets chunks).length ≤ fileMaxSize.toNat) :
    ∃ f', restore ownInstance chunks f = .ok f' ∧
      f'.content = chunkOctets chunks ++ f.content.drop (chunkOctets chunks).length := by
  have hfits : 0 + (chunkOctets chunks).length ≤ fileMaxSize.toNat := by omega
  obtain ⟨f', hfinal, hcontent⟩ := final_chunkCalls (Nat.zero_le f.content.length) hfits
  refine ⟨f', ?_, ?_⟩
  · simp only [restore, prepareRestore, completeRestore, sessionCallback, hfinal]
    rfl
  · rw [hcontent, overwrite_of_le (Nat.zero_le _), splice, List.take_zero, List.nil_append,
      Nat.zero_add]

/-! ## When a restore undoes the change -/

/-- `ReadFile`'s content and `File_Size` are those of this string. -/
structure ReadsBack (f : IvoryFile) (octets : Octets) : Prop where
  readFile : ∀ fileStart requestedCount maxFileDataLength : UInt32,
    readFile f fileStart requestedCount maxFileDataLength =
      .ok (stringRead octets fileStart.toNat (min requestedCount.toNat maxFileDataLength.toNat))
  fileSize : (fileSize f).toNat = octets.length

theorem readsBack_iff {f : IvoryFile} {octets : Octets} :
    ReadsBack f octets ↔ f.content = octets := by
  constructor
  · intro h
    have hread := h.readFile 0 fileMaxSize fileMaxSize
    rw [readFile_eq, min_self] at hread
    have hdata := congrArg FileRead.fileData (Except.ok.inj hread)
    have hle := f.length_le
    have hsize : f.fileDataLength.toNat = octets.length := h.fileSize
    simp only [stringRead, UInt32.toNat_zero, List.drop_zero] at hdata
    rwa [List.take_of_length_le (by rw [f.length_content]; exact hle),
      List.take_of_length_le (by rw [← hsize]; exact hle)] at hdata
  · rintro rfl
    exact ⟨readFile_eq f, f.length_content.symm⟩

/-- After the writes a restore comes to its end, and the file is the backup again. -/
def Undone (ownInstance : UInt32) (f : IvoryFile) (later : List WriteFileCall)
    (chunks : List FileData) (octets : Octets) : Prop :=
  ∃ f₁ f₂, final writeFileStep f later = .ok f₁ ∧ restore ownInstance chunks f₁ = .ok f₂ ∧
    ReadsBack f₂ octets

/-- **A restore undoes change exactly when the writes in between stayed in the region and did not
make the file longer than the backup.** -/
theorem restore_undoes_iff {ownInstance : UInt32} {f f' : IvoryFile} {sizes : List ChunkSize}
    {octets : Octets} (hbackup : backup ownInstance sizes f = .ok (f', some octets))
    (later : List WriteFileCall) {chunks : List FileData} (hchunks : chunkOctets chunks = octets) :
    Undone ownInstance f' later chunks octets ↔
      (∀ p ∈ steps writeFileStep f' later, ¬ WrapsUnder p.1 p.2.fileStart p.2.data) ∧
        ∀ f₁, final writeFileStep f' later = .ok f₁ → f₁.fileDataLength.toNat ≤ octets.length := by
  have hcaptured : octets.length ≤ fileMaxSize.toNat := by
    rw [(backup_eq hbackup).2, f.length_content]
    exact f.length_le
  have hrestore : ∀ f₁, ∃ f₂, restore ownInstance chunks f₁ = .ok f₂ ∧
      (ReadsBack f₂ octets ↔ f₁.fileDataLength.toNat ≤ octets.length) := by
    intro f₁
    obtain ⟨f₂, hrestore, hcontent⟩ := restore_content ownInstance f₁ (hchunks.symm ▸ hcaptured)
    refine ⟨f₂, hrestore, ?_⟩
    rw [readsBack_iff, hcontent, hchunks, ← f₁.length_content]
    simp
  constructor
  · rintro ⟨f₁, f₂, hfinal, hok, hback⟩
    refine ⟨fun p hp hwraps => ?_, fun f₁' hfinal' => ?_⟩
    · obtain ⟨s, hs⟩ := exists_step_of_final hfinal p hp
      rw [writeFileStep, writeFile_of_wrapsUnder hwraps] at hs
      cases hs
    · cases hfinal.symm.trans hfinal'
      obtain ⟨f₂', hok', hiff⟩ := hrestore f₁
      cases hok.symm.trans hok'
      exact hiff.1 hback
  · rintro ⟨hwraps, hlength⟩
    obtain ⟨f₁, hfinal, -⟩ := final_of_followsReference fun p hp =>
      followsReference_of_not_wrapsUnder (hwraps p hp)
    obtain ⟨f₂, hok, hiff⟩ := hrestore f₁
    exact ⟨f₁, f₂, hfinal, hok, hiff.2 (hlength f₁ hfinal)⟩

/-! ### A file of two octets -/

/-- "AB". -/
def twoOctets : IvoryFile where
  fileData := [0x41, 0x42] ++ List.replicate 4094 0
  fileDataLength := 2
  length_fileData := by
    rw [List.length_append, List.length_replicate]
    rfl
  length_le := by decide
  padded := by
    show [0x41, 0x42] ++ List.replicate 4094 0 = [0x41, 0x42] ++ List.replicate _ 0
    rw [List.length_append, List.length_replicate]
    rfl

def twoOctetsChunk : FileData := ⟨[0x41, 0x42], by decide⟩

/-- One octet behind the file, or in its place. -/
def oneOctetAt (fileStart : Int32) : WriteFileCall := ⟨fileStart, ⟨[0x43], by decide⟩⟩

/-- An octet that was appended after the backup is still there after the restore. -/
theorem appended_not_undone :
    ¬ ∀ (ownInstance : UInt32) (f f' : IvoryFile) (sizes : List ChunkSize) (octets : Octets),
      (∀ size ∈ sizes, 0 < size.count) → backup ownInstance sizes f = .ok (f', some octets) →
        ∀ later chunks, chunkOctets chunks = octets →
          Undone ownInstance f' later chunks octets := by
  intro h
  have hpositive : ∀ size ∈ [ChunkSize.mk 1 1024, ⟨1, 1024⟩], 0 < size.count := by decide
  have hbackup := backup_complete 389005 (f := twoOctets) hpositive (by decide)
  obtain ⟨f₁, f₂, hlater, hrestore, hback⟩ := h 389005 twoOctets twoOctets _ _ hpositive hbackup
    [oneOctetAt (-1)] [twoOctetsChunk] (by decide)
  have hrun : (do
      let f₁ ← final writeFileStep twoOctets [oneOctetAt (-1)]
      let f₂ ← restore 389005 [twoOctetsChunk] f₁
      return f₂.content) = (.ok [0x41, 0x42, 0x43] : Access Octets) := by
    decide +kernel
  rw [hlater] at hrun
  simp only [bind, Except.bind, hrestore, pure, Except.pure, Except.ok.injEq] at hrun
  rw [readsBack_iff.1 hback] at hrun
  exact absurd hrun (by decide)

/-- An octet in the middle is undone. -/
theorem restore_undoes_iff_overwritten :
    Undone 389005 twoOctets [oneOctetAt 1] [twoOctetsChunk] [0x41, 0x42] ↔
      (∀ p ∈ steps writeFileStep twoOctets [oneOctetAt 1],
        ¬ WrapsUnder p.1 p.2.fileStart p.2.data) ∧
        ∀ f₁, final writeFileStep twoOctets [oneOctetAt 1] = .ok f₁ →
          f₁.fileDataLength.toNat ≤ 2 := by
  have hcontent : twoOctets.content = [0x41, 0x42] := by decide
  have hpositive : ∀ size ∈ [ChunkSize.mk 1 1024, ⟨1, 1024⟩], 0 < size.count := by decide
  have hbackup := backup_complete 389005 (f := twoOctets) hpositive (by decide)
  rw [hcontent] at hbackup
  exact restore_undoes_iff hbackup _ rfl

end BacnetBc
