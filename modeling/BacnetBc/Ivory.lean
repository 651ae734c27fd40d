import BacnetBc.Lib.Memory
import BacnetBc.Lib.Trajectory
import Mathlib.Data.UInt
import Mathlib.Tactic.SplitIfs

/-!
# File 1 "Ivory": the in-memory file

`g_fileData` is a region of 4096 octets, and `g_fileDataLength` says how many of them are the file.
`WriteFile` places its octets with 32-bit arithmetic: a negative start is a large unsigned number,
and the sum that is compared with the limit can wrap.

**The state** (`IvoryFile`) carries what every run keeps: the length is within the region, and the
octets after it are still zero.

**Theorem (`writeFile_reference_iff`).** A call does what overwriting a string does, within the
region, unless the sum wraps to a value within the limit (`WrapsUnder`); then the copy leaves the
region.

**Theorem (`writes_reference_iff`).** So a run of calls follows the reference exactly when none of
its calls wraps under the limit.
-/

namespace BacnetBc

open Memory

/-! ## The file -/

/-- `FILE_MAX_SIZE`. -/
def fileMaxSize : UInt32 := 4096

/-- `g_fileData` and `g_fileDataLength`. -/
structure IvoryFile where
  fileData : Octets
  fileDataLength : UInt32
  length_fileData : fileData.length = fileMaxSize.toNat
  length_le : fileDataLength.toNat ≤ fileMaxSize.toNat
  padded : Padded 0 fileData (fileData.take fileDataLength.toNat)

namespace IvoryFile

/-- The octets of the file. -/
def content (f : IvoryFile) : Octets := f.fileData.take f.fileDataLength.toNat

/-- The file at power-on. -/
def initial : IvoryFile where
  fileData := List.replicate fileMaxSize.toNat 0
  fileDataLength := 0
  length_fileData := List.length_replicate
  length_le := Nat.zero_le _
  padded := by simpa using padded_replicate (0 : UInt8) fileMaxSize.toNat

theorem length_content (f : IvoryFile) : f.content.length = f.fileDataLength.toNat := by
  rw [content, List.length_take, f.length_fileData]
  exact min_eq_left f.length_le

end IvoryFile

/-- The octets of an AtomicWriteFile, with their length as the 32-bit parameter. -/
structure FileData where
  octets : Octets
  length_lt : octets.length < 2 ^ 32

namespace FileData

def length (data : FileData) : UInt32 := UInt32.ofNat data.octets.length

@[simp] theorem toNat_length (data : FileData) : data.length.toNat = data.octets.length :=
  UInt32.toNat_ofNat_of_lt' data.length_lt

end FileData

/-! ## WriteFile -/

/-- Where the write starts: at the end for -1, else at the start given, as an unsigned number. -/
def writeStart (f : IvoryFile) (fileStart : Int32) : UInt32 :=
  if fileStart = -1 then f.fileDataLength else fileStart.toUInt32

/-- The file with `fileData` in the region, grown to `stop` if it was shorter. -/
def grownLength (f : IvoryFile) (stop : UInt32) : UInt32 :=
  if f.fileDataLength < stop then stop else f.fileDataLength

theorem toNat_grownLength (f : IvoryFile) (stop : UInt32) :
    (grownLength f stop).toNat = max f.fileDataLength.toNat stop.toNat := by
  unfold grownLength
  split_ifs with h
  · have := UInt32.lt_iff_toNat_lt.1 h
    omega
  · have := mt UInt32.lt_iff_toNat_lt.2 h
    omega

/-- A copy that fits the region does not wrap. -/
theorem toNat_add_of_fits {start : UInt32} {data : FileData}
    (h : start.toNat + data.octets.length ≤ fileMaxSize.toNat) :
    (start + data.length).toNat = start.toNat + data.octets.length := by
  rw [UInt32.toNat_add, data.toNat_length, Nat.mod_eq_of_lt]
  have : fileMaxSize.toNat = 4096 := rfl
  omega

theorem padded_of_blit (f : IvoryFile) {start : UInt32} {data : FileData} {out : Octets}
    (h : blit f.fileData start.toNat data.octets = .ok out) :
    (grownLength f (start + data.length)).toNat ≤ fileMaxSize.toNat ∧
      out.take (grownLength f (start + data.length)).toNat =
        overwrite 0 f.content start.toNat data.octets ∧
      Padded 0 out (overwrite 0 f.content start.toNat data.octets) := by
  have hfit := (blit_eq_ok_iff.1 h).1
  rw [f.length_fileData] at hfit
  have hpad := blit_padded (f.padded : Padded 0 f.fileData f.content) h
  have hlen : (overwrite 0 f.content start.toNat data.octets).length =
      (grownLength f (start + data.length)).toNat := by
    rw [length_overwrite, f.length_content, toNat_grownLength, toNat_add_of_fits hfit]
  refine ⟨?_, ?_, hpad⟩
  · rw [toNat_grownLength, toNat_add_of_fits hfit]
    exact max_le f.length_le hfit
  · rw [← hlen]
    exact hpad.take

/-- `WriteFile` of File 1: the file afterwards and `*ackFileStart`, which is `none` when the call
returns false. -/
def writeFile (f : IvoryFile) (fileStart : Int32) (data : FileData) :
    Access (IvoryFile × Option Int32) :=
  let start := writeStart f fileStart
  if start + data.length > fileMaxSize then .ok (f, none)
  else
    match h : blit f.fileData start.toNat data.octets with
    | .error fault => .error fault
    | .ok fileData =>
      .ok ({ fileData := fileData
             fileDataLength := grownLength f (start + data.length)
             length_fileData := (length_blit h).trans f.length_fileData
             length_le := (padded_of_blit f h).1
             padded := (padded_of_blit f h).2.1 ▸ (padded_of_blit f h).2.2 }, some start.toInt32)

/-! ## The reference -/

/-- Writing a string of at most `FILE_MAX_SIZE` octets: at its end for -1, at `fileStart` otherwise,
and not before its beginning. The string afterwards, and where the write began if it was
accepted. -/
def referenceWrite (content : Octets) (fileStart : Int) (octets : Octets) : Octets × Option Nat :=
  let start := if fileStart = -1 then content.length else fileStart.toNat
  if -1 ≤ fileStart ∧ start + octets.length ≤ fileMaxSize.toNat then
    (overwrite 0 content start octets, some start)
  else (content, none)

/-- The call does what the reference does, and its octets lie within the region. A refused call
leaves the whole region and the length as they were. -/
def FollowsReference (f : IvoryFile) (fileStart : Int32) (data : FileData) : Prop :=
  ∃ f' ack, writeFile f fileStart data = .ok (f', ack) ∧
    f'.content = (referenceWrite f.content fileStart.toInt data.octets).1 ∧
    ack.map Int32.toInt = (referenceWrite f.content fileStart.toInt data.octets).2.map Int.ofNat ∧
    (ack = none → f' = f) ∧
    (ack ≠ none → (writeStart f fileStart).toNat + data.octets.length ≤ fileMaxSize.toNat) ∧
    f'.fileDataLength.toNat ≤ fileMaxSize.toNat

/-- The sum of start and length wraps, and what is left of it is within the limit. -/
def WrapsUnder (f : IvoryFile) (fileStart : Int32) (data : FileData) : Prop :=
  2 ^ 32 ≤ (writeStart f fileStart).toNat + data.octets.length ∧
    (writeStart f fileStart).toNat + data.octets.length ≤ 2 ^ 32 + fileMaxSize.toNat

theorem toNat_end_of_wrap {f : IvoryFile} {fileStart : Int32} {data : FileData}
    (h : 2 ^ 32 ≤ (writeStart f fileStart).toNat + data.octets.length) :
    (writeStart f fileStart + data.length).toNat =
      (writeStart f fileStart).toNat + data.octets.length - 2 ^ 32 := by
  have h₁ := (writeStart f fileStart).toNat_lt
  have h₂ := data.length_lt
  rw [UInt32.toNat_add, data.toNat_length, Nat.mod_eq_sub_mod h, Nat.mod_eq_of_lt (by omega)]

theorem toNat_end_of_no_wrap {f : IvoryFile} {fileStart : Int32} {data : FileData}
    (h : (writeStart f fileStart).toNat + data.octets.length < 2 ^ 32) :
    (writeStart f fileStart + data.length).toNat =
      (writeStart f fileStart).toNat + data.octets.length := by
  rw [UInt32.toNat_add, data.toNat_length, Nat.mod_eq_of_lt h]

theorem toInt_toInt32_of_lt {u : UInt32} (h : u.toNat < 2 ^ 31) : u.toInt32.toInt = u.toNat := by
  have h' : u.toInt32.toInt = u.toBitVec.toInt := rfl
  rw [h', BitVec.toInt_eq_toNat_of_lt]
  · rfl
  · have : u.toBitVec.toNat = u.toNat := rfl
    omega

/-- A start that is not negative is itself as an unsigned number; a negative one is past
`2 ^ 31`. -/
theorem toNat_toUInt32 (i : Int32) :
    (0 ≤ i.toInt → (i.toUInt32.toNat : Int) = i.toInt) ∧
      (i.toInt < 0 → (i.toUInt32.toNat : Int) = i.toInt + 2 ^ 32) := by
  have h : i.toInt = i.toUInt32.toBitVec.toInt := rfl
  have h' : i.toUInt32.toNat = i.toUInt32.toBitVec.toNat := rfl
  rw [h, h', BitVec.toInt_eq_toNat_cond]
  have := i.toUInt32.toBitVec.isLt
  split_ifs <;> omega

/-- A start and length that fit the region are those of the reference. -/
theorem fits_iff (f : IvoryFile) (fileStart : Int32) (octets : Octets) :
    (writeStart f fileStart).toNat + octets.length ≤ fileMaxSize.toNat ↔
      -1 ≤ fileStart.toInt ∧
        (if fileStart.toInt = -1 then f.content.length else fileStart.toInt.toNat) +
          octets.length ≤ fileMaxSize.toNat := by
  have hmax : fileMaxSize.toNat = 4096 := rfl
  have hneg : fileStart = -1 ↔ fileStart.toInt = -1 := by
    rw [← Int32.toInt_inj]
    rfl
  obtain ⟨hpos, hlt⟩ := toNat_toUInt32 fileStart
  have hle := fileStart.le_toInt
  unfold writeStart
  rw [f.length_content]
  by_cases h : fileStart = -1
  · rw [if_pos h, if_pos (hneg.1 h)]
    have := hneg.1 h
    omega
  · rw [if_neg h, if_neg (mt hneg.2 h)]
    have := mt hneg.2 h
    omega

theorem writeStart_of_fits {f : IvoryFile} {fileStart : Int32} (h : -1 ≤ fileStart.toInt) :
    (writeStart f fileStart).toNat =
      if fileStart.toInt = -1 then f.content.length else fileStart.toInt.toNat := by
  have hneg : fileStart = -1 ↔ fileStart.toInt = -1 := by
    rw [← Int32.toInt_inj]
    rfl
  unfold writeStart
  by_cases h' : fileStart = -1
  · rw [if_pos h', if_pos (hneg.1 h'), f.length_content]
  · rw [if_neg h', if_neg (mt hneg.2 h')]
    have := mt hneg.2 h'
    have := (toNat_toUInt32 fileStart).1 (by omega)
    omega

/-- Octets that fit the region are written to it. -/
theorem writeFile_of_fits {f : IvoryFile} {fileStart : Int32} {data : FileData}
    (h : (writeStart f fileStart).toNat + data.octets.length ≤ fileMaxSize.toNat) :
    ∃ f', writeFile f fileStart data = .ok (f', some (writeStart f fileStart).toInt32) ∧
      f'.content = overwrite 0 f.content (writeStart f fileStart).toNat data.octets ∧
      f'.fileDataLength.toNat ≤ fileMaxSize.toNat := by
  have hlim : ¬ writeStart f fileStart + data.length > fileMaxSize := by
    rw [gt_iff_lt, UInt32.lt_iff_toNat_lt, toNat_add_of_fits h]
    omega
  have hblit : blit f.fileData (writeStart f fileStart).toNat data.octets =
      .ok (splice f.fileData (writeStart f fileStart).toNat data.octets) := by
    rw [blit, if_pos (by rwa [f.length_fileData])]
  simp only [writeFile, hlim, if_false]
  split
  · rename_i fault hf
    rw [hblit] at hf
    cases hf
  · rename_i out ho
    exact ⟨_, rfl, (padded_of_blit f ho).2.1, (padded_of_blit f ho).1⟩

/-- A call that does not wrap under the limit follows the reference. -/
theorem followsReference_of_not_wrapsUnder {f : IvoryFile} {fileStart : Int32} {data : FileData}
    (h : ¬ WrapsUnder f fileStart data) : FollowsReference f fileStart data := by
  have hmax : fileMaxSize.toNat = 4096 := rfl
  by_cases hfit : (writeStart f fileStart).toNat + data.octets.length ≤ fileMaxSize.toNat
  · obtain ⟨f', hok, hcontent, hlen⟩ := writeFile_of_fits hfit
    have href := (fits_iff f fileStart data.octets).1 hfit
    have hstart := writeStart_of_fits (f := f) href.1
    refine ⟨f', _, hok, ?_, ?_, by simp, fun _ => hfit, hlen⟩
    · rw [hcontent, referenceWrite, if_pos href, hstart]
    · rw [referenceWrite, if_pos href, ← hstart, Option.map_some, Option.map_some,
        toInt_toInt32_of_lt (by omega)]
      rfl
  · have hlim : writeStart f fileStart + data.length > fileMaxSize := by
      rw [gt_iff_lt, UInt32.lt_iff_toNat_lt]
      by_cases hw : 2 ^ 32 ≤ (writeStart f fileStart).toNat + data.octets.length
      · rw [toNat_end_of_wrap hw]
        have := mt (And.intro hw) h
        omega
      · rw [toNat_end_of_no_wrap (by omega)]
        omega
    have href := mt (fits_iff f fileStart data.octets).2 hfit
    refine ⟨f, none, by simp only [writeFile, hlim, if_true], ?_, ?_, fun _ => rfl, by simp,
      f.length_le⟩
    · rw [referenceWrite, if_neg href]
    · rw [referenceWrite, if_neg href]
      rfl

/-- A call that wraps under the limit copies outside the region. -/
theorem writeFile_of_wrapsUnder {f : IvoryFile} {fileStart : Int32} {data : FileData}
    (h : WrapsUnder f fileStart data) :
    writeFile f fileStart data =
      .error (.writeOutside ((writeStart f fileStart).toNat + data.octets.length)) := by
  obtain ⟨hw, hle⟩ := h
  have hlim : ¬ writeStart f fileStart + data.length > fileMaxSize := by
    rw [gt_iff_lt, UInt32.lt_iff_toNat_lt, toNat_end_of_wrap hw]
    omega
  have hblit : blit f.fileData (writeStart f fileStart).toNat data.octets =
      .error (.writeOutside ((writeStart f fileStart).toNat + data.octets.length)) := by
    rw [blit, if_neg]
    rw [f.length_fileData]
    have : fileMaxSize.toNat = 4096 := rfl
    omega
  simp only [writeFile, hlim, if_false]
  split
  · rename_i fault hf
    rw [hblit] at hf
    cases hf
    rfl
  · rename_i out ho
    rw [hblit] at ho
    cases ho

theorem writeFile_reference_iff (f : IvoryFile) (fileStart : Int32) (data : FileData) :
    FollowsReference f fileStart data ↔ ¬ WrapsUnder f fileStart data := by
  refine ⟨fun ⟨f', ack, hok, _⟩ hw => ?_, followsReference_of_not_wrapsUnder⟩
  rw [writeFile_of_wrapsUnder hw] at hok
  cases hok

/-! ## Runs of calls -/

/-- A WriteFile call on File 1. -/
structure WriteFileCall where
  fileStart : Int32
  data : FileData

/-- The file after a call. -/
def writeFileStep (f : IvoryFile) (call : WriteFileCall) : Access IvoryFile :=
  (writeFile f call.fileStart call.data).map Prod.fst

/-- What the reference makes of the file's octets in a run of calls. -/
def referenceContent (content : Octets) (calls : List WriteFileCall) : Octets :=
  calls.foldl (fun c call => (referenceWrite c call.fileStart.toInt call.data.octets).1) content

/-- A run whose calls all follow the reference comes to its end, with the reference's octets. -/
theorem final_of_followsReference {f : IvoryFile} {calls : List WriteFileCall}
    (h : ∀ p ∈ Trajectory.steps writeFileStep f calls,
      FollowsReference p.1 p.2.fileStart p.2.data) :
    ∃ f', Trajectory.final writeFileStep f calls = .ok f' ∧
      f'.content = referenceContent f.content calls := by
  induction calls generalizing f with
  | nil => exact ⟨f, rfl, rfl⟩
  | cons call calls ih =>
    obtain ⟨f₁, ack, hok, hcontent, -⟩ := h (f, call) (by simp [Trajectory.steps])
    have hstep : writeFileStep f call = .ok f₁ := by
      rw [writeFileStep, hok]
      rfl
    obtain ⟨f', hfinal, hf'⟩ := ih (f := f₁) fun p hp => h p (by
      simp only [Trajectory.steps, hstep]
      exact List.mem_cons_of_mem _ hp)
    refine ⟨f', (Trajectory.final_cons_ok hstep calls).trans hfinal, ?_⟩
    rw [hf', hcontent]
    rfl

/-- **A run follows the reference exactly when no call wraps under the limit.** -/
theorem writes_reference_iff (calls : List WriteFileCall) :
    ((∀ p ∈ Trajectory.steps writeFileStep IvoryFile.initial calls,
        FollowsReference p.1 p.2.fileStart p.2.data) ∧
      ∃ f, Trajectory.final writeFileStep IvoryFile.initial calls = .ok f ∧
        f.content = referenceContent [] calls) ↔
      ∀ p ∈ Trajectory.steps writeFileStep IvoryFile.initial calls,
        ¬ WrapsUnder p.1 p.2.fileStart p.2.data := by
  have hcalls : (∀ p ∈ Trajectory.steps writeFileStep IvoryFile.initial calls,
        FollowsReference p.1 p.2.fileStart p.2.data) ↔
      ∀ p ∈ Trajectory.steps writeFileStep IvoryFile.initial calls,
        ¬ WrapsUnder p.1 p.2.fileStart p.2.data :=
    forall₂_congr fun p _ => writeFile_reference_iff p.1 p.2.fileStart p.2.data
  exact ⟨fun h => hcalls.1 h.1, fun h => ⟨hcalls.2 h, final_of_followsReference (hcalls.2 h)⟩⟩

/-- Two octets written at -2: the sum wraps to 0, which is within the limit, and the copy starts
4 GiB past the region. -/
theorem writeFile_outside :
    writeFile IvoryFile.initial (-2) ⟨[0x41, 0x42], by decide⟩ =
        .error (.writeOutside 4294967296) ∧
      ¬ FollowsReference IvoryFile.initial (-2) ⟨[0x41, 0x42], by decide⟩ := by
  have hwraps : WrapsUnder IvoryFile.initial (-2) ⟨[0x41, 0x42], by decide⟩ := by
    unfold WrapsUnder
    decide
  exact ⟨writeFile_of_wrapsUnder hwraps, fun h => (writeFile_reference_iff _ _ _).1 h hwraps⟩

end BacnetBc
